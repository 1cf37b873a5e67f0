import ReleasePackaging.CommandLine.Run
import ReleasePackaging.Proofs.Config.Precedence
import ReleasePackaging.Proofs.Logging.SetUp
import ReleasePackaging.Proofs.Release.Outcome

/-!
# How a run from the command line ends

Once its configuration is loaded, a run sets logging up, carries the release out and shuts logging
down. If logging cannot be set up the run ends with the fault of that, and handlers may be left: those
there were before if it is the level that cannot be read, else the console at most.
Otherwise none is left however the release ends: with a report, which ends the run with a status of
zero and a line for each archive; with a failure, which ends it with a status of one and a line on
the error output; or astray, which ends the run in the same way.
-/
namespace ReleasePackaging.CommandLine

open Logging (Manager System)

/-- Prepares and carries out a release. -/
def release (m : Machine) (c : Config) : Action Fault Report := do
  let r ← Action.onTree (Release.prepare m.modules m.host c none)
  r.build m.equipment

def failureReport (f : Failure) : Event :=
  ⟨.error, "Release build failed", [(.str "error", .str f.text)]⟩

/-- How a run ends whose configuration is loaded. -/
inductive RunEnd (m : Machine) (c : Config) (w : World) : Except Fault Exit × World → Prop where
  | levelUnread {fault : Number.IntegerFault}
      (hlevel : (Manager.ofEntries c.logging).level = .error fault) :
      RunEnd m c w (.error (.integer fault), w)
  | notSetUp {manager : Manager} {level : Logging.Level} {fault : Fault} {w' : World}
      (hlevel : (Manager.ofEntries c.logging).level = .ok level)
      (hsetUp : (Manager.ofEntries c.logging).setUp.run.run w = (.ok (manager, .error fault), w'))
      (hleft : w'.logging.attached.map Logging.Handler.number = manager.made)
      (hsinks : w'.logging.attached.map Logging.Handler.sink = [] ∨
        w'.logging.attached.map Logging.Handler.sink = [.console]) :
      RunEnd m c w (.error fault, w')
  | released {manager : Manager} {report : Report} {w₁ w₂ w' : World}
      (hsetUp : (Manager.ofEntries c.logging).setUp.run.run w = (.ok (manager, .ok ()), w₁))
      (hrelease : (release m c).run.run w₁ = (.ok report, w₂))
      (hleft : w'.logging.attached = [])
      (hout : w'.logging.out =
        w₂.logging.out ++ String.join (report.archives.map fun p => s!"{p}\n"))
      (herr : w'.logging.err = w₂.logging.err) :
      RunEnd m c w (.ok (.status 0), w')
  | failed {manager : Manager} {f : Failure} {w₁ w₂ w' : World}
      (hsetUp : (Manager.ofEntries c.logging).setUp.run.run w = (.ok (manager, .ok ()), w₁))
      (hrelease : (release m c).run.run w₁ = (.error (.failure f), w₂))
      (hleft : w'.logging.attached = [])
      (hout : w'.logging.out = (w₂.told (.logger runLogger) (failureReport f)).logging.out)
      (herr : w'.logging.err =
        (w₂.told (.logger runLogger) (failureReport f)).logging.err ++ s!"Error: {f.text}\n") :
      RunEnd m c w (.ok (.status 1), w')
  | strayed {manager : Manager} {fault : Fault} {w₁ w₂ w' : World}
      (hsetUp : (Manager.ofEntries c.logging).setUp.run.run w = (.ok (manager, .ok ()), w₁))
      (hrelease : (release m c).run.run w₁ = (.error fault, w₂))
      (hother : ∀ f, fault ≠ .failure f) (hleft : w'.logging.attached = []) :
      RunEnd m c w (.error fault, w')

variable {m : Machine} {c : Config} {w w₁ w₂ : World}

/-! ## The release -/

theorem run_release (m : Machine) (c : Config) (w : World) :
    (release m c).run.run w =
      match (Release.prepare m.modules m.host c none).run.run w.tree with
      | (.ok r, tree) => (r.build m.equipment).run.run { w with tree := tree }
      | (.error fault, tree) => (.error fault, { w with tree := tree }) := by
  simp only [release, Action.run_bind, Action.run_onTree]
  cases (Release.prepare m.modules m.host c none).run.run w.tree with
  | mk result tree => cases result <;> rfl

/-- The surroundings after the failure of a release has been reported, and told on the error
output. -/
def toldFailure (w : World) (f : Failure) : World :=
  let told := w.told (.logger runLogger) (failureReport f)
  { told with logging := { told.logging with err := told.logging.err ++ s!"Error: {f.text}\n" } }

theorem run_reportFailure (f : Failure) (w : World) :
    (reportFailure f).run.run w = (.ok (), toldFailure w f) := by
  have hplain : Logging.ArePlain (failureReport f).context :=
    Logging.arePlain_of_names (by decide : ∀ name ∈ ["error"], name ∉ Logging.reservedNames) rfl
  exact Action.run_bind_ok (Event.run_emit hplain (.logger runLogger) w)

theorem run_attempt (m : Machine) (c : Config) (w : World) :
    (attempt m c).run.run w =
      match (release m c).run.run w with
      | (.ok report, w₁) => (.ok (some report), w₁)
      | (.error (.failure f), w₁) => (.ok none, toldFailure w₁ f)
      | (.error fault, w₁) => (.error fault, w₁) := by
  simp only [attempt, run_release, Action.run_tryCatch, Action.run_bind, Action.run_onTree]
  cases (Release.prepare m.modules m.host c none).run.run w.tree with
  | mk result tree =>
    cases result with
    | error fault =>
      cases fault with
      | failure f => exact Action.run_bind_ok (run_reportFailure f _)
      | _ => rfl
    | ok r =>
      simp only
      cases (r.build m.equipment).run.run { w with tree := tree } with
      | mk result w₁ =>
        cases result with
        | ok report => rfl
        | error fault =>
          cases fault with
          | failure f => exact Action.run_bind_ok (run_reportFailure f w₁)
          | _ => rfl

/-- A release leaves the handlers as they are. -/
theorem release_goesOn (hsound : c.IsSound) (hw : w.logging.IsNumbered) :
    System.GoesOn w.logging ((release m c).run.run w).2.logging := by
  rw [run_release]
  cases hprepare : (Release.prepare m.modules m.host c none).run.run w.tree with
  | mk result tree =>
    cases result with
    | error fault => exact .refl w.logging
    | ok r =>
      obtain ⟨version, _, _, hrest⟩ := Action.run_bind_eq_ok_iff.mp hprepare
      obtain ⟨hook, _, _, hprepared⟩ := Action.run_bind_eq_ok_iff.mp hrest
      cases hprepared
      obtain ⟨es, htrail⟩ := Release.exists_trail_build (e := m.equipment)
        (r := ⟨c, c.resolvedHost m.host, version, hook⟩) hsound { w with tree := tree }
      exact htrail.goesOn hw fun _ _ hstep => hstep.logging

/-! ## The run -/

/-- The surroundings after a text has been written to the output. -/
def said (w : World) (text : String) : World :=
  { w with logging := { w.logging with out := w.logging.out ++ text } }

/-- Once logging has been set up a run attempts the release, and then shuts logging down. -/
theorem run_carryOut {manager : Manager}
    (hsetUp : (Manager.ofEntries c.logging).setUp.run.run w = (.ok (manager, .ok ()), w₁)) :
    (carryOut m c).run.run w =
      match (attempt m c).run.run w₁ with
      | (.ok (some report), w₂) =>
        (.ok (.status 0), said (manager.shutDown.run.run w₂).2
          (String.join (report.archives.map fun p => s!"{p}\n")))
      | (.ok none, w₂) => (.ok (.status 1), (manager.shutDown.run.run w₂).2)
      | (.error fault, w₂) => (.error fault, (manager.shutDown.run.run w₂).2) := by
  unfold carryOut
  rw [Action.run_bind_ok hsetUp]
  simp only [Action.run_bind, Action.run_ofResult, Action.run_outcome, Manager.run_shutDown]
  cases (attempt m c).run.run w₁ with
  | mk result w₂ =>
    cases result with
    | error fault => rfl
    | ok report => cases report <;> rfl

/-- Shutting down writes nothing. -/
theorem shutDown_written (manager : Manager) (w : World) :
    (manager.shutDown.run.run w).2.logging.out = w.logging.out ∧
      (manager.shutDown.run.run w).2.logging.err = w.logging.err := by
  rw [Manager.run_shutDown]
  cases manager.isBegun <;> exact ⟨rfl, rfl⟩

/-- A run that cannot set logging up ends with the fault of that. -/
theorem run_carryOut_error {manager : Manager} {fault : Fault}
    (hsetUp : (Manager.ofEntries c.logging).setUp.run.run w = (.ok (manager, .error fault), w₁)) :
    (carryOut m c).run.run w = (.error fault, w₁) := by
  unfold carryOut
  rw [Action.run_bind_ok hsetUp]
  rfl

theorem carryOut_end_of_level {level : Logging.Level} (hsound : c.IsSound)
    (hw : w.logging.IsNumbered) (hlevel : (Manager.ofEntries c.logging).level = .ok level) :
    RunEnd m c w ((carryOut m c).run.run w) := by
  obtain ⟨_, _, result, _, hran, _, _⟩ := Manager.setUp_effect hlevel w
  obtain ⟨manager, w₁, hsetUp⟩ : ∃ manager w₁,
      (Manager.ofEntries c.logging).setUp.run.run w = (.ok (manager, result), w₁) := ⟨_, _, hran⟩
  cases result with
  | error fault =>
    obtain ⟨hleft, hsinks⟩ := Manager.attached_setUp_error hlevel hsetUp
    rw [run_carryOut_error hsetUp]
    exact .notSetUp hlevel hsetUp hleft hsinks
  | ok =>
    have hnumbered := Manager.setUp_isNumbered hw hsetUp
    have hgoes := release_goesOn (m := m) hsound hnumbered
    rw [run_carryOut hsetUp, run_attempt]
    cases hrelease : (release m c).run.run w₁ with
    | mk result w₂ =>
      rw [hrelease] at hgoes
      obtain ⟨hout, herr⟩ := shutDown_written manager w₂
      cases result with
      | ok report =>
        refine .released hsetUp hrelease (Manager.attached_shutDown hsetUp hgoes) ?_ herr
        exact congrArg (· ++ _) hout
      | error fault =>
        cases fault with
        | failure f =>
          have htold := World.told_goesOn (hgoes.isNumbered hnumbered) (.logger runLogger)
            (failureReport f)
          obtain ⟨hout, herr⟩ := shutDown_written manager (toldFailure w₂ f)
          exact .failed hsetUp hrelease
            (Manager.attached_shutDown hsetUp ((hgoes.trans htold).written _ _)) hout herr
        | _ =>
          exact .strayed hsetUp hrelease nofun (Manager.attached_shutDown hsetUp hgoes)

theorem carryOut_end (hsound : c.IsSound) (hw : w.logging.IsNumbered) :
    RunEnd m c w ((carryOut m c).run.run w) := by
  cases hlevel : (Manager.ofEntries c.logging).level with
  | error fault =>
    rw [run_carryOut_error (Manager.run_setUp_of_noLevel hlevel w)]
    exact .levelUnread hlevel
  | ok level => exact carryOut_end_of_level hsound hw hlevel

theorem isSound_of_load {t : FileTree} {path : Option Path} {environment : List (String × String)}
    {overrides : Entries} (h : Config.load t path environment overrides = .ok c) : c.IsSound := by
  obtain ⟨file, _, hrest⟩ := Result.bind_eq_ok_iff.mp h
  obtain ⟨settings, _, haccepted⟩ := Result.bind_eq_ok_iff.mp hrest
  exact Config.isSound_of_ofEntries haccepted

/-- A run whose command line asks for a release and whose configuration can be loaded. -/
theorem run_eq_carryOut {words : List String} {a : Arguments} (hread : read words = .ok (.run a))
    (hload : Config.load w.tree (a.config.map Path.ofString) m.environment a.overrides = .ok c) :
    (run m words).run.run w = (carryOut m c).run.run w := by
  unfold run
  simp only [hread]
  unfold start
  rw [Action.run_bind_ok (Action.run_get w)]
  simp only [hload]

/-- A machine with a variable of an environment. -/
def flaggedMachine (name : String) : Machine :=
  ⟨fun _ _ => pure ⟨0, .empty⟩, TreeAction.freeRemover, Archive.soundDevice, fun _ _ => pure none,
    "Linux", [(name, "1")]⟩

/-- Surroundings in which nothing has happened. -/
def emptyWorld : World := ⟨.emptyAt [], .initial default, [], []⟩

theorem load_flaggedFile : Config.load (.emptyAt []) none [("TONPACK_LOGGING_FILE", "1")]
    Arguments.empty.overrides = .ok { Config.standard with
      logging := Config.defaultLogging.put (.str "file") (.bool true) } := by
  have hsettings : Config.fromEnvironment Config.variableStart [("TONPACK_LOGGING_FILE", "1")] =
      .ok [(.str "logging", .map [(.str "file", .bool true)])] :=
    Config.fromEnvironment_logging (by decide) rfl (by decide) (by decide) (by decide) (by decide)
      rfl
  rw [Config.load, hsettings]
  rfl

end ReleasePackaging.CommandLine
