import ReleasePackaging.Proofs.Release.Gate
import ReleasePackaging.Proofs.Toolchain.Outcome

/-!
# How a release ends

A release ends with a report, or with the failure of one of its steps, which is then the one error
that it reports. Otherwise it goes astray, and no error is reported: at a command, at the output
directory, at an artifact, in its hook, or at what is left of an archive.
-/
namespace ReleasePackaging.Release

/-- What a release does between its reports: it launches a command that is due, resets its output
directory, calls its hook or writes an archive. -/
inductive Step (r : Release) (e : Equipment) : World → World → Prop where
  | launched {w w' : World}
      (h : Toolchain.LaunchStep e.launcher r.config.projectDir r.toolchain.dueCommands w w') :
      Step r e w w'
  | reset (w : World) :
      Step r e w { w with
        tree := ((OutputDirectory.reset e.remover r.config.outputDir).run.run w.tree).2 }
  | called (w : World) {a : Artifact} (hmem : a ∈ r.artifacts) :
      Step r e w { w with
        tree := ((r.hook.apply w.hookCalls (r.hookCall a)).run.run w.tree).2
        hookCalls := w.hookCalls ++ [r.hookCall a] }
  | archived (w : World) {a : Artifact} (hmem : a ∈ r.artifacts) :
      Step r e w { w with
        tree := ((Archive.write e.device a.path a.baseName r.config.outputDir).run.run w.tree).2 }

/-- Why a release goes astray: at a command; because the path of the output directory holds the null
character; because an artifact cannot be looked for; because the hook ends with a failure of this
program that is none of a step; or because what is left of an archive cannot be discarded. -/
inductive Stray (r : Release) (e : Equipment) (w : World) : Fault → Prop where
  | command {fault : Fault}
      (h : Toolchain.Stray e.launcher r.config.projectDir r.toolchain.dueCommands w fault) :
      Stray r e w fault
  | directory
      (h : ((OutputDirectory.renew e.remover r.config.outputDir).run.run w.tree).1 =
        .error .nullCharacter) :
      Stray r e w (.access .nullCharacter)
  | presence {a : Artifact} {fault : AccessFault} (hmem : a ∈ r.artifacts)
      (h : w.tree.isFile a.path = .error fault) : Stray r e w (.access fault)
  | hook {a : Artifact} {f : Failure} (hmem : a ∈ r.artifacts)
      (h : ((r.hook.apply w.hookCalls (r.hookCall a)).run.run w.tree).1 = .error (.failure f))
      (hother : f.isPackaging = false) : Stray r e w (.failure f)
  | remains {a : Artifact} {cause fault : AccessFault} {left : FileTree} (hmem : a ∈ r.artifacts)
      (hpack : (Archive.pack e.device a.path (archivePath a.baseName r.config.outputDir)).run.run
        w.tree = (.error cause, left))
      (h : ((Archive.discard (archivePath a.baseName r.config.outputDir)).run.run left).1 =
        .error fault) : Stray r e w (.access fault)

def failureEvent (name : Value) (artifact : Option String) (message : Value) : Event :=
  ⟨.error, "Build failed",
    [(.str "step", name), (.str "artifact", (artifact.map Value.str).getD .null),
      (.str "error", message)]⟩

def completedEvent (report : Report) : Event :=
  ⟨.info, "Build completed successfully", [(.str "archives", .int report.archives.length)]⟩

/-- How a release ends. -/
inductive BuildEnd (r : Release) (e : Equipment) (w : World) :
    Except Fault Report × World → Prop where
  | reported {report : Report} {es : List Event} {w' : World}
      (htrail : Trail (Step r e) e.target w es w') (hquiet : AreQuiet es) :
      BuildEnd r e w (.ok report, w')
  | failed {name message : Value} {artifact : Option String} {stage : Failure.Stage}
      {details : Entries} {es : List Event} {w' : World}
      (htrail : Trail (Step r e) e.target w (es ++ [failureEvent name artifact message]) w')
      (hquiet : AreQuiet es) :
      BuildEnd r e w (.error (.failure ⟨.step name artifact stage, message, details⟩), w')
  | strayed {fault : Fault} {before after : List Event} {w₁ w' : World}
      (hbefore : Trail (Step r e) e.target w before w₁)
      (hafter : Trail (Step r e) e.target w₁ after w') (hquiet : AreQuiet (before ++ after))
      (hother : ¬fault.IsOfStep) (hstray : Stray r e w₁ fault) :
      BuildEnd r e w (.error fault, w')

variable {r : Release} {e : Equipment} {a : Artifact} {as : List Artifact} {w : World}

/-- Whether steps of a release report no errors and go astray only as a release may. -/
abbrev IsQuiet (r : Release) (e : Equipment) (w : World) {α : Type}
    (outcome : Except Fault α × World) : Prop :=
  EndsQuietly (Step r e) e.target (Stray r e) w outcome

/-- No step touches the logging system. -/
theorem Step.logging {w' : World} (h : Step r e w w') : w'.logging = w.logging := by
  cases h with
  | launched h =>
    cases h
    rfl
  | reset | called | archived => rfl

/-- No step records an event. -/
theorem Step.events {w' : World} (h : Step r e w w') : w'.events = w.events := by
  cases h with
  | launched h =>
    cases h
    rfl
  | reset | called | archived => rfl

/-! ## The steps one by one -/

theorem announce_quiet {context : List (String × Value)} {level : Logging.Level}
    (hfields : context.map Prod.fst ⊆ eventFields) (hlevel : level ≠ .error) (text : String) :
    IsQuiet r e w ((announce e level text context).run.run w) := by
  rw [run_announce hfields]
  exact .of_ok (.told _ (.done _)) (List.forall_mem_singleton.mpr hlevel)

theorem runToolchain_quiet (hsound : r.config.IsSound) (w : World) :
    IsQuiet r e w ((r.runToolchain e).run.run w) := by
  refine (announce_quiet (by simp [eventFields]) (by decide) _).bind fun _ w₁ _ => ?_
  have hinvoke :=
    Toolchain.invoke_quiet e.launcher e.target r.toolchain (dueCommands_ne_nil hsound) w₁
  exact (hinvoke.mono (fun _ _ => .launched) (fun _ _ => .command)).bind
    fun _ w₂ _ => .result ()

theorem resetOutput_quiet (w : World) : IsQuiet r e w ((r.resetOutput e).run.run w) := by
  refine (announce_quiet (by simp [eventFields]) (by decide) _).bind fun _ w₁ _ => ?_
  refine .of_trail (.single (.reset w₁)) .nil fun fault hfault => ?_
  rw [Action.run_onTree, OutputDirectory.reset, Action.run_bind, Action.run_adapt] at hfault
  cases hrenew : (OutputDirectory.renew e.remover r.config.outputDir).run.run w₁.tree with
  | mk result tree =>
    rw [hrenew] at hfault
    cases result with
    | ok => cases hfault
    | error cause =>
      cases cause with
      | system cause path =>
        cases hfault
        exact .inl ⟨_, rfl, rfl⟩
      | nullCharacter =>
        cases hfault
        exact .inr (.directory (congrArg Prod.fst hrenew))

/-- The artifacts of a release are announced, which is no error, and given. -/
theorem run_resolveArtifacts (r : Release) (e : Equipment) (w : World) : ∃ event,
    event.level ≠ .error ∧
      (r.resolveArtifacts e).run.run w = (.ok r.artifacts, w.told e.target event) := by
  unfold resolveArtifacts
  cases r.artifacts with
  | nil =>
    exact ⟨_, by simp, Action.run_bind_ok (run_announce (by simp [eventFields]) .warning _)⟩
  | cons a rest =>
    exact ⟨_, by simp, Action.run_bind_ok (run_announce (by simp [eventFields]) .info _)⟩

theorem callHook_quiet (hmem : a ∈ r.artifacts) (w : World) :
    IsQuiet r e w ((callHook r.hook (r.hookCall a)).run.run w) := by
  refine .of_trail (.single (.called w hmem)) .nil fun fault hfault => ?_
  change ((r.hook.apply w.hookCalls (r.hookCall a)).run.run w.tree).1.mapError _ = _ at hfault
  cases hresult : ((r.hook.apply w.hookCalls (r.hookCall a)).run.run w.tree).1 with
  | ok =>
    rw [hresult] at hfault
    cases hfault
  | error cause =>
    rw [hresult] at hfault
    cases hfault
    cases cause with
    | failure f =>
      cases hpackaging : f.isPackaging with
      | true => exact .inl ⟨f, rfl, hpackaging⟩
      | false => exact .inr (.hook hmem hresult hpackaging)
    | other message => exact .inl ⟨_, rfl, rfl⟩

theorem applyHook_quiet (hmem : a ∈ r.artifacts) (w : World) :
    IsQuiet r e w ((r.applyHook a).run.run w) := by
  rw [run_applyHook]
  split
  · next hpresent => exact .fault (.inr (.presence hmem hpresent))
  · exact .fault (.inl ⟨_, rfl, rfl⟩)
  · exact callHook_quiet hmem w

theorem write_quiet (hmem : a ∈ r.artifacts) (w : World) :
    IsQuiet r e w ((Action.onTree
      (Archive.write e.device a.path a.baseName r.config.outputDir)).run.run w) := by
  refine .of_trail (.single (.archived w hmem)) .nil fun fault hfault => ?_
  rw [Action.run_onTree, Archive.run_write] at hfault
  simp only at hfault
  split at hfault
  · next cause hpresent =>
    cases hfault
    exact .inr (.presence hmem hpresent)
  · cases hfault
    exact .inl ⟨_, rfl, rfl⟩
  · split at hfault
    · cases hfault
    · next cause left hpack =>
      split at hfault
      · cases hfault
        exact .inl ⟨_, rfl, rfl⟩
      · next other _ hdiscard =>
        cases hfault
        exact .inr (.remains hmem hpack (congrArg Prod.fst hdiscard))

theorem packageArtifact_quiet (hmem : a ∈ r.artifacts) (w : World) :
    IsQuiet r e w ((r.packageArtifact e a).run.run w) := by
  refine (applyHook_quiet hmem w).bind fun _ w₁ _ => ?_
  refine (write_quiet hmem w₁).bind fun target w₂ _ => ?_
  exact (announce_quiet (by simp [eventFields]) (by decide) _).bind fun _ w₃ _ => .result target

theorem packageAll_quiet (hsub : as ⊆ r.artifacts) (w : World) :
    IsQuiet r e w ((r.packageAll e as).run.run w) := by
  induction as generalizing w with
  | nil => exact .result []
  | cons a rest ih =>
    obtain ⟨hmem, hrest⟩ := List.cons_subset.mp hsub
    exact (packageArtifact_quiet hmem w).bind fun archive w₁ _ =>
      (ih hrest w₁).bind fun archives w₂ _ => .result (archive :: archives)

theorem takeOutputSteps_quiet (w : World) : IsQuiet r e w ((r.takeOutputSteps e).run.run w) := by
  refine (resetOutput_quiet w).bind fun _ w₁ _ => ?_
  obtain ⟨event, hlevel, hresolved⟩ := run_resolveArtifacts r e w₁
  refine EndsQuietly.bind ?_ fun artifacts w₂ hgiven => ?_
  · rw [hresolved]
    exact .of_ok (.told event (.done _)) (List.forall_mem_singleton.mpr hlevel)
  · rw [hresolved] at hgiven
    cases hgiven
    exact (packageAll_quiet (List.Subset.refl _) _).bind fun archives w₃ _ => .result _

/-- The steps of a release report no errors, and where they do not end well they end with the
failure of a step or go astray. -/
theorem takeSteps_quiet (hsound : r.config.IsSound) (w : World) :
    IsQuiet r e w ((r.takeSteps e).run.run w) := by
  refine (announce_quiet (by simp [eventFields]) (by decide) _).bind fun _ w₁ _ => ?_
  exact (runToolchain_quiet hsound w₁).bind fun _ w₂ _ => takeOutputSteps_quiet w₂

/-! ## The end -/

/-- The event that a fault is, if it is a failure of a step. -/
def failureEvent? : Fault → Option Event
  | .failure ⟨.step name artifact _, message, _⟩ => some (failureEvent name artifact message)
  | _ => none

theorem failureEvent?_eq_none {fault : Fault} (h : ¬fault.IsOfStep) : failureEvent? fault = none := by
  unfold failureEvent?
  split
  · exact absurd ⟨_, rfl, rfl⟩ h
  · rfl

theorem run_announceFault (fault : Fault) (w : World) :
    (announceFault e fault).run.run w =
      (.ok (), (failureEvent? fault).elim w (w.told e.target)) := by
  cases fault with
  | failure f =>
    obtain ⟨cause, message, details⟩ := f
    cases cause with
    | step name artifact stage => exact run_announce (by simp [eventFields]) .error "Build failed"
    | general | configuration => rfl
  | _ => rfl

/-- How a release ends is reported, and nothing else happens then. -/
theorem run_conclude (e : Equipment) (steps : Action Fault Report) (w : World) :
    (conclude e steps).run.run w =
      match steps.run.run w with
      | (.ok report, w₁) => (.ok report, w₁.told e.target (completedEvent report))
      | (.error fault, w₁) => (.error fault, (failureEvent? fault).elim w₁ (w₁.told e.target)) := by
  unfold conclude
  rw [Action.run_bind, Action.run_tryCatch]
  cases steps.run.run w with
  | mk result w₁ =>
    cases result with
    | ok report =>
      simp only
      exact Action.run_bind_ok (run_announce (by simp [eventFields]) .info _)
    | error fault =>
      simp only
      rw [Action.run_bind_ok (run_announceFault fault w₁), Action.run_throw]

/-- A release has a trail, however it ends. -/
theorem exists_trail_build (hsound : r.config.IsSound) (w : World) :
    ∃ es, Trail (Step r e) e.target w es ((r.build e).run.run w).2 := by
  obtain ⟨es, _, htrail⟩ := (takeSteps_quiet (e := e) hsound w).exists_trail
  rw [build, run_conclude]
  cases hsteps : (r.takeSteps e).run.run w with
  | mk result w₁ =>
    rw [hsteps] at htrail
    cases result with
    | ok report => exact ⟨_, htrail.tell _⟩
    | error fault =>
      simp only
      cases failureEvent? fault with
      | none => exact ⟨es, htrail⟩
      | some event => exact ⟨_, htrail.tell event⟩

/-- At its end a release has recorded one error, for the failure of the step that it ended with, or
none if it ended otherwise. -/
theorem BuildEnd.errors {outcome : Except Fault Report × World} (h : BuildEnd r e w outcome)
    (hrecorder : e.target = .recorder) :
    ∃ es, outcome.2.events = w.events ++ es ∧
      es.filter (fun event => event.level == .error) =
        match outcome.1 with
        | .ok _ => []
        | .error fault => (failureEvent? fault).toList := by
  cases h with
  | reported htrail hquiet =>
    rw [hrecorder] at htrail
    exact ⟨_, htrail.events fun _ _ => Step.events, hquiet.filter_error⟩
  | failed htrail hquiet =>
    rw [hrecorder] at htrail
    refine ⟨_, htrail.events fun _ _ => Step.events, ?_⟩
    rw [List.filter_append, hquiet.filter_error]
    rfl
  | strayed hbefore hafter hquiet hother hstray =>
    rw [hrecorder] at hbefore hafter
    refine ⟨_, (hbefore.append hafter).events fun _ _ => Step.events, ?_⟩
    rw [hquiet.filter_error]
    exact (congrArg Option.toList (failureEvent?_eq_none hother)).symm

/-- A release of an accepted configuration ends with a report; or with the failure of one of its
steps, which is then the last event and the only error; or it goes astray, and no error is
reported. -/
theorem build_end (hconfig : ∃ settings, Config.ofEntries settings = .ok r.config) (w : World) :
    BuildEnd r e w ((r.build e).run.run w) := by
  obtain ⟨settings, haccepted⟩ := hconfig
  have hquiet := takeSteps_quiet (e := e) (Config.isSound_of_ofEntries haccepted) w
  rw [build, run_conclude]
  cases hsteps : (r.takeSteps e).run.run w with
  | mk result w₁ =>
    rw [hsteps] at hquiet
    cases result with
    | ok report =>
      obtain ⟨es, hes, htrail⟩ := hquiet.exists_trail
      exact .reported (htrail.tell _) (hes.append (List.forall_mem_singleton.mpr nofun))
    | error fault =>
      by_cases hstep : fault.IsOfStep
      · obtain ⟨es, hes, htrail⟩ := hquiet.exists_trail
        obtain ⟨⟨cause, message, details⟩, rfl, hpackaging⟩ := hstep
        cases cause with
        | step name artifact stage => exact .failed (htrail.tell _) hes
        | general | configuration => cases hpackaging
      · obtain ⟨before, w₂, after, hbefore, hafter, hes, hcause⟩ := hquiet
        simp only [failureEvent?_eq_none hstep]
        exact .strayed hbefore hafter hes hstep ((hcause fault rfl).resolve_left hstep)

theorem build_end_failingBuild :
    (∃ settings, Config.ofEntries settings = .ok Config.standard) ∧
      BuildEnd ⟨.standard, "linux", "1.0", .idle⟩ failingEquipment
        ⟨.emptyAt [], .initial default, [], []⟩
        ((build ⟨.standard, "linux", "1.0", .idle⟩ failingEquipment).run.run
          ⟨.emptyAt [], .initial default, [], []⟩) :=
  ⟨⟨[], rfl⟩, build_end ⟨[], rfl⟩ _⟩

/-! ### A command that writes no text -/

/-- Equipment with a launcher under which every command ends well and writes one byte that begins no
character. -/
def unreadableEquipment : Equipment :=
  ⟨fun _ _ => pure ⟨0, ⟨#[0xff]⟩⟩, TreeAction.freeRemover, Archive.soundDevice, .recorder⟩

/-- A command that writes no text ends a release with the fault of the decoder. No error is
recorded. -/
theorem build_unreadableOutput :
    Config.ofEntries [] = .ok .standard ∧
      ((build ⟨.standard, "linux", "1.0", .idle⟩ unreadableEquipment).run.run
        ⟨.emptyAt [], .initial default, [], []⟩).1 =
          .error (.decoding ⟨0xff, 0, 1, .startByte⟩) ∧
      ¬(Fault.decoding ⟨0xff, 0, 1, .startByte⟩).IsOfStep ∧
      ((build ⟨.standard, "linux", "1.0", .idle⟩ unreadableEquipment).run.run
        ⟨.emptyAt [], .initial default, [], []⟩).2.events.all (fun e => e.level != .error) =
          true := by
  refine ⟨rfl, ?_, nofun, ?_⟩
  · with_unfolding_all rfl
  · decide +kernel

end ReleasePackaging.Release
