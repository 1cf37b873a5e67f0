import ReleasePackaging.Proofs.Config.Acceptance
import ReleasePackaging.Proofs.Release.Packaging
import ReleasePackaging.Proofs.Toolchain.Course
import ReleasePackaging.Release.Build

/-!
# The toolchain comes first

A release goes on to its output directory only after every command that is due has ended well.
Otherwise it ends with the failure of the command that did not, and nothing has happened but that
events were reported and commands were launched.
-/
namespace ReleasePackaging.Release

open Toolchain (Launch Course Passed Stopped treeAfter)

variable {r : Release} {e : Equipment} {w w' : World}

/-- How a release ends is reported in the same way wherever its steps begin. -/
theorem conclude_congr {steps steps' : Action Fault Report}
    (h : steps.run.run w = steps'.run.run w') :
    (conclude e steps).run.run w = (conclude e steps').run.run w' := by
  simp only [conclude, Action.run_bind, Action.run_tryCatch, h]

/-- A failure of the toolchain is reported and passed on. -/
theorem conclude_toolchain {steps : Action Fault Report} {message output : String}
    {command : List String} {status : Option Int}
    (h : steps.run.run w = (.error (.failure (.toolchain message command status output)), w')) :
    ∃ event, (conclude e steps).run.run w =
      (.error (.failure (.toolchain message command status output)), w'.told e.target event) := by
  obtain ⟨event, hannounce⟩ : ∃ event,
      (announceFault e (.failure (.toolchain message command status output))).run.run w' =
        (.ok (), w'.told e.target event) :=
    announce_told e .error "Build failed" _ (by simp [eventFields]) w'
  refine ⟨event, ?_⟩
  simp only [conclude, Action.run_bind, Action.run_tryCatch, h, hannounce, Action.run_throw]

theorem dueCommands_ne_nil (hsound : r.config.IsSound) :
    ∀ command ∈ r.toolchain.dueCommands, command ≠ [] := by
  intro command hmem
  cases hmode : r.config.devMode with
  | true =>
    obtain rfl : command = r.config.buildCommand := by
      simpa [toolchain, Toolchain.Plan.dueCommands, hmode] using hmem
    exact hsound.buildCommand
  | false =>
    have hcases : command = r.config.updateCommand ∨ command = r.config.buildCommand := by
      simpa [toolchain, Toolchain.Plan.dueCommands, hmode] using hmem
    rcases hcases with rfl | rfl
    · exact hsound.updateCommand
    · exact hsound.buildCommand

/-- The steps of a release begin with its toolchain. -/
theorem takeSteps_course (hsound : r.config.IsSound)
    (hlauncher : ∀ command ∈ r.toolchain.dueCommands,
      e.launcher.IsRegular command (some r.config.projectDir.toString)) (w : World) :
    ∃ launches w₁, Course e.launcher r.config.projectDir e.target w launches w₁ ∧
      ((Passed r.toolchain.dueCommands launches ∧
          (r.takeSteps e).run.run w = (r.takeOutputSteps e).run.run w₁) ∨
        (∃ last message, Stopped r.toolchain.dueCommands launches last ∧
          (r.takeSteps e).run.run w = (.error (.failure
            (.toolchain message last.command last.result.status last.result.output)), w₁))) := by
  obtain ⟨start, hstart⟩ := announce_told e .info "Starting release build"
    [("library", .str r.config.library), ("version", .str r.version), ("host_os", .str r.host)]
    (by simp [eventFields]) w
  obtain ⟨mode, hannounced⟩ := announce_told e .info "Building native library"
    [("dev_mode", .bool r.config.devMode)] (by simp [eventFields]) (w.told e.target start)
  obtain ⟨launches, w₁, hcourse, hcase⟩ := Toolchain.invoke_course e.target r.toolchain
    (dueCommands_ne_nil hsound) hlauncher ((w.told e.target start).told e.target mode)
  refine ⟨launches, w₁, .told start (.told mode hcourse), ?_⟩
  rw [takeSteps, Action.run_bind_ok hstart]
  rcases hcase with ⟨hpassed, results, hresults⟩ | ⟨last, message, hstopped, hfailed⟩
  · have hran : (r.runToolchain e).run.run (w.told e.target start) = (.ok (), w₁) := by
      rw [runToolchain, Action.run_bind_ok hannounced, Action.run_bind_ok hresults]
      rfl
    exact .inl ⟨hpassed, by rw [Action.run_bind_ok hran]⟩
  · have hran : (r.runToolchain e).run.run (w.told e.target start) = (.error (.failure
        (.toolchain message last.command last.result.status last.result.output)), w₁) := by
      rw [runToolchain, Action.run_bind_ok hannounced, Action.run_bind_error hfailed]
    exact .inr ⟨last, message, hstopped, by rw [Action.run_bind_error hran]⟩

/-- How a release goes with its toolchain: the course of the toolchain, which calls no hook and
changes the tree by its commands alone if events are not written to it, and then either the failure of
the last command, or the steps that follow. -/
def GateOutcome (r : Release) (e : Equipment) (w : World) (outcome : Except Fault Report × World) :
    Prop :=
  ∃ launches w₁, Course e.launcher r.config.projectDir e.target w launches w₁ ∧
    w₁.hookCalls = w.hookCalls ∧
    (w.LogsOffTree e.target →
      w₁.tree = treeAfter e.launcher r.config.projectDir (launches.map Launch.command) w.tree) ∧
    ((∃ last message, Stopped r.toolchain.dueCommands launches last ∧
        outcome = (.error (.failure
          (.toolchain message last.command last.result.status last.result.output)), w₁)) ∨
      (Passed r.toolchain.dueCommands launches ∧
        outcome = (conclude e (r.takeOutputSteps e)).run.run w₁))

/-- The output directory is touched only after every command that is due has ended well. -/
theorem build_gate (hconfig : ∃ settings, Config.ofEntries settings = .ok r.config)
    (hlauncher : ∀ command ∈ r.toolchain.dueCommands,
      e.launcher.IsRegular command (some r.config.projectDir.toString)) :
    GateOutcome r e w ((r.build e).run.run w) := by
  obtain ⟨settings, haccepted⟩ := hconfig
  obtain ⟨launches, w₁, hcourse, hcase⟩ :=
    takeSteps_course (Config.isSound_of_ofEntries haccepted) hlauncher w
  rcases hcase with ⟨hpassed, hsteps⟩ | ⟨last, message, hstopped, hsteps⟩
  · exact ⟨launches, w₁, hcourse, hcourse.hookCalls, hcourse.tree,
      .inr ⟨hpassed, conclude_congr hsteps⟩⟩
  · obtain ⟨event, hconcluded⟩ := conclude_toolchain hsteps
    have hwhole := hcourse.tell event
    exact ⟨launches, _, hwhole, hwhole.hookCalls, hwhole.tree,
      .inl ⟨last, message, hstopped, hconcluded⟩⟩

/-! ### A build command that fails -/

/-- A launcher under which every command but one is silent and ends well. -/
def failingLauncher (failing : List String) : Toolchain.Launcher :=
  fun command _ => pure ⟨if command = failing then 101 else 0, .empty⟩

/-- Equipment with a launcher under which the standard build command fails. -/
def failingEquipment : Equipment :=
  ⟨failingLauncher Config.standard.buildCommand, TreeAction.freeRemover, Archive.soundDevice,
    .recorder⟩

theorem build_gate_failingBuild :
    GateOutcome ⟨.standard, "linux", "1.0", .idle⟩ failingEquipment
      ⟨.emptyAt [], .initial default, [], []⟩
      ((build ⟨.standard, "linux", "1.0", .idle⟩ failingEquipment).run.run
        ⟨.emptyAt [], .initial default, [], []⟩) := by
  refine build_gate ⟨[], rfl⟩ fun command _ => ⟨fun t fault hrun => ?_, fun t ending hrun => ?_⟩
  · cases hrun
  · cases hrun
    rfl

end ReleasePackaging.Release
