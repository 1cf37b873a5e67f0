import ReleasePackaging.Proofs.Action.Trail
import ReleasePackaging.Toolchain.Invocation

/-!
# The course of a toolchain

All that invoking a toolchain does is to report events and to launch commands, each of them in the
tree that was left before. The commands that are due are launched in order until one of them cannot be
launched or does not end well.
-/
namespace ReleasePackaging.Toolchain

/-- A launch: the words of the command, and how it ended. -/
structure Launch where
  command : List String
  outcome : Except AccessFault Ending

namespace Launch

def result (l : Launch) : CommandResult :=
  match l.outcome with
  | .error fault => ⟨l.command, none, fault.message⟩
  | .ok ending =>
    ⟨l.command, some ending.status, "\n".intercalate (readOutput ending.output).1⟩

/-- The command could be launched and ended with status zero. -/
def IsOk (l : Launch) : Prop := l.result.status = some 0

end Launch

/-- A command is refused by the system or launched, and what it writes is text. -/
structure Launcher.IsRegular (launcher : Launcher) (command : List String)
    (directory : Option String) : Prop where
  refusal : ∀ t fault, ((launcher command directory).run.run t).1 = .error fault →
    ∃ cause path, fault = .system cause path
  text : ∀ t ending, ((launcher command directory).run.run t).1 = .ok ending →
    (Text.decodeStream ending.output).fault = none

/-- What happens between two states of the surroundings: events are reported, and commands are
launched in a directory. -/
inductive Course (launcher : Launcher) (directory : Path) (target : EventTarget) :
    World → List Launch → World → Prop where
  | done (w : World) : Course launcher directory target w [] w
  | told {w w' : World} {launches : List Launch} (e : Event)
      (rest : Course launcher directory target (w.told target e) launches w') :
      Course launcher directory target w launches w'
  | launched {w w' : World} {launches : List Launch} {command : List String}
      {outcome : Except AccessFault Ending} {tree : FileTree}
      (hrun : (launcher command (some directory.toString)).run.run w.tree = (outcome, tree))
      (rest : Course launcher directory target { w with tree := tree } launches w') :
      Course launcher directory target w (⟨command, outcome⟩ :: launches) w'

/-- The tree that commands leave which are launched in a directory one after another. -/
def treeAfter (launcher : Launcher) (directory : Path) (commands : List (List String))
    (t : FileTree) : FileTree :=
  commands.foldl (fun t command => ((launcher command (some directory.toString)).run.run t).2) t

variable {launcher : Launcher} {directory : Path} {target : EventTarget} {w w₁ w' : World}
  {command : List String} {commands : List (List String)} {launches later : List Launch}

namespace Course

theorem append (h : Course launcher directory target w launches w₁)
    (h' : Course launcher directory target w₁ later w') :
    Course launcher directory target w (launches ++ later) w' := by
  induction h with
  | done => exact h'
  | told e _ ih => exact .told e (ih h')
  | launched hrun _ ih => exact .launched hrun (ih h')

/-- An event that is reported at the end belongs to the course. -/
theorem tell (h : Course launcher directory target w launches w₁) (e : Event) :
    Course launcher directory target w launches (w₁.told target e) := by
  have happend := h.append (.told e (.done (w₁.told target e)))
  rwa [List.append_nil] at happend

/-- Where only events are reported, nothing is launched. -/
theorem of_trail {es : List Event} (h : Trail (fun _ _ => False) target w es w') :
    Course launcher directory target w [] w' := by
  induction h with
  | done w => exact .done w
  | told e _ ih => exact .told e ih
  | stepped hnone => exact hnone.elim

/-- No hook is called in the course of a toolchain. -/
theorem hookCalls (h : Course launcher directory target w launches w') :
    w'.hookCalls = w.hookCalls := by
  induction h with
  | done => rfl
  | told e _ ih => rw [ih, World.hookCalls_told]
  | launched _ _ ih => rw [ih]

/-- Where events are not written to the tree, the tree is what the commands leave. -/
theorem tree (h : Course launcher directory target w launches w') (hlogs : w.LogsOffTree target) :
    w'.tree = treeAfter launcher directory (launches.map Launch.command) w.tree := by
  induction h with
  | done => rfl
  | told e _ ih =>
    obtain ⟨htree, hstill⟩ := World.told_offTree hlogs e
    rw [ih hstill, htree]
  | @launched w w' launches command outcome tree hrun _ ih =>
    have hstill : World.LogsOffTree target { w with tree := tree } := by
      cases target <;> exact hlogs
    rw [ih hstill, List.map_cons, treeAfter, treeAfter, List.foldl_cons, hrun]

end Course

/-! ## Running one command -/

/-- Each line is an event, and nothing else happens. -/
theorem reportLines_trail (target : EventTarget) (word : String) (lines : List String) (w : World) :
    ∃ w', (reportLines target word lines).run.run w = (.ok (), w') ∧
      Trail (fun _ _ => False) target w (lines.map (lineEvent word)) w' := by
  induction lines generalizing w with
  | nil => exact ⟨w, rfl, .done w⟩
  | cons line rest ih =>
    have hplain : Logging.ArePlain (lineEvent word line).context :=
      Logging.arePlain_of_names (by decide : ∀ name ∈ ["command"], name ∉ Logging.reservedNames) rfl
    obtain ⟨w', hrest, htrail⟩ := ih (w.told target (lineEvent word line))
    refine ⟨w', ?_, .told _ htrail⟩
    rw [reportLines, Action.run_bind_ok (Event.run_emit hplain target w), hrest]

/-- A command with a word is launched once. -/
theorem runCommand_course (target : EventTarget) (hword : command ≠ [])
    (hregular : launcher.IsRegular command (some directory.toString)) (w : World) :
    ∃ launch w', launch.command = command ∧
      (runCommand launcher target command (some directory.toString)).run.run w =
        (.ok launch.result, w') ∧
      Course launcher directory target w [launch] w' := by
  obtain ⟨word, rest, rfl⟩ := List.exists_cons_of_ne_nil hword
  cases hrun : (launcher (word :: rest) (some directory.toString)).run.run w.tree with
  | mk outcome tree =>
    unfold runCommand
    simp only [Action.run_bind, Action.run_outcome, Action.run_onTree, hrun]
    cases outcome with
    | error fault =>
      obtain ⟨cause, path, rfl⟩ := hregular.refusal w.tree fault (by rw [hrun])
      exact ⟨⟨word :: rest, .error (.system cause path)⟩, _, rfl, rfl,
        .launched hrun (.done _)⟩
    | ok ending =>
      have htext := hregular.text w.tree ending (by rw [hrun])
      have hnofault : (readOutput ending.output).2 = none := by
        simp only [readOutput, htext]
      obtain ⟨w', hlines, htrail⟩ := reportLines_trail target word
        (readOutput ending.output).1 { w with tree := tree }
      refine ⟨⟨word :: rest, .ok ending⟩, w', rfl, ?_, .launched hrun (.of_trail htrail)⟩
      simp only [Action.run_bind, hlines, hnofault]
      rfl

/-- The failure of a launch that did not end well tells its command, its status and its output. -/
theorem failureOf?_result (l : Launch) :
    (l.IsOk ∧ failureOf? l.result = none) ∨
      ¬ l.IsOk ∧ ∃ message, failureOf? l.result =
        some (.toolchain message l.command l.result.status l.result.output) := by
  have hcommand : l.result.command = l.command := by
    unfold Launch.result
    cases l.outcome <;> rfl
  unfold Launch.IsOk failureOf?
  rw [hcommand]
  split
  · next hstatus => exact .inr ⟨by simp [hstatus], _, by rw [hstatus]⟩
  · next hstatus => exact .inl ⟨hstatus, rfl⟩
  · next n hn hstatus => exact .inr ⟨by simp [hstatus]; exact hn, _, by rw [hstatus]⟩

theorem arePlain_commandContext (command : List String) (directory : Path) :
    Logging.ArePlain [(.str "command", .str (commandLine command)),
      (.str "cwd", .str directory.toString)] :=
  Logging.arePlain_of_names
    (by decide : ∀ name ∈ ["command", "cwd"], name ∉ Logging.reservedNames) rfl

/-- Running a command fails if its launch does not end well. -/
theorem runIn_course (target : EventTarget) (hword : command ≠ [])
    (hregular : launcher.IsRegular command (some directory.toString)) (w : World) :
    ∃ launch w', launch.command = command ∧ Course launcher directory target w [launch] w' ∧
      (runIn directory launcher target command).run.run w =
        match failureOf? launch.result with
        | some f => (.error (.failure f), w')
        | none => (.ok launch.result, w') := by
  unfold runIn
  rw [Action.run_bind_ok (Event.run_emit (arePlain_commandContext command directory) target w)]
  obtain ⟨launch, w', hcommand, hrun, hcourse⟩ :=
    runCommand_course target hword hregular (w.told target _)
  refine ⟨launch, w', hcommand, .told _ hcourse, ?_⟩
  rw [Action.run_bind_ok hrun]
  cases failureOf? launch.result <;> rfl

/-! ## Running the commands that are due -/

/-- The launches of all commands, each of which ended well. -/
def Passed (commands : List (List String)) (launches : List Launch) : Prop :=
  launches.map Launch.command = commands ∧ ∀ l ∈ launches, l.IsOk

/-- The launches of the first commands, of which the last one alone did not end well. -/
structure Stopped (commands : List (List String)) (launches : List Launch) (last : Launch) : Prop where
  inOrder : launches.map Launch.command <+: commands
  earlier : ∃ earlier, launches = earlier ++ [last] ∧ ∀ l ∈ earlier, l.IsOk
  failed : ¬ last.IsOk

theorem Passed.cons {l : Launch} (hl : l.IsOk) (h : Passed commands launches) :
    Passed (l.command :: commands) (l :: launches) := by
  refine ⟨by rw [List.map_cons, h.1], fun other hother => ?_⟩
  rcases List.mem_cons.mp hother with rfl | hmem
  · exact hl
  · exact h.2 other hmem

theorem Stopped.cons {l last : Launch} (hl : l.IsOk) (h : Stopped commands launches last) :
    Stopped (l.command :: commands) (l :: launches) last := by
  obtain ⟨earlier, rfl, hearlier⟩ := h.earlier
  refine ⟨?_, ⟨l :: earlier, rfl, fun other hother => ?_⟩, h.failed⟩
  · rw [List.map_cons]
    exact List.prefix_cons_inj _ |>.mpr h.inOrder
  · rcases List.mem_cons.mp hother with rfl | hmem
    · exact hl
    · exact hearlier other hmem

/-- Commands are run until one of them does not end well. -/
theorem runAll_course (target : EventTarget) (t : Plan)
    (hwords : ∀ command ∈ commands, command ≠ [])
    (hregular : ∀ command ∈ commands,
      launcher.IsRegular command (some t.directory.toString)) (w : World) :
    ∃ launches w', Course launcher t.directory target w launches w' ∧
      ((Passed commands launches ∧ ∃ results,
          (t.runAll launcher target commands).run.run w = (.ok results, w')) ∨
        (∃ last message, Stopped commands launches last ∧
          (t.runAll launcher target commands).run.run w =
            (.error (.failure
              (.toolchain message last.command last.result.status last.result.output)), w'))) := by
  induction commands generalizing w with
  | nil => exact ⟨[], w, .done w, .inl ⟨⟨rfl, nofun⟩, [], rfl⟩⟩
  | cons command rest ih =>
    obtain ⟨launch, w₁, rfl, hcourse, hrun⟩ := runIn_course target
      (hwords command List.mem_cons_self) (hregular command List.mem_cons_self) w
    have hfirst : (t.run launcher target launch.command).run.run w = _ := hrun
    rcases failureOf?_result launch with ⟨hok, hnone⟩ | ⟨hfailed, message, hsome⟩
    · rw [hnone] at hfirst
      obtain ⟨launches, w', hrest, hcase⟩ := ih
        (fun command hmem => hwords command (List.mem_cons_of_mem _ hmem))
        (fun command hmem => hregular command (List.mem_cons_of_mem _ hmem)) w₁
      refine ⟨launch :: launches, w', hcourse.append hrest, ?_⟩
      rw [Plan.runAll, Action.run_bind_ok hfirst]
      rcases hcase with ⟨hpassed, results, hresults⟩ | ⟨last, message, hstopped, herror⟩
      · refine .inl ⟨hpassed.cons hok, launch.result :: results, ?_⟩
        rw [Action.run_bind_ok hresults]
        rfl
      · exact .inr ⟨last, message, hstopped.cons hok, by rw [Action.run_bind_error herror]⟩
    · rw [hsome] at hfirst
      refine ⟨[launch], w₁, hcourse, .inr ⟨launch, message, ⟨?_, ⟨[], rfl, nofun⟩, hfailed⟩, ?_⟩⟩
      · exact List.prefix_cons_inj _ |>.mpr (List.nil_prefix)
      · rw [Plan.runAll, Action.run_bind_error hfirst]

/-- Invoking a toolchain runs the commands that are due until one of them does not end well. -/
theorem invoke_course (target : EventTarget) (t : Plan)
    (hwords : ∀ command ∈ t.dueCommands, command ≠ [])
    (hregular : ∀ command ∈ t.dueCommands,
      launcher.IsRegular command (some t.directory.toString)) (w : World) :
    ∃ launches w', Course launcher t.directory target w launches w' ∧
      ((Passed t.dueCommands launches ∧ ∃ results,
          (t.invoke launcher target).run.run w = (.ok results, w')) ∨
        (∃ last message, Stopped t.dueCommands launches last ∧
          (t.invoke launcher target).run.run w =
            (.error (.failure
              (.toolchain message last.command last.result.status last.result.output)), w'))) := by
  unfold Plan.invoke
  cases hmode : t.devMode with
  | false => exact runAll_course target t hwords hregular w
  | true =>
    have hplain : Logging.ArePlain [] := fun _ hmem => nomatch hmem
    obtain ⟨launches, w', hcourse, hcase⟩ :=
      runAll_course target t hwords hregular (w.told target _)
    refine ⟨launches, w', .told _ hcourse, ?_⟩
    rw [reportMode, if_pos rfl, Action.run_bind_ok (Event.run_emit hplain target w)]
    exact hcase

end ReleasePackaging.Toolchain
