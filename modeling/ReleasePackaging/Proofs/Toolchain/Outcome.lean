import ReleasePackaging.Proofs.Toolchain.Course

/-!
# How a toolchain ends

Invoking a toolchain launches commands and reports no errors, and if it fails it ends with the
failure of a command. It goes astray in two ways only: words that cannot be given to a program, and
output that is no text.
-/
namespace ReleasePackaging.Toolchain

/-- Launching one of some commands in a directory. -/
inductive LaunchStep (launcher : Launcher) (directory : Path) (commands : List (List String)) :
    World → World → Prop where
  | launched {w : World} {command : List String} (hmem : command ∈ commands) :
      LaunchStep launcher directory commands w
        { w with tree := ((launcher command (some directory.toString)).run.run w.tree).2 }

/-- Why launching one of some commands in a directory goes astray. -/
inductive Stray (launcher : Launcher) (directory : Path) (commands : List (List String)) (w : World) :
    Fault → Prop where
  | refused {command : List String} (hmem : command ∈ commands)
      (h : ((launcher command (some directory.toString)).run.run w.tree).1 =
        .error .nullCharacter) :
      Stray launcher directory commands w (.access .nullCharacter)
  | unreadable {command : List String} {ending : Ending} {fault : Text.DecodeFault}
      (hmem : command ∈ commands)
      (h : ((launcher command (some directory.toString)).run.run w.tree).1 = .ok ending)
      (hfault : (Text.decodeStream ending.output).fault = some fault) :
      Stray launcher directory commands w (.decoding fault)

variable {launcher : Launcher} {directory : Path} {target : EventTarget} {w w' : World}
  {command : List String} {commands : List (List String)}

theorem LaunchStep.mono {more : List (List String)} (hsub : commands ⊆ more)
    (h : LaunchStep launcher directory commands w w') :
    LaunchStep launcher directory more w w' := by
  cases h with
  | launched hmem => exact .launched (hsub hmem)

theorem Stray.mono {more : List (List String)} {fault : Fault} (hsub : commands ⊆ more)
    (h : Stray launcher directory commands w fault) : Stray launcher directory more w fault := by
  cases h with
  | refused hmem h => exact .refused (hsub hmem) h
  | unreadable hmem h hfault => exact .unreadable (hsub hmem) h hfault

theorem readOutput_fault (output : ByteArray) :
    (readOutput output).2 = (Text.decodeStream output).fault := by
  unfold readOutput
  cases hfault : (Text.decodeStream output).fault <;> simp only [hfault]

theorem areQuiet_lineEvents (word : String) (lines : List String) :
    AreQuiet (lines.map (lineEvent word)) := by
  intro event hevent
  obtain ⟨line, _, rfl⟩ := List.mem_map.mp hevent
  simp [lineEvent]

/-- A command with a word goes astray only where it cannot be launched or writes no text. -/
theorem runCommand_quiet (target : EventTarget) (hword : command ≠ []) (w : World) :
    EndsQuietly (LaunchStep launcher directory [command]) target
      (Stray launcher directory [command])
      w ((runCommand launcher target command (some directory.toString)).run.run w) := by
  obtain ⟨word, rest, rfl⟩ := List.exists_cons_of_ne_nil hword
  cases hrun : (launcher (word :: rest) (some directory.toString)).run.run w.tree with
  | mk outcome tree =>
    have houtcome := congrArg Prod.fst hrun
    have hstep : LaunchStep launcher directory [word :: rest] w { w with tree := tree } := by
      have htree : tree =
          ((launcher (word :: rest) (some directory.toString)).run.run w.tree).2 := by
        rw [hrun]
      rw [htree]
      exact .launched List.mem_cons_self
    unfold runCommand
    simp only [Action.run_bind, Action.run_outcome, Action.run_onTree, hrun]
    cases outcome with
    | error fault =>
      cases fault with
      | system cause path => exact .of_ok (.single hstep) .nil
      | nullCharacter =>
        exact .of_error (.single hstep) .nil (.inr (.refused List.mem_cons_self houtcome))
    | ok ending =>
      -- The output is read before its lines are reported, so a fault in it has its cause at `w`.
      obtain ⟨w₁, hlines, hnone⟩ := reportLines_trail target word (readOutput ending.output).1
        { w with tree := tree }
      have htrail : Trail (LaunchStep launcher directory [word :: rest]) target
          { w with tree := tree } ((readOutput ending.output).1.map (lineEvent word)) w₁ :=
        hnone.mono fun _ _ => False.elim
      have hquiet := areQuiet_lineEvents word (readOutput ending.output).1
      simp only [Action.run_bind, hlines]
      cases hfault : (readOutput ending.output).2 with
      | none => exact .of_ok (.stepped hstep htrail) hquiet
      | some fault =>
        refine .of_error (.stepped hstep htrail) hquiet
          (.inr (.unreadable List.mem_cons_self houtcome ?_))
        rw [← readOutput_fault, hfault]

theorem runIn_quiet (launcher : Launcher) (directory : Path) (target : EventTarget)
    (hword : command ≠ []) (w : World) :
    EndsQuietly (LaunchStep launcher directory [command]) target
      (Stray launcher directory [command])
      w ((runIn directory launcher target command).run.run w) := by
  refine (EndsQuietly.emit (arePlain_commandContext command directory) (by decide)).bind fun _ w₁ _ => ?_
  refine (runCommand_quiet target hword w₁).bind fun result w₂ _ => ?_
  cases hfailure : failureOf? result with
  | none => exact .result result
  | some f =>
    refine .fault (.inl ⟨f, rfl, ?_⟩)
    unfold failureOf? at hfailure
    split at hfailure <;> cases hfailure <;> rfl

theorem runAll_quiet (target : EventTarget) (t : Plan)
    (hwords : ∀ command ∈ commands, command ≠ []) (w : World) :
    EndsQuietly (LaunchStep launcher t.directory commands) target
      (Stray launcher t.directory commands) w
      ((t.runAll launcher target commands).run.run w) := by
  induction commands generalizing w with
  | nil => exact .result []
  | cons command rest ih =>
    have hone : [command] ⊆ command :: rest :=
      List.cons_subset_cons command (List.nil_subset rest)
    have hmore : rest ⊆ command :: rest := List.subset_cons_self command rest
    have hfirst := runIn_quiet launcher t.directory target (hwords command List.mem_cons_self) w
    refine (hfirst.mono (fun _ _ => .mono hone) (fun _ _ => .mono hone)).bind fun result w₁ _ => ?_
    have hrest := ih (fun command hmem => hwords command (List.mem_cons_of_mem _ hmem)) w₁
    exact (hrest.mono (fun _ _ => .mono hmore) (fun _ _ => .mono hmore)).bind
      fun results w₂ _ => .result (result :: results)

/-- Invoking a toolchain whose commands have words goes astray only at one of those that are due. -/
theorem invoke_quiet (launcher : Launcher) (target : EventTarget) (t : Plan)
    (hwords : ∀ command ∈ t.dueCommands, command ≠ []) (w : World) :
    EndsQuietly (LaunchStep launcher t.directory t.dueCommands) target
      (Stray launcher t.directory t.dueCommands) w ((t.invoke launcher target).run.run w) := by
  unfold Plan.invoke
  refine EndsQuietly.bind ?_ fun _ w₁ _ => runAll_quiet target t hwords w₁
  cases t.devMode with
  | false => exact .result ()
  | true => exact .emit (fun _ hmem => nomatch hmem) (by decide)

end ReleasePackaging.Toolchain
