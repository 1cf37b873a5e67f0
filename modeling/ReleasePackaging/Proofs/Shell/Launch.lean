import ReleasePackaging.Proofs.Action.Run
import ReleasePackaging.Shell.Launch

/-!
# Which commands are launched

A command is launched exactly if its words can be passed on, its directory is one and its first word names
a program. What is refused leaves the file tree as it is, and a program that has run leaves it seen from
the same directory as before.
-/
namespace ReleasePackaging.Shell

variable {environment : List (String × String)} {words : List String} {directory : Option String}
  {t : FileTree} {place : Location} {word : String} {arguments : List Octets}

/-! ## Where a command is launched, and what -/

/-- The directory that a command is launched in. -/
def placeOf (t : FileTree) : Option String → Except AccessFault Location
  | none => .ok t.workDir
  | some path =>
    match t.status true path with
    | .ok (loc, .directory) => .ok loc
    | .ok _ => .error (.system .notDirectory path)
    | .error fault => .error fault

theorem isOk_placeOf_iff : (placeOf t directory).isOk = true ↔
    ∀ path, directory = some path → ∃ loc, t.status true path = .ok (loc, .directory) := by
  cases directory with
  | none => exact iff_of_true rfl nofun
  | some path =>
    rw [placeOf]
    constructor
    · rintro h _ ⟨⟩
      split at h
      · next loc hstatus => exact ⟨loc, hstatus⟩
      · cases h
      · cases h
    · intro h
      obtain ⟨loc, hstatus⟩ := h path rfl
      rw [hstatus]
      rfl

/-- Whether a word names a program. -/
def NamesProgram (word : String) : Prop :=
  (Run.program? stepLimit ⟨false, true⟩ word []).isSome = true

/-- Which program a word names does not depend on the arguments. -/
theorem isSome_program? (fuel : Nat) (m : Manner) (word : String) (arguments : List Octets) :
    (Run.program? fuel m word arguments).isSome = (Run.program? fuel m word []).isSome := by
  cases fuel with
  | zero => simp [Run.program?]
  | succ fuel =>
    unfold Run.program?
    simp only
    split
    · rfl
    · split <;> simp

theorem isOk_findProgram_iff :
    (findProgram t word arguments).isOk = true ↔ NamesProgram word := by
  unfold findProgram NamesProgram
  rw [← isSome_program? _ _ word arguments]
  cases Run.program? stepLimit ⟨false, true⟩ word arguments with
  | some action => exact iff_of_true rfl rfl
  | none =>
    refine iff_of_false (fun h => ?_) Bool.false_ne_true
    simp only at h
    split at h
    · cases h
    · split at h
      · split at h <;> cases h
      · cases h

/-! ## Launching -/

/-- What comes of running a command in a directory. -/
def runIn (environment : List (String × String)) (words : List String) (t : FileTree)
    (place : Location) : Except AccessFault Toolchain.Ending × FileTree :=
  match findProgram { t with workDir := place } (words.headD "") ((words.drop 1).map octetsOf) with
  | .error fault => (.error fault, t)
  | .ok action =>
    let (outcome, s) :=
      action.run.run (startState { t with workDir := place } environment (words.headD ""))
    (.ok ⟨endingStatus outcome s, s.written 0⟩, { s.tree with workDir := t.workDir })

theorem run_launch_of_null (hnull : ∃ word ∈ words, '\x00' ∈ word.toList) :
    (launch environment words directory).run.run t = (.error .nullCharacter, t) := by
  have hany : (words.any fun w => w.toList.contains '\x00') = true := by
    simpa [List.any_eq_true] using hnull
  unfold launch
  simp only [hany, if_true]
  rfl

theorem run_launch (hplain : ∀ word ∈ words, '\x00' ∉ word.toList) :
    (launch environment words directory).run.run t =
      match placeOf t directory with
      | .error fault => (.error fault, t)
      | .ok place => runIn environment words t place := by
  have hnull : ¬(words.any fun w => w.toList.contains '\x00') = true := by
    simpa [List.any_eq_true] using hplain
  -- The rest of launching once the directory is known.
  have hrest (place : Location) : (do
      let action ← TreeAction.query fun _ =>
        findProgram { t with workDir := place } (words.headD "") ((words.drop 1).map octetsOf)
      let (outcome, s) := action.run.run
        (startState { t with workDir := place } environment (words.headD ""))
      set { s.tree with workDir := t.workDir }
      return ⟨endingStatus outcome s, s.written 0⟩ :
        TreeAction AccessFault Toolchain.Ending).run.run t = runIn environment words t place := by
    rw [Action.run_bind, TreeAction.run_query, runIn]
    cases findProgram { t with workDir := place } (words.headD "")
      ((words.drop 1).map octetsOf) <;> rfl
  unfold launch
  cases directory with
  | none =>
    simp only [hnull, Bool.false_eq_true, if_false]
    rw [Action.run_bind, Action.run_get]
    simp only [pure_bind]
    exact hrest t.workDir
  | some path =>
    simp only [hnull, Bool.false_eq_true, if_false, placeOf]
    rw [Action.run_bind, Action.run_get]
    simp only
    rw [Action.run_bind, TreeAction.run_query]
    rcases t.status true path with fault | ⟨loc, node⟩
    · rfl
    · cases node with
      | directory => exact hrest loc
      | file | link => rfl

/-- Whether a command can be launched in a directory, or in the working directory if none is given. -/
structure IsLaunchable (t : FileTree) (words : List String) (directory : Option String) : Prop where
  plain : ∀ word ∈ words, '\x00' ∉ word.toList
  place : ∀ path, directory = some path → ∃ loc, t.status true path = .ok (loc, .directory)
  program : NamesProgram (words.headD "")

/-- How launching a command ends: it is refused with the tree as it is, or it has run. -/
inductive LaunchEnd (t : FileTree) (words : List String) (directory : Option String) :
    Except AccessFault Toolchain.Ending × FileTree → Prop where
  | refused {fault : AccessFault} (h : ¬IsLaunchable t words directory) :
      LaunchEnd t words directory (.error fault, t)
  | ran {ending : Toolchain.Ending} {t' : FileTree} (h : IsLaunchable t words directory)
      (hworkDir : t'.workDir = t.workDir) : LaunchEnd t words directory (.ok ending, t')

theorem launch_end (environment : List (String × String)) (words : List String)
    (directory : Option String) (t : FileTree) :
    LaunchEnd t words directory ((launch environment words directory).run.run t) := by
  by_cases hplain : ∀ word ∈ words, '\x00' ∉ word.toList
  · rw [run_launch hplain]
    have hplace : (placeOf t directory).isOk = true ↔ _ := isOk_placeOf_iff
    cases hwhere : placeOf t directory with
    | error fault =>
      rw [hwhere] at hplace
      exact .refused fun h => nomatch hplace.mpr h.place
    | ok place =>
      rw [hwhere] at hplace
      have hprogram : (findProgram { t with workDir := place } (words.headD "")
          ((words.drop 1).map octetsOf)).isOk = true ↔ _ := isOk_findProgram_iff
      simp only [runIn]
      cases hfound : findProgram { t with workDir := place } (words.headD "")
          ((words.drop 1).map octetsOf) with
      | error fault =>
        rw [hfound] at hprogram
        exact .refused fun h => nomatch hprogram.mpr h.program
      | ok action =>
        rw [hfound] at hprogram
        exact .ran ⟨hplain, hplace.mp rfl, hprogram.mp rfl⟩ rfl
  · rw [run_launch_of_null (by simpa using hplain)]
    exact .refused fun h => hplain h.plain

end ReleasePackaging.Shell
