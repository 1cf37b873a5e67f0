import ReleasePackaging.Proofs.OutputDirectory.Frame
import ReleasePackaging.Proofs.Release.PrefixLaw

/-!
# An output directory made anew

Where resetting an output directory ends well, its path denotes a directory. The directory is new and
empty, and resetting it once more changes nothing, unless the path takes a step upwards from where no
directory was: then directories on the way are made, and by them the path may lead to something that was
out of its reach when it was cleared.
-/
namespace ReleasePackaging.OutputDirectory

open FileTree (Extends IsVacant IsGrown IsJustMade Making)
open Release (IsEmptyDirectory)

variable {t t' : FileTree} {p : Path} {loc dir : Location}
  {outcome : Except AccessFault Unit × FileTree} {remover : TreeAction.Remover}

/-! ## After clearing -/

/-- Nothing stands at a path that has been cleared. -/
theorem Clearing.isVacant (h : Clearing t p (.ok (), t')) : IsVacant t' p.toString := by
  have hextends := h.extends
  cases h with
  | vacant hvacant => exact hvacant
  | unlinked hstatus hnode =>
    exact FileTree.isVacant_erase hstatus (FileTree.ne_root_of_status hstatus hnode)
  | removed hstatus hroot =>
    refine hextends.isVacant (FileTree.status_eq_ok_iff.mp hstatus).1 ?_
    rw [FileTree.node?_erase _ hroot, if_pos rfl]

theorem Clearing.isGrown (h : Clearing t p outcome) (hgrown : t.IsGrown) : outcome.2.IsGrown := by
  cases h with
  | refused | vacant => exact hgrown
  | unlinked hstatus hnode =>
    refine hgrown.erase (FileTree.ne_root_of_status hstatus hnode) (hgrown.node?_below ?_)
    rw [(FileTree.status_eq_ok_iff.mp hstatus).2]
    simpa using hnode
  | halted staying => exact hgrown.thin _ staying
  | removed _ hroot =>
    refine (hgrown.thin _ []).erase hroot fun l hbelow hne => ?_
    exact (FileTree.node?_eraseBelow t _ l).trans (if_pos ⟨hbelow, hne⟩)

/-- Clearing a path is never refused as no path. -/
theorem Clearing.plain {fault : AccessFault} (h : Clearing t p (.error fault, t')) :
    fault ≠ .nullCharacter ∧ '\x00' ∉ p.toString.toList := by
  cases h with
  | refused h => exact h
  | halted _ hstatus h => exact ⟨h, FileTree.null_not_mem_of_status hstatus⟩

/-- Nothing is cleared at a text that is no path. -/
theorem Clearing.eq_of_null (h : Clearing t p outcome) (hnull : '\x00' ∈ p.toString.toList) :
    outcome = (.ok (), t) := by
  cases h with
  | refused h => exact absurd hnull h.2
  | vacant => rfl
  | unlinked hstatus | halted _ hstatus | removed hstatus =>
    exact absurd hnull (FileTree.null_not_mem_of_status hstatus)

/-! ## Runs in known cases -/

theorem makeDirectories_of_ok (depth : Nat) (h : t.makeDirectory p.toString = .ok t') :
    (TreeAction.makeDirectories depth p).run.run t = (.ok (), t') := by
  change TreeAction.makeDirectories depth p t = _
  cases depth <;> rw [TreeAction.makeDirectories, h]

/-- A directory that is found once the directories on the way are made is accepted. -/
theorem makeDirectories_of_found {depth : Nat} {text : String} (hname : p.parent ≠ p)
    (hmissing : t.makeDirectory p.toString = .error (.system .noEntry text))
    (hparent : (TreeAction.makeDirectories depth p.parent).run.run t = (.ok (), t'))
    (hfound : ∀ follow, t'.status follow p.toString = .ok (loc, .directory)) :
    (TreeAction.makeDirectories (depth + 1) p).run.run t = (.ok (), t') := by
  obtain ⟨hlocate, hnode⟩ := FileTree.status_eq_ok_iff.mp (hfound false)
  have hexists : t'.makeDirectory p.toString = .error (.system .exists p.toString) := by
    rw [FileTree.makeDirectory, hlocate, Result.ok_bind, hnode]
  have hdirectory : t'.isDirectory p = .ok true :=
    FileTree.isDirectory_eq_true_iff.mpr ⟨loc, hfound true⟩
  change TreeAction.makeDirectories depth p.parent t = _ at hparent
  change TreeAction.makeDirectories (depth + 1) p t = _
  rw [TreeAction.makeDirectories, hmissing]
  simp only [hname, if_false, hparent, hexists, hdirectory]

theorem removeDirectory_eq_ok {text name : String}
    (hstatus : t.status false text = .ok (loc, .directory))
    (hlast : (FileTree.stepsOf text).getLast? = some name) (hname : FileTree.IsEntry name)
    (hempty : t.below loc = []) : t.removeDirectory text = .ok (t.erase loc) := by
  unfold FileTree.removeDirectory
  rw [hstatus, Result.ok_bind]
  simp only [hlast, hempty, List.isEmpty_nil, if_true]
  split
  · next hdot => exact absurd (Option.some.inj hdot) hname.ne_dot
  · next hdots => exact absurd (Option.some.inj hdots) hname.ne_dots
  · next hnone => cases hnone
  · rfl

/-- Nothing is cleared where nothing is found. -/
theorem clear_of_absent {fault : AccessFault} (habsent : fault.meansAbsent = true)
    (h : ∀ follow, t.status follow p.toString = .error fault) :
    (clear remover p).run.run t = (.ok (), t) := by
  have hno (follow : Bool) (question : Node → Bool) : t.ask follow question p = .ok false := by
    rw [FileTree.ask, h follow]
    exact if_pos habsent
  have hdirectory : t.isDirectory p = .ok false := hno true _
  have hpresent : t.exists? p = .ok false := hno true _
  have hlink : t.isLink p = .ok false := hno false _
  unfold clear
  rw [Action.run_bind, TreeAction.run_query, hdirectory]
  simp only [Bool.false_eq_true, if_false, Bool.false_and, pure_bind]
  rw [Action.run_bind, TreeAction.run_query, hpresent]
  simp only [Bool.false_eq_true, if_false]
  rw [Action.run_bind, TreeAction.run_query, hlink]
  rfl

/-- An empty directory at a path that ends with a name is taken away. -/
theorem clear_of_empty {name : String} (hfree : remover loc = none)
    (hstands : ∀ follow, t.status follow p.toString = .ok (loc, .directory))
    (hempty : ∀ l, loc <+: l → l ≠ loc → t.node? l = none)
    (hlast : (FileTree.stepsOf p.toString).getLast? = some name) (hname : FileTree.IsEntry name) :
    (clear remover p).run.run t = (.ok (), (t.eraseBelow loc).erase loc) := by
  have hdirectory : t.isDirectory p = .ok true :=
    FileTree.isDirectory_eq_true_iff.mpr ⟨loc, hstands true⟩
  have hlink : t.isLink p = .ok false := by rw [FileTree.isLink, FileTree.ask, hstands false]
  have hkept : Extends t (t.eraseBelow loc) := by
    refine ⟨rfl, fun l node hnode => ?_⟩
    rw [FileTree.node?_eraseBelow, if_neg, hnode]
    rintro ⟨hunder, hne⟩
    rw [hempty l hunder hne] at hnode
    cases hnode
  have hbelow : (t.eraseBelow loc).below loc = [] := by
    simp [FileTree.below, FileTree.eraseBelow, FileTree.thin]
  have hremove := removeDirectory_eq_ok (hkept.status (hstands false)) hlast hname hbelow
  unfold clear
  rw [Action.run_bind, TreeAction.run_query, hdirectory]
  simp only [if_true]
  rw [Action.run_bind, TreeAction.run_query, hlink]
  simp only [TreeAction.removeTree, Bool.not_false, Bool.and_self, if_true, Action.run_bind,
    TreeAction.run_query, hstands false, hfree, TreeAction.run_change, hremove]

/-! ## Resetting once more -/

/-- With a directory taken away again that has been put where nothing was, a tree holds what it held
before. -/
theorem node?_erase_put (hloc : loc ≠ []) (hnone : t.node? loc = none)
    (hbelow : ∀ l, loc <+: l → l ≠ loc → t.node? l = none) (l : Location) :
    (((t.put loc .directory).eraseBelow loc).erase loc).node? l = t.node? l := by
  rw [FileTree.node?_erase _ hloc, FileTree.node?_eraseBelow, FileTree.node?_put _ hloc]
  by_cases hl : l = loc
  · rw [if_pos hl, hl, hnone]
  · rw [if_neg hl, if_neg hl]
    split
    · next hunder => exact (hbelow l hunder.1 hl).symm
    · rfl

/-- A directory that has just been made can be reset once more, which changes nothing, if nothing keeps
it from being removed. -/
theorem reset_of_isJustMade (h : IsJustMade p t)
    (hdir : t.status false p.toString = .ok (dir, .directory)) (hfree : remover dir = none) :
    ∃ t', (reset remover p).run.run t = (.ok p, t') ∧ ∀ l, t'.node? l = t.node? l := by
  obtain ⟨before, hgrown, hmade⟩ := h
  obtain ⟨loc, hlocate, hnone, rfl⟩ := FileTree.makeDirectory_eq_ok_iff.mp hmade
  have hloc : loc ≠ [] := by
    rintro rfl
    cases hnone
  have hbelow : ∀ l, loc <+: l → l ≠ loc → before.node? l = none :=
    hgrown.node?_below (by simp [hnone])
  obtain ⟨name, hlast, hname⟩ : ∃ name, (FileTree.stepsOf p.toString).getLast? = some name ∧
      FileTree.IsEntry name := by
    rcases (FileTree.leads_of_locate hlocate).last (FileTree.stepsOf_toString_ne_nil p) with
      ⟨-, hdirectory⟩ | ⟨dir, name, hlast, hname, -, -⟩
    · rw [hdirectory hgrown] at hnone
      cases hnone
    · exact ⟨name, hlast, hname⟩
  have hempty : ∀ l, loc <+: l → l ≠ loc → (before.put loc .directory).node? l = none := by
    intro l hunder hne
    rw [FileTree.node?_put _ hloc, if_neg hne, hbelow l hunder hne]
  have hstands := FileTree.status_put_directory hlocate hnone
  obtain rfl : loc = dir := congrArg Prod.fst (Except.ok.inj ((hstands false).symm.trans hdir))
  have hclear := clear_of_empty hfree hstands hempty hlast hname
  have hnodes := node?_erase_put hloc hnone hbelow
  generalize hcleared : ((before.put loc .directory).eraseBelow loc).erase loc = cleared at hclear hnodes
  have hsame : Extends before cleared :=
    ⟨by rw [← hcleared]; rfl, fun l node hnode => (hnodes l).trans hnode⟩
  have hagain : cleared.makeDirectory p.toString = .ok (cleared.put loc .directory) := by
    refine FileTree.makeDirectory_eq_ok_iff.mpr ⟨loc, hsame.locate hlocate ?_, ?_, rfl⟩
    · exact fun text hlink => (hnodes loc).symm.trans hlink
    · rw [hnodes, hnone]
  refine ⟨cleared.put loc .directory, ?_, fun l => ?_⟩
  · rw [run_reset, run_renew, hclear]
    simp only [makeDirectories_of_ok _ hagain]
  · rw [FileTree.node?_put _ hloc, FileTree.node?_put _ hloc, hnodes]

/-! ## How resetting ends -/

/-- How resetting the directory at a path ends. The directory is renewed: it is empty and no link stands
at its path, and resetting it once more changes nothing if nothing keeps it from being removed. Or, for a
path with a step upwards whose parent denoted no directory when the path had been cleared, a directory is
found there. Or resetting fails, with the path in its failure, as clearing the path does or making the
directory after those that are missing on the way. Or the text is no path. -/
inductive ResetEnd (remover : TreeAction.Remover) (t : FileTree) (p : Path) :
    Except Fault Path × FileTree → Prop where
  | renewed {t' : FileTree} {dir : Location}
      (hstands : ∀ follow, t'.status follow p.toString = .ok (dir, .directory))
      (hempty : IsEmptyDirectory t' dir)
      (hagain : ∀ later : TreeAction.Remover, later dir = none →
        ∃ t'', (reset later p).run.run t' = (.ok p, t'') ∧ ∀ l, t''.node? l = t'.node? l) :
      ResetEnd remover t p (.ok p, t')
  | found {t' : FileTree} {dir : Location} (hup : ".." ∈ p.components)
      (hparent : ∀ dir,
        ((clear remover p).run.run t).2.status true p.parent.toString ≠ .ok (dir, .directory))
      (hstands : t'.status true p.toString = .ok (dir, .directory)) : ResetEnd remover t p (.ok p, t')
  | failed {t' : FileTree} {cause : AccessCause} {text : String}
      (hplain : '\x00' ∉ p.toString.toList)
      (hcause : ∀ cleared, (clear remover p).run.run t = (.ok (), cleared) →
        Making cleared p (.error (.system cause text), t')) :
      ResetEnd remover t p
        (.error (.failure (.outputDirectory
          s!"Cannot reset output directory {p}: {(AccessFault.system cause text).message}" p)), t')
  | noPath (hnull : '\x00' ∈ p.toString.toList) :
      ResetEnd remover t p (.error (.access .nullCharacter), t)

theorem ResetEnd.of_fault {fault : AccessFault}
    (h : fault ≠ .nullCharacter ∧ '\x00' ∉ p.toString.toList)
    (hcause : ∀ cleared, (clear remover p).run.run t = (.ok (), cleared) → Making cleared p (.error fault, t')) :
    ResetEnd remover t p (.error (resetFault p fault), t') := by
  cases fault with
  | nullCharacter => exact absurd rfl h.1
  | system cause text => exact .failed h.2 hcause

/-- Resetting the directory at a path ends with the directory renewed, or with a failure, unless the
path holds the null character or leads upwards out of what is missing. -/
theorem reset_end (remover : TreeAction.Remover) (hgrown : t.IsGrown) (p : Path) :
    ResetEnd remover t p ((reset remover p).run.run t) := by
  rw [run_reset, run_renew]
  have hclearing := clearing remover t p
  generalize hclear : (clear remover p).run.run t = outcome at hclearing
  obtain ⟨cleared, t₁⟩ := outcome
  cases cleared with
  | error fault =>
    refine .of_fault hclearing.plain fun cleared hrun => ?_
    rw [hclear] at hrun
    cases hrun
  | ok =>
    have hmaking := FileTree.making t₁ (Nat.le_refl p.components.length)
    simp only
    generalize (TreeAction.makeDirectories p.components.length p).run.run t₁ = outcome at hmaking
    obtain ⟨made, t'⟩ := outcome
    cases made with
    | error fault =>
      by_cases hnull : '\x00' ∈ p.toString.toList
      · obtain ⟨-, rfl⟩ := Prod.mk.inj (hclearing.eq_of_null hnull)
        obtain rfl := hmaking.null_iff.mpr hnull
        obtain rfl := hmaking.eq_of_null hnull
        exact .noPath hnull
      · refine .of_fault ⟨hmaking.null_iff.not.mpr hnull, hnull⟩ fun cleared hrun => ?_
        obtain ⟨-, rfl⟩ := Prod.mk.inj (hclear.symm.trans hrun)
        exact hmaking
    | ok =>
      rcases hmaking.cases_ok (hclearing.isGrown hgrown) hclearing.isVacant with
        hmade | ⟨hup, hparent, dir, hstands⟩
      · obtain ⟨dir, hstands, hempty⟩ := hmade.exists_empty
        have hdir := (FileTree.status_eq_ok_iff.mp (hstands true)).2
        exact .renewed hstands ⟨hdir, hempty⟩ fun later => reset_of_isJustMade hmade (hstands false)
      · refine .found hup ?_ hstands
        rw [hclear]
        exact hparent

def oldOutput : FileTree where
  nodes := [(["b"], .directory), (["b", "old"], .file 0 ⟨#[]⟩)]
  workDir := []
  nextNumber := 1

def detour : Path := .ofString "a/../b"

theorem reset_end_oldOutput :
    oldOutput.IsGrown ∧ ResetEnd TreeAction.freeRemover oldOutput detour
      ((reset TreeAction.freeRemover detour).run.run oldOutput) :=
  have hgrown := IsGrown.of_nodes (by decide)
  ⟨hgrown, reset_end TreeAction.freeRemover hgrown detour⟩

theorem stepsOf_detour :
    FileTree.stepsOf "a/.." = ["a", ".."] ∧ FileTree.stepsOf "a/../b" = ["a", "..", "b"] := by
  decide

theorem locate_oldOutput (follow : Bool) :
    oldOutput.locate follow "a" = .ok ["a"] ∧
      oldOutput.locate follow "a/.." = .error (.system .noEntry "a/..") ∧
      oldOutput.locate follow "a/../b" = .error (.system .noEntry "a/../b") := by
  have hname : FileTree.IsEntry "a" := ⟨by decide, by decide, by decide⟩
  have hwalk (steps : List String) :
      oldOutput.walk follow FileTree.linkLimit [] ("a" :: ".." :: steps) = .error .noEntry := by
    rw [FileTree.walk_enter rfl hname fun _ heq => (by cases heq), FileTree.walk_missing rfl]
  refine ⟨FileTree.locate_entry rfl hname (by decide) (by decide) fun _ heq => (by cases heq), ?_, ?_⟩
  · rw [FileTree.locate_eq_walk rfl stepsOf_detour.1 (by decide) (by decide), hwalk []]
  · rw [FileTree.locate_eq_walk rfl stepsOf_detour.2 (by decide) (by decide), hwalk ["b"]]

/-- With the directory `a` made, the path leads to what stood there before. -/
theorem status_oldOutput_put (follow : Bool) :
    (oldOutput.put ["a"] .directory).status follow "a/.." = .ok ([], .directory) ∧
      (oldOutput.put ["a"] .directory).status follow "a/../b" = .ok (["b"], .directory) := by
  have hfirst : FileTree.IsEntry "a" := ⟨by decide, by decide, by decide⟩
  have hlast : FileTree.IsEntry "b" := ⟨by decide, by decide, by decide⟩
  have hwalk (steps : List String) :
      (oldOutput.put ["a"] .directory).walk follow FileTree.linkLimit [] ("a" :: ".." :: steps) =
        (oldOutput.put ["a"] .directory).walk follow FileTree.linkLimit [] steps := by
    rw [FileTree.walk_enter rfl hfirst fun _ heq => (by cases heq), FileTree.walk_up rfl]
    rfl
  constructor <;> rw [FileTree.status_eq_ok_iff]
  · rw [FileTree.locate_eq_walk rfl stepsOf_detour.1 (by decide) (by decide), hwalk [],
      FileTree.walk_nil]
    exact ⟨rfl, rfl⟩
  · rw [FileTree.locate_eq_walk rfl stepsOf_detour.2 (by decide) (by decide), hwalk ["b"],
      FileTree.walk_enter rfl hlast fun _ heq => (by cases heq), FileTree.walk_nil]
    exact ⟨rfl, rfl⟩

/-- A reset by way of a directory that is missing ends well and leaves an old file where it is. -/
theorem reset_keepsOldEntry :
    ∃ t', (reset TreeAction.freeRemover detour).run.run oldOutput = (.ok detour, t') ∧
      t'.status true detour.toString = .ok (["b"], .directory) ∧
      t'.node? ["b", "old"] = some (.file 0 ⟨#[]⟩) := by
  have hpath : detour.toString = "a/../b" := by decide
  have hparent : detour.parent.toString = "a/.." := by decide
  have hfirst : detour.parent.parent.toString = "a" := by decide
  have hclear : (clear TreeAction.freeRemover detour).run.run oldOutput = (.ok (), oldOutput) := by
    have habsent : (AccessFault.system .noEntry "a/../b").meansAbsent = true := rfl
    refine clear_of_absent habsent fun follow => ?_
    rw [hpath, FileTree.status, (locate_oldOutput follow).2.2]
    rfl
  have hmissing : oldOutput.makeDirectory detour.toString =
      .error (.system .noEntry "a/../b") := by
    rw [hpath, FileTree.makeDirectory, (locate_oldOutput false).2.2]
    rfl
  have hmissingUp : oldOutput.makeDirectory detour.parent.toString =
      .error (.system .noEntry "a/..") := by
    rw [hparent, FileTree.makeDirectory, (locate_oldOutput false).2.1]
    rfl
  have hmade : oldOutput.makeDirectory detour.parent.parent.toString =
      .ok (oldOutput.put ["a"] .directory) := by
    rw [hfirst]
    exact FileTree.makeDirectory_eq_ok_iff.mpr ⟨["a"], (locate_oldOutput false).1, rfl, rfl⟩
  have hup : (TreeAction.makeDirectories 2 detour.parent).run.run oldOutput =
      (.ok (), oldOutput.put ["a"] .directory) :=
    makeDirectories_of_found (by decide) hmissingUp (makeDirectories_of_ok 1 hmade)
      fun follow => hparent ▸ (status_oldOutput_put follow).1
  have hdirectories : (TreeAction.makeDirectories 3 detour).run.run oldOutput =
      (.ok (), oldOutput.put ["a"] .directory) :=
    makeDirectories_of_found (by decide) hmissing hup
      fun follow => hpath ▸ (status_oldOutput_put follow).2
  have hdepth : detour.components.length = 3 := by decide
  refine ⟨oldOutput.put ["a"] .directory, ?_, ?_, rfl⟩
  · rw [run_reset, run_renew, hclear, hdepth]
    simp only [hdirectories]
  · rw [hpath, (status_oldOutput_put true).2]

end ReleasePackaging.OutputDirectory
