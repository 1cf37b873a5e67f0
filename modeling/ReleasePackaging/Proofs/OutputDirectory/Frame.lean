import ReleasePackaging.OutputDirectory
import ReleasePackaging.Proofs.Action.Run
import ReleasePackaging.Proofs.FileTree.Change
import ReleasePackaging.Proofs.FileTree.Making

/-!
# What resetting an output directory leaves alone

Clearing a path takes away the entry at its end and, where this is a directory, what is in it. Links are
taken away as entries, wherever they lead. Then directories are made on the way to the path. However
resetting ends, and wherever the removal of a directory stops, nothing else changes.
-/
namespace ReleasePackaging

namespace FileTree

variable {t t' : FileTree} {text : String}

/-- A directory that is removed stood at the end of its path, which ends with a name. -/
theorem removeDirectory_ok (h : t.removeDirectory text = .ok t') :
    ∃ loc name, t.status false text = .ok (loc, .directory) ∧
      (stepsOf text).getLast? = some name ∧ name ≠ "." ∧ name ≠ ".." ∧ t' = t.erase loc := by
  obtain ⟨⟨loc, node⟩, hstatus, h⟩ := Result.bind_eq_ok_iff.mp h
  cases node with
  | file | link => cases h
  | directory =>
    simp only at h
    split at h
    · cases h
    · cases h
    · cases h
    · next name hdot hdots hlast =>
      split at h
      · cases h
        refine ⟨loc, name, hstatus, hlast, ?_, ?_, rfl⟩
        · rintro rfl
          exact hdot rfl
        · rintro rfl
          exact hdots rfl
      · cases h

theorem removeDirectory_eq_null_iff :
    t.removeDirectory text = .error .nullCharacter ↔ '\x00' ∈ text.toList := by
  rw [← status_eq_null_iff t false, removeDirectory, Result.bind_eq_error_iff]
  refine or_iff_left ?_
  rintro ⟨⟨loc, node⟩, -, h⟩
  cases node with
  | file | link => cases h
  | directory =>
    simp only at h
    split at h
    · cases h
    · cases h
    · cases h
    · split at h <;> cases h

end FileTree

namespace OutputDirectory

open FileTree (Extends IsVacant IsGrown Making AddsDirectories)

variable {t t' : FileTree} {p : Path} {loc l : Location} {node : Node}
  {outcome : Except AccessFault Unit × FileTree}

/-! ## Clearing a path -/

/-- How clearing a path ends. It is refused; or nothing stands at the path; or the file or link that
stands there is taken away; or the directory there stays, with all that is in it or with some of it or
empty; or it is taken away. -/
inductive Clearing (t : FileTree) (p : Path) : Except AccessFault Unit × FileTree → Prop where
  | refused {fault : AccessFault}
      (h : fault ≠ .nullCharacter ∧ '\x00' ∉ p.toString.toList) : Clearing t p (.error fault, t)
  | vacant (h : IsVacant t p.toString) : Clearing t p (.ok (), t)
  | unlinked {loc : Location} {node : Node} (hstatus : t.status false p.toString = .ok (loc, node))
      (hnode : node ≠ .directory) : Clearing t p (.ok (), t.erase loc)
  | halted {loc : Location} {fault : AccessFault} (staying : List Location)
      (hstatus : t.status false p.toString = .ok (loc, .directory)) (h : fault ≠ .nullCharacter) :
      Clearing t p (.error fault, t.thin loc staying)
  | removed {loc : Location} (hstatus : t.status false p.toString = .ok (loc, .directory))
      (hroot : loc ≠ []) : Clearing t p (.ok (), (t.eraseBelow loc).erase loc)

/-- Removing the directory at a path with all that is in it. -/
theorem clearing_removeTree (remover : TreeAction.Remover)
    (hstatus : t.status false p.toString = .ok (loc, .directory)) :
    Clearing t p ((TreeAction.removeTree remover p.toString).run.run t) := by
  unfold TreeAction.removeTree
  simp only [Action.run_bind, TreeAction.run_query, hstatus]
  cases remover loc with
  | some halt => exact .halted halt.1 hstatus nofun
  | none =>
    simp only [Action.run_bind, TreeAction.run_change]
    cases hremove : (t.eraseBelow loc).removeDirectory p.toString with
    | error fault =>
      refine .halted [] hstatus ?_
      rintro rfl
      exact FileTree.null_not_mem_of_status hstatus
        (FileTree.removeDirectory_eq_null_iff.mp hremove)
    | ok t' =>
      obtain ⟨again, name, hagain, hlast, hdot, hdots, rfl⟩ := FileTree.removeDirectory_ok hremove
      have hkept := (Extends.thin t loc []).status hagain
      obtain ⟨rfl, -⟩ : again = loc ∧ _ := Prod.mk.inj (Except.ok.inj (hkept.symm.trans hstatus))
      refine .removed hstatus ?_
      rcases (FileTree.leads_of_locate (FileTree.status_eq_ok_iff.mp hstatus).1).last
        (FileTree.stepsOf_toString_ne_nil p) with ⟨hup, -⟩ | ⟨dir, step, -, -, rfl, -⟩
      · rw [hlast] at hup
        simp [hdot, hdots] at hup
      · simp

/-- Unlinking what stands at a path. -/
theorem clearing_unlink (hplain : '\x00' ∉ p.toString.toList) :
    Clearing t p ((TreeAction.change fun t => t.unlink p.toString).run.run t) := by
  rw [TreeAction.run_change, FileTree.unlink]
  cases hstatus : t.status false p.toString with
  | error fault =>
    refine .refused ⟨?_, hplain⟩
    rintro rfl
    exact hplain ((FileTree.status_eq_null_iff t false).mp hstatus)
  | ok found =>
    obtain ⟨loc, node⟩ := found
    cases node with
    | directory => exact .refused ⟨by simp, hplain⟩
    | file | link => exact .unlinked hstatus (by simp)

/-- A path at which neither a thing nor a link is found is vacant. -/
theorem isVacant_of_absent (hpresent : t.exists? p = .ok false) (hlink : t.isLink p = .ok false) :
    IsVacant t p.toString := by
  refine FileTree.isVacant_of_keep fun loc node hstatus => ?_
  have hnolink := FileTree.eq_false_of_ask hlink hstatus
  obtain ⟨hlocate, hnode⟩ := FileTree.status_eq_ok_iff.mp hstatus
  have hfollowed := (FileTree.leads_of_locate hlocate).following fun text heq => by
    rw [Option.some.inj (hnode.symm.trans heq)] at hnolink
    cases hnolink
  have hfound := FileTree.status_eq_ok_iff.mpr
    ⟨FileTree.locate_of_leads hlocate hfollowed, hnode⟩
  cases FileTree.eq_false_of_ask hpresent hfound

theorem null_not_mem_of_ask {follow : Bool} {question : Node → Bool}
    (h : t.ask follow question p = .ok true) : '\x00' ∉ p.toString.toList := by
  obtain ⟨loc, node, hstatus, -⟩ := FileTree.ask_eq_true_iff.mp h
  exact FileTree.null_not_mem_of_status hstatus

theorem clearing (remover : TreeAction.Remover) (t : FileTree) (p : Path) :
    Clearing t p ((clear remover p).run.run t) := by
  -- What happens unless a directory that is no link is found.
  have hentry : Clearing t p ((do
      let present ← TreeAction.query fun t => t.exists? p
      let isLink ← if present then pure true else TreeAction.query fun t => t.isLink p
      if isLink then TreeAction.change fun t => t.unlink p.toString :
        TreeAction AccessFault Unit).run.run t) := by
    simp only [Action.run_bind, TreeAction.run_query]
    cases hpresent : t.exists? p with
    | error fault => exact .refused (FileTree.plain_of_ask hpresent)
    | ok present =>
      cases present with
      | true => exact clearing_unlink (null_not_mem_of_ask hpresent)
      | false =>
        simp only [Bool.false_eq_true, if_false]
        rw [Action.run_bind, TreeAction.run_query]
        cases hlink : t.isLink p with
        | error fault => exact .refused (FileTree.plain_of_ask hlink)
        | ok isLink =>
          cases isLink with
          | true => exact clearing_unlink (null_not_mem_of_ask hlink)
          | false => exact .vacant (isVacant_of_absent hpresent hlink)
  unfold clear
  rw [Action.run_bind, TreeAction.run_query]
  cases hdirectory : t.isDirectory p with
  | error fault => exact .refused (FileTree.plain_of_ask hdirectory)
  | ok isDirectory =>
    cases isDirectory with
    | false => exact hentry
    | true =>
      simp only [if_true]
      rw [Action.run_bind, TreeAction.run_query]
      cases hlink : t.isLink p with
      | error fault => exact .refused (FileTree.plain_of_ask hlink)
      | ok isLink =>
        cases isLink with
        | true => exact hentry
        | false =>
          obtain ⟨loc, hstatus⟩ := FileTree.isDirectory_eq_true_iff.mp hdirectory
          have hnolink : t.isLink p ≠ .ok true := by simp [hlink]
          exact clearing_removeTree remover (FileTree.status_of_not_link hnolink hstatus)

/-- What resetting may take away at a path: the entry at its end and, if this is a directory, what is
below it. -/
def IsCleared (t : FileTree) (p : Path) (l : Location) : Prop :=
  ∃ loc node, t.status false p.toString = .ok (loc, node) ∧
    (l = loc ∨ node = .directory ∧ loc <+: l)

theorem Clearing.extends (h : Clearing t p outcome) : Extends outcome.2 t := by
  cases h with
  | refused | vacant => exact .refl t
  | unlinked hstatus hnode => exact .erase t (FileTree.ne_root_of_status hstatus hnode)
  | halted staying => exact .thin t _ staying
  | removed _ hroot => exact (Extends.erase _ hroot).trans (.thin t _ [])

theorem Clearing.keeps (h : Clearing t p outcome) (hnode : t.node? l = some node)
    (hkept : ¬IsCleared t p l) : outcome.2.node? l = some node := by
  have hne {loc : Location} {node : Node} (hstatus : t.status false p.toString = .ok (loc, node)) :
      l ≠ loc := fun heq => hkept ⟨loc, node, hstatus, .inl heq⟩
  have hbelow {loc : Location} (hstatus : t.status false p.toString = .ok (loc, .directory))
      (staying : List Location) : (t.thin loc staying).node? l = some node := by
    rw [FileTree.node?_thin, if_neg, hnode]
    exact fun hl => hkept ⟨loc, .directory, hstatus, .inr ⟨rfl, hl.1.1⟩⟩
  cases h with
  | refused | vacant => exact hnode
  | unlinked hstatus hother =>
    rw [FileTree.node?_erase t (FileTree.ne_root_of_status hstatus hother), if_neg (hne hstatus), hnode]
  | halted staying hstatus => exact hbelow hstatus staying
  | removed hstatus hroot =>
    rw [FileTree.node?_erase _ hroot, if_neg (hne hstatus)]
    exact hbelow hstatus []

/-! ## Resetting -/

theorem run_renew (remover : TreeAction.Remover) (p : Path) (t : FileTree) :
    (renew remover p).run.run t =
      match (clear remover p).run.run t with
      | (.ok (), t₁) => (TreeAction.makeDirectories p.components.length p).run.run t₁
      | (.error fault, t₁) => (.error fault, t₁) := by
  rw [renew, Action.run_bind]
  cases (clear remover p).run.run t with
  | mk result t₁ => cases result <;> rfl

theorem run_reset (remover : TreeAction.Remover) (p : Path) (t : FileTree) :
    (reset remover p).run.run t =
      match (renew remover p).run.run t with
      | (.ok (), t') => (.ok p, t')
      | (.error fault, t') => (.error (resetFault p fault), t') := by
  rw [reset, Action.run_bind, Action.run_adapt]
  cases (renew remover p).run.run t with
  | mk result t' => cases result <;> rfl

/-- What resetting does to a tree: it clears the path, and adds directories on the way to it. -/
theorem exists_cleared (remover : TreeAction.Remover) (t : FileTree) (p : Path) :
    ∃ cleared, Clearing t p cleared ∧
      AddsDirectories p cleared.2 ((reset remover p).run.run t).2 := by
  refine ⟨_, clearing remover t p, ?_⟩
  have hsame : ((reset remover p).run.run t).2 = ((renew remover p).run.run t).2 := by
    rw [run_reset]
    cases (renew remover p).run.run t with
    | mk result t' => cases result <;> rfl
  rw [hsame, run_renew]
  cases (clear remover p).run.run t with
  | mk result t₁ =>
    cases result with
    | error fault => exact .refl p t₁
    | ok => exact (FileTree.making t₁ (Nat.le_refl p.components.length)).adds

/-- What resetting the directory at a path leaves alone, from one tree to another. -/
structure ResetFrame (t : FileTree) (p : Path) (t' : FileTree) : Prop where
  workDir : t'.workDir = t.workDir
  kept : ∀ l node, t.node? l = some node → ¬IsCleared t p l → t'.node? l = some node
  linkAlone : ∀ loc target, t.status false p.toString = .ok (loc, .link target) →
    ∀ l node, l ≠ loc → t.node? l = some node → t'.node? l = some node
  added : ∀ l node, t'.node? l = some node → t.node? l = some node ∨
    node = .directory ∧ ∃ q : Path, q.IsOnWayTo p ∧ t'.status true q.toString = .ok (l, .directory)

/-- However resetting ends, it takes away at most the entry at the end of the path and, if this is a
directory, what is below it. If this is a link, the link alone goes and what it leads to stays. Whatever
is new is a directory that the path or a path on the way to it denotes. -/
theorem reset_frame (remover : TreeAction.Remover) (t : FileTree) (p : Path) :
    ResetFrame t p ((reset remover p).run.run t).2 := by
  obtain ⟨cleared, hcleared, hadds⟩ := exists_cleared remover t p
  have hkept (l : Location) (node : Node) (hnode : t.node? l = some node)
      (hl : ¬IsCleared t p l) : ((reset remover p).run.run t).2.node? l = some node :=
    hadds.keeps l node (hcleared.keeps hnode hl)
  refine ⟨hadds.workDir.trans hcleared.extends.workDir.symm, hkept,
    fun loc target hlink l node hl hnode => hkept l node hnode ?_, fun l node hnode => ?_⟩
  · rintro ⟨place, other, hstatus, hcase⟩
    obtain ⟨rfl, rfl⟩ := Prod.mk.inj (Except.ok.inj (hstatus.symm.trans hlink))
    rcases hcase with heq | ⟨hdir, -⟩
    · exact hl heq
    · cases hdir
  · exact (hadds.added l node hnode).imp (hcleared.extends.keeps l node) id

end OutputDirectory

end ReleasePackaging
