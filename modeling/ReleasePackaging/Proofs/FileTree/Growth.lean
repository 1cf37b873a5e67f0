import ReleasePackaging.Proofs.FileTree.Walk

/-!
# Trees that hold more than others

A tree extends another one if it holds everything that the other one holds. What stands at a path of a
tree stands at that path in every tree that extends it; so a path whose end has been removed from a
tree leads to nothing that is left there.
-/
namespace ReleasePackaging.FileTree

variable {t t' t'' : FileTree} {follow : Bool} {links : Nat} {loc target : Location} {text : String}
  {rest : List String}

/-- A tree holds all that another one holds, seen from the same working directory. -/
structure Extends (t t' : FileTree) : Prop where
  workDir : t'.workDir = t.workDir
  keeps : ∀ l node, t.node? l = some node → t'.node? l = some node

namespace Extends

theorem refl (t : FileTree) : Extends t t := ⟨rfl, fun _ _ => id⟩

theorem trans (h : Extends t t') (h' : Extends t' t'') : Extends t t'' :=
  ⟨h'.workDir.trans h.workDir, fun l node hnode => h'.keeps l node (h.keeps l node hnode)⟩

/-- Something is put where nothing stands. -/
theorem put (hnone : t.node? loc = none) (node : Node) : Extends t (t.put loc node) := by
  have hloc : loc ≠ [] := by
    rintro rfl
    cases hnone
  refine ⟨rfl, fun l other hother => ?_⟩
  have hne : l ≠ loc := by
    rintro rfl
    rw [hnone] at hother
    cases hother
  rw [node?_put t hloc, if_neg hne, hother]

theorem erase (t : FileTree) (hloc : loc ≠ []) : Extends (t.erase loc) t := by
  refine ⟨rfl, fun l node hnode => ?_⟩
  rw [node?_erase t hloc] at hnode
  split at hnode
  · cases hnode
  · exact hnode

theorem thin (t : FileTree) (loc : Location) (staying : List Location) :
    Extends (t.thin loc staying) t := by
  refine ⟨rfl, fun l node hnode => ?_⟩
  rw [node?_thin] at hnode
  split at hnode
  · cases hnode
  · exact hnode

end Extends

/-! ## What paths denote -/

/-- Steps from where nothing stands lead nowhere else. -/
theorem Leads.eq_of_none (h : Leads t follow links loc rest target) (hnone : t.node? loc = none) :
    rest = [] ∧ target = loc := by
  cases h with
  | stop => exact ⟨rfl, rfl⟩
  | stay hdir | up hdir | enter hdir | keepLink hdir | followLink hdir =>
    rw [hnone] at hdir
    cases hdir

/-- Steps lead to the same location in a tree that holds more, unless a new link stands there. -/
theorem Leads.of_extends (hext : Extends t t') (h : Leads t follow links loc rest target)
    (hend : ∀ text, t'.node? target = some (.link text) → t.node? target = some (.link text)) :
    Leads t' follow links loc rest target := by
  induction h with
  | stop => exact .stop _ _
  | stay hdir _ ih => exact .stay (hext.keeps _ _ hdir) (ih hend)
  | up hdir _ ih => exact .up (hext.keeps _ _ hdir) (ih hend)
  | @enter links loc target step rest hdir hstep hlink next ih =>
    refine .enter (hext.keeps _ _ hdir) hstep (fun text hnew => ?_) (ih hend)
    cases hnode : t.node? (loc ++ [step]) with
    | some node =>
      have hsame := (hext.keeps _ _ hnode).symm.trans hnew
      exact hlink text (hnode.trans hsame)
    | none =>
      -- Nothing stood there, so the steps end there.
      obtain ⟨-, rfl⟩ := next.eq_of_none hnode
      rw [hnode] at hend
      cases hend text hnew
  | keepLink hdir hstep hlink hfollow =>
    exact .keepLink (hext.keeps _ _ hdir) hstep (hext.keeps _ _ hlink) hfollow
  | followLink hdir hstep hlink htext hfollow _ ih =>
    exact .followLink (hext.keeps _ _ hdir) hstep (hext.keeps _ _ hlink) htext hfollow (ih hend)

theorem Extends.locate (hext : Extends t t') (h : t.locate follow text = .ok target)
    (hend : ∀ text, t'.node? target = some (.link text) → t.node? target = some (.link text)) :
    t'.locate follow text = .ok target := by
  have hleads := (leads_of_locate h).of_extends hext hend
  rw [← hext.workDir] at hleads
  exact locate_of_leads h hleads

/-- What stands at a path stands there in every tree that holds more. -/
theorem Extends.status (hext : Extends t t') {node : Node}
    (h : t.status follow text = .ok (loc, node)) : t'.status follow text = .ok (loc, node) := by
  obtain ⟨hlocate, hnode⟩ := status_eq_ok_iff.mp h
  have hkept := hext.keeps loc node hnode
  refine status_eq_ok_iff.mpr ⟨hext.locate hlocate fun text hlink => ?_, hkept⟩
  rw [hnode, ← hkept, hlink]

/-- Steps that end at no link lead to the same location if links are followed. -/
theorem Leads.following (h : Leads t false links loc rest target)
    (hlink : ∀ text, t.node? target ≠ some (.link text)) : Leads t true links loc rest target := by
  induction h with
  | stop => exact .stop _ _
  | stay hdir _ ih => exact .stay hdir (ih hlink)
  | up hdir _ ih => exact .up hdir (ih hlink)
  | enter hdir hstep hnolink _ ih => exact .enter hdir hstep hnolink (ih hlink)
  | keepLink _ _ hto => exact absurd hto (hlink _)
  | followLink hdir hstep hto htext _ _ ih =>
    exact .followLink hdir hstep hto htext (by simp) (ih hlink)

/-! ## Paths at which nothing stands -/

/-- Nothing stands at a path, links followed or not. -/
def IsVacant (t : FileTree) (text : String) : Prop :=
  ∀ follow loc node, t.status follow text ≠ .ok (loc, node)

theorem isVacant_of_keep (h : ∀ loc node, t.status false text ≠ .ok (loc, node)) :
    IsVacant t text := by
  intro follow loc node hstatus
  cases follow with
  | false => exact h loc node hstatus
  | true =>
    rcases status_keep hstatus with hkeep | ⟨l, other, hkeep⟩
    · exact h loc node hkeep
    · exact h l _ hkeep

/-- What stood at the end of a path has been removed: the path leads to nothing that is left. -/
theorem Extends.isVacant (hext : Extends t' t) (h : t.locate false text = .ok loc)
    (hnone : t'.node? loc = none) : IsVacant t' text := by
  refine isVacant_of_keep fun l node hstatus => ?_
  obtain ⟨hlocate, hnode⟩ := status_eq_ok_iff.mp hstatus
  obtain rfl : l = loc :=
    Except.ok.inj ((status_eq_ok_iff.mp (hext.status hstatus)).1.symm.trans h)
  rw [hnone] at hnode
  cases hnode

theorem isVacant_erase {node : Node} (h : t.status false text = .ok (loc, node)) (hloc : loc ≠ []) :
    IsVacant (t.erase loc) text := by
  refine (Extends.erase t hloc).isVacant (status_eq_ok_iff.mp h).1 ?_
  rw [node?_erase t hloc, if_pos rfl]

end ReleasePackaging.FileTree
