import ReleasePackaging.Proofs.FileTree.Change

/-!
# Changes beside a directory

A change beside a directory leaves everything at or below it alone. Files that are kept open can be
written wherever they stand, so for such a change it also counts which numbers the files inside and
outside the directory have.
-/
namespace ReleasePackaging.FileTree

variable {t t' t'' : FileTree} {dir loc : Location} {number : Nat}

def IsNumbered (dir : Location) (t : FileTree) : Prop :=
  ∀ l number content, dir <+: l → t.node? l = some (.file number content) → number < t.nextNumber

/-- A number that has been given out to no file at or below a location. -/
structure IsApart (dir : Location) (number : Nat) (t : FileTree) : Prop where
  used : number < t.nextNumber
  absent : ∀ l content, dir <+: l → t.node? l ≠ some (.file number content)

/-- A tree after changes of files that give no number from inside a directory to a file outside it, or
the other way. -/
structure Later (dir : Location) (t t' : FileTree) : Prop where
  frame : SameFrame t t'
  numbered : IsNumbered dir t → IsNumbered dir t'
  apart : ∀ number, IsApart dir number t → IsApart dir number t'
  outside : ∀ l number content, ¬ dir <+: l → t'.node? l = some (.file number content) →
    IsApart dir number t' ∨ ∃ old, t.node? l = some (.file number old)

/-- A tree after changes of files beside a directory. -/
structure Beside (dir : Location) (t t' : FileTree) : Prop extends Later dir t t' where
  within : ∀ l, dir <+: l → t'.node? l = t.node? l

theorem Later.refl (dir : Location) (t : FileTree) : Later dir t t :=
  ⟨.refl t, id, fun _ => id, fun _ _ content _ h => .inr ⟨content, h⟩⟩

theorem Later.trans (h : Later dir t t') (h' : Later dir t' t'') : Later dir t t'' := by
  refine ⟨h.frame.trans h'.frame, fun hn => h'.numbered (h.numbered hn),
    fun n hn => h'.apart n (h.apart n hn), fun l number content hl hfile => ?_⟩
  rcases h'.outside l number content hl hfile with hapart | ⟨old, hold⟩
  · exact .inl hapart
  · rcases h.outside l number old hl hold with hapart | hkept
    · exact .inl (h'.apart number hapart)
    · exact .inr hkept

theorem Beside.refl (dir : Location) (t : FileTree) : Beside dir t t :=
  ⟨.refl dir t, fun _ _ => rfl⟩

theorem Beside.trans (h : Beside dir t t') (h' : Beside dir t' t'') : Beside dir t t'' :=
  ⟨h.toLater.trans h'.toLater, fun l hl => (h'.within l hl).trans (h.within l hl)⟩

/-- What follows from the frame and the numbers for a change that leaves a directory alone. -/
theorem Beside.of_within (hframe : SameFrame t t') (hnext : t.nextNumber ≤ t'.nextNumber)
    (hwithin : ∀ l, dir <+: l → t'.node? l = t.node? l)
    (houtside : ∀ l number content, ¬ dir <+: l → t'.node? l = some (.file number content) →
      IsApart dir number t' ∨ ∃ old, t.node? l = some (.file number old)) : Beside dir t t' := by
  refine ⟨⟨hframe, fun hn l number content hl hfile => ?_, fun number hn => ⟨?_, ?_⟩, houtside⟩,
    hwithin⟩
  · rw [hwithin l hl] at hfile
    exact Nat.lt_of_lt_of_le (hn l number content hl hfile) hnext
  · exact Nat.lt_of_lt_of_le hn.used hnext
  · intro l content hl
    rw [hwithin l hl]
    exact hn.absent l content hl

/-- A changed file outside a directory is a change beside it. -/
theorem ChangesFile.beside (h : ChangesFile loc t t') (hbefore : t.fixed? loc = none)
    (hloc : ¬ dir <+: loc) (hnumbered : IsNumbered dir t) : Beside dir t t' := by
  have hwithin (l : Location) (hl : dir <+: l) : t'.node? l = t.node? l :=
    h.elsewhere l fun heq => hloc (heq ▸ hl)
  refine .of_within (h.sameFrame hbefore) h.nextNumber hwithin fun l number content hl hfile => ?_
  by_cases heq : l = loc
  · obtain ⟨_, _, hnode, hnumber⟩ := h.left _ (heq ▸ hfile)
    cases hnode
    rcases hnumber with ⟨hle, hlt⟩ | hkept
    · refine .inl ⟨hlt, fun l' content' hl' hfile' => ?_⟩
      rw [hwithin l' hl'] at hfile'
      exact absurd (hnumbered l' number content' hl' hfile') (Nat.not_lt.mpr hle)
    · exact .inr (heq ▸ hkept)
  · exact .inr ⟨content, (h.elsewhere l heq) ▸ hfile⟩

/-- A file that comes to stand within a directory has a number of its own. -/
theorem ChangesFile.later (h : ChangesFile loc t t') (hnone : t.node? loc = none)
    (hloc : dir <+: loc) : Later dir t t' := by
  have hbefore : t.fixed? loc = none := by simp [fixed?, hnone]
  have hnew (number : Nat) (content : ByteArray) (hfile : t'.node? loc = some (.file number content)) :
      t.nextNumber ≤ number ∧ number < t'.nextNumber := by
    obtain ⟨_, _, hnode, hnumber⟩ := h.left _ hfile
    cases hnode
    exact hnumber.resolve_right (by simp [hnone])
  refine ⟨h.sameFrame hbefore, fun hn l number content hl hfile => ?_,
    fun number hn => ⟨Nat.lt_of_lt_of_le hn.used h.nextNumber, fun l content hl hfile => ?_⟩,
    fun l number content hl hfile => .inr ⟨content, ?_⟩⟩
  · by_cases heq : l = loc
    · exact (hnew number content (heq ▸ hfile)).2
    · rw [h.elsewhere l heq] at hfile
      exact Nat.lt_of_lt_of_le (hn l number content hl hfile) h.nextNumber
  · by_cases heq : l = loc
    · exact absurd hn.used (Nat.not_lt.mpr (hnew number content (heq ▸ hfile)).1)
    · exact hn.absent l content hl (h.elsewhere l heq ▸ hfile)
  · have heq : l ≠ loc := fun heq => hl (heq ▸ hloc)
    exact h.elsewhere l heq ▸ hfile

/-- The content of an open file can be replaced wherever it stands outside a directory. -/
theorem beside_setContent (h : IsApart dir number t) (content : ByteArray) :
    Beside dir t (t.setContent number content) := by
  have hsame (l : Location) (hl : dir <+: l) :
      (t.setContent number content).node? l = t.node? l := by
    rw [node?_setContent]
    cases hnode : t.node? l with
    | none => rfl
    | some node =>
      cases node with
      | directory | link => rfl
      | file n old =>
        have hne : n ≠ number := fun heq => h.absent l old hl (heq ▸ hnode)
        simp [withContent, hne]
  refine .of_within (sameFrame_setContent t number content) (Nat.le_refl _) hsame
    fun l n c _ hfile => .inr ?_
  rw [node?_setContent, Option.map_eq_some_iff] at hfile
  obtain ⟨node, hnode, heq⟩ := hfile
  cases node with
  | directory | link => cases heq
  | file m old =>
    cases heq
    exact ⟨old, hnode⟩

end ReleasePackaging.FileTree
