import ReleasePackaging.FileTree.Access

/-!
# What stays when files change

The node at a location after an elementary change is told for every location. Two trees have the same
frame if they have the same directories and links and the same working directory: they differ in
regular files at most.
-/
namespace ReleasePackaging

def Node.isFile : Node → Bool
  | .file _ _ => true
  | .directory | .link _ => false

namespace FileTree

/-! ## The node at a location -/

@[simp] theorem node?_root (t : FileTree) : t.node? [] = some .directory := rfl

theorem lookup_cons_eq (k : Location) (node : Node) (rest : List (Location × Node)) (l : Location) :
    ((k, node) :: rest).lookup l = if l = k then some node else rest.lookup l := by
  by_cases h : l = k
  · simp [h]
  · have hne : (l == k) = false := beq_false_of_ne h
    simp [List.lookup_cons, hne, h]

theorem lookup_filter (keep : Location → Bool) (nodes : List (Location × Node)) (l : Location) :
    (nodes.filter fun (k, _) => keep k).lookup l = if keep l then nodes.lookup l else none := by
  induction nodes with
  | nil => simp
  | cons entry rest ih =>
    obtain ⟨k, node⟩ := entry
    cases hk : keep k with
    | false =>
      rw [List.filter_cons_of_neg (by simp [hk]), ih, lookup_cons_eq]
      by_cases hl : l = k <;> simp [hl, hk]
    | true =>
      rw [List.filter_cons_of_pos (by simp [hk]), lookup_cons_eq, lookup_cons_eq, ih]
      by_cases hl : l = k <;> simp [hl, hk]

theorem lookup_without (nodes : List (Location × Node)) (loc l : Location) :
    (nodes.filter fun (k, _) => k != loc).lookup l =
      if l = loc then none else nodes.lookup l := by
  rw [lookup_filter (· != loc)]
  by_cases hl : l = loc <;> simp [hl]

theorem node?_put (t : FileTree) {loc : Location} (hloc : loc ≠ []) (node : Node) (l : Location) :
    (t.put loc node).node? l = if l = loc then some node else t.node? l := by
  by_cases hroot : l = []
  · simp [hroot, hloc.symm]
  · simp only [node?, put, hroot, if_false, lookup_cons_eq, lookup_without]
    by_cases hl : l = loc <;> simp [hl]

theorem node?_erase (t : FileTree) {loc : Location} (hloc : loc ≠ []) (l : Location) :
    (t.erase loc).node? l = if l = loc then none else t.node? l := by
  by_cases hroot : l = []
  · simp [hroot, hloc.symm]
  · simp [node?, erase, hroot, lookup_without]

/-- What stands below a location goes, unless it leads to something that stays. -/
theorem node?_thin (t : FileTree) (loc : Location) (staying : List Location) (l : Location) :
    (t.thin loc staying).node? l =
      if (loc <+: l ∧ l ≠ loc) ∧ ∀ stay ∈ staying, ¬l <+: stay then none else t.node? l := by
  by_cases hroot : l = []
  · rw [hroot, node?_root, node?_root, if_neg fun h => h.1.2 (List.prefix_nil.mp h.1.1).symm]
  · simp only [node?, thin, hroot, if_false,
      lookup_filter fun k => !(loc.isPrefixOf k && k != loc) || staying.any k.isPrefixOf]
    have hkept : (!(loc.isPrefixOf l && l != loc) || staying.any l.isPrefixOf) = true ↔
        ¬((loc <+: l ∧ l ≠ loc) ∧ ∀ stay ∈ staying, ¬l <+: stay) := by
      simp only [Bool.or_eq_true, Bool.not_eq_true', List.any_eq_true, List.isPrefixOf_iff_prefix,
        ← Bool.not_eq_true]
      grind
    by_cases hgone : (loc <+: l ∧ l ≠ loc) ∧ ∀ stay ∈ staying, ¬l <+: stay
    · rw [if_pos hgone, if_neg fun h => hkept.mp h hgone]
    · rw [if_neg hgone, if_pos (hkept.mpr hgone)]

/-- What stands below a location goes. -/
theorem node?_eraseBelow (t : FileTree) (loc l : Location) :
    (t.eraseBelow loc).node? l = if loc <+: l ∧ l ≠ loc then none else t.node? l := by
  simp [eraseBelow, node?_thin]

/-- Only nodes are looked up: the number of the next file does not count. -/
@[simp] theorem node?_nextNumber (t : FileTree) (n : Nat) (l : Location) :
    ({ t with nextNumber := n } : FileTree).node? l = t.node? l := rfl

/-! ## Frames -/

/-- The directory or link at a location. -/
def fixed? (t : FileTree) (loc : Location) : Option Node := (t.node? loc).filter fun n => !n.isFile

/-- Two trees with the same directories and links, seen from the same working directory. -/
structure SameFrame (t t' : FileTree) : Prop where
  workDir : t'.workDir = t.workDir
  fixed : ∀ loc, t'.fixed? loc = t.fixed? loc

namespace SameFrame

variable {t t' t'' : FileTree}

theorem refl (t : FileTree) : SameFrame t t := ⟨rfl, fun _ => rfl⟩

theorem symm (h : SameFrame t t') : SameFrame t' t := ⟨h.workDir.symm, fun loc => (h.fixed loc).symm⟩

theorem trans (h : SameFrame t t') (h' : SameFrame t' t'') : SameFrame t t'' :=
  ⟨h'.workDir.trans h.workDir, fun loc => (h'.fixed loc).trans (h.fixed loc)⟩

theorem node?_eq_some (h : SameFrame t t') {loc : Location} {node : Node}
    (hnode : t.node? loc = some node) (hfixed : node.isFile = false) : t'.node? loc = some node := by
  have hloc := h.fixed loc
  simp only [fixed?, hnode, Option.filter_some, hfixed, Bool.not_false, if_true] at hloc
  exact (Option.filter_eq_some_iff.mp hloc).1

theorem directory (h : SameFrame t t') {loc : Location} (hnode : t.node? loc = some .directory) :
    t'.node? loc = some .directory := h.node?_eq_some hnode rfl

theorem link (h : SameFrame t t') {loc : Location} {target : String}
    (hnode : t.node? loc = some (.link target)) : t'.node? loc = some (.link target) :=
  h.node?_eq_some hnode rfl

/-- Where no directory and no link stands in one of the trees, none stands in the other. -/
theorem fixed?_eq_none (h : SameFrame t t') {loc : Location} (hnone : t.fixed? loc = none) :
    t'.fixed? loc = none := (h.fixed loc).trans hnone

end SameFrame

theorem fixed?_eq_none_iff {t : FileTree} {loc : Location} :
    t.fixed? loc = none ↔ ∀ node, t.node? loc = some node → node.isFile = true := by
  simp [fixed?, Option.filter_eq_none_iff]

/-- A change at one location where a file may stand before and after keeps the frame. -/
theorem SameFrame.of_eq_elsewhere {t t' : FileTree} (loc : Location) (hwork : t'.workDir = t.workDir)
    (helse : ∀ l, l ≠ loc → t'.node? l = t.node? l) (hbefore : t.fixed? loc = none)
    (hafter : t'.fixed? loc = none) : SameFrame t t' := by
  refine ⟨hwork, fun l => ?_⟩
  by_cases hl : l = loc
  · rw [hl, hbefore, hafter]
  · simp [fixed?, helse l hl]

theorem SameFrame.put_file (t : FileTree) {loc : Location} (hloc : loc ≠ [])
    (hbefore : t.fixed? loc = none) (number : Nat) (content : ByteArray) :
    SameFrame t (t.put loc (.file number content)) :=
  .of_eq_elsewhere loc rfl (fun l hl => by simp [node?_put t hloc, hl]) hbefore
    (by simp [fixed?, node?_put t hloc, Node.isFile])

theorem SameFrame.erase (t : FileTree) {loc : Location} (hloc : loc ≠ [])
    (hbefore : t.fixed? loc = none) : SameFrame t (t.erase loc) :=
  .of_eq_elsewhere loc rfl (fun l hl => by simp [node?_erase t hloc, hl]) hbefore
    (by simp [fixed?, node?_erase t hloc])

end FileTree

end ReleasePackaging
