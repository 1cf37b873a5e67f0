import ReleasePackaging.Proofs.Value.TextKeyed

/-!
# Leaves of nested mappings

A leaf of a value is what a path of texts leads to and is no mapping. A value is a tree if all keys in
it are texts and no mapping inside it is empty: then its leaves tell it up to the order of its keys.
-/
namespace ReleasePackaging

namespace Entries

variable {lower upper : Entries} {name : String}

theorem put_ne_nil {key v : Value} : lower.put key v ≠ [] := by
  cases lower with
  | nil => exact List.cons_ne_nil _ _
  | cons entry rest =>
    rw [put]
    split <;> exact List.cons_ne_nil _ _

/-- The first entry whose key compares equal to a text is the one found under that text. -/
theorem find?_sameScalar (h : lower.HasTextKeys) (name : String) :
    lower.find? (fun (key, _) => Value.sameScalar (.str name) key) =
      (lower.field? name).map fun v => (.str name, v) := by
  induction lower with
  | nil => rfl
  | cons entry rest ih =>
    obtain ⟨key, v⟩ := entry
    obtain ⟨own, rfl, _, hrest⟩ := hasTextKeys_cons.mp h
    have hsame : Value.sameScalar (.str name) (.str own) = (name == own) := rfl
    have hown : (Value.str own).same (.str name) = (own == name) := rfl
    rw [field?, get?, hown]
    by_cases heq : own = name
    · subst heq
      simp [hsame]
    · have hne : name ≠ own := fun h => heq h.symm
      simpa [hsame, heq, hne, field?] using ih hrest

theorem sameEntries_iff_find? : Value.sameEntries lower upper = true ↔
    ∀ entry ∈ lower, ∃ found, upper.find? (fun (key, _) => Value.sameScalar entry.1 key) = some found ∧
      entry.2.same found.2 = true := by
  induction lower with
  | nil => exact iff_of_true (by rw [Value.sameEntries]) nofun
  | cons entry rest ih =>
    rw [Value.sameEntries, Bool.and_eq_true, ih, List.forall_mem_cons]
    refine and_congr_left fun _ => ?_
    cases hfound : upper.find? fun (key, _) => Value.sameScalar entry.1 key <;> simp

/-- Entries with text keys are the same as those of another mapping if what is found under a text is
the same as what is found there. -/
theorem sameEntries_iff (hlower : lower.HasTextKeys) (hupper : upper.HasTextKeys) :
    Value.sameEntries lower upper = true ↔
      ∀ name v, lower.field? name = some v → ∃ w, upper.field? name = some w ∧ v.same w = true := by
  rw [sameEntries_iff_find?]
  constructor
  · intro h name v hv
    obtain ⟨found, hfound, hsame⟩ := h _ (hlower.mem_iff.mpr ⟨name, rfl, hv⟩)
    rw [find?_sameScalar hupper] at hfound
    obtain ⟨w, hw, rfl⟩ := Option.map_eq_some_iff.mp hfound
    exact ⟨w, hw, hsame⟩
  · rintro h ⟨key, v⟩ hentry
    obtain ⟨name, rfl, hv⟩ := hlower.mem_iff.mp hentry
    obtain ⟨w, hw, hsame⟩ := h name v hv
    exact ⟨(.str name, w), by rw [find?_sameScalar hupper, hw, Option.map_some], hsame⟩

/-- Mappings with the same text keys have equally many entries. -/
theorem length_eq_of_field? (hlower : lower.HasTextKeys) (hupper : upper.HasTextKeys)
    (h : ∀ name, (∃ v, lower.field? name = some v) ↔ ∃ w, upper.field? name = some w) :
    lower.length = upper.length := by
  have hnodup {entries : Entries} (hentries : entries.HasTextKeys) :
      (entries.map Prod.fst).Nodup := by
    obtain ⟨names, hdistinct, hkeys⟩ := hentries
    rw [hkeys]
    exact List.Pairwise.map Value.str (fun _ _ hne heq => hne (Value.str.inj heq)) hdistinct
  have hmem {entries : Entries} (hentries : entries.HasTextKeys) (key : Value) :
      key ∈ entries.map Prod.fst ↔ ∃ name, key = .str name ∧ ∃ v, entries.field? name = some v := by
    simp only [List.mem_map, Prod.exists, exists_and_right, exists_eq_right, hentries.mem_iff]
    exact ⟨fun ⟨v, name, hkey, hv⟩ => ⟨name, hkey, v, hv⟩,
      fun ⟨name, hkey, v, hv⟩ => ⟨v, name, hkey, hv⟩⟩
  have hperm : (lower.map Prod.fst).Perm (upper.map Prod.fst) := by
    refine (List.perm_ext_iff_of_nodup (hnodup hlower) (hnodup hupper)).mpr fun key => ?_
    simp only [hmem hlower, hmem hupper, h]
  simpa using hperm.length_eq

end Entries

namespace Value

variable {v w leaf : Value} {entries others : Entries} {keys : List String}

/-- A path of texts leads to a value that is no mapping. -/
def LeafAt (keys : List String) (leaf v : Value) : Prop :=
  valueAt? (keys.map .str) v = some leaf ∧ leaf.isMap = false

/-- A value in which all keys are texts, each only once, and no mapping holds an empty one. -/
structure IsTree (v : Value) : Prop where
  textKeyed : v.IsTextKeyed
  filled : ∀ key later, valueAt? (key :: later) v ≠ some (.map [])

theorem leafAt_nil : LeafAt [] leaf v ↔ leaf = v ∧ v.isMap = false := by
  constructor
  · rintro ⟨hleaf, hmap⟩
    cases hleaf
    exact ⟨rfl, hmap⟩
  · rintro ⟨rfl, hmap⟩
    exact ⟨rfl, hmap⟩

theorem leafAt_cons {name : String} : LeafAt (name :: keys) leaf (.map entries) ↔
    ∃ v, entries.field? name = some v ∧ LeafAt keys leaf v := by
  simp only [LeafAt, List.map_cons, valueAt?, Option.bind_eq_some_iff, Entries.field?]
  constructor
  · rintro ⟨⟨v, hv, hleaf⟩, hmap⟩
    exact ⟨v, hv, hleaf, hmap⟩
  · rintro ⟨v, hv, hleaf, hmap⟩
    exact ⟨⟨v, hv, hleaf⟩, hmap⟩

theorem leafAt_of_not_map (h : v.isMap = false) : LeafAt keys leaf v ↔ keys = [] ∧ leaf = v := by
  cases keys with
  | nil => simp [leafAt_nil, h]
  | cons name later =>
    refine iff_of_false (fun ⟨hleaf, _⟩ => ?_) nofun
    rw [List.map_cons, valueAt?_not_map h] at hleaf
    cases hleaf

/-! ## Trees -/

theorem isTree_of_not_map (h : v.isMap = false) : v.IsTree :=
  ⟨isTextKeyed_of_not_map h, fun _ _ hempty => by cases (valueAt?_not_map h).symm.trans hempty⟩

theorem isTree_nil : (Value.map []).IsTree := ⟨isTextKeyed_nil, nofun⟩

theorem IsTree.get? {key : Value} (h : (Value.map entries).IsTree) (hv : entries.get? key = some v) :
    v.IsTree := by
  refine ⟨h.textKeyed.get? hv, fun next later hempty => h.filled key (next :: later) ?_⟩
  rw [valueAt?, hv]
  exact hempty

theorem IsTree.ne_nil {key : Value} (h : (Value.map entries).IsTree)
    (hv : entries.get? key = some v) : v ≠ .map [] := by
  rintro rfl
  exact h.filled key [] (by simp [valueAt?, hv])

/-- A tree stays one when a tree that is not empty is put under a text. -/
theorem IsTree.put (h : (Value.map entries).IsTree) (name : String) (hv : v.IsTree)
    (hne : v ≠ .map []) : (Value.map (entries.put (.str name) v)).IsTree := by
  refine ⟨h.textKeyed.put name hv.textKeyed, fun key later hempty => ?_⟩
  obtain ⟨w, hw, hempty⟩ := Option.bind_eq_some_iff.mp hempty
  rw [Entries.get?_put h.textKeyed.hasTextKeys.haveKeys (isKey_str name)] at hw
  split at hw
  · cases hw
    cases later with
    | nil => exact hne (Option.some.inj hempty)
    | cons next later => exact hv.filled next later hempty
  · exact h.filled key later (by simp [valueAt?, hw, hempty])

/-- A tree that is not empty has a leaf. -/
theorem IsTree.exists_leafAt (h : v.IsTree) (hv : v ≠ .map []) : ∃ keys leaf, LeafAt keys leaf v := by
  induction v using mapInduction with
  | other v hmap => exact ⟨[], v, rfl, hmap⟩
  | map entries ih =>
    obtain ⟨entry, hentry⟩ := List.exists_mem_of_ne_nil entries fun hnil => hv (congrArg _ hnil)
    obtain ⟨name, _, hfield⟩ := h.textKeyed.hasTextKeys.mem_iff.mp hentry
    obtain ⟨keys, leaf, hleaf⟩ := ih entry hentry (h.get? hfield) (h.ne_nil hfield)
    exact ⟨name :: keys, leaf, leafAt_cons.mpr ⟨entry.2, hfield, hleaf⟩⟩

/-- What a tree holds under a text leads to leaves, so it is found where these leaves are. -/
theorem IsTree.exists_field? {name : String} (h : (Value.map entries).IsTree)
    (hleaves : ∀ keys leaf, LeafAt keys leaf (.map entries) → LeafAt keys leaf (.map others))
    (hv : entries.field? name = some v) : ∃ w, others.field? name = some w := by
  obtain ⟨keys, leaf, hleaf⟩ := (h.get? hv).exists_leafAt (h.ne_nil hv)
  obtain ⟨w, hw, _⟩ := leafAt_cons.mp (hleaves _ _ (leafAt_cons.mpr ⟨v, hv, hleaf⟩))
  exact ⟨w, hw⟩

/-- Trees with the same leaves are the same. -/
theorem IsTree.same_of_leaves (hv : v.IsTree) (hw : w.IsTree)
    (hleaves : ∀ keys leaf, LeafAt keys leaf v ↔ LeafAt keys leaf w)
    (hself : ∀ keys leaf, LeafAt keys leaf v → leaf.same leaf = true) : v.same w = true := by
  induction v using mapInduction generalizing w with
  | other v hmap =>
    have hleaf : LeafAt [] v w := (hleaves [] v).mp ⟨rfl, hmap⟩
    obtain ⟨rfl, _⟩ := leafAt_nil.mp hleaf
    exact hself [] v ⟨rfl, hmap⟩
  | map entries ih =>
    obtain ⟨others, rfl⟩ : ∃ others, w = .map others := by
      refine exists_entries ((Bool.not_eq_false _).mp fun hmap => ?_)
      obtain ⟨_, hentries⟩ := leafAt_nil.mp ((hleaves [] w).mpr ⟨rfl, hmap⟩)
      cases hentries
    have hkeys := hv.textKeyed.hasTextKeys
    have hotherKeys := hw.textKeyed.hasTextKeys
    have hthere {name : String} {v : Value} (hfield : Entries.field? name entries = some v) :=
      hv.exists_field? (fun keys leaf => (hleaves keys leaf).mp) hfield
    have hback {name : String} {w : Value} (hfield : Entries.field? name others = some w) :=
      hw.exists_field? (fun keys leaf => (hleaves keys leaf).mpr) hfield
    simp only [same, Bool.and_eq_true, beq_iff_eq]
    refine ⟨Entries.length_eq_of_field? hkeys hotherKeys fun name =>
      ⟨fun ⟨_, h⟩ => hthere h, fun ⟨_, h⟩ => hback h⟩,
      (Entries.sameEntries_iff hkeys hotherKeys).mpr fun name v hfield => ?_⟩
    obtain ⟨w, hother⟩ := hthere hfield
    refine ⟨w, hother, ih _ (hkeys.mem_iff.mpr ⟨name, rfl, hfield⟩) (hv.get? hfield)
      (hw.get? hother) (fun keys leaf => ?_)
      fun keys leaf hleaf => hself _ _ (leafAt_cons.mpr ⟨v, hfield, hleaf⟩)⟩
    -- Below the name both mappings have the same leaves.
    simpa [leafAt_cons, hfield, hother] using hleaves (name :: keys) leaf

end Value

end ReleasePackaging
