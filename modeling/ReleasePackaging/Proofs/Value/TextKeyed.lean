import ReleasePackaging.Proofs.Value.Keyed

/-!
# Mappings with text keys throughout

A value has text keys throughout if every mapping that a path of keys leads to has distinct texts as
keys. Such a mapping is told by its keys, in order, and by what is found under them.
-/
namespace ReleasePackaging

theorem Value.isKey_str (name : String) : (Value.str name).IsKey := trivial

namespace Entries

variable {entries upper lower : Entries} {name other : String} {key v w : Value}

theorem HasTextKeys.haveKeys (h : entries.HasTextKeys) : entries.HaveKeys :=
  (Value.areDistinct_of_hasTextKeys h).1

theorem HasTextKeys.areDistinct (h : entries.HasTextKeys) : entries.AreDistinct :=
  (Value.areDistinct_of_hasTextKeys h).2

theorem HasTextKeys.exists_name (h : entries.HasTextKeys) (hmem : (key, v) ∈ entries) :
    ∃ name, key = .str name := by
  obtain ⟨names, _, hkeys⟩ := h
  have hkey : key ∈ names.map Value.str := hkeys ▸ List.mem_map_of_mem (f := Prod.fst) hmem
  obtain ⟨name, _, rfl⟩ := List.mem_map.mp hkey
  exact ⟨name, rfl⟩

/-- The entries of a mapping with text keys are what is found under texts. -/
theorem HasTextKeys.mem_iff (h : entries.HasTextKeys) :
    (key, v) ∈ entries ↔ ∃ name, key = .str name ∧ entries.field? name = some v := by
  constructor
  · intro hmem
    obtain ⟨name, rfl⟩ := h.exists_name hmem
    exact ⟨name, rfl, field?_of_mem h hmem⟩
  · rintro ⟨name, rfl, hfield⟩
    obtain ⟨own, hsame, hmem⟩ := mem_of_get?_eq_some hfield
    obtain ⟨ownName, rfl⟩ := h.exists_name hmem
    obtain rfl : ownName = name := beq_iff_eq.mp hsame
    exact hmem

theorem HasTextKeys.mem_str_iff (h : entries.HasTextKeys) :
    (.str name, v) ∈ entries ↔ entries.field? name = some v := by
  simp [h.mem_iff]

theorem HasTextKeys.sublist (h : lower.HasTextKeys) (hsub : upper.Sublist lower) :
    upper.HasTextKeys := by
  obtain ⟨names, hdistinct, hkeys⟩ := h
  obtain ⟨kept, hkept, heq⟩ := List.sublist_map_iff.mp (hkeys ▸ hsub.map Prod.fst)
  exact ⟨kept, hdistinct.sublist hkept, heq⟩

theorem HasTextKeys.mapValues (h : entries.HasTextKeys) (f : Value → Value) :
    HasTextKeys (entries.map fun (key, v) => (key, f v)) := by
  obtain ⟨names, hdistinct, hkeys⟩ := h
  exact ⟨names, hdistinct, by rw [← hkeys, List.map_map]; rfl⟩

/-- What is found under a text after a value has been put under one. -/
theorem HaveKeys.field?_put (h : entries.HaveKeys) (name : String) (v : Value) (other : String) :
    (entries.put (.str name) v).field? other =
      if name = other then some v else entries.field? other := by
  have hsame : (Value.str name).same (.str other) = (name == other) := rfl
  rw [field?, get?_put h (Value.isKey_str name), hsame]
  simp only [beq_iff_eq]
  rfl

theorem HasTextKeys.field?_put (h : entries.HasTextKeys) (name : String) (v : Value)
    (other : String) :
    (entries.put (.str name) v).field? other =
      if name = other then some v else entries.field? other :=
  h.haveKeys.field?_put name v other

/-- A value put under a text that is a key leaves the keys as they are. -/
theorem keys_put_of_mem (hmem : Value.str name ∈ entries.map Prod.fst) :
    (entries.put (.str name) v).map Prod.fst = entries.map Prod.fst := by
  rcases keys_put entries (.str name) v with ⟨_, hkeys⟩ | ⟨hnone, _⟩
  · exact hkeys
  · have hself : (Value.str name).same (.str name) = true := beq_self_eq_true name
    rw [hnone _ hmem] at hself
    cases hself

/-- A mapping with text keys is the list of its keys, each with what is found under it. -/
theorem HasTextKeys.eq_map_keys (h : entries.HasTextKeys) :
    entries = (entries.map Prod.fst).map fun key => (key, (entries.get? key).getD .null) := by
  rw [List.map_map]
  refine (List.map_id entries).symm.trans (List.map_congr_left fun entry hentry => ?_)
  obtain ⟨name, hname, hfield⟩ := h.mem_iff.mp hentry
  have hget : entries.get? entry.1 = some entry.2 := hname ▸ hfield
  simp [hget]

/-- Mappings with the same text keys in the same order are equal if the same is found under every
key. -/
theorem HasTextKeys.ext (hlower : lower.HasTextKeys) (hupper : upper.HasTextKeys)
    (hkeys : lower.map Prod.fst = upper.map Prod.fst)
    (hget : ∀ key, lower.get? key = upper.get? key) : lower = upper := by
  rw [hlower.eq_map_keys, hupper.eq_map_keys, hkeys]
  simp only [hget]

end Entries

namespace Value

variable {entries : Entries} {key v w : Value} {path : List Value}

mutual

/-- What holds of a mapping if it holds of its values, and of everything else, holds of all values. -/
@[elab_as_elim]
theorem mapInduction {P : Value → Prop} (other : ∀ v, v.isMap = false → P v)
    (map : ∀ entries : Entries, (∀ entry ∈ entries, P entry.2) → P (.map entries)) : ∀ v, P v
  | .map entries => map entries (entriesInduction other map entries)
  | .null | .bool _ | .int _ | .float _ | .str _ | .bytes _ | .date _ | .moment _ | .path _
  | .platform _ | .list _ | .tuple _ | .set _ => other _ rfl

theorem entriesInduction {P : Value → Prop} (other : ∀ v, v.isMap = false → P v)
    (map : ∀ entries : Entries, (∀ entry ∈ entries, P entry.2) → P (.map entries)) :
    ∀ entries : List (Value × Value), ∀ entry ∈ entries, P entry.2
  | [] => nofun
  | (_, v) :: rest => List.forall_mem_cons.mpr
      ⟨mapInduction other map v, entriesInduction other map rest⟩

end

def IsTextKeyed (v : Value) : Prop :=
  ∀ path entries, valueAt? path v = some (.map entries) → Entries.HasTextKeys entries

theorem IsTextKeyed.hasTextKeys (h : (Value.map entries).IsTextKeyed) : entries.HasTextKeys :=
  h [] entries rfl

/-- What is reached from a value with text keys throughout is such a value. -/
theorem IsTextKeyed.valueAt? (h : v.IsTextKeyed) (hw : Value.valueAt? path v = some w) :
    w.IsTextKeyed := by
  intro later entries hlater
  refine h (path ++ later) entries ?_
  rw [valueAt?_append, hw]
  exact hlater

theorem IsTextKeyed.get? (h : (Value.map entries).IsTextKeyed) (hv : entries.get? key = some v) :
    v.IsTextKeyed :=
  have hpath : Value.valueAt? [key] (.map entries) = some v := by simp [Value.valueAt?, hv]
  h.valueAt? hpath

theorem isTextKeyed_of_not_map (h : v.isMap = false) : v.IsTextKeyed := by
  intro path entries hentries
  obtain ⟨_, rfl⟩ := HoldsMapAt.exists_entries ⟨entries, hentries⟩
  cases h

theorem isTextKeyed_nil : (Value.map []).IsTextKeyed := by
  intro path entries hentries
  cases path with
  | nil =>
    cases hentries
    exact Entries.hasTextKeys_nil
  | cons key later => cases hentries

theorem IsTextKeyed.isKeyed (h : v.IsTextKeyed) : v.IsKeyed := by
  induction v using mapInduction with
  | other v hmap => exact isKeyed_of_not_map hmap
  | map entries ih =>
    have hkeys := h.hasTextKeys
    refine isKeyed_map.mpr ⟨hkeys.haveKeys, hkeys.areDistinct, fun entry hentry => ?_⟩
    obtain ⟨name, _, hfield⟩ := hkeys.mem_iff.mp hentry
    exact ih entry hentry (h.get? hfield)

/-- Text keys are kept when a value with text keys is put under a text. -/
theorem IsTextKeyed.put (h : (Value.map entries).IsTextKeyed) (name : String) (hv : v.IsTextKeyed) :
    (Value.map (entries.put (.str name) v)).IsTextKeyed := by
  intro path inner hinner
  cases path with
  | nil =>
    cases hinner
    exact h.hasTextKeys.put name v
  | cons key later =>
    obtain ⟨w, hw, hinner⟩ := Option.bind_eq_some_iff.mp hinner
    rw [Entries.get?_put h.hasTextKeys.haveKeys (isKey_str name)] at hw
    split at hw
    · cases hw
      exact hv later inner hinner
    · exact h (key :: later) inner (by simp [Value.valueAt?, hw, hinner])

/-! ## Plain data -/

theorem havePlainValues_iff : HavePlainValues entries ↔ ∀ entry ∈ entries, entry.2.IsPlain := by
  induction entries with
  | nil => exact ⟨fun _ => nofun, fun _ => trivial⟩
  | cons entry rest ih => rw [HavePlainValues, ih, List.forall_mem_cons]

theorem IsPlain.get? (h : (Value.map entries).IsPlain) (hv : entries.get? key = some v) :
    v.IsPlain := by
  obtain ⟨_, _, hmem⟩ := Entries.mem_of_get?_eq_some hv
  exact havePlainValues_iff.mp h.2 _ hmem

theorem IsPlain.valueAt? (h : v.IsPlain) (hw : Value.valueAt? path v = some w) : w.IsPlain :=
  valueAt?_keeps (P := IsPlain) (fun _ _ _ hentries hu => hentries.get? hu) h hw

theorem IsPlain.isTextKeyed (h : v.IsPlain) : v.IsTextKeyed :=
  fun _ _ hentries => (h.valueAt? hentries).1

/-- Plain data is keyed. -/
theorem isKeyed_of_isPlain (v : Value) (h : v.IsPlain) : v.IsKeyed := h.isTextKeyed.isKeyed

end Value

end ReleasePackaging
