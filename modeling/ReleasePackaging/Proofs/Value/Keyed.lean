import ReleasePackaging.Proofs.Value.Key
import ReleasePackaging.Proofs.Value.Plain

/-!
# Mappings within mappings

A value is keyed if the mapping that it is, and every mapping reached from there through mappings,
has keys that are all different. A path of keys leads through such mappings to at most one value.
-/
namespace ReleasePackaging.Value

mutual

/-- Whether a value is no mapping, or one with distinct keys and keyed values. -/
def IsKeyed : Value → Prop
  | .map entries =>
    Entries.HaveKeys entries ∧ Entries.AreDistinct entries ∧ HaveKeyedValues entries
  | _ => True

def HaveKeyedValues : List (Value × Value) → Prop
  | [] => True
  | (_, v) :: rest => IsKeyed v ∧ HaveKeyedValues rest

end

variable {entries : Entries} {key v : Value}

theorem haveKeyedValues_iff :
    HaveKeyedValues entries ↔ ∀ entry ∈ entries, entry.2.IsKeyed := by
  induction entries with
  | nil => exact ⟨fun _ => nofun, fun _ => trivial⟩
  | cons entry rest ih => rw [HaveKeyedValues, ih, List.forall_mem_cons]

theorem isKeyed_map : (Value.map entries).IsKeyed ↔
    entries.HaveKeys ∧ entries.AreDistinct ∧ ∀ entry ∈ entries, entry.2.IsKeyed := by
  rw [IsKeyed, haveKeyedValues_iff]

theorem isKeyed_nil : (Value.map []).IsKeyed := isKeyed_map.mpr ⟨nofun, List.Pairwise.nil, nofun⟩

theorem exists_entries (h : v.isMap = true) : ∃ entries, v = .map entries := by
  cases v with
  | map entries => exact ⟨entries, rfl⟩
  | _ => cases h

/-- What is no mapping is keyed. -/
theorem isKeyed_of_not_map (h : v.isMap = false) : v.IsKeyed := by
  cases v with
  | map entries => cases h
  | _ => trivial

theorem IsKey.isKeyed (h : v.IsKey) : v.IsKeyed := by
  cases v with
  | map entries => cases h
  | _ => trivial

/-- A mapping stays keyed when a keyed value is put into it. -/
theorem IsKeyed.put (h : (Value.map entries).IsKeyed) (hkey : key.IsKey) (hv : v.IsKeyed) :
    (Value.map (entries.put key v)).IsKeyed := by
  obtain ⟨hkeys, hdistinct, hvalues⟩ := isKeyed_map.mp h
  refine isKeyed_map.mpr ⟨hkeys.put hkey v, hdistinct.put key v, fun entry hentry => ?_⟩
  rcases mem_putWith (Entries.put_eq_putWith ▸ hentry) with hold | rfl | ⟨own, w, _, rfl⟩
  · exact hvalues entry hold
  · exact hv
  · exact hv

theorem IsKeyed.get? {k : Value} (h : (Value.map entries).IsKeyed) (hfound : entries.get? k = some v) :
    v.IsKeyed := by
  obtain ⟨_, _, hvalues⟩ := isKeyed_map.mp h
  obtain ⟨_, _, hmem⟩ := Entries.mem_of_get?_eq_some hfound
  exact hvalues _ hmem

theorem IsKeyed.filter (h : (Value.map entries).IsKeyed) (keep : Value × Value → Bool) :
    (Value.map (entries.filter keep)).IsKeyed := by
  obtain ⟨hkeys, hdistinct, hvalues⟩ := isKeyed_map.mp h
  exact isKeyed_map.mpr ⟨fun entry hentry => hkeys entry (List.mem_filter.mp hentry).1,
    hdistinct.sublist List.filter_sublist,
    fun entry hentry => hvalues entry (List.mem_filter.mp hentry).1⟩

/-! ## Text keys -/

/-- Distinct texts are distinct keys. -/
theorem areDistinct_of_hasTextKeys (h : entries.HasTextKeys) :
    entries.HaveKeys ∧ entries.AreDistinct := by
  induction entries with
  | nil => exact ⟨nofun, List.Pairwise.nil⟩
  | cons entry rest ih =>
    obtain ⟨key, v⟩ := entry
    obtain ⟨name, rfl, hnew, hrest⟩ := Entries.hasTextKeys_cons.mp h
    obtain ⟨hkeys, hdistinct⟩ := ih hrest
    refine ⟨List.forall_mem_cons.mpr ⟨trivial, hkeys⟩, List.pairwise_cons.mpr ⟨?_, hdistinct⟩⟩
    intro entry hentry
    have hmem : entry.1 ∈ rest.map Prod.fst := List.mem_map_of_mem hentry
    obtain ⟨names, _, heq⟩ := hrest
    rw [heq] at hmem hnew
    obtain ⟨own, hown, hkey⟩ := List.mem_map.mp hmem
    rw [← hkey]
    refine beq_false_of_ne fun hsame => hnew ?_
    rw [hsame]
    exact List.mem_map_of_mem hown

/-! ## Paths of keys -/

def valueAt? : List Value → Value → Option Value
  | [], v => some v
  | key :: later, .map entries => (Entries.get? key entries).bind (valueAt? later)
  | _ :: _, _ => none

theorem valueAt?_not_map {later : List Value} (h : v.isMap = false) :
    valueAt? (key :: later) v = none := by
  cases v with
  | map entries => cases h
  | _ => rfl

/-- What is not reached by its first key is not reached. -/
theorem valueAt?_cons_eq_none {later : List Value} (h : valueAt? [key] v = none) :
    valueAt? (key :: later) v = none := by
  cases v with
  | map entries =>
    cases hget : Entries.get? key entries with
    | none => simp [valueAt?, hget]
    | some w => simp [valueAt?, hget] at h
  | _ => rfl

/-- What the values of a mapping take over from it is taken over along a path. -/
theorem valueAt?_keeps {P : Value → Prop} {path : List Value} {w : Value}
    (hget : ∀ (entries : Entries) key w, P (.map entries) → entries.get? key = some w → P w)
    (h : P v) (hw : valueAt? path v = some w) : P w := by
  induction path generalizing v with
  | nil => exact Option.some.inj hw ▸ h
  | cons key later ih =>
    cases v with
    | map entries =>
      obtain ⟨u, hu, hw⟩ := Option.bind_eq_some_iff.mp hw
      exact ih (hget entries key u h hu) hw
    | _ => cases hw

/-- What is reached from a keyed value is keyed. -/
theorem IsKeyed.valueAt? {path : List Value} {w : Value} (h : v.IsKeyed)
    (hw : Value.valueAt? path v = some w) : w.IsKeyed :=
  valueAt?_keeps (P := IsKeyed) (fun _ _ _ hentries hu => hentries.get? hu) h hw

/-- A path is followed part by part. -/
theorem valueAt?_append (start later : List Value) (v : Value) :
    valueAt? (start ++ later) v = (valueAt? start v).bind (valueAt? later) := by
  induction start generalizing v with
  | nil => rfl
  | cons key start ih =>
    cases v with
    | map entries =>
      simp only [List.cons_append, valueAt?, Option.bind_assoc]
      exact congrArg _ (funext ih)
    | _ => rfl

def HoldsMapAt (path : List Value) (v : Value) : Prop :=
  ∃ entries, valueAt? path v = some (.map entries)

/-- What holds a mapping anywhere is one. -/
theorem HoldsMapAt.exists_entries {path : List Value} (h : HoldsMapAt path v) :
    ∃ entries, v = .map entries := by
  obtain ⟨inner, hinner⟩ := h
  cases path with
  | nil => exact ⟨inner, Option.some.inj hinner⟩
  | cons key later =>
    cases hmap : v.isMap with
    | true => exact Value.exists_entries hmap
    | false =>
      rw [valueAt?_not_map hmap] at hinner
      cases hinner

end ReleasePackaging.Value
