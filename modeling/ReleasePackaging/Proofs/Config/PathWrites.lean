import ReleasePackaging.Proofs.Config.Variables
import ReleasePackaging.Proofs.Value.Leaves

/-!
# A value put at a path

Putting a value that is no mapping at a path makes it a leaf there. The leaves along the path and
those below its end are gone, all others are kept, and a tree of settings stays one.
-/
namespace ReleasePackaging.Config

open Value (LeafAt leafAt_cons leafAt_nil valueAt?)

variable {entries : Entries} {key : String} {keys later : List String} {v leaf : Value}

/-! ## Paths -/

/-- Of two paths neither is the beginning of the other. -/
def Apart (keys later : List String) : Prop := ¬keys <+: later ∧ ¬later <+: keys

theorem Apart.symm (h : Apart keys later) : Apart later keys := And.symm h

@[simp] theorem not_apart_nil_left : ¬Apart [] later := fun h => h.1 List.nil_prefix

@[simp] theorem not_apart_nil_right : ¬Apart keys [] := fun h => h.2 List.nil_prefix

theorem Apart.ne_nil (h : Apart keys later) : keys ≠ [] := by
  rintro rfl
  exact not_apart_nil_left h

theorem apart_cons_cons {name : String} :
    Apart (name :: keys) (key :: later) ↔ name ≠ key ∨ Apart keys later := by
  simp only [Apart, List.cons_prefix_cons, not_and, ne_eq]
  by_cases heq : name = key
  · simp [heq]
  · simp [heq, Ne.symm heq]

/-! ## Writes -/

/-- The entries of the mapping under a key, none if there is no mapping. -/
def innerAt (key : String) (entries : Entries) : Entries :=
  match entries.field? key with
  | some (.map inner) => inner
  | _ => []

theorem setAt_cons (v : Value) (key : String) (hlater : later ≠ []) (entries : Entries) :
    setAt v (key :: later) entries =
      entries.put (.str key) (.map (setAt v later (innerAt key entries))) := by
  cases later with
  | nil => exact absurd rfl hlater
  | cons next later => rfl

theorem isTree_innerAt (h : (Value.map entries).IsTree) (key : String) :
    (Value.map (innerAt key entries)).IsTree := by
  unfold innerAt
  split
  · next inner hinner => exact h.get? hinner
  · exact Value.isTree_nil

theorem setAt_ne_nil (hkeys : keys ≠ []) : setAt v keys entries ≠ [] := by
  obtain ⟨key, later, rfl⟩ := List.exists_cons_of_ne_nil hkeys
  cases later <;> exact Entries.put_ne_nil

/-- A tree of settings stays one when a value that is no mapping is put at a path. -/
theorem isTree_setAt (hv : v.isMap = false) (keys : List String)
    (hentries : (Value.map entries).IsTree) : (Value.map (setAt v keys entries)).IsTree := by
  induction keys generalizing entries with
  | nil => exact hentries
  | cons key later ih =>
    cases later with
    | nil =>
      refine hentries.put key (Value.isTree_of_not_map hv) ?_
      rintro rfl
      cases hv
    | cons next later =>
      rw [setAt_cons v key (List.cons_ne_nil _ _)]
      refine hentries.put key (ih (isTree_innerAt hentries key)) fun heq => ?_
      exact setAt_ne_nil (List.cons_ne_nil _ _) (Value.map.inj heq)

/-- Below a key a write finds the leaves that are there. -/
theorem leafAt_innerAt (hkeys : keys ≠ []) :
    LeafAt keys leaf (.map (innerAt key entries)) ↔ LeafAt (key :: keys) leaf (.map entries) := by
  obtain ⟨name, later, rfl⟩ := List.exists_cons_of_ne_nil hkeys
  have hbelow : LeafAt (key :: name :: later) leaf (.map entries) ↔
      ∃ w, entries.field? key = some w ∧ LeafAt (name :: later) leaf w := leafAt_cons
  rw [hbelow, innerAt]
  split
  · next inner hinner => simp [hinner]
  · next hother =>
    refine iff_of_false (fun h => ?_) ?_
    · obtain ⟨_, hnone, _⟩ := leafAt_cons.mp h
      cases hnone
    · rintro ⟨w, hw, hleaf⟩
      cases hmap : w.isMap with
      | true =>
        obtain ⟨inner, rfl⟩ := Value.exists_entries hmap
        exact hother inner hw
      | false => cases ((Value.leafAt_of_not_map hmap).mp hleaf).1

/-- The leaves after a value has been put under a key. -/
theorem leafAt_put {name : String} {w : Value} (hentries : entries.HasTextKeys) :
    LeafAt (name :: keys) leaf (.map (entries.put (.str key) w)) ↔
      name = key ∧ LeafAt keys leaf w ∨ name ≠ key ∧ LeafAt (name :: keys) leaf (.map entries) := by
  rw [leafAt_cons, leafAt_cons, hentries.field?_put]
  by_cases heq : name = key
  · simp [heq]
  · simp [heq, Ne.symm heq]

/-- The leaves after a value has been put at a path: the value itself, and what was a leaf before and
is apart from the path. -/
theorem leafAt_setAt (hv : v.isMap = false) (hkeys : keys ≠ [])
    (hentries : (Value.map entries).IsTree) (path : List String) :
    LeafAt path leaf (.map (setAt v keys entries)) ↔
      path = keys ∧ leaf = v ∨ Apart path keys ∧ LeafAt path leaf (.map entries) := by
  induction keys generalizing entries path with
  | nil => exact absurd rfl hkeys
  | cons key later ih =>
    have htexts := hentries.textKeyed.hasTextKeys
    cases path with
    | nil => simp [leafAt_nil, Value.isMap]
    | cons name rest =>
      cases later with
      | nil =>
        rw [setAt, leafAt_put htexts, Value.leafAt_of_not_map hv, apart_cons_cons]
        by_cases heq : name = key <;> simp [heq]
      | cons next later =>
        have hlater : next :: later ≠ [] := List.cons_ne_nil _ _
        rw [setAt_cons v key hlater, leafAt_put htexts, ih hlater (isTree_innerAt hentries key),
          apart_cons_cons]
        by_cases heq : name = key
        · -- Below the key the leaves are those of the mapping there.
          subst heq
          have hbelow : Apart rest (next :: later) ∧ LeafAt rest leaf (.map (innerAt name entries)) ↔
              Apart rest (next :: later) ∧ LeafAt (name :: rest) leaf (.map entries) :=
            and_congr_right fun hapart => leafAt_innerAt hapart.ne_nil
          simp [hbelow]
        · simp [heq]

/-- The settings that an environment gives are a tree. -/
theorem isTree_of_fromEnvironment {start : String} {environment : List (String × String)}
    {settings : Entries} (h : fromEnvironment start environment = .ok settings) :
    (Value.map settings).IsTree :=
  fromEnvironment_keeps (P := fun entries => (Value.map entries).IsTree) Value.isTree_nil
    (fun _ keys _ _ hentries hv => isTree_setAt (isMap_of_variableValue hv) keys hentries) h

end ReleasePackaging.Config
