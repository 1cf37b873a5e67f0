import ReleasePackaging.Number.Integer
import ReleasePackaging.Proofs.Value.Fields
import ReleasePackaging.Value.Export

/-!
# Plain data

Plain data is built from null, truth values, integers that can be read, texts, lists, and mappings
whose keys are distinct texts. It is its own export.
-/
namespace ReleasePackaging.Value

mutual

def IsPlain : Value → Prop
  | .null | .bool _ | .str _ => True
  | .int n => n.natAbs < 10 ^ Number.digitLimit
  | .list xs => ArePlain xs
  | .map entries => Entries.HasTextKeys entries ∧ HavePlainValues entries
  | _ => False

def ArePlain : List Value → Prop
  | [] => True
  | x :: xs => IsPlain x ∧ ArePlain xs

def HavePlainValues : List (Value × Value) → Prop
  | [] => True
  | (_, v) :: rest => IsPlain v ∧ HavePlainValues rest

end

mutual

/-- Plain data is exported as it is. -/
theorem exported_of_isPlain : ∀ v : Value, IsPlain v → exported v = .ok v
  | .null, _ | .bool _, _ | .int _, _ | .str _, _ => rfl
  | .list xs, hplain => by
    rw [exported, exportedAll_of_arePlain xs hplain]
    rfl
  | .map entries, ⟨hkeys, hvalues⟩ => by
    rw [exported, exportedEntries_of_havePlainValues [] entries hkeys hvalues]
    rfl

theorem exportedAll_of_arePlain : ∀ xs : List Value, ArePlain xs → exportedAll xs = .ok xs
  | [], _ => rfl
  | x :: xs, ⟨hx, hxs⟩ => by
    rw [exportedAll, exported_of_isPlain x hx, exportedAll_of_arePlain xs hxs]
    rfl

theorem exportedEntries_of_havePlainValues (done : Entries) :
    ∀ rest : List (Value × Value), Entries.HasTextKeys (done ++ rest) → HavePlainValues rest →
      exportedEntries done rest = .ok (done ++ rest)
  | [], _, _ => by rw [exportedEntries, List.append_nil]
  | (key, v) :: rest, hkeys, ⟨hv, hrest⟩ => by
    obtain ⟨name, rfl, hdone, hnew⟩ := Entries.hasTextKeys_append_cons hkeys
    have hput : done.put (.str name) v ++ rest = done ++ (.str name, v) :: rest := by
      rw [Entries.put_new hdone hnew, List.append_assoc]
      rfl
    rw [exportedEntries, exportKey, exported_of_isPlain v hv]
    simp only [bind, Except.bind]
    rw [exportedEntries_of_havePlainValues _ rest (hput ▸ hkeys) hrest, hput]

end

end ReleasePackaging.Value
