import ReleasePackaging.Json.Reader
import ReleasePackaging.Proofs.Action.Result
import ReleasePackaging.Proofs.Value.Keyed

/-!
# Mappings read from JSON

The members of an object are put one after another under their names, so that no name is held twice,
however often it stands in the document.
-/
namespace ReleasePackaging.Json

theorem readNumber_isKeyed {cs rest : List Char} {v : Value} (h : readNumber cs = .ok (v, rest)) :
    v.IsKeyed := by
  unfold readNumber at h
  split at h
  split at h
  · cases h
  split at h
  split at h
  split at h
  · dsimp only at h
    split at h
    · cases h
      trivial
    · cases h
  · cases h
    trivial

theorem readWord?_isKeyed {cs rest : List Char} {v : Value} (h : readWord? cs = some (v, rest)) :
    v.IsKeyed := by
  obtain ⟨⟨word, w⟩, hword, heq⟩ := Option.map_eq_some_iff.mp h
  have hmem : (word, w) ∈ wordValues := List.mem_of_find?_eq_some hword
  have hwords : ∀ entry ∈ wordValues, entry.2.isMap = false := by decide
  cases heq
  exact Value.isKeyed_of_not_map (hwords _ hmem)

def ReadsKeyed (fuel : Nat) : Prop :=
  ∀ cs v rest, readValue fuel cs = .ok (v, rest) → v.IsKeyed

/-- The members that are read with some fuel, put after keyed ones, are keyed. -/
def KeepsKeyed (fuel : Nat) : Prop :=
  ∀ done cs entries rest, (Value.map done).IsKeyed →
    readMembers fuel done cs = .ok (entries, rest) → (Value.map entries).IsKeyed

theorem ReadsKeyed.succ {fuel : Nat} (hmembers : KeepsKeyed fuel) : ReadsKeyed (fuel + 1) := by
  intro cs v rest h
  unfold readValue at h
  split at h
  · cases h
  · obtain ⟨⟨text, after⟩, _, heq⟩ := Result.map_eq_ok_iff.mp h
    cases heq
    trivial
  · split at h
    · cases h
      trivial
    · obtain ⟨⟨vs, after⟩, _, heq⟩ := Result.map_eq_ok_iff.mp h
      cases heq
      trivial
  · next fuel' rest' hfuel =>
    cases hfuel
    split at h
    · cases h
      exact Value.isKeyed_nil
    · obtain ⟨⟨entries, after⟩, hentries, heq⟩ := Result.map_eq_ok_iff.mp h
      cases heq
      exact hmembers [] _ _ _ Value.isKeyed_nil hentries
  · split at h
    · next result hword =>
      cases h
      exact readWord?_isKeyed hword
    · exact readNumber_isKeyed h

theorem KeepsKeyed.succ {fuel : Nat} (hvalue : ReadsKeyed fuel) (hmembers : KeepsKeyed fuel) :
    KeepsKeyed (fuel + 1) := by
  intro done cs entries rest hdone h
  unfold readMembers at h
  split at h
  · cases h
  · next fuel' rest' hfuel =>
    cases hfuel
    obtain ⟨⟨name, after⟩, _, h⟩ := Result.bind_eq_ok_iff.mp h
    dsimp only at h
    split at h
    · obtain ⟨⟨v, after'⟩, hv, h⟩ := Result.bind_eq_ok_iff.mp h
      have hkey : Value.IsKey (.str (String.ofList name)) := trivial
      have hput := hdone.put hkey (hvalue _ _ _ hv)
      dsimp only at h
      split at h
      · cases h
        exact hput
      · exact hmembers _ _ _ _ hput h
      · cases h
    · cases h
  · cases h

/-- What is read is keyed, and so are members put after keyed ones. -/
theorem read_isKeyed (fuel : Nat) : ReadsKeyed fuel ∧ KeepsKeyed fuel := by
  induction fuel with
  | zero =>
    refine ⟨fun cs v rest h => ?_, fun done cs entries rest _ h => ?_⟩
    · rw [readValue] at h
      cases h
    · rw [readMembers] at h
      cases h
  | succ fuel ih => exact ⟨.succ ih.2, .succ ih.1 ih.2⟩

/-- A document that is read is keyed. -/
theorem isKeyed_of_read {cs : List Char} {v : Value} (h : read cs = .ok v) : v.IsKeyed := by
  have hdocument : readDocument cs = .ok v := by
    unfold read at h
    split at h
    · next hread => exact hread.trans (congrArg Except.ok (Except.ok.inj h))
    · cases h
    · cases h
  unfold readDocument at hdocument
  split at hdocument
  · cases hdocument
  · obtain ⟨⟨w, rest⟩, hvalue, hend⟩ := Result.bind_eq_ok_iff.mp hdocument
    dsimp only at hend
    split at hend
    · cases hend
      exact (read_isKeyed _).1 _ _ _ hvalue
    · cases hend

end ReleasePackaging.Json
