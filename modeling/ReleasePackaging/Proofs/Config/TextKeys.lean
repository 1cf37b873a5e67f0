import ReleasePackaging.Config.Load
import ReleasePackaging.Proofs.Config.Layers
import ReleasePackaging.Proofs.Config.PathWrites

/-!
# Settings under texts

The settings assembled from the sources of a configuration stand under texts exactly if those in the
file and those that the caller gives do: the defaults and the environment hold no other keys.
-/
namespace ReleasePackaging.Config

variable {entries overrides settings : Entries} {v : Value}

/-- Values that are the same as keys are the same text, if they are texts. -/
theorem text?_of_same {a b : Value} (h : a.same b = true) : a.text? = b.text? := by
  cases a <;> cases b <;> first | rfl | cases h | exact congrArg some (beq_iff_eq.mp h)

theorem isSome_text?_of_same {a b : Value} (h : a.same b = true) :
    a.text?.isSome = b.text?.isSome := congrArg Option.isSome (text?_of_same h)

@[simp] theorem allTextKeys_nil : allTextKeys [] = true := rfl

/-- Keys of a layer become keys of what it is put over. -/
@[simp] theorem allTextKeys_merge (lower : Entries) (upper : List (Value × Value)) :
    allTextKeys (merge lower upper) = (allTextKeys lower && allTextKeys upper) :=
  all_keys_merge (P := fun key => key.text?.isSome) (fun _ _ => isSome_text?_of_same) lower upper

/-- Texts can be keys. -/
theorem haveKeys_of_allTextKeys (h : allTextKeys entries = true) : entries.HaveKeys := by
  intro entry hentry
  have htext : entry.1.text?.isSome = true := List.all_eq_true.mp h entry hentry
  generalize entry.1 = key at htext
  cases key with
  | str | platform => trivial
  | _ => cases htext

theorem allTextKeys_put (h : allTextKeys entries = true) (name : String) (v : Value) :
    allTextKeys (entries.put (.str name) v) = true := by
  rw [allTextKeys] at h ⊢
  rw [Entries.all_keys_put (P := fun key => key.text?.isSome) fun _ _ => isSome_text?_of_same, h]
  rfl

theorem allTextKeys_standardEntries : allTextKeys standardEntries = true := by decide

theorem allTextKeys_given (h : allTextKeys overrides = true) :
    allTextKeys (given overrides) = true := by
  rw [allTextKeys, List.all_eq_true] at *
  exact fun entry hentry => h entry (List.mem_filter.mp hentry).1

theorem allTextKeys_of_fromEnvironment {start : String} {environment : List (String × String)}
    (h : fromEnvironment start environment = .ok settings) : allTextKeys settings = true := by
  refine List.all_eq_true.mpr ?_
  rintro ⟨key, v⟩ hentry
  obtain ⟨name, rfl⟩ := (isTree_of_fromEnvironment h).textKeyed.hasTextKeys.exists_name hentry
  rfl

/-- Settings assembled from the sources stand under texts if those in the file do, and only then. -/
theorem allTextKeys_assemble {start : String} {environment : List (String × String)}
    {file : Option Entries} (hsettings : fromEnvironment start environment = .ok settings)
    (hoverrides : allTextKeys overrides = true) :
    allTextKeys (assemble (layers file settings overrides)) = allTextKeys (file.getD []) := by
  have hupper := allTextKeys_of_fromEnvironment hsettings
  have hgiven := allTextKeys_given hoverrides
  cases file <;>
    simp [assemble, layers, allTextKeys_standardEntries, hupper, hgiven]

end ReleasePackaging.Config
