import ReleasePackaging.Config.Load
import ReleasePackaging.Proofs.Config.Plain
import ReleasePackaging.Proofs.Config.PathWrites
import ReleasePackaging.Proofs.Json.Keyed
import ReleasePackaging.Proofs.Value.TextKeyed
import ReleasePackaging.Proofs.Yaml.Keyed

/-!
# Settings of each source

The defaults, a file and the environment give keyed settings: no key is held twice, however often a
document or an environment mentions it.
-/
namespace ReleasePackaging.Config

variable {t : FileTree} {path : Path} {entries settings : Entries} {v : Value}

theorem isKeyed_standardEntries : (Value.map standardEntries).IsKeyed := by
  rw [standardEntries_eq]
  exact Value.isKeyed_of_isPlain _ (isPlain_plainEntries isPlain_standard)

/-! ## Files -/

theorem isKeyed_of_documentIn {content : ByteArray} (h : documentIn path content = .ok v) :
    v.IsKeyed := by
  unfold documentIn at h
  split at h
  · obtain ⟨cs, _, h⟩ := Result.bind_eq_ok_iff.mp h
    exact Json.isKeyed_of_read (Result.mapError_eq_ok_iff.mp h)
  · exact Yaml.isKeyed_of_read (Result.mapError_eq_ok_iff.mp h)

/-- The settings in a file are keyed. -/
theorem isKeyed_of_settingsAt (h : settingsAt t path = .ok entries) :
    (Value.map entries).IsKeyed := by
  obtain ⟨isFile, _, h⟩ := Result.bind_eq_ok_iff.mp h
  split at h
  · cases h
  · obtain ⟨content, _, h⟩ := Result.bind_eq_ok_iff.mp h
    obtain ⟨v, hv, h⟩ := Result.bind_eq_ok_iff.mp h
    have hkeyed := isKeyed_of_documentIn hv
    split at h
    · cases h
      exact Value.isKeyed_nil
    · cases h
      exact hkeyed
    · cases h

/-! ## The environment -/

/-- The settings that an environment gives are keyed. -/
theorem isKeyed_of_fromEnvironment {start : String} {environment : List (String × String)}
    (h : fromEnvironment start environment = .ok settings) : (Value.map settings).IsKeyed :=
  (isTree_of_fromEnvironment h).textKeyed.isKeyed

end ReleasePackaging.Config
