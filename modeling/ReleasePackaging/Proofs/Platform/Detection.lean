import ReleasePackaging.Proofs.Artifact.Resolve
import ReleasePackaging.Proofs.Text.LowerCase

/-!
# Hosts that are detected and hosts that have artifacts

A host is detected by the beginning of what it reports, in the very letters in which it is reported,
and its templates are found by its whole name in any letter case. What is not detected is passed on as
it is; so a host that is not detected has artifacts exactly if it spells the name of a platform that has
some, which it can only do with a capital letter.
-/
namespace ReleasePackaging

namespace Platform

variable {identifier : String} {entry : String × Platform} {p : Platform}

/-- An entry of the table is the first one whose beginning an identifier has. -/
def IsFirstMatch (identifier : String) (entry : String × Platform) : Prop :=
  ∃ before after, reported = before ++ entry :: after ∧ entry.1.toList <+: identifier.toList ∧
    ∀ other ∈ before, ¬ other.1.toList <+: identifier.toList

/-- An identifier has the beginning of some entry of the table. -/
def IsDetected (identifier : String) : Prop :=
  ∃ entry ∈ reported, entry.1.toList <+: identifier.toList

instance (identifier : String) : Decidable (IsDetected identifier) :=
  inferInstanceAs (Decidable (∃ entry ∈ reported, _))

def packagedNames : List String := ["darwin", "linux", "win32"]

/-! ## Detection -/

theorem ofReported?_eq_some_iff :
    ofReported? identifier = some p ↔ ∃ start, IsFirstMatch identifier (start, p) := by
  simp only [ofReported?, Option.map_eq_some_iff, List.find?_eq_some_iff_append, Prod.exists,
    IsFirstMatch, List.isPrefixOf_iff_prefix, Bool.not_eq_true', ← Bool.not_eq_true]
  constructor
  · rintro ⟨start, _, ⟨hstart, before, after, htable, hbefore⟩, rfl⟩
    exact ⟨start, before, after, htable, hstart, hbefore⟩
  · rintro ⟨start, before, after, htable, hstart, hbefore⟩
    exact ⟨start, p, ⟨hstart, before, after, htable, hbefore⟩, rfl⟩

theorem ofReported?_eq_none_iff : ofReported? identifier = none ↔ ¬ IsDetected identifier := by
  simp [ofReported?, IsDetected, List.find?_eq_none]

theorem detect_of_ofReported? (h : ofReported? identifier = some p) : detect identifier = p.name := by
  rw [detect, h]

theorem detect_of_not_isDetected (h : ¬ IsDetected identifier) : detect identifier = identifier := by
  rw [detect, ofReported?_eq_none_iff.mpr h]

/-- A platform is detected by its own name. -/
theorem detect_name (p : Platform) : detect p.name = p.name := by
  cases p <;> decide

theorem detect_detect (identifier : String) : detect (detect identifier) = detect identifier := by
  cases h : ofReported? identifier with
  | none =>
    have hsame := detect_of_not_isDetected (ofReported?_eq_none_iff.mp h)
    rw [hsame, hsame]
  | some p => rw [detect_of_ofReported? h, detect_name]

/-! ## Artifacts -/

theorem templates_ne_nil_iff : p.templates ≠ [] ↔ p.name ∈ packagedNames := by
  cases p <;> decide

theorem exists_of_mem_packagedNames {name : String} (h : name ∈ packagedNames) :
    ∃ p : Platform, p.name = name := by
  simp only [packagedNames, List.mem_cons, List.not_mem_nil, or_false] at h
  rcases h with rfl | rfl | rfl
  exacts [⟨.darwin, rfl⟩, ⟨.linux, rfl⟩, ⟨.win32, rfl⟩]

/-- The names of platforms with templates are spelled in letters of ASCII alone. -/
theorem lower_eq_name_iff (h : p.name ∈ packagedNames) :
    Text.lower identifier = p.name ↔ identifier.toLower = p.name := by
  have hsmall : ∀ name ∈ packagedNames, ∀ c ∈ name.toList, Text.IsOwnSmall c := by
    simp [packagedNames, Text.IsOwnSmall]
  exact Text.lower_eq_iff (hsmall p.name h)

end Platform

open Platform (IsFirstMatch IsDetected packagedNames detect)

variable {host identifier library version product : String} {buildRoot : Path}

/-- A host has templates exactly if it is the name of a platform that has some, in any letter case. -/
theorem templatesFor_ne_nil_iff : templatesFor host ≠ [] ↔ host.toLower ∈ packagedNames := by
  constructor
  · intro h
    cases hplatform : Platform.ofName? host with
    | none => exact absurd (templatesFor_eq_nil hplatform) h
    | some p =>
      rw [templatesFor_eq hplatform] at h
      have hpackaged := Platform.templates_ne_nil_iff.mp h
      have hlower := Platform.ofName?_eq_some_iff.mp hplatform
      rwa [(Platform.lower_eq_name_iff hpackaged).mp hlower]
  · intro h
    obtain ⟨p, hp⟩ := Platform.exists_of_mem_packagedNames h
    have hpackaged : p.name ∈ packagedNames := hp ▸ h
    have hlower := (Platform.lower_eq_name_iff hpackaged).mpr hp.symm
    rw [templatesFor_eq (Platform.ofName?_eq_some_iff.mpr hlower)]
    exact Platform.templates_ne_nil_iff.mpr hpackaged

theorem resolve_eq_nil_iff :
    resolve host library buildRoot version product = [] ↔ templatesFor host = [] := by
  rw [resolve, List.map_eq_nil_iff]

/-- An identifier with the beginning of an entry of the table is detected as the platform of the first
such entry, which is found under the name that is given. Any other identifier is given as it is, and
there are no templates and no artifacts for it exactly if it is in no letter case the name of a platform
that has templates. What has been detected is detected as itself. -/
theorem detection_exact (identifier : String) :
    (IsDetected identifier → ∃ start p, IsFirstMatch identifier (start, p) ∧
      detect identifier = p.name ∧ Platform.ofName? (detect identifier) = some p) ∧
    (¬ IsDetected identifier → detect identifier = identifier ∧
      ((templatesFor identifier = [] ∧ ∀ library buildRoot version product,
          resolve identifier library buildRoot version product = []) ↔
        identifier.toLower ∉ packagedNames)) ∧
    detect (detect identifier) = detect identifier := by
  refine ⟨fun h => ?_, fun h => ⟨Platform.detect_of_not_isDetected h, ?_⟩,
    Platform.detect_detect identifier⟩
  · cases hplatform : Platform.ofReported? identifier with
    | none => exact absurd h (Platform.ofReported?_eq_none_iff.mp hplatform)
    | some p =>
      obtain ⟨start, hfirst⟩ := Platform.ofReported?_eq_some_iff.mp hplatform
      rw [Platform.detect_of_ofReported? hplatform]
      exact ⟨start, p, hfirst, rfl, Platform.ofName?_name p⟩
  · rw [← templatesFor_ne_nil_iff, not_ne_iff]
    exact ⟨And.left, fun hnone => ⟨hnone, fun _ _ _ _ => resolve_eq_nil_iff.mpr hnone⟩⟩

theorem detection_exact_cygwin :
    IsDetected "cygwin_nt" ∧ ¬ IsDetected "plan9" ∧
      (∃ start p, IsFirstMatch "cygwin_nt" (start, p) ∧ detect "cygwin_nt" = p.name ∧
        Platform.ofName? (detect "cygwin_nt") = some p) ∧
      templatesFor "plan9" = [] := by
  have hdetected : IsDetected "cygwin_nt" := by decide
  have hunknown : ¬ IsDetected "plan9" := by decide
  have hname : "plan9".toLower ∉ packagedNames := by decide +kernel
  exact ⟨hdetected, hunknown, (detection_exact "cygwin_nt").1 hdetected,
    (((detection_exact "plan9").2.1 hunknown).2.mpr hname).1⟩

/-- A host that reports itself with a capital letter is not detected, but it has artifacts. -/
theorem resolve_undetected :
    ¬ IsDetected "Linux" ∧ detect "Linux" = "Linux" ∧ templatesFor "Linux" ≠ [] ∧
      resolve "Linux" libraryName (.ofString ".") "1.0" productName =
        [⟨["." , "target", "release", "libton_client.so"], "tonclient_1.0_linux"⟩] := by
  refine ⟨by decide, by decide, by decide, by decide⟩

end ReleasePackaging
