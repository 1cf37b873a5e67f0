import ReleasePackaging.Artifact.Resolve
import ReleasePackaging.Proofs.Artifact.ArchiveName

/-!
# Resolved artifacts

The artifacts of a host come one for one from the templates of its platform. The name of a platform
tells it from all others and can stand in the base names of archives.
-/
namespace ReleasePackaging

namespace Platform

variable {p : Platform} {text : String}

theorem name_eq_of_ofName? (h : ofName? text = some p) : p.name = Text.lower text := by
  simpa using List.find?_some h

theorem delimiter_not_mem_name (p : Platform) : ArchiveName.delimiter ∉ p.name.toList := by
  cases p <;> decide

theorem slash_not_mem_name (p : Platform) : '/' ∉ p.name.toList := by
  cases p <;> decide

/-- A platform is found under its own name. -/
theorem ofName?_name (p : Platform) : ofName? p.name = some p := by
  cases p <;> decide

theorem name_inj {q : Platform} (h : p.name = q.name) : p = q :=
  Option.some.inj ((ofName?_name p).symm.trans (h ▸ ofName?_name q))

/-- A platform is found under the texts that have its name for their lower case. -/
theorem ofName?_eq_some_iff : ofName? text = some p ↔ Text.lower text = p.name := by
  refine ⟨fun h => (name_eq_of_ofName? h).symm, fun h => ?_⟩
  rw [ofName?, h]
  cases p <;> decide

theorem ofName?_eq_none_iff : ofName? text = none ↔ ∀ p : Platform, Text.lower text ≠ p.name := by
  simp only [Option.eq_none_iff_forall_ne_some, ne_eq, ofName?_eq_some_iff]

end Platform

variable {host library version product : String} {buildRoot : Path} {i : Nat} {a : Artifact}

theorem templatesFor_eq {p : Platform} (h : Platform.ofName? host = some p) :
    templatesFor host = p.templates := by
  rw [templatesFor, h]

theorem templatesFor_eq_nil (h : Platform.ofName? host = none) : templatesFor host = [] := by
  rw [templatesFor, h]

theorem hostLabel_eq {p : Platform} (h : Platform.ofName? host = some p) : hostLabel host = p.name := by
  rw [hostLabel, h]

/-- An artifact at a position comes from the template at that position. -/
theorem resolve_getElem? (h : (resolve host library buildRoot version product)[i]? = some a) :
    ∃ p template, Platform.ofName? host = some p ∧ p.templates[i]? = some template ∧
      a.baseName = (ArchiveName.mk product version p.name template.tag).render := by
  rw [resolve, List.getElem?_map, Option.map_eq_some_iff] at h
  obtain ⟨template, htemplate, rfl⟩ := h
  cases hplatform : Platform.ofName? host with
  | none =>
    rw [templatesFor_eq_nil hplatform] at htemplate
    cases htemplate
  | some p =>
    rw [templatesFor_eq hplatform] at htemplate
    exact ⟨p, template, rfl, htemplate, by rw [hostLabel_eq hplatform]⟩

end ReleasePackaging
