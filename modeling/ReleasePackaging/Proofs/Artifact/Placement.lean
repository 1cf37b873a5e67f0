import Mathlib.Data.List.Forall2
import ReleasePackaging.Proofs.Artifact.Resolve
import ReleasePackaging.Proofs.Path.Text

/-!
# Places of resolved artifacts

A pattern with one placeholder is cut at it in one way only, so a file name is the pattern with the
name of the library in its place. The artifacts of a host lie side by side below the build root. As the
patterns of a platform differ behind the placeholder, so do the last components of their places, even
if the name of the library holds slashes.
-/
namespace ReleasePackaging

namespace Template

variable {text tag : String} {t : Template}

/-! ## Cutting at placeholders -/

theorem partsBetween_placeholder (part before after : List Char) :
    partsBetween part (before ++ placeholder.toList ++ after) =
      partsBetween part before ++ partsBetween [] after := by
  fun_induction partsBetween part before with
  | case1 part => rfl
  | case2 part rest ih => simpa [partsBetween] using ih
  | case3 part c rest hc ih =>
    -- The first character is no placeholder with what follows it, be that the placeholder itself.
    have hnot : ∀ later, c = '\x7b' → rest ++ placeholder.toList ++ after = '\x7d' :: later → False := by
      rintro later rfl hlater
      cases rest with
      | nil => simp [placeholder] at hlater
      | cons d rest =>
        obtain ⟨rfl, _⟩ := List.cons.inj hlater
        exact hc rest rfl rfl
    rw [List.cons_append, List.cons_append, partsBetween, ih]
    exact hnot

theorem partsBetween_ne_nil (part cs : List Char) : partsBetween part cs ≠ [] := by
  fun_induction partsBetween part cs with
  | case1 | case2 => exact List.cons_ne_nil _ _
  | case3 _ _ _ _ ih => exact ih

/-- The parts of a text with placeholders between them are the text. -/
theorem intercalate_partsBetween (part cs : List Char) :
    placeholder.intercalate (partsBetween part cs) = String.ofList (part.reverse ++ cs) := by
  fun_induction partsBetween part cs with
  | case1 part => simp
  | case2 part rest ih =>
    rw [String.intercalate_cons_of_ne_nil (partsBetween_ne_nil _ _), ih]
    simp [← String.toList_inj, placeholder]
  | case3 part c rest _ ih => simpa using ih

theorem eq_of_partsBetween_singleton {cs : List Char} {part : String}
    (h : partsBetween [] cs = [part]) : part = String.ofList cs := by
  have hjoined := intercalate_partsBetween [] cs
  rwa [h, String.intercalate_singleton] at hjoined

/-- A pattern is the text that its template has before the placeholder, the placeholder, and the text
after it, and it cannot be cut at a placeholder in another way. -/
theorem cut_iff_of_ofPattern (h : ofPattern text tag = .ok t) (before after : String) :
    text = before ++ placeholder ++ after ↔ before = t.before ∧ after = t.after := by
  unfold ofPattern at h
  split at h
  · next first last hparts =>
    obtain rfl := Except.ok.inj h
    constructor
    · rintro rfl
      rw [String.toList_append, String.toList_append, partsBetween_placeholder] at hparts
      obtain ⟨part, others, hbefore⟩ :=
        List.exists_cons_of_ne_nil (partsBetween_ne_nil [] before.toList)
      rw [hbefore, List.cons_append, List.cons.injEq] at hparts
      obtain ⟨rfl, hrest⟩ := hparts
      rcases List.append_eq_singleton_iff.mp hrest with ⟨rfl, hafter⟩ | ⟨_, hafter⟩
      · have hfirst := eq_of_partsBetween_singleton hbefore
        have hlast := eq_of_partsBetween_singleton hafter
        simp only [String.ofList_toList] at hfirst hlast
        exact ⟨hfirst.symm, hlast.symm⟩
      · exact absurd hafter (partsBetween_ne_nil [] _)
    · rintro ⟨rfl, rfl⟩
      have hjoined := intercalate_partsBetween [] text.toList
      rw [hparts] at hjoined
      simpa using hjoined.symm
  · cases h

end Template

namespace Platform

variable {p : Platform} {t : Template}

/-- The pattern of every template of a platform has exactly one placeholder. -/
theorem ofPattern_pattern (ht : t ∈ p.templates) : Template.ofPattern t.pattern t.tag = .ok t := by
  have hall : ∀ t ∈ p.templates, Template.ofPattern t.pattern t.tag = .ok t := by
    cases p <;> decide
  exact hall t ht

/-- Behind the placeholder a pattern goes on with a name. -/
theorem isName_after (ht : t ∈ p.templates) : Path.IsName t.after := by
  have hall : ∀ t ∈ p.templates, Path.IsName t.after := by cases p <;> decide
  exact hall t ht

/-- The templates of a platform agree before the placeholder and differ behind it and in their tags. -/
theorem templates_apart (p : Platform) :
    p.templates.Pairwise fun t u => t.before = u.before ∧ t.after ≠ u.after ∧ t.tag ≠ u.tag := by
  cases p <;> decide

end Platform

namespace ArchiveName

/-- Base names with the same parts before the tag have the same tag. -/
theorem tag_eq_of_render_eq {product version host tag tag' : String}
    (h : (mk product version host tag).render = (mk product version host tag').render) :
    tag = tag' := by
  have hchars := congrArg String.toList h
  rw [toList_render, toList_render] at hchars
  have htags := List.append_cancel_left hchars
  dsimp only at htags
  split at htags <;> split at htags
  · next hempty hempty' => exact hempty.trans hempty'.symm
  · exact absurd htags (List.cons_ne_nil _ _).symm
  · exact absurd htags (List.cons_ne_nil _ _)
  · exact String.toList_inj.mp (List.cons.inj htags).2

end ArchiveName

/-! ## Places -/

/-- The parts of a root, or a dot if there are none, denote it. -/
theorem ofParts_root (root : Path) :
    Path.ofParts (if root.parts.isEmpty then ["."] else root.parts) = root := by
  split
  · next hempty =>
    have hsame := Path.ofParts_parts root
    rw [List.isEmpty_iff.mp hempty] at hsame
    exact Path.ofParts_dot.trans hsame
  · exact Path.ofParts_parts root

namespace Template

variable {p : Platform} {t u : Template} {library version product label : String} {root : Path}

/-- An artifact as a template of a platform gives it: its name is the pattern with the name of the
library in the one place where the placeholder is, it lies in the release directory below the root, and
its archive is named for the platform and the tag. -/
structure IsOutput (p : Platform) (library : String) (root : Path) (version product : String)
    (t : Template) (a : Artifact) : Prop where
  name : ∃ before after,
    (∀ b c, t.pattern = b ++ placeholder ++ c ↔ b = before ∧ c = after) ∧
      a.name = before ++ library ++ after
  path : a.path = root / "target" / "release" / a.name
  baseName : a.baseName = (ArchiveName.mk product version p.name t.tag).render

def artifact (library : String) (root : Path) (version product label : String) (t : Template) :
    Artifact where
  parts := (if root.parts.isEmpty then ["."] else root.parts) ++ releaseDirectory ++
    [t.fileName library]
  baseName := (ArchiveName.mk product version label t.tag).render

theorem resolve_eq (host : String) :
    resolve host library root version product =
      (templatesFor host).map (artifact library root version product (hostLabel host)) := rfl

theorem name_artifact :
    (t.artifact library root version product label).name = t.before ++ library ++ t.after := by
  simp [Artifact.name, artifact, fileName]

theorem path_artifact :
    (t.artifact library root version product label).path =
      root / "target" / "release" / (t.before ++ library ++ t.after) := by
  rw [Artifact.path, artifact, Path.ofParts, List.foldl_append, List.foldl_append, ← Path.ofParts,
    ofParts_root]
  rfl

theorem isOutput_artifact (ht : t ∈ p.templates) :
    t.IsOutput p library root version product (t.artifact library root version product p.name) where
  name := ⟨t.before, t.after, cut_iff_of_ofPattern (Platform.ofPattern_pattern ht), name_artifact⟩
  path := by rw [path_artifact, name_artifact]
  baseName := rfl

/-- The last component of the place of an artifact ends as the pattern does; what stands before that
depends on the name of the library alone. -/
theorem path_artifact_ne (ht : Path.IsName t.after) (hu : Path.IsName u.after)
    (hbefore : t.before = u.before) (hafter : t.after ≠ u.after) :
    (t.artifact library root version product label).path ≠
      (u.artifact library root version product label).path := by
  obtain ⟨stem, hstem⟩ := Path.exists_name_ofString_append (u.before ++ library)
  have hlast {after : String} (h : Path.IsName after) :
      (root / "target" / "release" / (u.before ++ library ++ after)).components.getLast? =
        some (stem ++ after) := by
    obtain ⟨before, hcomponents⟩ := hstem after h
    rw [Path.getLast?_div _ (by simp [hcomponents]), hcomponents, List.getLast?_concat]
  intro hpath
  rw [path_artifact, path_artifact, hbefore] at hpath
  have hsame := congrArg (fun p : Path => p.components.getLast?) hpath
  simp only [hlast ht, hlast hu, Option.some.injEq, String.append_right_inj] at hsame
  exact hafter hsame

theorem nodup_path (p : Platform) :
    ((p.templates.map (artifact library root version product label)).map Artifact.path).Nodup := by
  rw [List.map_map, List.Nodup, List.pairwise_map]
  refine p.templates_apart.imp_of_mem fun ht hu happart => ?_
  exact path_artifact_ne (Platform.isName_after ht) (Platform.isName_after hu) happart.1 happart.2.1

theorem nodup_baseName (p : Platform) :
    ((p.templates.map (artifact library root version product label)).map
      Artifact.baseName).Nodup := by
  rw [List.map_map, List.Nodup, List.pairwise_map]
  refine p.templates_apart.imp fun happart => ?_
  exact fun hname => happart.2.2 (ArchiveName.tag_eq_of_render_eq hname)

end Template

/-- The artifacts of a host are the outputs of the templates, one for one and in their order, of the
platform that has the lower case of the host for its name; without such a platform there are none. No
two of them have the same place or the same base name of their archives. -/
theorem resolve_exact (host library buildRoot version product : String) :
    (∀ p : Platform, p.name = Text.lower host →
      List.Forall₂ (Template.IsOutput p library (.ofString buildRoot) version product) p.templates
        (resolve host library (.ofString buildRoot) version product)) ∧
    ((∀ p : Platform, p.name ≠ Text.lower host) →
      resolve host library (.ofString buildRoot) version product = []) ∧
    ((resolve host library (.ofString buildRoot) version product).map Artifact.path).Nodup ∧
    ((resolve host library (.ofString buildRoot) version product).map Artifact.baseName).Nodup := by
  rw [Template.resolve_eq]
  cases hplatform : Platform.ofName? host with
  | none =>
    rw [templatesFor_eq_nil hplatform]
    refine ⟨fun p hp => ?_, fun _ => rfl, List.nodup_nil, List.nodup_nil⟩
    exact absurd hp.symm (Platform.ofName?_eq_none_iff.mp hplatform p)
  | some q =>
    rw [templatesFor_eq hplatform, hostLabel_eq hplatform]
    refine ⟨fun p hp => ?_, fun hnone => ?_, Template.nodup_path q, Template.nodup_baseName q⟩
    · obtain rfl : q = p := Platform.name_inj ((Platform.name_eq_of_ofName? hplatform).trans hp.symm)
      rw [List.forall₂_map_right_iff]
      exact List.forall₂_same.mpr fun t ht => Template.isOutput_artifact ht
    · exact absurd (Platform.name_eq_of_ofName? hplatform) (hnone q)

/-- Dots and slashes in the name of a library are kept in the places of its two outputs. -/
example :
    (resolve "WIN32" "../demo" (.ofString "//") "1.0" productName).map (·.path.toString) =
      ["//target/release/../demo.dll.lib", "//target/release/../demo.dll"] := by
  decide

end ReleasePackaging
