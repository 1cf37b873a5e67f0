import Mathlib.Data.List.Basic
import ReleasePackaging.Artifact.ArchiveName
import ReleasePackaging.Proofs.Text.Split

/-!
# Base names read back

A base name is read back exactly if no part before the tag holds the delimiter. Every text with two
delimiters is a base name, and it is written again as it was unless an empty tag was spelled out in it.
-/
namespace ReleasePackaging.ArchiveName

variable {name : ArchiveName} {text : String}

/-- No part before the tag holds the delimiter. -/
structure IsSegmented (name : ArchiveName) : Prop where
  product : delimiter ∉ name.product.toList
  version : delimiter ∉ name.version.toList
  host : delimiter ∉ name.host.toList

def stem (name : ArchiveName) : List Char :=
  name.product.toList ++ delimiter :: (name.version.toList ++ delimiter :: name.host.toList)

theorem toList_render (name : ArchiveName) :
    name.render.toList =
      name.stem ++ if name.tag = "" then [] else delimiter :: name.tag.toList := by
  unfold render
  split <;> simp [stem]

/-- The stem of a segmented name holds the delimiter twice. -/
theorem IsSegmented.count_stem (h : name.IsSegmented) : name.stem.count delimiter = 2 := by
  simp [stem, List.count_eq_zero.mpr h.product, List.count_eq_zero.mpr h.version,
    List.count_eq_zero.mpr h.host]

/-! ## Reading -/

theorem parse_of_stem (h : name.IsSegmented) (htag : name.tag = "") (htext : text.toList = name.stem) :
    parse text = .ok name := by
  obtain ⟨product, version, host, tag⟩ := name
  obtain rfl : tag = "" := htag
  rw [parse, Text.splitAtMost, htext, stem, Text.splitFrom_append_cons h.product,
    Text.splitFrom_append_cons h.version, Text.splitFrom_of_not_mem h.host]
  simp

theorem parse_of_stem_tag (h : name.IsSegmented)
    (htext : text.toList = name.stem ++ delimiter :: name.tag.toList) : parse text = .ok name := by
  rw [parse, Text.splitAtMost, htext, stem, List.append_assoc, List.cons_append, List.append_assoc,
    List.cons_append, Text.splitFrom_append_cons h.product, Text.splitFrom_append_cons h.version,
    Text.splitFrom_append_cons h.host, Text.splitFrom_zero]
  simp

/-- A text with fewer than two delimiters is no base name; any other one is a stem, alone or with a tag
after a delimiter. -/
theorem parse_cases (text : String) :
    (text.toList.count delimiter < 2 ∧ parse text = .error ⟨text⟩) ∨
      ∃ name : ArchiveName, name.IsSegmented ∧ parse text = .ok name ∧
        ((name.tag = "" ∧ text.toList = name.stem) ∨
          text.toList = name.stem ++ delimiter :: name.tag.toList) := by
  by_cases hfirst : delimiter ∈ text.toList
  · obtain ⟨product, later, htext, hproduct⟩ := List.eq_append_cons_of_mem hfirst
    by_cases hsecond : delimiter ∈ later
    · obtain ⟨version, last, rfl, hversion⟩ := List.eq_append_cons_of_mem hsecond
      right
      by_cases hthird : delimiter ∈ last
      · obtain ⟨host, tag, rfl, hhost⟩ := List.eq_append_cons_of_mem hthird
        let name : ArchiveName := ⟨.ofList product, .ofList version, .ofList host, .ofList tag⟩
        have hname : name.IsSegmented := ⟨by simpa [name], by simpa [name], by simpa [name]⟩
        have hspelled : text.toList = name.stem ++ delimiter :: name.tag.toList := by
          simp [htext, stem, name]
        exact ⟨name, hname, parse_of_stem_tag hname hspelled, .inr hspelled⟩
      · let name : ArchiveName := ⟨.ofList product, .ofList version, .ofList last, ""⟩
        have hname : name.IsSegmented := ⟨by simpa [name], by simpa [name], by simpa [name]⟩
        have hspelled : text.toList = name.stem := by simp [htext, stem, name]
        exact ⟨name, hname, parse_of_stem hname rfl hspelled, .inl ⟨rfl, hspelled⟩⟩
    · left
      constructor
      · simp [htext, List.count_eq_zero.mpr hproduct, List.count_eq_zero.mpr hsecond]
      · rw [parse, Text.splitAtMost, htext, Text.splitFrom_append_cons hproduct,
          Text.splitFrom_of_not_mem hsecond]
        rfl
  · left
    constructor
    · simp [List.count_eq_zero.mpr hfirst]
    · rw [parse, Text.splitAtMost, Text.splitFrom_of_not_mem hfirst]
      rfl

/-- What is read is a segmented name, and the text is its stem, alone or with the tag. -/
theorem spelled_of_parse (h : parse text = .ok name) :
    name.IsSegmented ∧ ((name.tag = "" ∧ text.toList = name.stem) ∨
      text.toList = name.stem ++ delimiter :: name.tag.toList) := by
  rcases parse_cases text with ⟨_, herror⟩ | ⟨read, hsegmented, hread, hspelled⟩
  · cases herror.symm.trans h
  · obtain rfl : read = name := Except.ok.inj (hread.symm.trans h)
    exact ⟨hsegmented, hspelled⟩

theorem exists_parse_iff : (∃ name, parse text = .ok name) ↔ 2 ≤ text.toList.count delimiter := by
  rcases parse_cases text with ⟨hfew, herror⟩ | ⟨name, hsegmented, hread, hspelled⟩
  · have hnot : ¬ 2 ≤ text.toList.count delimiter := Nat.not_le.mpr hfew
    simp [herror, hnot]
  · have hcount : 2 ≤ text.toList.count delimiter := by
      rcases hspelled with ⟨_, hstem⟩ | hstem
      · exact Nat.le_of_eq (hstem ▸ hsegmented.count_stem).symm
      · rw [hstem, List.count_append, hsegmented.count_stem]
        exact Nat.le_add_right _ _
    exact ⟨fun _ => hcount, fun _ => ⟨name, hread⟩⟩

/-! ## Writing and reading -/

/-- A name is read back from its base name exactly if it is segmented. -/
theorem parse_render (name : ArchiveName) : parse name.render = .ok name ↔ name.IsSegmented := by
  refine ⟨fun h => (spelled_of_parse h).1, fun h => ?_⟩
  have hrender := toList_render name
  split at hrender
  · next htag => exact parse_of_stem h htag (by simpa using hrender)
  · exact parse_of_stem_tag h hrender

/-- What has been read is written again as it was, except that a delimiter before an empty tag is left
out. -/
theorem render_of_parse (h : parse text = .ok name) :
    name.render.toList =
      if text.toList.count delimiter = 3 ∧ text.toList.getLast? = some delimiter then
        text.toList.dropLast
      else text.toList := by
  obtain ⟨hsegmented, hspelled⟩ := spelled_of_parse h
  rw [toList_render]
  rcases hspelled with ⟨htag, hstem⟩ | hstem
  · rw [if_pos htag, List.append_nil, hstem, hsegmented.count_stem, if_neg (by simp)]
  · rw [hstem, List.count_append, hsegmented.count_stem, List.count_cons_self]
    by_cases htag : name.tag = ""
    · simp [htag]
    · have hlast : ¬ (2 + (name.tag.toList.count delimiter + 1) = 3 ∧
          (name.stem ++ delimiter :: name.tag.toList).getLast? = some delimiter) := by
        rintro ⟨hcount, hend⟩
        have habsent : delimiter ∉ name.tag.toList := List.count_eq_zero.mp (by omega)
        have htext : name.tag.toList ≠ [] := by simpa using htag
        rw [List.getLast?_append_cons, List.getLast?_cons_of_ne_nil htext] at hend
        exact habsent (List.mem_of_getLast? hend)
      rw [if_neg htag, if_neg hlast]

/-- A name is read back from its base name exactly if no part before the tag holds the delimiter. A
text is read exactly if it holds two delimiters, and what has been read is written again as it was
unless the text ends at its third and last delimiter, which is then left out. -/
theorem codec_exact :
    (∀ name : ArchiveName, parse name.render = .ok name ↔
      delimiter ∉ name.product.toList ∧ delimiter ∉ name.version.toList ∧
        delimiter ∉ name.host.toList) ∧
      ∀ text : String,
        ((∃ name, parse text = .ok name) ↔ 2 ≤ text.toList.count delimiter) ∧
          ∀ name, parse text = .ok name → name.render =
            if text.toList.count delimiter = 3 ∧ text.toList.getLast? = some delimiter then
              String.ofList text.toList.dropLast
            else text := by
  refine ⟨fun name => ?_, fun text => ⟨exists_parse_iff, fun name h => ?_⟩⟩
  · exact (parse_render name).trans
      ⟨fun h => ⟨h.product, h.version, h.host⟩, fun ⟨hp, hv, hh⟩ => ⟨hp, hv, hh⟩⟩
  · rw [← String.toList_inj, render_of_parse h]
    split <;> simp

theorem codec_exact_emptyTag :
    parse "demo_1.0_linux_" = .ok ⟨"demo", "1.0", "linux", ""⟩ ∧
      (ArchiveName.mk "demo" "1.0" "linux" "").render = "demo_1.0_linux" := by
  have hread : parse "demo_1.0_linux_" = .ok ⟨"demo", "1.0", "linux", ""⟩ := by rfl
  exact ⟨hread, (codec_exact.2 _).2 _ hread⟩

end ReleasePackaging.ArchiveName
