import Mathlib.Data.List.TakeWhile
import ReleasePackaging.Text.Split

/-!
# Fields of a split text

Characters without a delimiter are one field. Such characters before a delimiter are the first field as
long as the limit is not reached, and the fields of what follows come after it; when the limit is
reached all that is left is one field. A full split gives the one list of fields without the delimiter
that make the text when they are joined, and a cut gives what stands before and after the first
delimiter.
-/
namespace ReleasePackaging.Text

variable {delimiter : Char} {limit : Nat} {field cs rest : List Char}

theorem splitFrom_zero : splitFrom delimiter 0 field cs = [field.reverse ++ cs] := by
  cases cs <;> simp [splitFrom]

theorem splitFrom_of_not_mem (h : delimiter ∉ cs) :
    splitFrom delimiter limit field cs = [field.reverse ++ cs] := by
  induction cs generalizing field with
  | nil => simp [splitFrom]
  | cons c cs ih =>
    obtain ⟨hc, hcs⟩ := not_or.mp (mt List.mem_cons.mpr h)
    cases limit with
    | zero => exact splitFrom_zero
    | succ limit =>
      rw [splitFrom, if_neg (Ne.symm hc), ih hcs]
      simp

theorem splitFrom_append_cons (h : delimiter ∉ cs) :
    splitFrom delimiter (limit + 1) field (cs ++ delimiter :: rest) =
      (field.reverse ++ cs) :: splitFrom delimiter limit [] rest := by
  induction cs generalizing field with
  | nil => simp [splitFrom]
  | cons c cs ih =>
    obtain ⟨hc, hcs⟩ := not_or.mp (mt List.mem_cons.mpr h)
    rw [List.cons_append, splitFrom, if_neg (Ne.symm hc), ih hcs]
    simp

/-! ## Full splits -/

/-- With a limit that is not reached the fields are those of the library's split, the first of them
after what has been read of it. -/
theorem splitFrom_eq_splitOn (h : cs.length ≤ limit) :
    splitFrom delimiter limit field cs =
      (cs.splitOn delimiter).modifyHead (field.reverse ++ ·) := by
  induction cs generalizing limit field with
  | nil => simp [splitFrom]
  | cons c cs ih =>
    cases limit with
    | zero => simp at h
    | succ limit =>
      have hshort : cs.length ≤ limit := Nat.le_of_succ_le_succ h
      obtain ⟨first, others, hsplit⟩ := List.exists_cons_of_ne_nil (List.splitOn_ne_nil delimiter cs)
      rw [splitFrom, List.splitOn_cons_eq_if_modifyHead]
      by_cases hc : c = delimiter
      · rw [if_pos hc, if_pos (beq_iff_eq.mpr hc), ih hshort, hsplit]
        simp
      · rw [if_neg hc, if_neg (by simpa using hc), ih (Nat.le_succ_of_le hshort), hsplit]
        simp

theorem splitAll_eq (delimiter : Char) (text : String) :
    splitAll delimiter text = (text.toList.splitOn delimiter).map String.ofList := by
  rw [splitAll, splitAtMost, splitFrom_eq_splitOn (Nat.le_of_eq String.length_toList)]
  congr 1
  exact congrFun List.modifyHead_id _

/-- No field of a full split holds the delimiter. -/
theorem not_mem_of_mem_splitOn (h : field ∈ cs.splitOn delimiter) : delimiter ∉ field := by
  induction cs generalizing field with
  | nil => simp_all
  | cons c cs ih =>
    obtain ⟨first, others, hsplit⟩ := List.exists_cons_of_ne_nil (List.splitOn_ne_nil delimiter cs)
    rw [List.splitOn_cons_eq_if_modifyHead, hsplit] at h
    rw [hsplit] at ih
    split at h
    · rcases List.mem_cons.mp h with rfl | hfield
      · simp
      · exact ih hfield
    · next hc =>
      rcases List.mem_cons.mp h with rfl | hfield
      · have hother : delimiter ≠ c := fun heq => hc (beq_iff_eq.mpr heq.symm)
        simpa [hother] using ih List.mem_cons_self
      · exact ih (List.mem_cons_of_mem _ hfield)

/-- The fields of a full split are the texts without the delimiter that give the text when they are
joined by it. -/
theorem splitAll_eq_iff {text : String} {parts : List String} (hne : parts ≠ []) :
    splitAll delimiter text = parts ↔
      (∀ part ∈ parts, delimiter ∉ part.toList) ∧
        (String.singleton delimiter).intercalate parts = text := by
  have hjoin (parts : List String) :
      ((String.singleton delimiter).intercalate parts).toList =
        [delimiter].intercalate (parts.map String.toList) := by
    rw [String.toList_intercalate]
    simp
  rw [splitAll_eq]
  constructor
  · rintro rfl
    constructor
    · intro part hpart
      obtain ⟨field, hfield, rfl⟩ := List.mem_map.mp hpart
      simpa using not_mem_of_mem_splitOn hfield
    · refine String.toList_inj.mp ?_
      rw [hjoin, List.map_map]
      simp [Function.comp_def, List.intercalate_splitOn]
  · rintro ⟨hparts, rfl⟩
    have hfields : ∀ field ∈ parts.map String.toList, delimiter ∉ field := by
      intro field hfield
      obtain ⟨part, hpart, rfl⟩ := List.mem_map.mp hfield
      exact hparts part hpart
    rw [hjoin, List.splitOn_intercalate delimiter hfields (by simpa using hne)]
    simp [Function.comp_def]

/-! ## Cuts -/

theorem cut_of_not_mem {text : String} (h : delimiter ∉ text.toList) :
    cut delimiter text = (text, none) := by
  have hall : ∀ c ∈ text.toList, (c != delimiter) = true :=
    fun c hc => bne_iff_ne.mpr fun heq => h (heq ▸ hc)
  have hdrop : text.toList.dropWhile (· != delimiter) = [] :=
    List.dropWhile_eq_nil_iff.mpr hall
  have htake : text.toList.takeWhile (· != delimiter) = text.toList :=
    List.takeWhile_eq_self_iff.mpr hall
  simp [cut, hdrop, htake]

theorem cut_of_append {text before after : String} (hbefore : delimiter ∉ before.toList)
    (htext : text.toList = before.toList ++ delimiter :: after.toList) :
    cut delimiter text = (before, some after) := by
  have hall : ∀ c ∈ before.toList, (c != delimiter) = true :=
    fun c hc => bne_iff_ne.mpr fun heq => hbefore (heq ▸ hc)
  have hdrop : text.toList.dropWhile (· != delimiter) = delimiter :: after.toList := by
    rw [htext, List.dropWhile_append_of_pos hall, List.dropWhile_cons_of_neg (by simp)]
  have htake : text.toList.takeWhile (· != delimiter) = before.toList := by
    rw [htext, List.takeWhile_append_of_pos hall, List.takeWhile_cons_of_neg (by simp),
      List.append_nil]
  simp [cut, hdrop, htake]

/-- A text is cut at the first delimiter. -/
theorem cut_eq_some_iff {text before after : String} :
    cut delimiter text = (before, some after) ↔
      delimiter ∉ before.toList ∧ text.toList = before.toList ++ delimiter :: after.toList := by
  refine ⟨fun h => ?_, fun ⟨hbefore, htext⟩ => cut_of_append hbefore htext⟩
  by_cases hmem : delimiter ∈ text.toList
  · obtain ⟨first, later, htext, hfirst⟩ := List.eq_append_cons_of_mem hmem
    have hcut : cut delimiter text = (String.ofList first, some (String.ofList later)) :=
      cut_of_append (by simpa) (by simpa)
    rw [hcut] at h
    cases h
    exact ⟨by simpa, by simpa⟩
  · rw [cut_of_not_mem hmem] at h
    cases h

end ReleasePackaging.Text
