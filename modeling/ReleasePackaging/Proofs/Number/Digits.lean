import Mathlib.Data.List.TakeWhile
import ReleasePackaging.Proofs.Text.Digit

/-!
# Numerals of any digits

A text of digits of all scripts looks like a number. It is read as one exactly if all its digits are
decimal and there are no more of them than are read.
-/
namespace ReleasePackaging.Number

variable {c : Char} {cs digits : List Char} {text : String}

/-- The digits of a number, with a minus sign before them if it is negative. -/
def signed (negative : Bool) (digits : List Char) : List Char :=
  (if negative then ['-'] else []) ++ digits

theorem mem_signed {negative : Bool} (h : c ∈ signed negative digits) : c = '-' ∨ c ∈ digits := by
  cases negative with
  | false => exact .inr h
  | true => exact List.mem_cons.mp h

theorem not_mem_of_isDigit {other : Char} (hdigits : ∀ c ∈ digits, Text.isDigit c = true)
    (hother : Text.isDigit other = false) : other ∉ digits := fun hmem => by
  rw [hdigits other hmem] at hother
  cases hother

theorem splitSign_signed (negative : Bool) (hdigits : ∀ c ∈ digits, Text.isDigit c = true) :
    splitSign (signed negative digits) = (negative, digits) := by
  cases negative with
  | true => rfl
  | false =>
    cases digits with
    | nil => rfl
    | cons c rest =>
      have hminus : c ≠ '-' := fun h =>
        not_mem_of_isDigit hdigits (by decide : Text.isDigit '-' = false) (h ▸ List.mem_cons_self)
      have hplus : c ≠ '+' := fun h =>
        not_mem_of_isDigit hdigits (by decide : Text.isDigit '+' = false) (h ▸ List.mem_cons_self)
      simp [signed, splitSign, hminus, hplus]

theorem trimSpaces_signed (negative : Bool) (hdigits : ∀ c ∈ digits, Text.isDigit c = true) :
    Text.trimSpaces (signed negative digits) = signed negative digits := by
  refine Text.trimSpaces_eq_self fun c hc => ?_
  rcases mem_signed hc with rfl | hdigit
  · decide
  · exact Text.not_isSpace_of_isDigit (hdigits c hdigit)

theorem dropBaseMark_ten (cs : List Char) : dropBaseMark 10 cs = cs := by
  unfold dropBaseMark
  extract_lets marks
  have hmarks : marks = [] := rfl
  clear_value marks
  rw [hmarks]
  split <;> rfl

/-- Where there are no underscores none is out of place. -/
theorem underscoresApart_of_not_mem (after : Bool) (h : '_' ∉ cs) :
    underscoresApart after cs = (after || !cs.isEmpty) := by
  induction cs generalizing after with
  | nil => simp [underscoresApart]
  | cons c rest ih =>
    have hc : c ≠ '_' := fun hc => h (hc ▸ List.mem_cons_self)
    rw [underscoresApart]
    · simp [ih true fun hrest => h (List.mem_cons_of_mem _ hrest)]
    · exact hc

/-- Of the digits exactly the decimal ones stand in numerals of base ten. -/
theorem isNumeralChar_of_isDigit (hdigit : Text.isDigit c = true) :
    isNumeralChar 10 c = (Text.decimalValue? c).isSome := by
  cases hvalue : Text.decimalValue? c with
  | some d =>
    have hd := Text.decimalValue?_lt hvalue
    simp [isNumeralChar, digitValue?, hvalue, hd]
  | none =>
    have hhigh := Text.not_ascii_of_isDigit hdigit hvalue
    have hne : c ≠ '_' := by
      rintro rfl
      exact absurd hhigh (by decide)
    have hletter : digitValue? c = none := by
      simp only [digitValue?, hvalue]
      rw [if_neg (by omega), if_neg (by omega)]
    simp [isNumeralChar, hletter, hne]

theorem takeWhile_isNumeralChar_eq_self_iff (hdigits : ∀ c ∈ digits, Text.isDigit c = true) :
    digits.takeWhile (isNumeralChar 10) = digits ↔
      ∀ c ∈ digits, (Text.decimalValue? c).isSome = true := by
  rw [List.takeWhile_eq_self_iff]
  exact forall₂_congr fun c hc => by rw [isNumeralChar_of_isDigit (hdigits c hc)]

/-- A text of digits is refused exactly if one of them is not decimal or if there are more of them
than are read. -/
theorem readInteger_error_iff (negative : Bool) (hdigits : ∀ c ∈ digits, Text.isDigit c = true)
    (hne : digits ≠ []) (htext : text.toList = signed negative digits) :
    (∃ f, readInteger 10 text = .error f) ↔
      (∃ c ∈ digits, Text.decimalValue? c = none) ∨ digitLimit < digits.length := by
  have hread := takeWhile_isNumeralChar_eq_self_iff hdigits
  unfold readInteger
  rw [htext, trimSpaces_signed negative hdigits, splitSign_signed negative hdigits]
  simp only [dropBaseMark_ten]
  by_cases hdecimal : ∀ c ∈ digits, (Text.decimalValue? c).isSome = true
  · have hvalues : (digits.filterMap digitValue?).length = digits.length := by
      refine List.filterMap_length_eq_length.mpr fun c hc => ?_
      obtain ⟨d, hd⟩ := Option.isSome_iff_exists.mp (hdecimal c hc)
      simp [digitValue?, hd]
    have hapart : underscoresApart false digits = true := by
      rw [underscoresApart_of_not_mem false (not_mem_of_isDigit hdigits (by decide))]
      simpa using hne
    have hnone : ¬∃ c ∈ digits, Text.decimalValue? c = none := by
      rintro ⟨c, hc, hvalue⟩
      simpa [hvalue] using hdecimal c hc
    rw [hread.mpr hdecimal, hapart, hvalues, or_iff_right hnone]
    by_cases hlong : digitLimit < digits.length <;> simp [hlong, isLimited]
  · -- The numeral ends before the first digit that is not decimal.
    have hshort : (digits.takeWhile (isNumeralChar 10)).length < digits.length := by
      have hinitial := List.takeWhile_prefix (l := digits) (isNumeralChar 10)
      refine lt_of_le_of_ne hinitial.length_le fun hlength => hdecimal ?_
      exact hread.mp (hinitial.eq_of_length hlength)
    have hsome : ∃ c ∈ digits, Text.decimalValue? c = none := by simpa using hdecimal
    refine iff_of_true ?_ (.inl hsome)
    rw [if_pos hshort]
    split
    · exact ⟨_, rfl⟩
    · split <;> exact ⟨_, rfl⟩

end ReleasePackaging.Number
