import ReleasePackaging.Number.Power
import ReleasePackaging.Proofs.Number.Digits

/-!
# Decimal numerals

The digits that an integer is written with are read as that integer, as long as there are no more of
them than are read.
-/
namespace ReleasePackaging.Number

variable {c : Char} {digits : List Char}

theorem decimalValue?_of_isDigit (hdigit : c.isDigit) :
    Text.decimalValue? c = some (c.toNat - 0x30) := by
  obtain ⟨hlow, hhigh⟩ := Char.isDigit_iff_toNat.mp hdigit
  change 0x30 ≤ c.toNat at hlow
  change c.toNat ≤ 0x39 at hhigh
  unfold Text.decimalValue?
  rw [if_pos (by omega), if_pos ⟨hlow, hhigh⟩]

theorem digitValue?_of_isDigit (hdigit : c.isDigit) : digitValue? c = some (c.toNat - 0x30) := by
  rw [digitValue?, decimalValue?_of_isDigit hdigit]

theorem isDigit_of_isDigit (hdigit : c.isDigit) : Text.isDigit c = true := by
  rw [Text.isDigit, decimalValue?_of_isDigit hdigit]
  rfl

/-- The digits of a number stand for that number. -/
theorem ofDigits_toDigits (n : Nat) :
    ofDigits 10 ((Nat.toDigits 10 n).map fun c => c.toNat - 0x30) = n := by
  have hcommon := Nat.ofDigitChars_ten_toDigits (n := n)
  simp only [Nat.ofDigitChars_eq_foldl, Nat.mul_comm 10] at hcommon
  rw [ofDigits, List.foldl_map]
  exact hcommon

theorem isDigit_of_mem_toDigits {n : Nat} (hc : c ∈ Nat.toDigits 10 n) : c.isDigit :=
  Nat.isDigit_of_mem_toDigits (by decide) (by decide) hc

theorem filterMap_digitValue? (hdigits : ∀ c ∈ digits, c.isDigit) :
    digits.filterMap digitValue? = digits.map fun c => c.toNat - 0x30 := by
  induction digits with
  | nil => rfl
  | cons c rest ih =>
    rw [List.filterMap_cons_some (digitValue?_of_isDigit (hdigits c List.mem_cons_self)),
      ih fun c hc => hdigits c (List.mem_cons_of_mem _ hc), List.map_cons]

/-- The characters of an integer: a minus sign if it is negative, and its digits. -/
theorem toList_toString (n : Int) :
    (toString n).toList = (if n < 0 then ['-'] else []) ++ Nat.toDigits 10 n.natAbs := by
  rw [Int.toString_eq_repr, Int.repr_eq_if]
  by_cases hn : n < 0
  · rw [if_neg (by omega), if_pos hn, String.toList_append, Nat.toList_repr,
      show (-n).toNat = n.natAbs by omega]
    rfl
  · rw [if_pos (by omega), if_neg hn, Nat.toList_repr, show n.toNat = n.natAbs by omega]
    rfl

/-- An integer with no more digits than are read is read from its own text. -/
theorem readInteger_toString {n : Int} (hn : n.natAbs < 10 ^ digitLimit) :
    readInteger 10 (toString n) = .ok n := by
  have hascii : ∀ c ∈ Nat.toDigits 10 n.natAbs, c.isDigit := fun c => isDigit_of_mem_toDigits
  have hdigits : ∀ c ∈ Nat.toDigits 10 n.natAbs, Text.isDigit c = true := fun c hc =>
    isDigit_of_isDigit (hascii c hc)
  have htext : (toString n).toList = signed (n < 0) (Nat.toDigits 10 n.natAbs) := by
    rw [toList_toString]
    simp [signed]
  have hrun : (Nat.toDigits 10 n.natAbs).takeWhile (isNumeralChar 10) =
      Nat.toDigits 10 n.natAbs := by
    refine (takeWhile_isNumeralChar_eq_self_iff hdigits).mpr fun c hc => ?_
    rw [decimalValue?_of_isDigit (hascii c hc)]
    rfl
  have hapart : underscoresApart false (Nat.toDigits 10 n.natAbs) = true := by
    rw [underscoresApart_of_not_mem false (not_mem_of_isDigit hdigits (by decide))]
    simp
  have hlength : (Nat.toDigits 10 n.natAbs).length ≤ digitLimit :=
    (Nat.length_toDigits_le_iff (by decide) (by decide)).mpr hn
  unfold readInteger
  rw [htext, trimSpaces_signed _ hdigits, splitSign_signed _ hdigits]
  simp only [dropBaseMark_ten, hrun, filterMap_digitValue? hascii, List.length_map,
    ofDigits_toDigits, hapart, Bool.not_true, Nat.not_lt.mpr hlength, Nat.lt_irrefl, decide_false,
    Bool.and_false, if_false, decide_eq_true_eq]
  rw [if_neg Bool.false_ne_true, if_neg Bool.false_ne_true]
  by_cases hneg : n < 0
  · rw [if_pos hneg, Int.ofNat_natAbs_of_nonpos (by omega), Int.neg_neg]
  · rw [if_neg hneg, Int.natAbs_of_nonneg (by omega)]

end ReleasePackaging.Number
