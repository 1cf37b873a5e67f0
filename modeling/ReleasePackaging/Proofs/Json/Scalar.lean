import ReleasePackaging.Json.Reader
import ReleasePackaging.Json.Writer
import ReleasePackaging.Proofs.Number.Decimal

/-!
# Scalars read back from JSON

Every character of a text is escaped by characters that the reader takes back as that character: a
letter for it, one code unit, or two surrogates. After the digits of an integer comes what ends a
value, never a fraction or an exponent, so that the reader takes all digits and nothing more.
-/
namespace ReleasePackaging.Json

open Text (hexPadded)

/-! ## Hexadecimal digits -/

theorem hexPadded_one {n : Nat} (hn : n < 16) : hexPadded 1 n = [Nat.digitChar n] := by
  unfold hexPadded
  rw [Nat.toDigits_of_lt_base hn]
  rfl

/-- The last digit of a padded number is its remainder, the digits before it are its quotient. -/
theorem hexPadded_succ (width n : Nat) :
    hexPadded (width + 2) n = hexPadded (width + 1) (n / 16) ++ [Nat.digitChar (n % 16)] := by
  unfold hexPadded
  by_cases hn : n < 16
  · have hquotient : n / 16 = 0 := Nat.div_eq_of_lt hn
    rw [hquotient, Nat.mod_eq_of_lt hn, Nat.toDigits_of_lt_base hn,
      Nat.toDigits_of_lt_base (by omega)]
    simp only [List.length_singleton, Nat.add_sub_cancel, List.append_cancel_right_eq]
    rw [show width + 2 - 1 = width + 1 from rfl, List.replicate_succ']
    rfl
  · rw [Nat.toDigits_of_base_le (by omega) (by omega : 16 ≤ n)]
    simp only [List.length_append, List.length_singleton, List.append_assoc]
    rw [show width + 2 = width + 1 + 1 from rfl, Nat.add_sub_add_right]

theorem div_lt_pow {width n : Nat} (hn : n < 16 ^ (width + 2)) : n / 16 < 16 ^ (width + 1) := by
  rw [Nat.pow_succ] at hn
  exact Nat.div_lt_of_lt_mul (by omega)

theorem length_hexPadded (width : Nat) {n : Nat} (hn : n < 16 ^ (width + 1)) :
    (hexPadded (width + 1) n).length = width + 1 := by
  induction width generalizing n with
  | zero => rw [hexPadded_one hn, List.length_singleton]
  | succ width ih =>
    have hquotient : n / 16 < 16 ^ (width + 1) := div_lt_pow hn
    rw [hexPadded_succ, List.length_append, ih hquotient, List.length_singleton]

/-- A digit of a number below sixteen adds its value to those before it. -/
theorem hexValue?_append_digit {digits : List Char} {m d : Nat} (hdigits : hexValue? digits = some m)
    (hd : d < 16) : hexValue? (digits ++ [Nat.digitChar d]) = some (m * 16 + d) := by
  have hcode : ∀ d : Fin 16,
      (Nat.digitChar d).toNat = 0x30 + d.val ∧ d.val ≤ 9 ∨
        (Nat.digitChar d).toNat = 0x57 + d.val ∧ 10 ≤ d.val := by decide
  unfold hexValue? at hdigits ⊢
  rw [List.foldlM_append, hdigits]
  simp only [bind, Option.bind, List.foldlM, Bool.and_eq_true, decide_eq_true_eq]
  rcases hcode ⟨d, hd⟩ with ⟨heq, hdecimal⟩ | ⟨heq, hletter⟩
  · simp only [heq] at hdecimal ⊢
    rw [if_pos (by omega), Nat.add_sub_cancel_left]
    rfl
  · simp only [heq] at hletter ⊢
    rw [if_neg (by omega), if_pos (by omega), show 0x57 + d - 0x61 + 10 = d by omega]
    rfl

/-- The digits of a number padded to a width are read as that number. -/
theorem hexValue?_hexPadded (width : Nat) {n : Nat} (hn : n < 16 ^ (width + 1)) :
    hexValue? (hexPadded (width + 1) n) = some n := by
  induction width generalizing n with
  | zero =>
    rw [hexPadded_one hn, ← List.nil_append [Nat.digitChar n], hexValue?_append_digit rfl hn]
    simp
  | succ width ih =>
    have hquotient : n / 16 < 16 ^ (width + 1) := div_lt_pow hn
    rw [hexPadded_succ, hexValue?_append_digit (ih hquotient) (Nat.mod_lt _ (by omega)),
      Nat.div_add_mod']

/-- A code unit is four digits that stand for it. -/
theorem exists_digits {n : Nat} (hn : n < 0x10000) :
    ∃ a b c d, hexPadded 4 n = [a, b, c, d] ∧ hexValue? [a, b, c, d] = some n := by
  have hlength := length_hexPadded 3 hn
  have hvalue := hexValue?_hexPadded 3 hn
  match hexPadded 4 n, hlength, hvalue with
  | [a, b, c, d], _, hvalue => exact ⟨a, b, c, d, rfl, hvalue⟩

/-! ## Characters -/

variable {opening : Nat}

theorem readString_unit {n : Nat} (hn : n < 0x10000) (hsingle : n < 0xD800 ∨ 0xDFFF < n)
    (e : Char) (tail : List Char) :
    readString opening (unitEscape n ++ e :: tail) =
      consChar (Char.ofNat n) (readString opening (e :: tail)) := by
  obtain ⟨a, b, c, d, hdigits, hvalue⟩ := exists_digits hn
  have hhigh : (decide (0xD800 ≤ n) && decide (n ≤ 0xDBFF)) = false := by
    simp
    omega
  have hchar : charOfUnit n = Char.ofNat n := by
    unfold charOfUnit
    rw [if_neg]
    simp
    omega
  rw [unitEscape, hdigits]
  simp only [List.cons_append, List.nil_append]
  rw [readString, hvalue]
  simp only [hhigh, hchar, Bool.false_and]
  rfl

theorem readString_pair {high low : Nat} (hhigh : 0xD800 ≤ high ∧ high ≤ 0xDBFF)
    (hlow : 0xDC00 ≤ low ∧ low ≤ 0xDFFF) (e : Char) (tail : List Char) :
    readString opening (unitEscape high ++ unitEscape low ++ e :: tail) =
      consChar (charOfPair high low) (readString opening (e :: tail)) := by
  obtain ⟨a, b, c, d, hdigits, hvalue⟩ := exists_digits (n := high) (by omega)
  obtain ⟨a', b', c', d', hdigits', hvalue'⟩ := exists_digits (n := low) (by omega)
  rw [unitEscape, unitEscape, hdigits, hdigits']
  simp only [List.cons_append, List.nil_append]
  rw [readString, hvalue]
  simp only [hhigh, hlow, hvalue', decide_true, Bool.true_and, beq_self_eq_true, if_true]

theorem readString_letter {letter c : Char} (hletter : escaped? letter = some c)
    (tail : List Char) :
    readString opening ('\\' :: letter :: tail) = consChar c (readString opening tail) := by
  have hunit : letter ≠ 'u' := by
    rintro rfl
    cases hletter
  rw [readString, hletter]
  · intro _ _ _ _ _ _ hu
    exact absurd hu hunit
  · exact hunit

theorem readString_plain {c : Char} (hquote : c ≠ '"') (hbackslash : c ≠ '\\') (hc : 0x20 ≤ c.toNat)
    (tail : List Char) :
    readString opening (c :: tail) = consChar c (readString opening tail) := by
  rw [readString]
  · simp
    omega
  all_goals simp_all

/-- The two surrogates of a character above the first plane. -/
def pairEscape (c : Char) : List Char :=
  unitEscape (0xD800 + (c.toNat - 0x10000) / 0x400) ++
    unitEscape (0xDC00 + (c.toNat - 0x10000) % 0x400)

/-- A character is escaped by a letter, by its code unit, not at all, or by two surrogates. -/
theorem escapeChar_cases (c : Char) :
    (∃ letter, escaped? letter = some c ∧ escapeChar true c = ['\\', letter]) ∨
      (c.toNat < 0x10000 ∧ escapeChar true c = unitEscape c.toNat) ∨
      (c ≠ '"' ∧ c ≠ '\\' ∧ 0x20 ≤ c.toNat ∧ c.toNat < 0x7F ∧ escapeChar true c = [c]) ∨
      (0x10000 ≤ c.toNat ∧ escapeChar true c = pairEscape c) := by
  unfold escapeChar
  by_cases hquote : c = '"'
  · exact .inl ⟨'"', by rw [hquote]; rfl, if_pos hquote⟩
  rw [if_neg hquote]
  by_cases hbackslash : c = '\\'
  · exact .inl ⟨'\\', by rw [hbackslash]; rfl, if_pos hbackslash⟩
  rw [if_neg hbackslash]
  by_cases hfeed : c = '\n'
  · exact .inl ⟨'n', by rw [hfeed]; rfl, if_pos hfeed⟩
  rw [if_neg hfeed]
  by_cases hreturn : c = '\r'
  · exact .inl ⟨'r', by rw [hreturn]; rfl, if_pos hreturn⟩
  rw [if_neg hreturn]
  by_cases htab : c = '\t'
  · exact .inl ⟨'t', by rw [htab]; rfl, if_pos htab⟩
  rw [if_neg htab]
  by_cases hback : c = '\x08'
  · exact .inl ⟨'b', by rw [hback]; rfl, if_pos hback⟩
  rw [if_neg hback]
  by_cases hform : c = '\x0c'
  · exact .inl ⟨'f', by rw [hform]; rfl, if_pos hform⟩
  rw [if_neg hform]
  by_cases hcontrol : c.toNat < 0x20
  · exact .inr (.inl ⟨by omega, if_pos hcontrol⟩)
  rw [if_neg hcontrol]
  by_cases hplain : c.toNat < 0x7F
  · exact .inr (.inr (.inl ⟨hquote, hbackslash, by omega, hplain, if_pos hplain⟩))
  rw [if_neg hplain, if_neg (by decide)]
  by_cases hunit : c.toNat < 0x10000
  · exact .inr (.inl ⟨hunit, if_pos hunit⟩)
  · exact .inr (.inr (.inr ⟨by omega, if_neg hunit⟩))

theorem toNat_valid (c : Char) : c.toNat < 0xD800 ∨ 0xDFFF < c.toNat ∧ c.toNat < 0x110000 := c.valid

/-- What a character is escaped by is read as that character. -/
theorem readString_escapeChar (c e : Char) (tail : List Char) :
    readString opening (escapeChar true c ++ e :: tail) =
      consChar c (readString opening (e :: tail)) := by
  have hvalid := toNat_valid c
  rcases escapeChar_cases c with ⟨letter, hletter, heq⟩ | ⟨hunit, heq⟩ |
    ⟨hquote, hbackslash, hcontrol, _, heq⟩ | ⟨hpair, heq⟩
  · rw [heq]
    exact readString_letter hletter _
  · rw [heq, readString_unit hunit (by omega), Char.ofNat_toNat]
  · rw [heq]
    exact readString_plain hquote hbackslash hcontrol _
  · have hcode : 0x10000 + (0xD800 + (c.toNat - 0x10000) / 0x400 - 0xD800) * 0x400 +
        (0xDC00 + (c.toNat - 0x10000) % 0x400 - 0xDC00) = c.toNat := by omega
    rw [heq, pairEscape, readString_pair (by omega) (by omega), charOfPair, hcode, Char.ofNat_toNat]

/-- A text between quotation marks is read as that text. -/
theorem readString_escaped (cs rest : List Char) :
    readString opening (cs.flatMap (escapeChar true) ++ '"' :: rest) = .ok (cs, rest) := by
  have hnext (cs : List Char) :
      ∃ e tail, cs.flatMap (escapeChar true) ++ '"' :: rest = e :: tail := by
    cases cs.flatMap (escapeChar true) with
    | nil => exact ⟨_, _, rfl⟩
    | cons e tail => exact ⟨_, _, rfl⟩
  induction cs with
  | nil => rw [List.flatMap_nil, List.nil_append, readString]
  | cons c cs ih =>
    obtain ⟨e, tail, heq⟩ := hnext cs
    rw [List.flatMap_cons, List.append_assoc, heq, readString_escapeChar, ← heq, ih]
    rfl

/-! ## Integers -/

/-- What may follow a written value: nothing, a comma or a new line. -/
def EndsValue (rest : List Char) : Prop := ∀ c tail, rest = c :: tail → c = ',' ∨ c = '\n'

variable {rest digits : List Char}

theorem digitRun_append (hdigits : ∀ c ∈ digits, c.isDigit) (hrest : EndsValue rest) :
    digitRun (digits ++ rest) = (digits, rest) := by
  have hend : rest.takeWhile isDigit = [] ∧ rest.dropWhile isDigit = rest := by
    cases rest with
    | nil => exact ⟨rfl, rfl⟩
    | cons c tail => rcases hrest c tail rfl with rfl | rfl <;> exact ⟨rfl, rfl⟩
  have hall : ∀ c ∈ digits, isDigit c = true := hdigits
  rw [digitRun, List.takeWhile_append_of_pos hall, List.dropWhile_append_of_pos hall, hend.1, hend.2,
    List.append_nil]

/-- The digits of a number do not begin with zero unless the number is zero. -/
theorem toDigits_eq_cons {n : Nat} (hn : 0 < n) :
    ∃ c tail, Nat.toDigits 10 n = c :: tail ∧ c ≠ '0' := by
  induction n using Nat.strongRecOn with
  | ind n ih =>
    by_cases hsmall : n < 10
    · have hdigit : ∀ d : Fin 10, 0 < d.val → Nat.digitChar d.val ≠ '0' := by decide
      exact ⟨_, [], Nat.toDigits_of_lt_base hsmall, hdigit ⟨n, hsmall⟩ hn⟩
    · obtain ⟨c, tail, heq, hzero⟩ := ih (n / 10) (by omega) (by omega)
      refine ⟨c, tail ++ [Nat.digitChar (n % 10)], ?_, hzero⟩
      rw [Nat.toDigits_of_base_le (by decide) (by omega), heq, List.cons_append]

theorem wholePart?_toDigits (n : Nat) (hrest : EndsValue rest) :
    wholePart? (Nat.toDigits 10 n ++ rest) = some (Nat.toDigits 10 n, rest) := by
  rcases Nat.eq_zero_or_pos n with rfl | hn
  · rfl
  · obtain ⟨c, tail, heq, hzero⟩ := toDigits_eq_cons hn
    have hdigits : ∀ c ∈ Nat.toDigits 10 n, c.isDigit := fun c => Number.isDigit_of_mem_toDigits
    have hrun := digitRun_append hdigits hrest
    rw [heq] at hdigits hrun ⊢
    have hc : isDigit c = true := hdigits c List.mem_cons_self
    unfold wholePart?
    split
    · next hcons =>
      cases hcons
      exact absurd rfl hzero
    · next hcons =>
      cases hcons
      rw [if_pos hc, hrun]
    · next hcons => cases hcons

theorem fractionPart_of_endsValue (hrest : EndsValue rest) : fractionPart rest = ([], rest) := by
  cases rest with
  | nil => rfl
  | cons c tail => rcases hrest c tail rfl with rfl | rfl <;> rfl

theorem exponentPart_of_endsValue (hrest : EndsValue rest) : exponentPart rest = ([], rest) := by
  cases rest with
  | nil => rfl
  | cons c tail => rcases hrest c tail rfl with rfl | rfl <;> rfl

theorem readNumber_sign (negative : Bool) {n : Int} (hdigits : ∀ c ∈ digits, c.isDigit)
    (hrest : EndsValue rest) (hwhole : wholePart? (digits ++ rest) = some (digits, rest))
    (hread : Number.readInteger 10
      (String.ofList ((if negative then ['-'] else []) ++ digits)) = .ok n) :
    readNumber ((if negative then ['-'] else []) ++ digits ++ rest) = .ok (.int n, rest) := by
  have hfraction := fractionPart_of_endsValue hrest
  have hexponent := exponentPart_of_endsValue hrest
  cases negative with
  | true =>
    simp only [if_true, List.cons_append, List.nil_append] at hread ⊢
    unfold readNumber
    simp only [hwhole, hfraction, hexponent, List.cons_append, List.nil_append,
      List.append_nil, List.isEmpty_nil, Bool.and_self, if_true, hread]
  | false =>
    simp only [Bool.false_eq_true, if_false, List.nil_append] at hread ⊢
    cases digits with
    | nil =>
      cases rest with
      | nil => cases hwhole
      | cons c tail => rcases hrest c tail rfl with rfl | rfl <;> cases hwhole
    | cons c tail =>
      have hminus : c ≠ '-' := by
        rintro rfl
        exact absurd (hdigits '-' List.mem_cons_self) (by decide)
      rw [List.cons_append] at hwhole ⊢
      unfold readNumber
      simp only [List.cons.injEq, hminus, false_and, false_implies, implies_true, hwhole, hfraction,
        hexponent, List.nil_append, List.append_nil, List.isEmpty_nil, Bool.and_self, if_true, hread]

/-- An integer with no more digits than are read is read up to what ends it. -/
theorem readNumber_toString {n : Int} (hn : n.natAbs < 10 ^ Number.digitLimit)
    (hrest : EndsValue rest) : readNumber ((toString n).toList ++ rest) = .ok (.int n, rest) := by
  have hdigits : ∀ c ∈ Nat.toDigits 10 n.natAbs, c.isDigit := fun c => Number.isDigit_of_mem_toDigits
  have hsign := Number.toList_toString n
  have hread := Number.readInteger_toString hn
  rw [← String.ofList_toList (s := toString n), hsign] at hread
  have hnumber := readNumber_sign (n := n) (decide (n < 0)) hdigits hrest
    (wholePart?_toDigits n.natAbs hrest) (by simpa only [decide_eq_true_eq] using hread)
  rw [hsign]
  simpa only [decide_eq_true_eq] using hnumber

/-- No word begins as an integer does. -/
theorem readWord?_toString (n : Int) (rest : List Char) :
    readWord? ((toString n).toList ++ rest) = none := by
  obtain ⟨c, tail, heq⟩ : ∃ c tail, Nat.toDigits 10 n.natAbs = c :: tail :=
    List.exists_cons_of_ne_nil Nat.toDigits_ne_nil
  have hdigit : c.isDigit := Number.isDigit_of_mem_toDigits (heq ▸ List.mem_cons_self)
  have hother {letter : Char} (hletter : letter.isDigit = false) : (letter == c) = false := by
    refine beq_false_of_ne ?_
    rintro rfl
    exact absurd hdigit (by rw [hletter]; nofun)
  rw [Number.toList_toString, heq]
  split <;> simp [readWord?, wordValues, List.isPrefixOf, hother]

end ReleasePackaging.Json
