import ReleasePackaging.Number.Integer
import ReleasePackaging.Text.LowerCase

/-!
# Digits among the characters

A digit of any script is no white space and has no lower case, and only decimal digits are
characters of ASCII.
-/
namespace ReleasePackaging.Text

variable {c : Char} {cs : List Char}

theorem decimalValue?_lt {d : Nat} (h : decimalValue? c = some d) : d < 10 := by
  unfold decimalValue? at h
  extract_lets n at h
  split at h
  · split at h
    · cases h
      omega
    · cases h
  · obtain ⟨first, hfirst, rfl⟩ := Option.map_eq_some_iff.mp h
    have hrange := List.find?_some hfirst
    simp only [Bool.and_eq_true, decide_eq_true_eq] at hrange
    omega

/-- The digits of all kinds, as closed ranges of code points. -/
def digitRanges : List (Nat × Nat) :=
  (0x30, 0x39) :: decimalZeros.map (fun first => (first, first + 9)) ++ otherDigitRanges

theorem inRanges_iff {ranges : List (Nat × Nat)} {n : Nat} :
    inRanges ranges n = true ↔ ∃ range ∈ ranges, range.1 ≤ n ∧ n ≤ range.2 := by
  simp [inRanges]

theorem inRanges_of_isDigit (h : isDigit c = true) : inRanges digitRanges c.toNat = true := by
  rw [inRanges_iff]
  simp only [isDigit, Bool.or_eq_true, Option.isSome_iff_exists, Bool.and_eq_true] at h
  rcases h with ⟨d, hd⟩ | ⟨_, hother⟩
  · unfold decimalValue? at hd
    extract_lets n at hd
    split at hd
    · split at hd
      · next hascii => exact ⟨(0x30, 0x39), by simp [digitRanges], hascii⟩
      · cases hd
    · obtain ⟨first, hfirst, _⟩ := Option.map_eq_some_iff.mp hd
      have hrange := List.find?_some hfirst
      simp only [Bool.and_eq_true, decide_eq_true_eq] at hrange
      exact ⟨(first, first + 9), by simp [digitRanges, List.mem_of_find?_eq_some hfirst], hrange⟩
  · obtain ⟨range, hrange, hn⟩ := inRanges_iff.mp hother
    exact ⟨range, by simp [digitRanges, hrange], hn⟩

/-- Whether no code point lies in a range of each of two lists. -/
def areApart (ranges others : List (Nat × Nat)) : Bool :=
  ranges.all fun a => others.all fun b => Nat.blt a.2 b.1 || Nat.blt b.2 a.1

theorem not_inRanges {ranges others : List (Nat × Nat)} {n : Nat}
    (hapart : areApart ranges others = true) (h : inRanges ranges n = true) :
    inRanges others n = false := by
  rw [Bool.eq_false_iff]
  intro hother
  obtain ⟨a, ha, hlow, hhigh⟩ := inRanges_iff.mp h
  obtain ⟨b, hb, hlow', hhigh'⟩ := inRanges_iff.mp hother
  have hbetween := List.all_eq_true.mp (List.all_eq_true.mp hapart a ha) b hb
  simp only [Bool.or_eq_true, Nat.blt_eq] at hbetween
  omega

theorem not_isSpace_of_isDigit (h : isDigit c = true) : isSpace c = false := by
  have hblank : isBlank c = false := not_inRanges (by decide) (inRanges_of_isDigit h)
  rw [isSpace, hblank, Bool.false_and]

/-- A digit that is not decimal is no character of ASCII. -/
theorem not_ascii_of_isDigit (hdigit : isDigit c = true) (hvalue : decimalValue? c = none) :
    0x80 ≤ c.toNat := by
  simp only [isDigit, hvalue, Option.isSome_none, Bool.false_or, Bool.and_eq_true,
    decide_eq_true_eq] at hdigit
  exact hdigit.1

theorem lowerSimple_of_isDigit (h : isDigit c = true) : lowerSimple c = c := by
  have hcapital : inRanges (lowerCaseRuns.map fun run => (run.1, run.2.1)) c.toNat = false :=
    not_inRanges (by decide +kernel) (inRanges_of_isDigit h)
  have hletter : inRanges [(0x41, 0x5A)] c.toNat = false :=
    not_inRanges (by decide) (inRanges_of_isDigit h)
  unfold lowerSimple
  extract_lets n
  split
  · rw [if_neg (by simpa [inRanges] using hletter)]
  · split
    · next a b step distance hrun =>
      have hmatch := List.find?_some hrun
      simp only [Bool.and_eq_true, decide_eq_true_eq] at hmatch
      refine absurd (inRanges_iff.mpr ⟨(a, b), ?_, hmatch.1⟩) (Bool.eq_false_iff.mp hcapital)
      exact List.mem_map_of_mem (List.mem_of_find?_eq_some hrun)
    · rfl

theorem lowerFrom_eq_self (before : List Char)
    (hcs : ∀ c ∈ cs, lowerSimple c = c ∧ c ≠ 'Σ' ∧ c ≠ 'İ') : lowerFrom before cs = cs := by
  induction cs generalizing before with
  | nil => rfl
  | cons c rest ih =>
    obtain ⟨hsimple, hsigma, hdotted⟩ := hcs c List.mem_cons_self
    rw [lowerFrom, if_neg hsigma, if_neg hdotted, hsimple,
      ih _ fun c hc => hcs c (List.mem_cons_of_mem _ hc)]

theorem lower_eq_self_of_isDigit {text : String}
    (htext : ∀ c ∈ text.toList, isDigit c = true ∨ c = '-') : lower text = text := by
  rw [lower, lowerFrom_eq_self, String.ofList_toList]
  intro c hc
  rcases htext c hc with hdigit | rfl
  · refine ⟨lowerSimple_of_isDigit hdigit, ?_, ?_⟩ <;> rintro rfl <;>
      exact absurd hdigit (by decide)
  · decide

/-! ## White space around a text -/

theorem dropWhile_isSpace_eq_self (hcs : ∀ c ∈ cs, isSpace c = false) :
    cs.dropWhile isSpace = cs := by
  cases cs with
  | nil => rfl
  | cons c rest => rw [List.dropWhile_cons, hcs c List.mem_cons_self, if_neg Bool.false_ne_true]

theorem trimSpaces_eq_self (hcs : ∀ c ∈ cs, isSpace c = false) : trimSpaces cs = cs := by
  have hreverse : ∀ c ∈ cs.reverse, isSpace c = false := fun c hc =>
    hcs c (List.mem_reverse.mp hc)
  rw [trimSpaces, dropWhile_isSpace_eq_self hcs, dropWhile_isSpace_eq_self hreverse,
    List.reverse_reverse]

end ReleasePackaging.Text
