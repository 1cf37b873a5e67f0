import ReleasePackaging.Text.LowerCase

/-!
# Small letters of ASCII

A text has a text of ASCII for its lower case only if it is one itself, the small letter k apart, which
the sign for kelvin has as well. So a suffix in any letter case is told by the letters of ASCII.
-/
namespace ReleasePackaging.Text

variable {c d : Char} {cs ds before : List Char} {text small : String}

/-- Whether a character is the small letter of no character outside ASCII. -/
def IsOwnSmall (c : Char) : Prop := 0 < c.toNat ∧ c.toNat < 0x80 ∧ c ≠ 'k'

instance (c : Char) : Decidable (IsOwnSmall c) := inferInstanceAs (Decidable (_ ∧ _ ∧ _))

/-- Characters outside ASCII do not get into it, the sign for kelvin apart. -/
theorem lowerCaseRuns_ascii : ∀ run ∈ lowerCaseRuns,
    0x80 ≤ (run.1 : Int) + run.2.2.2 ∨ run = (0x212A, 0x212A, 1, -8383) := by
  decide +kernel

theorem lowerSimple_ascii (h : c.toNat < 0x80) : lowerSimple c = c.toLower := by
  have hall : ∀ n < 0x80, lowerSimple (Char.ofNat n) = (Char.ofNat n).toLower := by
    decide +kernel
  have hc := hall c.toNat h
  rwa [Char.ofNat_toNat] at hc

theorem toLower_not_ascii (h : ¬ c.toNat < 0x80) : c.toLower = c := by
  unfold Char.toLower
  refine dif_neg fun hcapital => h ?_
  have hlast : c.val.toNat ≤ 'Z'.val.toNat := UInt32.le_iff_toNat_le.mp hcapital.2
  exact Nat.lt_of_le_of_lt hlast (by decide)

/-- A character outside ASCII has no such small letter. -/
theorem not_isOwnSmall_lowerSimple (h : ¬ c.toNat < 0x80) : ¬ IsOwnSmall (lowerSimple c) := by
  unfold lowerSimple
  rw [if_neg h]
  split
  · next first last step distance hfound =>
    have hrange := List.find?_some hfound
    simp only [Bool.and_eq_true, decide_eq_true_eq] at hrange
    obtain ⟨⟨hfirst, hlast⟩, _⟩ := hrange
    rcases lowerCaseRuns_ascii _ (List.mem_of_find?_eq_some hfound) with hbeyond | hkelvin
    · rintro ⟨hpositive, hascii, _⟩
      simp only at hbeyond
      have hnat : 0x80 ≤ ((c.toNat : Int) + distance).toNat := by omega
      unfold Char.ofNat at hpositive hascii
      by_cases hvalid : ((c.toNat : Int) + distance).toNat.isValidChar
      · rw [dif_pos hvalid] at hascii
        exact absurd hascii (Nat.not_lt.mpr hnat)
      · rw [dif_neg hvalid] at hpositive
        cases hpositive
    · cases hkelvin
      rw [Nat.le_antisymm hlast hfirst]
      decide
  · exact fun hsmall => h hsmall.2.1

theorem lowerSimple_eq_iff (hd : IsOwnSmall d) : lowerSimple c = d ↔ c.toLower = d := by
  by_cases h : c.toNat < 0x80
  · rw [lowerSimple_ascii h]
  · rw [toLower_not_ascii h]
    refine iff_of_false (fun heq => not_isOwnSmall_lowerSimple h (heq ▸ hd)) ?_
    rintro rfl
    exact h hd.2.1

/-- A text has such small letters for its lower case if it is the text of them in any letter case. -/
theorem lowerFrom_eq_iff (hds : ∀ d ∈ ds, IsOwnSmall d) :
    lowerFrom before cs = ds ↔ cs.map Char.toLower = ds := by
  induction cs generalizing before ds with
  | nil => rfl
  | cons c rest ih =>
    have hother {c : Char} {cs : List Char} (hc : ¬ IsOwnSmall c) (hmem : c ∈ cs) : cs ≠ ds :=
      fun heq => hc (hds c (heq ▸ hmem))
    have hcapital (h : ¬ IsOwnSmall c.toLower) : (c :: rest).map Char.toLower ≠ ds :=
      hother h List.mem_cons_self
    -- Two characters are not made small on their own: a sigma by its place, a dotted i by two others.
    by_cases hsigma : c = 'Σ'
    · subst hsigma
      have hsmall : ¬ IsOwnSmall (if casedNext before && !casedNext rest then 'ς' else 'σ') := by
        split <;> decide
      rw [lowerFrom, if_pos rfl]
      exact iff_of_false (hother hsmall List.mem_cons_self) (hcapital (by decide))
    by_cases hdotted : c = 'İ'
    · subst hdotted
      have hdot : ¬ IsOwnSmall '\u0307' := by decide
      rw [lowerFrom, if_neg hsigma, if_pos rfl]
      exact iff_of_false (hother hdot (by simp)) (hcapital (by decide))
    rw [lowerFrom, if_neg hsigma, if_neg hdotted, List.map_cons]
    cases ds with
    | nil => simp
    | cons d ds =>
      obtain ⟨hd, hds⟩ := List.forall_mem_cons.mp hds
      rw [List.cons.injEq, List.cons.injEq, lowerSimple_eq_iff hd, ih hds]

theorem lower_eq_iff (hsmall : ∀ d ∈ small.toList, IsOwnSmall d) :
    lower text = small ↔ text.toLower = small := by
  have hascii : text.toLower.toList = text.toList.map Char.toLower := String.toList_map
  rw [← String.toList_inj, ← String.toList_inj, lower, String.toList_ofList, hascii]
  exact lowerFrom_eq_iff hsmall

end ReleasePackaging.Text
