import ReleasePackaging.Text.Lines

/-!
# The lines of a text

A text is read with each line end as one line feed. Its lines hold no line feeds, there is one for each
line feed and one for what may follow the last of them, and joined by line feeds they give the text
without its final line feed. So nothing but the final line feed is lost, and nothing else ends a line.
-/
namespace ReleasePackaging.Text

/-- A text with each pair of carriage return and line feed, and each other carriage return, as one line
feed. -/
inductive IsUnified : List Char → List Char → Prop where
  | nil : IsUnified [] []
  | pair {cs unified : List Char} (h : IsUnified cs unified) :
      IsUnified ('\r' :: '\n' :: cs) ('\n' :: unified)
  | alone {cs unified : List Char} (hnext : cs.head? ≠ some '\n') (h : IsUnified cs unified) :
      IsUnified ('\r' :: cs) ('\n' :: unified)
  | other {c : Char} {cs unified : List Char} (hc : c ≠ '\r') (h : IsUnified cs unified) :
      IsUnified (c :: cs) (c :: unified)

/-- A text without its final line feed, if it ends with one. -/
def withoutFinalFeed (cs : List Char) : List Char :=
  if cs.getLast? = some '\n' then cs.dropLast else cs

/-- The number of lines of a text: one for each line feed, and one for what follows the last of them, if
anything does. -/
def lineCount (cs : List Char) : Nat :=
  cs.count '\n' + if cs = [] ∨ cs.getLast? = some '\n' then 0 else 1

variable {cs line rest unified : List Char}

/-! ## Line ends -/

theorem isUnified_unifyLineEnds (cs : List Char) : IsUnified cs (unifyLineEnds cs) := by
  fun_induction unifyLineEnds cs with
  | case1 => exact .nil
  | case2 rest ih => exact .pair ih
  | case3 c rest hpair ih =>
    by_cases hc : c = '\r'
    · subst hc
      rw [if_pos rfl]
      refine .alone (fun hnext => ?_) ih
      obtain ⟨tail, rfl⟩ := List.head?_eq_some_iff.mp hnext
      exact hpair tail rfl rfl
    · rw [if_neg hc]
      exact .other hc ih

/-- A text without carriage returns is unified as it is. -/
theorem IsUnified.eq_self (h : IsUnified cs unified) (hcs : '\r' ∉ cs) : unified = cs := by
  induction h with
  | nil => rfl
  | pair | alone => simp at hcs
  | other _ _ ih => rw [ih fun hmem => hcs (List.mem_cons_of_mem _ hmem)]

theorem unifyLineEnds_eq_self (hcs : '\r' ∉ cs) : unifyLineEnds cs = cs :=
  (isUnified_unifyLineEnds cs).eq_self hcs

/-! ## The final line feed -/

theorem withoutFinalFeed_of_not_mem (h : '\n' ∉ cs) : withoutFinalFeed cs = cs :=
  if_neg fun hlast => h (List.mem_of_getLast? hlast)

theorem withoutFinalFeed_append_feed (cs : List Char) : withoutFinalFeed (cs ++ ['\n']) = cs := by
  simp [withoutFinalFeed]

theorem withoutFinalFeed_append (hrest : rest ≠ []) :
    withoutFinalFeed (cs ++ '\n' :: rest) = cs ++ '\n' :: withoutFinalFeed rest := by
  obtain ⟨c, tail, rfl⟩ := List.exists_cons_of_ne_nil hrest
  have hlast : (cs ++ '\n' :: c :: tail).getLast? = (c :: tail).getLast? := by
    rw [List.getLast?_append, List.getLast?_cons_cons, List.getLast?_eq_some_getLast (by simp)]
    rfl
  unfold withoutFinalFeed
  rw [hlast]
  split
  · rw [List.dropLast_append_of_ne_nil (by simp)]
    rfl
  · rfl

theorem lineCount_of_not_mem (h : '\n' ∉ cs) : lineCount cs = if cs = [] then 0 else 1 := by
  have hlast : cs.getLast? ≠ some '\n' := fun hlast => h (List.mem_of_getLast? hlast)
  simp [lineCount, List.count_eq_zero_of_not_mem h, hlast]

theorem lineCount_append (h : '\n' ∉ cs) : lineCount (cs ++ '\n' :: rest) = lineCount rest + 1 := by
  have hcount : (cs ++ '\n' :: rest).count '\n' = rest.count '\n' + 1 := by
    rw [List.count_append, List.count_eq_zero_of_not_mem h, List.count_cons_self]
    omega
  have hended : (cs ++ '\n' :: rest = [] ∨ (cs ++ '\n' :: rest).getLast? = some '\n') ↔
      (rest = [] ∨ rest.getLast? = some '\n') := by
    cases rest <;> simp
  simp only [lineCount, hcount, hended]
  omega

/-! ## Lines -/

theorem not_mem_linesFrom (hline : '\n' ∉ line) : ∀ l ∈ linesFrom line cs, '\n' ∉ l := by
  fun_induction linesFrom line cs with
  | case1 => simp
  | case2 => simpa using hline
  | case3 line rest ih => simpa [hline] using ih (by simp)
  | case4 line c rest hc ih => exact ih (by simpa [hline] using Ne.symm hc)

theorem length_linesFrom (cs : List Char) (hline : '\n' ∉ line) :
    (linesFrom line cs).length = lineCount (line.reverse ++ cs) := by
  fun_induction linesFrom line cs with
  | case1 line hempty =>
    rw [List.isEmpty_iff.mp hempty]
    rfl
  | case2 line hempty =>
    have hne : line ≠ [] := fun heq => hempty (List.isEmpty_iff.mpr heq)
    simp [lineCount_of_not_mem, hline, hne]
  | case3 line rest ih =>
    rw [lineCount_append (by simpa using hline), List.length_cons, ih (by simp)]
    rfl
  | case4 line c rest hc ih =>
    rw [ih (by simpa [hline] using Ne.symm hc)]
    simp

theorem linesFrom_eq_nil_iff : linesFrom line cs = [] ↔ line = [] ∧ cs = [] := by
  fun_induction linesFrom line cs with
  | case1 line hempty => simpa using hempty
  | case2 line hempty => simpa using hempty
  | case3 => simp
  | case4 line c rest hc ih => simp [ih]

/-- The lines of a text joined again are the text without its final line feed. -/
theorem intercalate_linesFrom (cs : List Char) (hline : '\n' ∉ line) :
    ['\n'].intercalate (linesFrom line cs) = withoutFinalFeed (line.reverse ++ cs) := by
  fun_induction linesFrom line cs with
  | case1 line hempty =>
    rw [List.isEmpty_iff.mp hempty]
    rfl
  | case2 line hempty => simp [withoutFinalFeed_of_not_mem, hline]
  | case3 line rest ih =>
    by_cases hrest : rest = []
    · subst hrest
      rw [withoutFinalFeed_append_feed]
      simp [linesFrom]
    · have hmore : linesFrom [] rest ≠ [] := fun h => hrest (linesFrom_eq_nil_iff.mp h).2
      rw [withoutFinalFeed_append hrest, List.intercalate_cons_of_ne_nil hmore, ih (by simp)]
      simp
  | case4 line c rest hc ih =>
    rw [ih (by simpa [hline] using Ne.symm hc)]
    simp

/-- The lines of a text hold no line feeds, are as many as it has, and give it without its final line
feed when they are joined. -/
theorem lines_spec (cs : List Char) :
    (∀ line ∈ lines cs, '\n' ∉ line.toList) ∧ (lines cs).length = lineCount cs ∧
      "\n".intercalate (lines cs) = String.ofList (withoutFinalFeed cs) := by
  have hfeed : '\n' ∉ ([] : List Char) := by simp
  refine ⟨fun line hmem => ?_, ?_, ?_⟩
  · obtain ⟨l, hl, rfl⟩ := List.mem_map.mp hmem
    simpa using not_mem_linesFrom hfeed l hl
  · simpa [lines] using length_linesFrom cs hfeed
  · refine String.toList_inj.mp ?_
    have hjoin := intercalate_linesFrom cs hfeed
    simpa [lines, String.toList_intercalate, Function.comp_def] using hjoin

/-- Other separators end no line, and an empty line is one too. -/
example : lines (unifyLineEnds "one\r\n\r\u2028two\n\n".toList) = ["one", "", "\u2028two", ""] := by
  decide

end ReleasePackaging.Text
