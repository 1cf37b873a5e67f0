import ReleasePackaging.Text.Blank

/-!
# The words of a text

The words of a text are what is left of it when it is split at each blank, parts with nothing in them
left out. So a blank between two texts keeps their words apart, and words joined by spaces are found
again.
-/
namespace ReleasePackaging.Text

/-- The maximal runs of characters that are not blank, in order. -/
def runs (cs : List Char) : List (List Char) := (cs.splitOnP isBlank).filter (· ≠ [])

/-- Whether a text is a word: not empty, and without blanks. -/
def IsWord (text : String) : Prop := text ≠ "" ∧ ∀ c ∈ text.toList, isBlank c = false

variable {c : Char} {cs rest word : List Char} {ws : List String}

theorem runs_append_blank (hc : isBlank c = true) : runs (cs ++ c :: rest) = runs cs ++ runs rest := by
  unfold runs
  rw [List.splitOnP_append_cons cs rest hc, List.filter_append]

theorem runs_of_no_blank (h : ∀ c ∈ cs, isBlank c = false) :
    runs cs = if cs = [] then [] else [cs] := by
  rw [runs, List.splitOnP_eq_singleton h]
  by_cases hcs : cs = [] <;> simp [hcs]

theorem runs_reverse (hword : ∀ c ∈ word, isBlank c = false) :
    runs word.reverse = if word = [] then [] else [word.reverse] := by
  rw [runs_of_no_blank (by simpa using hword)]
  simp

/-- The words that are found with the beginning of one at hand are the runs of the whole text. -/
theorem wordsFrom_eq_runs (hword : ∀ c ∈ word, isBlank c = false) :
    wordsFrom word cs = (runs (word.reverse ++ cs)).map String.ofList := by
  -- The beginning of the current word holds no blank, so it is a run of its own once a blank comes.
  fun_induction wordsFrom word cs with
  | case1 word hempty =>
    rw [List.append_nil, runs_reverse hword, if_pos (List.isEmpty_iff.mp hempty)]
    rfl
  | case2 word hsome =>
    rw [List.append_nil, runs_reverse hword, if_neg (mt List.isEmpty_iff.mpr hsome)]
    rfl
  | case3 word c rest hc hempty ih =>
    rw [ih (by simp), runs_append_blank hc, runs_reverse hword, if_pos (List.isEmpty_iff.mp hempty)]
    rfl
  | case4 word c rest hc hsome ih =>
    rw [ih (by simp), runs_append_blank hc, runs_reverse hword,
      if_neg (mt List.isEmpty_iff.mpr hsome)]
    rfl
  | case5 word c rest hc ih =>
    have hlonger : ∀ d ∈ c :: word, isBlank d = false := by
      simpa using ⟨Bool.not_eq_true _ ▸ hc, hword⟩
    rw [ih hlonger]
    simp

/-- The words of a text are its runs of characters that are not blank. -/
theorem words_eq_runs (text : String) : words text = (runs text.toList).map String.ofList :=
  wordsFrom_eq_runs (by simp)

theorem runs_of_isWord {text : String} (h : IsWord text) : runs text.toList = [text.toList] := by
  have hsome : text.toList ≠ [] := by simpa using h.1
  simp [runs_of_no_blank h.2, hsome]

/-- Words joined by spaces are the words of what they give. -/
theorem words_intercalate (h : ∀ w ∈ ws, IsWord w) : words (" ".intercalate ws) = ws := by
  rw [words_eq_runs, String.toList_intercalate]
  have hruns : runs ([' '].intercalate (ws.map String.toList)) = ws.map String.toList := by
    induction ws with
    | nil => rfl
    | cons w ws ih =>
      have hw : runs w.toList = [w.toList] := runs_of_isWord (h w List.mem_cons_self)
      specialize ih fun v hv => h v (List.mem_cons_of_mem _ hv)
      by_cases hlast : ws = []
      · subst hlast
        simpa using hw
      · rw [List.map_cons, List.intercalate_cons_of_ne_nil (by simpa using hlast),
          List.append_assoc, List.singleton_append, runs_append_blank (by decide), hw, ih]
        rfl
  rw [show " ".toList = [' '] from rfl, hruns, List.map_map]
  simp [Function.comp_def]

end ReleasePackaging.Text
