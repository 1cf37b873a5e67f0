import ReleasePackaging.Proofs.Json.Pieces
import ReleasePackaging.Proofs.Json.Scalar

/-!
# Documents read back from JSON

Plain data that is written as a document is read back as itself. The reader is given as many steps as
there are characters, and each of its steps uses up at least one of them.
-/
namespace ReleasePackaging.Json

variable {rest : List Char}

/-! ## Blanks -/

def newLine (level : Nat) : List Char := '\n' :: List.replicate (level * 2) ' '

theorem skipBlanks_cons {c : Char} (hc : isBlank c = false) (tail : List Char) :
    skipBlanks (c :: tail) = c :: tail := by
  rw [skipBlanks, List.dropWhile_cons, hc, if_neg nofun]

theorem skipBlanks_newLine (level : Nat) (tail : List Char) :
    skipBlanks (newLine level ++ tail) = skipBlanks tail := by
  have hblank : ∀ c ∈ newLine level, isBlank c = true := by
    intro c hc
    rcases List.mem_cons.mp hc with rfl | hspace
    · rfl
    · rw [List.eq_of_mem_replicate hspace]
      rfl
  rw [skipBlanks, List.dropWhile_append_of_pos hblank, skipBlanks]

theorem endsValue_comma (tail : List Char) : EndsValue (',' :: tail) := by
  rintro c _ ⟨⟩
  exact .inl rfl

theorem endsValue_newLine (level : Nat) (tail : List Char) : EndsValue (newLine level ++ tail) := by
  rintro c _ ⟨⟩
  exact .inr rfl

/-! ## Layout of lists -/

/-- The characters of some parts, each on a line of its own. -/
def joined (level : Nat) (parts : List String) : List Char :=
  (',' :: newLine level).intercalate (parts.map String.toList)

theorem joined_cons_cons (level : Nat) (part next : String) (parts : List String) :
    joined level (part :: next :: parts) =
      part.toList ++ ',' :: (newLine level ++ joined level (next :: parts)) := by
  rw [joined, List.map_cons, List.map_cons, List.intercalate_cons_cons, List.append_assoc]
  rfl

theorem joined_singleton (level : Nat) (part : String) : joined level [part] = part.toList := by
  simp [joined]

theorem toList_bracketed (opening closing : String) (level : Nat) {parts : List String}
    (hparts : parts ≠ []) :
    (bracketed fileLayout level opening closing parts).toList =
      opening.toList ++ (newLine (level + 1) ++ (joined (level + 1) parts ++
        (newLine level ++ closing.toList))) := by
  unfold bracketed
  rw [if_neg (by simpa using hparts)]
  simp only [Layout.lineBreak, Layout.separator, fileLayout, String.toList_append,
    String.toList_intercalate, String.toList_ofList, joined, newLine, List.append_assoc]
  rfl

theorem toList_bracketed_nil (opening closing : String) (level : Nat) :
    (bracketed fileLayout level opening closing []).toList = opening.toList ++ closing.toList :=
  String.toList_append

/-- Between its brackets a list has more than its parts. -/
theorem length_joined_lt {opening closing : String} {level fuel : Nat} {parts : List String}
    (hparts : parts ≠ [])
    (hfuel : (bracketed fileLayout level opening closing parts).toList.length ≤ fuel + 1) :
    (joined (level + 1) parts).length < fuel := by
  rw [toList_bracketed opening closing level hparts] at hfuel
  simp only [List.length_append, newLine, List.length_cons] at hfuel
  omega

theorem joined_eq_cons {part : String} {c : Char} {tail : List Char} (hpart : part.toList = c :: tail)
    (level : Nat) (parts : List String) : ∃ tail', joined level (part :: parts) = c :: tail' := by
  cases parts with
  | nil => exact ⟨tail, by rw [joined_singleton, hpart]⟩
  | cons next parts => exact ⟨_, by rw [joined_cons_cons, hpart]; rfl⟩

theorem bracketed_eq_append (opening closing : String) (level : Nat) (parts : List String) :
    ∃ tail, (bracketed fileLayout level opening closing parts).toList = opening.toList ++ tail := by
  by_cases hparts : parts = []
  · rw [hparts]
    exact ⟨_, String.toList_append⟩
  · exact ⟨_, toList_bracketed opening closing level hparts⟩

/-- An integer begins with a minus sign or a digit. -/
theorem toString_eq_cons (n : Int) :
    ∃ c tail, (toString n).toList = c :: tail ∧ (c = '-' ∨ c.isDigit) := by
  obtain ⟨c, tail, heq⟩ : ∃ c tail, Nat.toDigits 10 n.natAbs = c :: tail :=
    List.exists_cons_of_ne_nil Nat.toDigits_ne_nil
  rw [Number.toList_toString, heq]
  by_cases hn : n < 0
  · exact ⟨'-', _, by rw [if_pos hn]; rfl, .inl rfl⟩
  · have hdigit : c.isDigit := Number.isDigit_of_mem_toDigits (heq ▸ List.mem_cons_self)
    exact ⟨c, tail, by rw [if_neg hn]; rfl, .inr hdigit⟩

/-- A written value begins with a character that is no blank and closes no list. -/
theorem valueText_eq_cons (level : Nat) (v : Value) (hplain : v.IsPlain) :
    ∃ c tail, (valueText fileLayout level v).toList = c :: tail ∧ isBlank c = false ∧ c ≠ ']' := by
  cases v with
  | null => exact ⟨'n', ['u', 'l', 'l'], by rw [valueText_null]; rfl, rfl, by decide⟩
  | bool b =>
    cases b with
    | true => exact ⟨'t', ['r', 'u', 'e'], by rw [valueText_bool]; rfl, rfl, by decide⟩
    | false => exact ⟨'f', ['a', 'l', 's', 'e'], by rw [valueText_bool]; rfl, rfl, by decide⟩
  | int n =>
    rw [valueText_int hplain]
    obtain ⟨c, tail, heq, rfl | hdigit⟩ := toString_eq_cons n
    · exact ⟨_, tail, heq, rfl, by decide⟩
    · have hother {letter : Char} (hletter : letter.isDigit = false) : c ≠ letter := by
        rintro rfl
        rw [hletter] at hdigit
        cases hdigit
      have hblank : isBlank c = false := by
        simp [isBlank, hother]
      exact ⟨c, tail, heq, hblank, hother rfl⟩
  | str s =>
    exact ⟨'"', _, by rw [valueText_str, writeString, String.toList_ofList]; rfl, rfl, by decide⟩
  | list xs =>
    obtain ⟨tail, heq⟩ := bracketed_eq_append "[" "]" level (xs.map (valueText fileLayout (level + 1)))
    rw [valueText_list (areKnown_of_arePlain xs hplain), heq]
    exact ⟨'[', tail, rfl, rfl, by decide⟩
  | map entries =>
    obtain ⟨tail, heq⟩ :=
      bracketed_eq_append "\x7b" "\x7d" level (entries.map (memberText fileLayout (level + 1)))
    rw [valueText_map (areKnownEntries_of_plain entries hplain.1 hplain.2), heq]
    exact ⟨'\x7b', tail, rfl, rfl, by decide⟩
  | _ => cases hplain

/-! ## Steps of the reader -/

theorem readValue_scalar (fuel : Nat) {c : Char} (htext : c ≠ '"') (hlist : c ≠ '[')
    (hmap : c ≠ '\x7b') (tail : List Char) :
    readValue (fuel + 1) (c :: tail) =
      match readWord? (c :: tail) with
      | some result => .ok result
      | none => readNumber (c :: tail) := by
  unfold readValue
  split
  · next hfuel => cases hfuel
  · next heq _ => exact absurd (List.cons.inj heq).1 htext
  · next heq => exact absurd (List.cons.inj heq).1 hlist
  · next heq => exact absurd (List.cons.inj heq).1 hmap
  · rfl

theorem readValue_writeString (fuel : Nat) (s : String) (rest : List Char) :
    readValue (fuel + 1) ((writeString true s).toList ++ rest) = .ok (.str s, rest) := by
  have hchars : (writeString true s).toList ++ rest =
      '"' :: (s.toList.flatMap (escapeChar true) ++ '"' :: rest) := by
    simp [writeString]
  rw [hchars, readValue, readString_escaped]
  · simp [Except.map]
  · exact nofun

theorem readValue_toString (fuel : Nat) {n : Int} (hn : n.natAbs < 10 ^ Number.digitLimit)
    (hrest : EndsValue rest) :
    readValue (fuel + 1) ((toString n).toList ++ rest) = .ok (.int n, rest) := by
  obtain ⟨c, tail, heq, hc⟩ := toString_eq_cons n
  have hother : c ≠ '"' ∧ c ≠ '[' ∧ c ≠ '\x7b' := by
    rcases hc with rfl | hdigit
    · decide
    · refine ⟨?_, ?_, ?_⟩ <;> (rintro rfl; cases hdigit)
  have hscalar := readValue_scalar fuel hother.1 hother.2.1 hother.2.2 (tail ++ rest)
  rw [← List.cons_append, ← heq, readWord?_toString, readNumber_toString hn hrest] at hscalar
  exact hscalar

/-- A list that is not empty is read element by element. -/
theorem readValue_array (fuel level : Nat) {c : Char} (hblank : isBlank c = false) (hc : c ≠ ']')
    (tail : List Char) :
    readValue (fuel + 1) ('[' :: (newLine level ++ c :: tail)) =
      (readElements fuel (c :: tail)).map fun (vs, rest) => (.list vs, rest) := by
  rw [readValue, skipBlanks_newLine, skipBlanks_cons hblank]
  split
  · next heq => exact absurd (List.cons.inj heq).1 hc
  · rfl

/-- A mapping that is not empty is read member by member. -/
theorem readValue_object (fuel level : Nat) (tail : List Char) :
    readValue (fuel + 1) ('\x7b' :: (newLine level ++ '"' :: tail)) =
      (readMembers fuel [] ('"' :: tail)).map fun (entries, rest) => (.map entries, rest) := by
  rw [readValue, skipBlanks_newLine, skipBlanks_cons rfl]
  rfl

theorem readValue_emptyArray (fuel : Nat) (rest : List Char) :
    readValue (fuel + 1) ('[' :: ']' :: rest) = .ok (.list [], rest) := by
  rw [readValue, skipBlanks_cons rfl]
  rfl

theorem readValue_emptyObject (fuel : Nat) (rest : List Char) :
    readValue (fuel + 1) ('\x7b' :: '\x7d' :: rest) = .ok (.map [], rest) := by
  rw [readValue, skipBlanks_cons rfl]
  rfl

theorem readElements_last {fuel level : Nat} {cs : List Char} {v : Value}
    (hv : readValue fuel cs = .ok (v, newLine level ++ ']' :: rest)) :
    readElements (fuel + 1) cs = .ok ([v], rest) := by
  rw [readElements, hv]
  simp only [bind, Except.bind, skipBlanks_newLine]
  rw [skipBlanks_cons rfl]
  rfl

theorem readElements_next {fuel level : Nat} {c : Char} {cs tail : List Char} {v : Value}
    {vs : List Value} (hv : readValue fuel cs = .ok (v, ',' :: (newLine level ++ c :: tail)))
    (hblank : isBlank c = false) (hvs : readElements fuel (c :: tail) = .ok (vs, rest)) :
    readElements (fuel + 1) cs = .ok (v :: vs, rest) := by
  rw [readElements, hv]
  simp only [bind, Except.bind]
  rw [skipBlanks_cons rfl]
  simp only [skipBlanks_newLine]
  rw [skipBlanks_cons hblank, hvs]

/-- A member is read up to what follows its value: the end of the object, or a further member. -/
theorem readMembers_member {fuel : Nat} {name : String} {c : Char} {tail after rest : List Char}
    {v : Value} (done : Entries) (hblank : isBlank c = false)
    (hv : readValue fuel (c :: tail) = .ok (v, after)) :
    (skipBlanks after = '\x7d' :: rest →
      readMembers (fuel + 1) done ((writeString true name).toList ++ ':' :: ' ' :: c :: tail) =
        .ok (done.put (.str name) v, rest)) ∧
    (skipBlanks after = ',' :: rest →
      readMembers (fuel + 1) done ((writeString true name).toList ++ ':' :: ' ' :: c :: tail) =
        readMembers fuel (done.put (.str name) v) (skipBlanks rest)) := by
  have hchars : (writeString true name).toList ++ ':' :: ' ' :: c :: tail =
      '"' :: (name.toList.flatMap (escapeChar true) ++ '"' :: ':' :: ' ' :: c :: tail) := by
    simp [writeString]
  have hspace : skipBlanks (' ' :: c :: tail) = c :: tail := by
    rw [skipBlanks, List.dropWhile_cons_of_pos rfl]
    exact skipBlanks_cons hblank tail
  rw [hchars, readMembers, readString_escaped]
  simp only [bind, Except.bind]
  rw [skipBlanks_cons rfl]
  simp only [hspace, hv, String.ofList_toList]
  constructor <;> intro hafter <;> simp only [hafter]

/-! ## Whole values -/

theorem toList_member (name : String) (v : Value) (level : Nat) :
    (memberText fileLayout level (.str name, v)).toList =
      (writeString true name).toList ++ ':' :: ' ' :: (valueText fileLayout level v).toList := by
  rw [memberText, String.toList_append, String.toList_append, List.append_assoc]
  rfl

theorem member_eq_cons (name : String) (v : Value) (level : Nat) :
    ∃ tail, (memberText fileLayout level (.str name, v)).toList = '"' :: tail := by
  rw [toList_member, writeString, String.toList_ofList]
  exact ⟨_, rfl⟩

theorem exists_fuel {level fuel : Nat} {v : Value} (hplain : v.IsPlain)
    (hfuel : (valueText fileLayout level v).toList.length ≤ fuel) : ∃ fuel', fuel = fuel' + 1 := by
  obtain ⟨c, tail, heq, _⟩ := valueText_eq_cons level v hplain
  rw [heq, List.length_cons] at hfuel
  exact ⟨fuel - 1, by omega⟩

theorem readValue_null (fuel : Nat) (rest : List Char) :
    readValue (fuel + 1) ("null".toList ++ rest) = .ok (.null, rest) :=
  readValue_scalar fuel (by decide) (by decide) (by decide) ('u' :: 'l' :: 'l' :: rest)

theorem readValue_bool (fuel : Nat) (b : Bool) (rest : List Char) :
    readValue (fuel + 1) ((if b then "true" else "false").toList ++ rest) = .ok (.bool b, rest) := by
  cases b with
  | true =>
    exact readValue_scalar fuel (by decide) (by decide) (by decide) ('r' :: 'u' :: 'e' :: rest)
  | false =>
    exact readValue_scalar fuel (by decide) (by decide) (by decide)
      ('a' :: 'l' :: 's' :: 'e' :: rest)

mutual

/-- Plain data is read back from what it is written as, up to what ends it. -/
theorem readValue_write : ∀ v : Value, v.IsPlain → ∀ (level fuel : Nat) (rest : List Char),
    EndsValue rest → (valueText fileLayout level v).toList.length ≤ fuel →
      readValue fuel ((valueText fileLayout level v).toList ++ rest) = .ok (v, rest)
  | .null, hplain => by
    intro level fuel rest _ hfuel
    obtain ⟨fuel, rfl⟩ := exists_fuel hplain hfuel
    rw [valueText_null]
    exact readValue_null fuel rest
  | .bool b, hplain => by
    intro level fuel rest _ hfuel
    obtain ⟨fuel, rfl⟩ := exists_fuel hplain hfuel
    rw [valueText_bool]
    exact readValue_bool fuel b rest
  | .int n, hplain => by
    intro level fuel rest hrest hfuel
    obtain ⟨fuel, rfl⟩ := exists_fuel hplain hfuel
    rw [valueText_int hplain]
    exact readValue_toString fuel hplain hrest
  | .str s, hplain => by
    intro level fuel rest _ hfuel
    obtain ⟨fuel, rfl⟩ := exists_fuel hplain hfuel
    rw [valueText_str]
    exact readValue_writeString fuel s rest
  | .list xs, hplain => by
    intro level fuel rest hrest hfuel
    obtain ⟨fuel, rfl⟩ := exists_fuel hplain hfuel
    have helements := readElements_write xs hplain
    rw [valueText_list (areKnown_of_arePlain xs hplain)] at hfuel ⊢
    cases xs with
    | nil =>
      rw [List.map_nil, toList_bracketed_nil]
      exact readValue_emptyArray fuel rest
    | cons x xs =>
      have hparts : (x :: xs).map (valueText fileLayout (level + 1)) ≠ [] := nofun
      have hread := helements nofun (level + 1) level fuel rest (length_joined_lt hparts hfuel)
      obtain ⟨c, tail, hfirst, hblank, hopen⟩ := valueText_eq_cons (level + 1) x hplain.1
      obtain ⟨tail', hjoined⟩ :=
        joined_eq_cons hfirst (level + 1) (xs.map (valueText fileLayout (level + 1)))
      have harray := readValue_array fuel (level + 1) hblank hopen
        (tail' ++ (newLine level ++ ']' :: rest))
      rw [List.map_cons, hjoined, List.cons_append] at hread
      rw [hread] at harray
      rw [toList_bracketed _ _ _ hparts, List.map_cons, hjoined]
      simp only [List.append_assoc]
      exact harray
  | .map entries, ⟨hkeys, hvalues⟩ => by
    intro level fuel rest hrest hfuel
    have hplain : Value.IsPlain (.map entries) := ⟨hkeys, hvalues⟩
    obtain ⟨fuel, rfl⟩ := exists_fuel hplain hfuel
    have hmembers := readMembers_write [] entries hvalues hkeys
    rw [valueText_map (areKnownEntries_of_plain entries hkeys hvalues)] at hfuel ⊢
    cases entries with
    | nil =>
      rw [List.map_nil, toList_bracketed_nil]
      exact readValue_emptyObject fuel rest
    | cons entry entries =>
      obtain ⟨key, v⟩ := entry
      obtain ⟨name, rfl, _⟩ := Entries.hasTextKeys_cons.mp hkeys
      have hparts : ((.str name, v) :: entries).map (memberText fileLayout (level + 1)) ≠ [] := nofun
      have hread := hmembers nofun (level + 1) level fuel rest (length_joined_lt hparts hfuel)
      obtain ⟨_, hmember⟩ := member_eq_cons name v (level + 1)
      obtain ⟨tail, hjoined⟩ := joined_eq_cons hmember (level + 1)
        (entries.map (memberText fileLayout (level + 1)))
      have hobject := readValue_object fuel (level + 1)
        (tail ++ (newLine level ++ '\x7d' :: rest))
      rw [List.map_cons, hjoined, List.cons_append] at hread
      rw [hread] at hobject
      rw [toList_bracketed _ _ _ hparts, List.map_cons, hjoined]
      simp only [List.append_assoc]
      exact hobject

/-- The elements of a list are read back up to the bracket that closes it. -/
theorem readElements_write : ∀ xs : List Value, Value.ArePlain xs → xs ≠ [] →
    ∀ (level outer fuel : Nat) (rest : List Char),
      (joined level (xs.map (valueText fileLayout level))).length < fuel →
        readElements fuel
          (joined level (xs.map (valueText fileLayout level)) ++ (newLine outer ++ ']' :: rest)) =
            .ok (xs, rest)
  | [], _ => fun hsome => absurd rfl hsome
  | x :: xs, ⟨hx, hxs⟩ => by
    intro _ level outer fuel rest hfuel
    obtain ⟨fuel, rfl⟩ : ∃ fuel', fuel = fuel' + 1 := ⟨fuel - 1, by omega⟩
    have hfirst := readValue_write x hx level fuel
    have hlater := readElements_write xs hxs
    cases xs with
    | nil =>
      rw [List.map_cons, List.map_nil, joined_singleton] at hfuel ⊢
      exact readElements_last (hfirst _ (endsValue_newLine outer _) (Nat.le_of_lt_succ hfuel))
    | cons y ys =>
      obtain ⟨c, tail, hnext, hblank, _⟩ := valueText_eq_cons level y hxs.1
      obtain ⟨tail', hjoined⟩ := joined_eq_cons hnext level (ys.map (valueText fileLayout level))
      rw [List.map_cons, List.map_cons, joined_cons_cons] at hfuel ⊢
      simp only [List.length_append, List.length_cons] at hfuel
      have hvs := hlater nofun level outer fuel rest (by rw [List.map_cons]; omega)
      rw [List.map_cons, hjoined, List.cons_append] at hvs
      have hv := hfirst (',' :: (newLine level ++ c :: (tail' ++ (newLine outer ++ ']' :: rest))))
        (endsValue_comma _) (by omega)
      rw [hjoined]
      simp only [List.append_assoc, List.cons_append] at hv ⊢
      exact readElements_next hv hblank hvs

/-- The members of a mapping are read back after those already read, up to the closing brace. -/
theorem readMembers_write (done : Entries) : ∀ entries : List (Value × Value),
    Value.HavePlainValues entries → Entries.HasTextKeys (done ++ entries) → entries ≠ [] →
      ∀ (level outer fuel : Nat) (rest : List Char),
        (joined level (entries.map (memberText fileLayout level))).length < fuel →
          readMembers fuel done
            (joined level (entries.map (memberText fileLayout level)) ++
              (newLine outer ++ '\x7d' :: rest)) = .ok (done ++ entries, rest)
  | [], _ => fun _ hsome => absurd rfl hsome
  | (key, v) :: entries, ⟨hv, hvalues⟩ => by
    intro hkeys _ level outer fuel rest hfuel
    obtain ⟨fuel, rfl⟩ : ∃ fuel', fuel = fuel' + 1 := ⟨fuel - 1, by omega⟩
    obtain ⟨name, rfl, hdone, hnew⟩ := Entries.hasTextKeys_append_cons hkeys
    have hput : done.put (.str name) v ++ entries = done ++ (.str name, v) :: entries := by
      rw [Entries.put_new hdone hnew, List.append_assoc]
      rfl
    have hfirst := readValue_write v hv level fuel
    have hlater := readMembers_write (done.put (.str name) v) entries hvalues (hput ▸ hkeys)
    obtain ⟨c, tail, hvalue, hblank, _⟩ := valueText_eq_cons level v hv
    rw [List.map_cons] at hfuel ⊢
    cases entries with
    | nil =>
      rw [List.map_nil, joined_singleton, toList_member] at hfuel ⊢
      simp only [List.length_append, List.length_cons] at hfuel
      have hv := hfirst (newLine outer ++ '\x7d' :: rest) (endsValue_newLine outer _) (by omega)
      rw [hvalue] at hv ⊢
      simp only [List.append_assoc, List.cons_append] at hv ⊢
      have hend : skipBlanks (newLine outer ++ '\x7d' :: rest) = '\x7d' :: rest := by
        rw [skipBlanks_newLine, skipBlanks_cons rfl]
      rw [(readMembers_member done hblank hv).1 hend, ← hput, List.append_nil]
    | cons next entries =>
      obtain ⟨nextKey, w⟩ := next
      have hkeysNext : Entries.HasTextKeys (done.put (.str name) v ++ (nextKey, w) :: entries) :=
        hput ▸ hkeys
      obtain ⟨nextName, rfl, _⟩ := Entries.hasTextKeys_append_cons hkeysNext
      obtain ⟨_, hmember⟩ := member_eq_cons nextName w level
      obtain ⟨tail', hjoined⟩ := joined_eq_cons hmember level (entries.map (memberText fileLayout level))
      rw [List.map_cons, joined_cons_cons, toList_member, hjoined] at hfuel ⊢
      simp only [List.length_append, List.length_cons] at hfuel
      have hrest := hlater nofun level outer fuel rest (by
        rw [List.map_cons, hjoined, List.length_cons]
        omega)
      rw [List.map_cons, hjoined, List.cons_append] at hrest
      have hv := hfirst
        (',' :: (newLine level ++ '"' :: (tail' ++ (newLine outer ++ '\x7d' :: rest))))
        (endsValue_comma _) (by omega)
      rw [hvalue] at hv ⊢
      simp only [List.append_assoc, List.cons_append] at hv ⊢
      rw [(readMembers_member done hblank hv).2 (skipBlanks_cons rfl _), skipBlanks_newLine,
        skipBlanks_cons rfl, hrest, hput]

end

end ReleasePackaging.Json
