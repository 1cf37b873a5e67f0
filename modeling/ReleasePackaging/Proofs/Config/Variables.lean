import ReleasePackaging.Config.Environment
import ReleasePackaging.Proofs.Action.Result
import ReleasePackaging.Proofs.Number.Digits

/-!
# Variables of the environment

An environment gives its settings variable by variable. A variable gives no value only if it is read as
a number and is a false numeral: its text looks like a number, but holds a digit without a decimal value
or more digits than are read. An environment gives no settings exactly if one of the variables that
reach a setting is of this kind.
-/
namespace ReleasePackaging.Config

variable {text : String} {keys : List String} {start : String}
  {environment : List (String × String)}

/-- A text of digits, with a minus sign or without, that is not read as a number. -/
def IsFalseNumeral (text : String) : Prop :=
  ∃ negative digits, text.toList = Number.signed negative digits ∧ digits ≠ [] ∧
    (∀ c ∈ digits, Text.isDigit c = true) ∧
    ((∃ c ∈ digits, Text.decimalValue? c = none) ∨ Number.digitLimit < digits.length)

theorem isDigits_iff {cs : List Char} :
    isDigits cs = true ↔ cs ≠ [] ∧ ∀ c ∈ cs, Text.isDigit c = true := by
  simp [isDigits]

/-- Whether a text is made of digits, with a minus sign before them or without. -/
def looksNumeric (cs : List Char) : Bool := isDigits cs || (cs.head? == some '-' && isDigits cs.tail)

theorem looksNumeric_iff {cs : List Char} : looksNumeric cs = true ↔
    ∃ negative digits, cs = Number.signed negative digits ∧ digits ≠ [] ∧
      ∀ c ∈ digits, Text.isDigit c = true := by
  simp only [looksNumeric, Bool.or_eq_true, Bool.and_eq_true, beq_iff_eq, isDigits_iff]
  constructor
  · rintro (hdigits | ⟨hsign, hdigits⟩)
    · exact ⟨false, cs, rfl, hdigits⟩
    · obtain ⟨rest, rfl⟩ := List.head?_eq_some_iff.mp hsign
      exact ⟨true, rest, rfl, hdigits⟩
  · rintro ⟨negative, digits, rfl, hdigits⟩
    cases negative with
    | false => exact .inl hdigits
    | true => exact .inr ⟨rfl, hdigits⟩

/-- The false numerals are the texts that look like numbers and are refused by the reader of
integers. -/
theorem isFalseNumeral_iff : IsFalseNumeral text ↔
    looksNumeric text.toList = true ∧ ∃ fault, Number.readInteger 10 text = .error fault := by
  rw [looksNumeric_iff]
  constructor
  · rintro ⟨negative, digits, htext, hne, hdigits, hfalse⟩
    exact ⟨⟨negative, digits, htext, hne, hdigits⟩,
      (Number.readInteger_error_iff negative hdigits hne htext).mpr hfalse⟩
  · rintro ⟨⟨negative, digits, htext, hne, hdigits⟩, herror⟩
    exact ⟨negative, digits, htext, hne, hdigits,
      (Number.readInteger_error_iff negative hdigits hne htext).mp herror⟩

/-- The words that spell truth values. -/
def flagWords : List String := ["true", "yes", "1", "on", "false", "no", "0", "off"]

/-- What looks like a number has no letter case. -/
theorem lower_eq_self_of_looksNumeric (h : looksNumeric text.toList = true) :
    Text.lower text = text := by
  obtain ⟨negative, digits, htext, _, hdigits⟩ := looksNumeric_iff.mp h
  refine Text.lower_eq_self_of_isDigit fun c hc => ?_
  rcases Number.mem_signed (htext ▸ hc) with hsign | hdigit
  · exact .inr hsign
  · exact .inl (hdigits c hdigit)

/-- A false numeral spells no truth value. -/
theorem IsFalseNumeral.not_mem_flagWords (h : IsFalseNumeral text) :
    Text.lower text ∉ flagWords := by
  obtain ⟨hnumeric, fault, hfault⟩ := isFalseNumeral_iff.mp h
  have hwords : ∀ word ∈ flagWords, looksNumeric word.toList = true →
      (Number.readInteger 10 word).isOk = true := by decide
  intro hmem
  rw [lower_eq_self_of_looksNumeric hnumeric] at hmem
  have hok := hwords text hmem hnumeric
  rw [hfault] at hok
  cases hok

/-- How the text of a variable is read. -/
theorem readVariable_eq : readVariable text =
    if Text.lower text ∈ ["true", "yes", "1", "on"] then .ok (.bool true)
    else if Text.lower text ∈ ["false", "no", "0", "off"] then .ok (.bool false)
    else if looksNumeric text.toList = true then (Number.readInteger 10 text).map .int
    else .ok (.str text) := by
  simp only [← List.contains_iff_mem]
  rfl

/-- The text of a variable gives no value exactly if it is a false numeral. -/
theorem readVariable_error_iff :
    (∃ fault, readVariable text = .error fault) ↔ IsFalseNumeral text := by
  have hspelled {b : Bool} (hword : Text.lower text ∈ flagWords) :
      (∃ fault, (.ok (.bool b) : Except Number.IntegerFault Value) = .error fault) ↔
        IsFalseNumeral text :=
    iff_of_false nofun fun h => h.not_mem_flagWords hword
  rw [readVariable_eq]
  split
  · next hword => exact hspelled (List.mem_append_left _ hword)
  · split
    · next hword => exact hspelled (List.mem_append_right ["true", "yes", "1", "on"] hword)
    · split
      · next hnumeric =>
        rw [Result.map_error_iff, isFalseNumeral_iff]
        exact (and_iff_right hnumeric).symm
      · next hnumeric =>
        exact iff_of_false nofun fun h => hnumeric (isFalseNumeral_iff.mp h).1

/-- Whether the value at a path of keys is read: of the settings themselves only the flag is. -/
def IsRead (keys : List String) : Prop := ∀ key, keys = [key] → key = "dev_mode"

theorem variableValue_error_iff :
    (∃ fault, variableValue keys text = .error fault) ↔ IsRead keys ∧ IsFalseNumeral text := by
  unfold variableValue
  split
  · next key =>
    have hread : IsRead [key] ↔ key = "dev_mode" :=
      ⟨fun h => h key rfl, fun h _ hkeys => (List.singleton_inj.mp hkeys).symm.trans h⟩
    rw [hread]
    split
    · next hkey => rw [readVariable_error_iff, and_iff_right hkey]
    · next hkey => exact iff_of_false nofun fun h => hkey h.1
  · next hkeys =>
    have hread : IsRead keys := fun key hkey => (hkeys key hkey).elim
    rw [readVariable_error_iff, and_iff_right hread]

theorem readVariable_cases {v : Value} (h : readVariable text = .ok v) :
    v = .str text ∨ (∃ b, v = .bool b) ∨ ∃ n, v = .int n := by
  rw [readVariable_eq] at h
  split at h
  · exact .inr (.inl ⟨true, (Except.ok.inj h).symm⟩)
  · split at h
    · exact .inr (.inl ⟨false, (Except.ok.inj h).symm⟩)
    · split at h
      · obtain ⟨n, _, rfl⟩ := Result.map_eq_ok_iff.mp h
        exact .inr (.inr ⟨n, rfl⟩)
      · exact .inl (Except.ok.inj h).symm

/-- The value of a variable is its text, a truth value or an integer. -/
theorem variableValue_cases {v : Value} (h : variableValue keys text = .ok v) :
    v = .str text ∨ (∃ b, v = .bool b) ∨ ∃ n, v = .int n := by
  unfold variableValue at h
  split at h
  · split at h
    · exact readVariable_cases h
    · exact .inl (Except.ok.inj h).symm
  · exact readVariable_cases h

theorem isMap_of_variableValue {v : Value} (h : variableValue keys text = .ok v) :
    v.isMap = false := by
  rcases variableValue_cases h with rfl | ⟨b, rfl⟩ | ⟨n, rfl⟩ <;> rfl

/-- The value of a variable is equal to itself. -/
theorem same_self_of_variableValue {v : Value} (h : variableValue keys text = .ok v) :
    v.same v = true := by
  rcases variableValue_cases h with rfl | ⟨b, rfl⟩ | ⟨n, rfl⟩
  · exact beq_self_eq_true text
  · exact beq_self_eq_true (if b then (1 : Int) else 0)
  · exact beq_self_eq_true n

/-- The path of keys at which a variable gives a value, if its name denotes one. -/
def pathOf? (start name : String) : Option (List String) :=
  if start.toList.isPrefixOf name.toList then
    variablePath? (Text.lower (String.ofList (name.toList.drop start.length)))
  else none

/-- An environment gives its settings variable by variable. -/
theorem fromEnvironment_eq : fromEnvironment start environment =
    environment.foldlM (fun entries given =>
      match pathOf? start given.1 with
      | some keys => (variableValue keys given.2).map fun v => setAt v keys entries
      | none => .ok entries) [] := by
  unfold fromEnvironment pathOf?
  congr 1
  funext entries ⟨name, text⟩
  by_cases hstart : start.toList.isPrefixOf name.toList = true
  · simp only [hstart, if_true]
    cases variablePath? (Text.lower (String.ofList (name.toList.drop start.length))) <;> rfl
  · simp only [hstart]
    rfl

/-- What holds of no settings and stays when a variable gives its value holds of the settings that an
environment gives. -/
theorem fromEnvironment_keeps {P : Entries → Prop} {settings : Entries} (hnil : P [])
    (hset : ∀ entries keys text v, P entries → variableValue keys text = .ok v →
      P (setAt v keys entries))
    (h : fromEnvironment start environment = .ok settings) : P settings := by
  rw [fromEnvironment_eq] at h
  refine Result.foldlM_eq_ok (fun entries given next hentries hnext => ?_) hnil h
  split at hnext
  · next keys _ =>
    obtain ⟨v, hv, rfl⟩ := Result.map_eq_ok_iff.mp hnext
    exact hset entries keys given.2 v hentries hv
  · cases hnext
    exact hentries

/-- An environment gives no settings exactly if the text of one of its variables is read and is a
false numeral. -/
theorem fromEnvironment_error_iff :
    (∃ fault, fromEnvironment start environment = .error fault) ↔
      ∃ given ∈ environment, ∃ keys, pathOf? start given.1 = some keys ∧ IsRead keys ∧
        IsFalseNumeral given.2 := by
  rw [fromEnvironment_eq]
  refine Result.foldlM_error_iff fun entries given => ?_
  cases hkeys : pathOf? start given.1 with
  | none => simp
  | some keys =>
    rw [Result.map_error_iff, variableValue_error_iff]
    simp

end ReleasePackaging.Config
