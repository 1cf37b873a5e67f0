import ReleasePackaging.Proofs.Json.RoundTrip
import ReleasePackaging.Proofs.Text.Decode

/-!
# Documents in files

A document of plain data has no characters but line feeds and the printable characters of ASCII, so
that neither its encoding nor the line ends of a file change it.
-/
namespace ReleasePackaging.Json

/-! ## Characters of documents -/

/-- Whether a character can stand in a document: a line feed or a printable character of ASCII. -/
def IsOutput (c : Char) : Prop := c = '\n' ∨ 0x20 ≤ c.toNat ∧ c.toNat < 0x7F

instance (c : Char) : Decidable (IsOutput c) := inferInstanceAs (Decidable (_ ∨ _))

theorem isOutput_digitChar {d : Nat} (hd : d < 16) : IsOutput (Nat.digitChar d) := by
  have hall : ∀ d : Fin 16, IsOutput (Nat.digitChar d.val) := by decide
  exact hall ⟨d, hd⟩

theorem isOutput_hexPadded (width : Nat) {n : Nat} (hn : n < 16 ^ (width + 1)) :
    ∀ c ∈ Text.hexPadded (width + 1) n, IsOutput c := by
  induction width generalizing n with
  | zero =>
    rw [hexPadded_one hn]
    intro c hc
    rw [List.mem_singleton.mp hc]
    exact isOutput_digitChar hn
  | succ width ih =>
    rw [hexPadded_succ]
    intro c hc
    rcases List.mem_append.mp hc with hbefore | hlast
    · exact ih (div_lt_pow hn) c hbefore
    · rw [List.mem_singleton.mp hlast]
      exact isOutput_digitChar (Nat.mod_lt _ (by decide))

theorem isOutput_unitEscape {n : Nat} (hn : n < 0x10000) : ∀ c ∈ unitEscape n, IsOutput c := by
  intro c hc
  rcases List.mem_cons.mp hc with rfl | hc
  · decide
  rcases List.mem_cons.mp hc with rfl | hc
  · decide
  exact isOutput_hexPadded 3 hn c hc

theorem isOutput_of_escaped? {letter c : Char} (h : escaped? letter = some c) : IsOutput letter := by
  unfold escaped? at h
  split at h
  case h_9 => cases h
  all_goals decide

theorem isOutput_escapeChar (c : Char) : ∀ x ∈ escapeChar true c, IsOutput x := by
  have hvalid := toNat_valid c
  rcases escapeChar_cases c with ⟨letter, hletter, heq⟩ | ⟨hunit, heq⟩ |
    ⟨_, _, hlow, hhigh, heq⟩ | ⟨hpair, heq⟩
  · rw [heq]
    intro x hx
    rcases List.mem_cons.mp hx with rfl | hx
    · decide
    · rw [List.mem_singleton.mp hx]
      exact isOutput_of_escaped? hletter
  · rw [heq]
    exact isOutput_unitEscape hunit
  · rw [heq]
    intro x hx
    rw [List.mem_singleton.mp hx]
    exact .inr ⟨hlow, hhigh⟩
  · rw [heq, pairEscape]
    intro x hx
    rcases List.mem_append.mp hx with hfirst | hsecond
    · exact isOutput_unitEscape (by omega) x hfirst
    · exact isOutput_unitEscape (by omega) x hsecond

/-- Whether a text can stand in a document. -/
def AreOutput (s : String) : Prop := ∀ c ∈ s.toList, IsOutput c

instance (s : String) : Decidable (AreOutput s) := List.decidableBAll IsOutput s.toList

theorem areOutput_append {s t : String} (hs : AreOutput s) (ht : AreOutput t) :
    AreOutput (s ++ t) := by
  intro c hc
  rw [String.toList_append] at hc
  rcases List.mem_append.mp hc with hfirst | hsecond
  · exact hs c hfirst
  · exact ht c hsecond

theorem areOutput_writeString (s : String) : AreOutput (writeString true s) := by
  intro c hc
  rw [writeString, String.toList_ofList] at hc
  rcases List.mem_cons.mp hc with rfl | hc
  · decide
  rcases List.mem_append.mp hc with hinner | hlast
  · obtain ⟨own, _, hx⟩ := List.mem_flatMap.mp hinner
    exact isOutput_escapeChar own c hx
  · rw [List.mem_singleton.mp hlast]
    decide

theorem areOutput_toString (n : Int) : AreOutput (toString n) := by
  intro c hc
  rw [Number.toList_toString] at hc
  rcases List.mem_append.mp hc with hsign | hdigit
  · split at hsign
    · rw [List.mem_singleton.mp hsign]
      decide
    · cases hsign
  · obtain ⟨hlow, hhigh⟩ := Char.isDigit_iff_toNat.mp (Number.isDigit_of_mem_toDigits hdigit)
    change 0x30 ≤ c.toNat at hlow
    change c.toNat ≤ 0x39 at hhigh
    exact .inr ⟨by omega, by omega⟩

theorem isOutput_newLine (level : Nat) : ∀ c ∈ newLine level, IsOutput c := by
  intro c hc
  rcases List.mem_cons.mp hc with rfl | hspace
  · exact .inl rfl
  · rw [List.eq_of_mem_replicate hspace]
    decide

theorem isOutput_joined (level : Nat) {parts : List String} (hparts : ∀ part ∈ parts, AreOutput part) :
    ∀ c ∈ joined level parts, IsOutput c := by
  induction parts with
  | nil => nofun
  | cons part parts ih =>
    have hlater := ih fun part hpart => hparts part (List.mem_cons_of_mem _ hpart)
    have hfirst := hparts part List.mem_cons_self
    cases parts with
    | nil =>
      rw [joined_singleton]
      exact hfirst
    | cons next parts =>
      rw [joined_cons_cons]
      intro c hc
      rcases List.mem_append.mp hc with hc | hc
      · exact hfirst c hc
      rcases List.mem_cons.mp hc with rfl | hc
      · decide
      rcases List.mem_append.mp hc with hc | hc
      · exact isOutput_newLine level c hc
      · exact hlater c hc

theorem areOutput_bracketed {opening closing : String} (level : Nat) {parts : List String}
    (hopening : AreOutput opening) (hclosing : AreOutput closing)
    (hparts : ∀ part ∈ parts, AreOutput part) :
    AreOutput (bracketed fileLayout level opening closing parts) := by
  by_cases hnone : parts = []
  · rw [hnone]
    exact areOutput_append hopening hclosing
  · intro c hc
    rw [toList_bracketed opening closing level hnone] at hc
    rcases List.mem_append.mp hc with hc | hc
    · exact hopening c hc
    rcases List.mem_append.mp hc with hc | hc
    · exact isOutput_newLine _ c hc
    rcases List.mem_append.mp hc with hc | hc
    · exact isOutput_joined _ hparts c hc
    rcases List.mem_append.mp hc with hc | hc
    · exact isOutput_newLine _ c hc
    · exact hclosing c hc

mutual

/-- Plain data is written with line feeds and printable characters of ASCII only. -/
theorem areOutput_valueText : ∀ v : Value, v.IsPlain → ∀ level : Nat,
    AreOutput (valueText fileLayout level v)
  | .null, _ => by
    intro level
    rw [valueText_null]
    decide
  | .bool b, _ => by
    intro level
    rw [valueText_bool]
    cases b <;> decide
  | .int n, hplain => by
    intro level
    rw [valueText_int hplain]
    exact areOutput_toString n
  | .str s, _ => by
    intro level
    rw [valueText_str]
    exact areOutput_writeString s
  | .list xs, hplain => by
    intro level
    rw [valueText_list (areKnown_of_arePlain xs hplain)]
    exact areOutput_bracketed level (by decide) (by decide)
      (areOutput_valueTexts xs hplain (level + 1))
  | .map entries, ⟨hkeys, hvalues⟩ => by
    intro level
    rw [valueText_map (areKnownEntries_of_plain entries hkeys hvalues)]
    exact areOutput_bracketed level (by decide) (by decide)
      (areOutput_memberTexts entries hkeys hvalues (level + 1))

theorem areOutput_valueTexts : ∀ xs : List Value, Value.ArePlain xs → ∀ level : Nat,
    ∀ part ∈ xs.map (valueText fileLayout level), AreOutput part
  | [], _ => nofun
  | x :: xs, ⟨hx, hxs⟩ => by
    intro level part hpart
    rcases List.mem_cons.mp hpart with rfl | hpart
    · exact areOutput_valueText x hx level
    · exact areOutput_valueTexts xs hxs level part hpart

theorem areOutput_memberTexts : ∀ entries : List (Value × Value), Entries.HasTextKeys entries →
    Value.HavePlainValues entries → ∀ level : Nat,
      ∀ part ∈ entries.map (memberText fileLayout level), AreOutput part
  | [], _, _ => nofun
  | (key, v) :: entries, hkeys, ⟨hv, hvalues⟩ => by
    intro level part hpart
    obtain ⟨name, rfl, _, hrest⟩ := Entries.hasTextKeys_cons.mp hkeys
    rcases List.mem_cons.mp hpart with rfl | hpart
    · exact areOutput_append (areOutput_append (areOutput_writeString name) (by decide))
        (areOutput_valueText v hv level)
    · exact areOutput_memberTexts entries hrest hvalues level part hpart

end

/-! ## Reading a document back -/

/-- A document of plain data is read as that data. -/
theorem readDocument_write {v : Value} (hplain : v.IsPlain) :
    readDocument (valueText fileLayout 0 v).toList = .ok v := by
  have hread := readValue_write v hplain 0 (2 * (valueText fileLayout 0 v).toList.length + 2) [] nofun
    (by omega)
  obtain ⟨c, tail, heq, hblank, _⟩ := valueText_eq_cons 0 v hplain
  have hmark : c ≠ '\uFEFF' := by
    rintro rfl
    have houtput := areOutput_valueText v hplain 0 '\uFEFF' (by rw [heq]; exact List.mem_cons_self)
    exact absurd houtput (by decide)
  rw [List.append_nil, heq] at hread
  rw [heq]
  unfold readDocument
  split
  · next hfirst => exact absurd (List.cons.inj hfirst).1 hmark
  · rw [skipBlanks_cons hblank, hread]
    rfl

theorem read_write {v : Value} (hplain : v.IsPlain) : read (valueText fileLayout 0 v).toList = .ok v := by
  rw [read, readDocument_write hplain]

/-- A document of plain data is read from a file as it was written. -/
theorem fileText_write {v : Value} (hplain : v.IsPlain) :
    Text.fileText (valueText fileLayout 0 v).toUTF8 = .ok (valueText fileLayout 0 v).toList := by
  have hreturn : '\r' ∉ (valueText fileLayout 0 v).toList := fun hmem =>
    absurd (areOutput_valueText v hplain 0 '\r' hmem) (by decide)
  rw [Text.fileText_toUTF8, Text.unifyLineEnds_eq_self hreturn]

end ReleasePackaging.Json
