import ReleasePackaging.Json.Writer
import ReleasePackaging.Proofs.Value.Plain

/-!
# The pieces of a document

A document has no fault exactly if JSON knows its value: the kinds of all that the value holds, and the
digits of the integers. Such a value stands in a document as a text of its own, which is the same after
whatever text; a list or a mapping is its brackets with the texts of its members between them.
-/
namespace ReleasePackaging.Json

variable {ps qs : List Piece} {layout : Layout} {level : Nat} {before text : String} {v : Value}

/-! ## Pieces one after another -/

/-- Whether none of some pieces is a fault. -/
def AreTexts (ps : List Piece) : Prop := ∀ p ∈ ps, ∃ text, p = .ok text

@[simp] theorem areTexts_nil : AreTexts [] := nofun

@[simp] theorem areTexts_cons {p : Piece} : AreTexts (p :: ps) ↔ (∃ text, p = .ok text) ∧ AreTexts ps :=
  List.forall_mem_cons

@[simp] theorem areTexts_append : AreTexts (ps ++ qs) ↔ AreTexts ps ∧ AreTexts qs :=
  List.forall_mem_append

/-- Nothing went wrong exactly if no piece is a fault. -/
theorem written_unfaulted_iff : (written ps).2 = none ↔ AreTexts ps := by
  induction ps with
  | nil => simp [written]
  | cons p ps ih =>
    rw [areTexts_cons, ← ih]
    cases p <;> simp [written]

theorem written_append (h : written ps = (text, none)) (qs : List Piece) :
    written (ps ++ qs) = (text ++ (written qs).1, (written qs).2) := by
  induction ps generalizing text with
  | nil =>
    obtain ⟨rfl, -⟩ := Prod.mk.inj h
    rw [List.nil_append, String.empty_append]
  | cons p ps ih =>
    cases p with
    | error fault => cases h
    | ok first =>
      obtain ⟨rfl, hlater⟩ := Prod.mk.inj h
      rw [List.cons_append, written, ih (Prod.ext rfl hlater)]
      simp only [String.append_assoc]

/-! ## What JSON knows -/

def isKey (v : Value) : Bool := (keyText v).isOk

@[simp] theorem isKey_str (name : String) : isKey (.str name) = true := rfl

mutual

def isKnown : Value → Bool
  | .null | .bool _ | .float _ | .str _ | .platform _ => true
  | .int n => !Number.isOverlong n
  | .list xs | .tuple xs => areKnown xs
  | .map entries => areKnownEntries entries
  | _ => false

def areKnown : List Value → Bool
  | [] => true
  | x :: xs => isKnown x && areKnown xs

def areKnownEntries : List (Value × Value) → Bool
  | [] => true
  | (k, v) :: rest => isKey k && isKnown v && areKnownEntries rest

end

mutual

/-- There is no fault among the pieces of a value exactly if JSON knows it. -/
theorem areTexts_pieces_iff : ∀ (v : Value) (level : Nat) (before : String),
    AreTexts (pieces layout level before v) ↔ isKnown v = true
  | .null, _, _ | .bool _, _, _ | .float _, _, _ | .str _, _, _ | .platform _, _, _ => by
    simp [pieces, isKnown]
  | .int n, _, _ => by
    simp only [pieces, isKnown, writeInteger]
    cases Number.isOverlong n <;> simp [Except.map]
  | .bytes _, _, _ | .date _, _, _ | .moment _, _, _ | .path _, _, _ | .set _, _, _ => by
    simp [pieces, isKnown]
  | .list [], _, _ | .tuple [], _, _ | .map [], _, _ => by
    simp [pieces, isKnown, areKnown, areKnownEntries]
  | .list (x :: xs), level, _ => by
    simp [pieces, isKnown, areTexts_elementPieces_iff (x :: xs)]
  | .tuple (x :: xs), level, _ => by
    simp [pieces, isKnown, areTexts_elementPieces_iff (x :: xs)]
  | .map (entry :: entries), level, _ => by
    simp [pieces, isKnown, areTexts_memberPieces_iff (entry :: entries)]

theorem areTexts_elementPieces_iff : ∀ (xs : List Value) (level : Nat) (before : String),
    AreTexts (elementPieces layout level before xs) ↔ areKnown xs = true
  | [], _, _ => by simp [elementPieces, areKnown]
  | x :: xs, level, before => by
    rw [elementPieces, areTexts_append, areTexts_pieces_iff x, areTexts_elementPieces_iff xs,
      areKnown, Bool.and_eq_true]

theorem areTexts_memberPieces_iff : ∀ (entries : List (Value × Value)) (level : Nat) (before : String),
    AreTexts (memberPieces layout level before entries) ↔ areKnownEntries entries = true
  | [], _, _ => by simp [memberPieces, areKnownEntries]
  | (k, v) :: rest, level, before => by
    rw [memberPieces, List.cons_append, areTexts_cons, areTexts_append, areTexts_pieces_iff v,
      areTexts_memberPieces_iff rest, areKnownEntries, Bool.and_eq_true, Bool.and_eq_true, and_assoc]
    refine and_congr_left' ?_
    rw [isKey]
    cases keyText k <;> simp [Except.map, Except.isOk, Except.toBool]

end

/-- A document has no fault exactly if JSON knows its value. -/
theorem write_unfaulted_iff (layout : Layout) (v : Value) :
    (write layout v).2 = none ↔ isKnown v = true :=
  written_unfaulted_iff.trans (areTexts_pieces_iff v 0 "")

/-! ## The text of a value -/

def valueText (layout : Layout) (level : Nat) (v : Value) : String :=
  (written (pieces layout level "" v)).1

theorem write_of_isKnown (layout : Layout) (hknown : isKnown v = true) :
    write layout v = (valueText layout 0 v, none) :=
  Prod.ext rfl ((write_unfaulted_iff layout v).mpr hknown)

/-- The text before a value stands before the text of the value. -/
theorem written_pieces_fst (level : Nat) (before : String) : ∀ v : Value, isKnown v = true →
    (written (pieces layout level before v)).1 = before ++ valueText layout level v
  | .null, _ | .bool _, _ | .float _, _ | .str _, _ | .platform _, _ => by
    simp [valueText, pieces, written]
  | .int n, hknown => by
    rw [isKnown, Bool.not_eq_true'] at hknown
    simp [valueText, pieces, writeInteger, hknown, written, Except.map]
  | .list [], _ | .tuple [], _ | .map [], _ => by simp [valueText, pieces, written]
  | .list (_ :: _), _ | .tuple (_ :: _), _ => by simp [valueText, pieces, written]
  | .map (_ :: _), _ => by simp [valueText, pieces, written, String.append_assoc]
  | .bytes _, hknown | .date _, hknown | .moment _, hknown | .path _, hknown | .set _, hknown => by
    simp [isKnown] at hknown

theorem written_pieces (hknown : isKnown v = true) (level : Nat) (before : String) :
    written (pieces layout level before v) = (before ++ valueText layout level v, none) :=
  Prod.ext (written_pieces_fst level before v hknown)
    (written_unfaulted_iff.mpr ((areTexts_pieces_iff v level before).mpr hknown))

/-! ## Lists and mappings -/

/-- Parts between brackets, each on a line of its own if the layout asks for it. -/
def bracketed (layout : Layout) (level : Nat) (opening closing : String) (parts : List String) :
    String :=
  if parts.isEmpty then opening ++ closing
  else
    opening ++ layout.lineBreak (level + 1) ++ (layout.separator (level + 1)).intercalate parts ++
      layout.lineBreak level ++ closing

def memberText (layout : Layout) (level : Nat) (entry : Value × Value) : String :=
  writeString layout.asciiOnly ((keyText entry.1).toOption.getD "") ++ ": " ++
    valueText layout level entry.2

/-- The elements of a list are written after a text, with what separates them between them. -/
theorem written_elementPieces (level : Nat) : ∀ (x : Value) (xs : List Value) (before : String),
    areKnown (x :: xs) = true → written (elementPieces layout level before (x :: xs)) =
      (before ++ (layout.separator level).intercalate
        ((x :: xs).map (valueText layout level)), none)
  | x, xs, before, hknown => by
    rw [areKnown, Bool.and_eq_true] at hknown
    rw [elementPieces, written_append (written_pieces hknown.1 level before)]
    cases xs with
    | nil => simp [elementPieces, written]
    | cons y ys =>
      rw [written_elementPieces level y ys _ hknown.2]
      simp only [List.map_cons, String.intercalate_cons_cons, String.append_assoc]

/-- The members of a mapping are written after a text in the same way. -/
theorem written_memberPieces (level : Nat) : ∀ (entry : Value × Value)
    (entries : List (Value × Value)) (before : String), areKnownEntries (entry :: entries) = true →
      written (memberPieces layout level before (entry :: entries)) =
        (before ++ (layout.separator level).intercalate
          ((entry :: entries).map (memberText layout level)), none)
  | (k, v), rest, before, hknown => by
    rw [areKnownEntries, Bool.and_eq_true, Bool.and_eq_true] at hknown
    obtain ⟨⟨hkey, hv⟩, hrest⟩ := hknown
    obtain ⟨key, hkey⟩ : ∃ key, keyText k = .ok key := by
      cases heq : keyText k with
      | ok key => exact ⟨key, rfl⟩
      | error fault =>
        rw [isKey, heq] at hkey
        cases hkey
    rw [memberPieces, hkey, List.cons_append, Except.map, written,
      written_append (written_pieces hv level "")]
    cases rest with
    | nil => simp [memberPieces, written, memberText, hkey, Except.toOption, String.append_assoc]
    | cons next rest =>
      rw [written_memberPieces level next rest _ hrest]
      simp [memberText, hkey, Except.toOption, String.append_assoc]

/-- A list is written as its elements between brackets. -/
theorem valueText_list {xs : List Value} (hknown : areKnown xs = true) :
    valueText layout level (.list xs) =
      bracketed layout level "[" "]" (xs.map (valueText layout (level + 1))) := by
  cases xs with
  | nil => simp [valueText, pieces, written, bracketed]
  | cons x xs =>
    rw [valueText, pieces, List.cons_append, written,
      written_append (written_elementPieces (level + 1) x xs _ hknown)]
    · simp [written, bracketed, String.append_assoc]
    · nofun

/-- A mapping is written as its members between braces. -/
theorem valueText_map {entries : List (Value × Value)} (hknown : areKnownEntries entries = true) :
    valueText layout level (.map entries) =
      bracketed layout level "\x7b" "\x7d" (entries.map (memberText layout (level + 1))) := by
  cases entries with
  | nil => simp [valueText, pieces, written, bracketed]
  | cons entry entries =>
    rw [valueText, pieces, List.cons_append, written,
      written_append (written_memberPieces (level + 1) entry entries _ hknown)]
    · simp [written, bracketed, String.append_assoc]
    · nofun

/-! ## Scalars -/

theorem valueText_null : valueText layout level .null = "null" := by simp [valueText, pieces, written]

theorem valueText_bool (b : Bool) :
    valueText layout level (.bool b) = if b then "true" else "false" := by
  simp [valueText, pieces, written]

theorem valueText_int {n : Int} (hn : n.natAbs < 10 ^ Number.digitLimit) :
    valueText layout level (.int n) = toString n := by
  have hn : Number.isOverlong n = false := by
    rw [← Bool.not_eq_true, Number.isOverlong_iff]
    exact Nat.not_le_of_lt hn
  simp [valueText, pieces, writeInteger, hn, Except.map, written]

theorem valueText_str (s : String) :
    valueText layout level (.str s) = writeString layout.asciiOnly s := by
  simp [valueText, pieces, written]

/-! ## Plain data -/

mutual

/-- JSON knows plain data. -/
theorem isKnown_of_isPlain : ∀ v : Value, v.IsPlain → isKnown v = true
  | .null, _ | .bool _, _ | .str _, _ => rfl
  | .int n, hplain => by
    rw [isKnown, Bool.not_eq_true', ← Bool.not_eq_true, Number.isOverlong_iff]
    exact Nat.not_le_of_lt hplain
  | .list xs, hplain => by
    rw [isKnown]
    exact areKnown_of_arePlain xs hplain
  | .map entries, ⟨hkeys, hvalues⟩ => by
    rw [isKnown]
    exact areKnownEntries_of_plain entries hkeys hvalues

theorem areKnown_of_arePlain : ∀ xs : List Value, Value.ArePlain xs → areKnown xs = true
  | [], _ => rfl
  | x :: xs, ⟨hx, hxs⟩ => by
    rw [areKnown, isKnown_of_isPlain x hx, areKnown_of_arePlain xs hxs]
    rfl

theorem areKnownEntries_of_plain : ∀ entries : List (Value × Value), Entries.HasTextKeys entries →
    Value.HavePlainValues entries → areKnownEntries entries = true
  | [], _, _ => rfl
  | (k, v) :: rest, hkeys, ⟨hv, hvalues⟩ => by
    obtain ⟨name, rfl, _, hrest⟩ := Entries.hasTextKeys_cons.mp hkeys
    rw [areKnownEntries, isKnown_of_isPlain v hv, areKnownEntries_of_plain rest hrest hvalues]
    rfl

end

end ReleasePackaging.Json
