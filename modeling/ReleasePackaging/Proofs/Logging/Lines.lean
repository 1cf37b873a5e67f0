import ReleasePackaging.Logging.Record
import ReleasePackaging.Proofs.Action.Result
import ReleasePackaging.Proofs.Json.Pieces
import ReleasePackaging.Proofs.Value.TextKeyed

/-!
# When fields have a line

Fields have a line in words exactly if those that follow the line are texts and all others can be
spelled out. They have a line in JSON exactly if no integer in them has too many digits and every
mapping in them has keys that JSON knows: for all else there is a text.
-/
namespace ReleasePackaging.Logging

variable {fields more : Entries} {name : String} {v : Value}

/-! ## Lines in words -/

/-- Whether a field of some name can stand in a line in words. -/
def fitsLine (name : String) (v : Value) : Bool :=
  if trailingFields.contains name then v == .null || v.text?.isSome else !v.isOverlong

theorem exists_plainText_iff : (∃ text, v.plainText = .ok text) ↔ v.isOverlong = false := by
  rw [Value.plainText]
  cases v.isOverlong <;> simp

theorem exists_lineValue_iff : (∃ text, lineValue v = .ok text) ↔ v.isOverlong = false := by
  unfold lineValue
  split
  · simp [Value.isOverlong]
  · simp [Value.isOverlong]
  · rw [Value.literalText]
    cases v.isOverlong <;> simp

theorem exists_placedPart_iff :
    (∃ text, placedPart name v = .ok text) ↔ v.isOverlong = false := by
  rw [← exists_plainText_iff, placedPart]
  cases v.plainText <;> simp [bind, Except.bind, pure, Except.pure]

theorem exists_remainingPart_iff :
    (∃ text, remainingPart name v = .ok text) ↔ v.isOverlong = false := by
  rw [← exists_lineValue_iff, remainingPart]
  cases lineValue v <;> simp [bind, Except.bind, pure, Except.pure]

theorem exists_givenText_iff : (∃ text, givenText fields name = .ok text) ↔
    ∀ v, fields.field? name = some v → v = .null ∨ v.text?.isSome := by
  unfold givenText
  split
  · next hnone => simp [hnone]
  · next hnull => simp [hnull]
  · next v hne hsome =>
    have hnull : v ≠ .null := hne
    cases htext : v.text? <;> simp [hsome, htext, hnull]

theorem exists_trailer_iff : (∃ text, trailer fields = .ok text) ↔
    ∀ name ∈ trailingFields, ∃ text, givenText fields name = .ok text := by
  rw [trailingFields, List.forall_mem_cons, List.forall_mem_singleton, trailer]
  cases givenText fields "stack" <;> cases givenText fields "exception" <;>
    simp [bind, Except.bind, pure, Except.pure]

theorem exists_placedParts_iff : (∃ parts, placedParts fields = .ok parts) ↔
    ∀ name ∈ placedFields, ∀ v, fields.field? name = some v → v.isOverlong = false := by
  rw [placedParts, Result.exists_mapM_iff]
  simp only [exists_placedPart_iff, List.mem_filterMap, Option.map_eq_some_iff]
  constructor
  · intro h name hname v hv
    exact h (name, v) ⟨name, hname, v, hv, rfl⟩
  · rintro h _ ⟨name, hname, v, hv, rfl⟩
    exact h name hname v hv

theorem exists_remainingParts_iff (hkeys : fields.HasTextKeys) :
    (∃ parts, remainingParts fields = .ok parts) ↔
      ∀ name, name ∉ placedFields ++ trailingFields →
        ∀ v, fields.field? name = some v → v.isOverlong = false := by
  rw [remainingParts, Result.exists_mapM_iff]
  simp only [exists_remainingPart_iff, List.mem_mergeSort, List.mem_filterMap]
  constructor
  · intro h name hname v hv
    refine h (name, v) ⟨(.str name, v), hkeys.mem_iff.mpr ⟨name, rfl, hv⟩, ?_⟩
    simpa [remaining?, Value.text?] using hname
  · rintro h ⟨name, v⟩ ⟨⟨key, w⟩, hmem, hremaining⟩
    obtain ⟨own, rfl, hfield⟩ := hkeys.mem_iff.mp hmem
    simp only [remaining?, Value.text?, Option.map_eq_some_iff, Option.filter_eq_some_iff,
      Prod.mk.injEq] at hremaining
    obtain ⟨_, ⟨hsame, hapart⟩, rfl, rfl⟩ := hremaining
    cases hsame
    exact h own (by simpa using hapart) w hfield

/-- Fields have a line in words exactly if each of them can stand in it. -/
theorem exists_wordLine_iff (hkeys : fields.HasTextKeys) : (∃ line, wordLine fields = .ok line) ↔
    ∀ name v, fields.field? name = some v → fitsLine name v = true := by
  have hparts : (∃ line, wordLine fields = .ok line) ↔
      (∃ parts, placedParts fields = .ok parts) ∧ (∃ parts, remainingParts fields = .ok parts) ∧
        ∃ text, trailer fields = .ok text := by
    rw [wordLine]
    cases placedParts fields <;> cases remainingParts fields <;> cases trailer fields <;>
      simp [bind, Except.bind, pure, Except.pure]
  rw [hparts, exists_placedParts_iff, exists_remainingParts_iff hkeys, exists_trailer_iff]
  have happart : ∀ name ∈ placedFields, name ∉ trailingFields := by decide
  constructor
  · rintro ⟨hplaced, hremaining, htrailing⟩ name v hv
    unfold fitsLine
    by_cases htrail : name ∈ trailingFields
    · simpa [htrail] using exists_givenText_iff.mp (htrailing name htrail) v hv
    · by_cases hplace : name ∈ placedFields
      · simpa [htrail] using hplaced name hplace v hv
      · simpa [htrail] using hremaining name (by simp [hplace, htrail]) v hv
  · intro h
    refine ⟨fun name hname v hv => ?_, fun name hname v hv => ?_, fun name hname => ?_⟩
    · simpa [fitsLine, happart name hname] using h name v hv
    · have htrail : name ∉ trailingFields := fun hmem => hname (List.mem_append_right _ hmem)
      simpa [fitsLine, htrail] using h name v hv
    · exact exists_givenText_iff.mpr fun v hv => by simpa [fitsLine, hname] using h name v hv

/-! ## The fields of an event in words -/

/-- A text fits every field. -/
@[simp] theorem fitsLine_str (name text : String) : fitsLine name (.str text) = true := by
  simp [fitsLine, Value.text?, Value.isOverlong]

theorem field?_fieldsInWords (hkeys : fields.HasTextKeys) (logger : String) (level : Level)
    (time : Moment) (name : String) :
    (fieldsInWords logger level time fields).field? name =
      if name = "timestamp" then some (.str (time.textWith " "))
      else if name = "logger" then some (.str logger)
      else if name = "level" then some (.str level.name)
      else fields.field? name := by
  have hlevel := hkeys.put "level" (.str level.name)
  rw [fieldsInWords, (hlevel.put "logger" (.str logger)).field?_put, hlevel.field?_put,
    hkeys.field?_put]
  simp only [eq_comm]

theorem hasTextKeys_fieldsInWords (hkeys : fields.HasTextKeys) (logger : String) (level : Level)
    (time : Moment) : (fieldsInWords logger level time fields).HasTextKeys :=
  ((hkeys.put _ _).put _ _).put _ _

theorem hasTextKeys_reportedFields (hkeys : fields.HasTextKeys) :
    (reportedFields fields).HasTextKeys :=
  (hkeys.sublist List.filter_sublist).mapValues readableField

theorem isApart_iff {names : List String} :
    (!names.any fun other => Value.str name == .str other) = true ↔ name ∉ names := by
  simp [List.forall_mem_ne]

/-- The fields that are reported have the values that were given, byte strings as text, except for
those that ask for a traceback. -/
theorem field?_reportedFields (hkeys : fields.HasTextKeys) :
    (reportedFields fields).field? name = some v ↔
      name ∉ tracebackFields ∧ ∃ w, fields.field? name = some w ∧ readableField w = v := by
  rw [← (hasTextKeys_reportedFields hkeys).mem_str_iff, reportedFields, List.mem_map]
  simp only [List.mem_filter]
  constructor
  · rintro ⟨⟨key, w⟩, ⟨hmem, hapart⟩, heq⟩
    obtain ⟨rfl, rfl⟩ := Prod.mk.inj heq
    exact ⟨isApart_iff.mp hapart, w, hkeys.mem_str_iff.mp hmem, rfl⟩
  · rintro ⟨hapart, w, hfield, rfl⟩
    exact ⟨(.str name, w), ⟨hkeys.mem_str_iff.mpr hfield, isApart_iff.mpr hapart⟩, rfl⟩

theorem hasTextKeys_withoutHidden (hkeys : fields.HasTextKeys) :
    (withoutHidden fields).HasTextKeys :=
  hkeys.sublist List.filter_sublist

theorem field?_withoutHidden (hkeys : fields.HasTextKeys) :
    (withoutHidden fields).field? name = some v ↔
      name ∉ hiddenFields ∧ fields.field? name = some v := by
  rw [← (hasTextKeys_withoutHidden hkeys).mem_str_iff, withoutHidden, List.mem_filter, isApart_iff,
    hkeys.mem_str_iff, and_comm]

/-! ## Lines in JSON -/

mutual

/-- Whether a value has a text in an object: its integers can be spelled out, and JSON knows the keys of
its mappings. The members of a set do not matter. -/
def isExpressible : Value → Bool
  | .int n => !Number.isOverlong n
  | .list xs | .tuple xs => areExpressible xs
  | .map entries => areExpressibleEntries entries
  | _ => true

def areExpressible : List Value → Bool
  | [] => true
  | x :: xs => isExpressible x && areExpressible xs

def areExpressibleEntries : List (Value × Value) → Bool
  | [] => true
  | (k, v) :: rest => Json.isKey k && isExpressible v && areExpressibleEntries rest

end

mutual

/-- JSON knows what is written for a value exactly if the value has a text. -/
theorem isKnown_plainData : ∀ v : Value, Json.isKnown (plainData v) = isExpressible v
  | .null | .bool _ | .int _ | .float _ | .str _ | .bytes _ | .date _ | .moment _ | .path _
  | .platform _ | .set _ => by simp [plainData, Json.isKnown, isExpressible]
  | .list xs | .tuple xs => by
    simp only [plainData, Json.isKnown, isExpressible, areKnown_plainDataAll xs]
  | .map entries => by
    simp only [plainData, Json.isKnown, isExpressible, areKnownEntries_plainEntries entries]

theorem areKnown_plainDataAll : ∀ xs : List Value,
    Json.areKnown (plainDataAll xs) = areExpressible xs
  | [] => rfl
  | x :: xs => by
    rw [plainDataAll, Json.areKnown, areExpressible, isKnown_plainData x, areKnown_plainDataAll xs]

theorem areKnownEntries_plainEntries : ∀ entries : List (Value × Value),
    Json.areKnownEntries (plainEntries entries) = areExpressibleEntries entries
  | [] => rfl
  | (k, v) :: rest => by
    rw [plainEntries, Json.areKnownEntries, areExpressibleEntries, isKnown_plainData v,
      areKnownEntries_plainEntries rest]

end

/-- Bytes at the top are text like other bytes. -/
theorem isExpressible_readableField (v : Value) : isExpressible (readableField v) = isExpressible v := by
  cases v <;> simp [readableField, isExpressible]

theorem areKnownEntries_iff {entries : Entries} : Json.areKnownEntries entries = true ↔
    ∀ entry ∈ entries, Json.isKey entry.1 = true ∧ Json.isKnown entry.2 = true := by
  induction entries with
  | nil => simp [Json.areKnownEntries]
  | cons entry rest ih =>
    obtain ⟨k, v⟩ := entry
    simp only [Json.areKnownEntries, Bool.and_eq_true, ih, List.forall_mem_cons]

/-- Fields with names that no record has itself stand in an object after what it says of the record. -/
theorem foldl_put_ownEntries (hkeys : more.HasTextKeys)
    (hapart : ∀ name ∈ ownNames, (.str name) ∉ more.map Prod.fst) (r : Record) (text : String) :
    more.foldl (fun entries (key, v) => entries.put key (plainData v)) (r.ownEntries text) =
      r.ownEntries text ++ more.map fun (key, v) => (key, plainData v) := by
  obtain ⟨names, hdistinct, hnames⟩ := hkeys
  have hall : Entries.HasTextKeys
      (r.ownEntries text ++ more.map fun (key, v) => (key, plainData v)) := by
    refine ⟨["asctime", "name", "levelname", "message"] ++ names, ?_, ?_⟩
    · have hown : ∀ name ∈ ["asctime", "name", "levelname", "message"], name ∈ ownNames := by decide
      refine List.nodup_append.mpr ⟨by decide, hdistinct, ?_⟩
      rintro name hname _ hmem rfl
      exact hapart name (hown name hname) (hnames ▸ List.mem_map_of_mem hmem)
    · simp only [List.map_append, List.map_map, ← hnames]
      rfl
  rw [← Entries.foldl_put _ hall, List.foldl_map]

/-- A message has a line in JSON exactly if all further fields have a text, where these have names that
no record has itself. -/
theorem exists_objectLine_iff {r : Record} {text : String} (hkeys : more.HasTextKeys)
    (hapart : ∀ name ∈ ownNames, (.str name) ∉ more.map Prod.fst) :
    (∃ line, objectLine r text more = .ok line) ↔
      ∀ entry ∈ more, isExpressible entry.2 = true := by
  have hline : (∃ line, objectLine r text more = .ok line) ↔ (Json.write Json.lineLayout
      (.map (r.ownEntries text ++ more.map fun (key, v) => (key, plainData v)))).2 = none := by
    rw [objectLine, foldl_put_ownEntries hkeys hapart]
    rcases Json.write Json.lineLayout _ with ⟨line, _ | fault⟩ <;> simp
  rw [hline, Json.write_unfaulted_iff, Json.isKnown, areKnownEntries_iff]
  have hown : ∀ entry ∈ r.ownEntries text,
      Json.isKey entry.1 = true ∧ Json.isKnown entry.2 = true := by
    simp [Record.ownEntries, Json.isKnown]
  simp only [List.forall_mem_append, List.forall_mem_map, isKnown_plainData]
  constructor
  · exact fun h entry hentry => (h.2 entry hentry).2
  · intro h
    refine ⟨hown, fun entry hentry => ⟨?_, h entry hentry⟩⟩
    obtain ⟨name, hname⟩ := hkeys.exists_name hentry
    exact hname ▸ Json.isKey_str name

end ReleasePackaging.Logging
