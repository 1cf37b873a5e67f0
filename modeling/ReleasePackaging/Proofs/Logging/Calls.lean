import ReleasePackaging.Proofs.Logging.Lines
import ReleasePackaging.Proofs.Logging.SetUp

/-!
# Calls on loggers

A call on a logger raises if a field takes the name of a parameter, whatever the level of the call. If
it passes the level of the system it raises also if its fields cannot be recorded in the format that was
set up last: as JSON if a field has a name that each record has itself, and in words if a field is to
name the logger and does not. Any other call that passes the level becomes one record. The record is
lost if a field cannot be written in the format.
-/
namespace ReleasePackaging

namespace Signature

variable {signature : Signature} {a : Arguments} {values : List Value} {names : List (String × Value)}

/-- Further values by name are taken if none of them has the name of a parameter that has a value. -/
theorem bindNames_of_further (hfurther : signature.furtherNames = true)
    (hapart : ∀ name ∈ names.map Prod.fst, name ∉ signature.positional ++ signature.nameOnly) :
    ∃ named, signature.bindNames a names = .ok { a with named := named } := by
  induction names generalizing a with
  | nil => exact ⟨a.named, rfl⟩
  | cons entry rest ih =>
    obtain ⟨name, value⟩ := entry
    rw [List.map_cons, List.forall_mem_cons] at hapart
    obtain ⟨hname, hrest⟩ := hapart
    obtain ⟨named, hnamed⟩ := ih (a := { a with named := a.named ++ [(.str name, value)] }) hrest
    have hparameter : (signature.positional.contains name || signature.nameOnly.contains name) =
        false := by simpa using hname
    refine ⟨named, ?_⟩
    rw [bindNames, hparameter, if_neg Bool.false_ne_true, if_pos hfurther, hnamed]

theorem bindNames_of_parameter {name : String} (hfurther : signature.furtherNames = true)
    (hgiven : ∀ name ∈ signature.positional ++ signature.nameOnly, (a.get? name).isSome = true)
    (hname : name ∈ names.map Prod.fst) (hmem : name ∈ signature.positional ++ signature.nameOnly) :
    ∃ fault, signature.bindNames a names = .error fault := by
  induction names generalizing a with
  | nil => cases hname
  | cons entry rest ih =>
    obtain ⟨own, value⟩ := entry
    rw [bindNames]
    by_cases hparameter : own ∈ signature.positional ++ signature.nameOnly
    · have hcontains : (signature.positional.contains own || signature.nameOnly.contains own) =
          true := by simpa using hparameter
      rw [if_pos hcontains, if_pos (hgiven own hparameter)]
      exact ⟨_, rfl⟩
    · have hcontains : ¬ (signature.positional.contains own || signature.nameOnly.contains own) =
          true := by simpa using hparameter
      rw [if_neg hcontains, if_pos hfurther]
      have hne : name ≠ own := fun heq => hparameter (heq ▸ hmem)
      exact ih hgiven ((List.mem_cons.mp hname).resolve_left hne)

/-- A call that gives each parameter its value by position is bound exactly if no further value takes
the name of a parameter. -/
theorem exists_bind_iff (hfurther : signature.furtherNames = true)
    (hfilled : signature.positional.length = values.length) (hnone : signature.nameOnly = []) :
    (∃ a, signature.bind values names = .ok a) ↔
      ∀ name ∈ names.map Prod.fst, name ∉ signature.positional := by
  have hgiven : ∀ name ∈ signature.positional,
      (Arguments.get? ⟨signature.positional.zip values, [], []⟩ name).isSome = true := by
    intro name hname
    rw [← List.map_fst_zip (Nat.le_of_eq hfilled)] at hname
    obtain ⟨entry, hentry, rfl⟩ := List.mem_map.mp hname
    rw [Arguments.get?, ← Option.ne_none_iff_isSome]
    intro habsent
    simpa using List.lookup_eq_none_iff.mp habsent entry hentry
  have hfurtherNone : values.drop signature.positional.length = [] :=
    List.drop_eq_nil_of_le (Nat.le_of_eq hfilled.symm)
  have hrequired (named : Entries) : (signature.required.filter fun name =>
      (Arguments.get? ⟨signature.positional.zip values, [], named⟩ name).isNone) = [] := by
    refine List.filter_eq_nil_iff.mpr fun name hname => ?_
    have hsome := hgiven name (List.mem_append_left _ hname)
    simpa [Arguments.get?] using hsome
  unfold bind
  rw [hfurtherNone]
  constructor
  · rintro ⟨a, hbound⟩ name hname hmem
    obtain ⟨_, hnames, _⟩ := Result.bind_eq_ok_iff.mp hbound
    obtain ⟨fault, hfault⟩ := bindNames_of_parameter hfurther
      (a := ⟨signature.positional.zip values, [], []⟩) (by simpa [hnone] using hgiven) hname
      (List.mem_append_left _ hmem)
    cases hfault.symm.trans hnames
  · intro hapart
    obtain ⟨named, hnamed⟩ := bindNames_of_further hfurther
      (a := ⟨signature.positional.zip values, [], []⟩) (by simpa [hnone] using hapart)
    refine ⟨⟨signature.positional.zip values, [], named⟩, ?_⟩
    rw [hnamed]
    simp [hrequired]

end Signature

namespace Logging

/-! ## Calls -/

/-- A call on a logger: its level, its text, and the fields that have been bound to the logger before
and those that are given with the call. -/
structure LoggerCall where
  logger : String
  level : Level
  text : String
  bound : List (String × Value)
  fields : List (String × Value)

/-- What names a logger, where a field does: nothing at all, or what has a name. -/
def NamesLogger : Option Value → Prop
  | none | some .null | some (.path _) | some (.platform _) => True
  | _ => False

instance : DecidablePred NamesLogger := fun
  | none | some .null | some (.path _) | some (.platform _) => isTrue trivial
  | some (.bool _) | some (.int _) | some (.float _) | some (.str _) | some (.bytes _)
  | some (.date _) | some (.moment _) | some (.list _) | some (.tuple _) | some (.set _)
  | some (.map _) => isFalse id

namespace LoggerCall

def names (c : LoggerCall) : List String := (c.bound ++ c.fields).map Prod.fst

/-- The fields of a call, the last value of each name. -/
def entries (c : LoggerCall) : Entries :=
  (c.bound ++ c.fields).foldl (fun es (name, v) => es.put (.str name) v) []

/-- The names that say something about a call itself. -/
def directives : List String := ["event", "exc_info", "stack_info", "stacklevel"]

/-- Whether all fields of a call are only fields. -/
def IsOrdinary (c : LoggerCall) : Prop := ∀ name ∈ c.names, name ∉ directives

instance (c : LoggerCall) : Decidable c.IsOrdinary :=
  inferInstanceAs (Decidable (∀ name ∈ c.names, name ∉ directives))

/-- Whether a field takes the name of a parameter. -/
def Misfits (c : LoggerCall) : Prop := "self" ∈ c.names ∨ "method_name" ∈ c.fields.map Prod.fst

instance (c : LoggerCall) : Decidable c.Misfits := inferInstanceAs (Decidable (_ ∨ _))

def IsRecordable (format : Format) (c : LoggerCall) : Prop :=
  match format with
  | .text => NamesLogger (c.entries.field? "_record")
  | .json => ∀ name ∈ c.names, name ∉ ownNames

instance (format : Format) (c : LoggerCall) : Decidable (c.IsRecordable format) :=
  match format with
  | .text => inferInstanceAs (Decidable (NamesLogger _))
  | .json => inferInstanceAs (Decidable (∀ name ∈ c.names, name ∉ ownNames))

/-- Whether a field can be written in a format. The names that a line gives to its own parts and those
that it leaves out do not matter. -/
def fitsFormat (format : Format) (name : String) (v : Value) : Bool :=
  match format with
  | .text => (["timestamp", "logger", "level"] ++ hiddenFields).contains name ||
      fitsLine name (readableField v)
  | .json => !isPublic (.str name) || isExpressible v

def IsWritable (format : Format) (c : LoggerCall) : Prop :=
  ∀ name ∈ c.names, (c.entries.field? name).all (fitsFormat format name) = true

instance (format : Format) (c : LoggerCall) : Decidable (c.IsWritable format) :=
  inferInstanceAs (Decidable (∀ name ∈ c.names, _))

/-- Whether a call raises where logging has been set up with a level and a format. -/
def Raises (threshold : Level) (format : Format) (c : LoggerCall) : Prop :=
  c.Misfits ∨ (threshold.passes c.level = true ∧ ¬ c.IsRecordable format)

/-- Whether a call becomes a record where logging has been set up with a level and a format. -/
def IsRecorded (threshold : Level) (format : Format) (c : LoggerCall) : Prop :=
  threshold.passes c.level = true ∧ ¬ c.Raises threshold format

/-- Whether a call becomes a record that can be written. -/
def IsHeard (threshold : Level) (format : Format) (c : LoggerCall) : Prop :=
  c.IsRecorded threshold format ∧ c.IsWritable format

instance (threshold : Level) (format : Format) (c : LoggerCall) :
    Decidable (c.Raises threshold format) := inferInstanceAs (Decidable (_ ∨ _))

instance (threshold : Level) (format : Format) (c : LoggerCall) :
    Decidable (c.IsRecorded threshold format) := inferInstanceAs (Decidable (_ ∧ _))

instance (threshold : Level) (format : Format) (c : LoggerCall) :
    Decidable (c.IsHeard threshold format) := inferInstanceAs (Decidable (_ ∧ _))

/-- The name of the logger, the level and the event of a call. -/
def headline (c : LoggerCall) : String × Level × Option Value :=
  (System.reportingName c.logger, c.level, some (.str c.text))

end LoggerCall

/-- The name of the logger, the level and the event of a record. -/
def Record.headline (r : Record) : String × Level × Option Value :=
  (r.logger, r.level, match r.report with
    | .fields entries => entries.field? "event"
    | .message text _ => some (.str text))

/-- What records become in a format, those left out that have no line. -/
def outputs (format : Format) (records : List Record) : String :=
  String.join (records.map (Record.output format))

def LogFile.receiveAll (f : LogFile) (format : Format) (records : List Record) (t : FileTree) :
    LogFile × FileTree :=
  records.foldl (fun (f, t) record => f.receive (record.line format).toOption t) (f, t)

def System.make (s : System) (c : LoggerCall) (t : FileTree) :
    Except LogFault Unit × System × FileTree :=
  s.reportCall c.logger c.level c.text c.bound c.fields t

/-- Makes calls one after another, and gives the result of each. -/
def System.makeAll (s : System) (t : FileTree) :
    List LoggerCall → List (Except LogFault Unit) × System × FileTree
  | [] => ([], s, t)
  | c :: rest =>
    let (result, s', t') := s.make c t
    let (results, s'', t'') := s'.makeAll t' rest
    (result :: results, s'', t'')

namespace LoggerCall

variable {c : LoggerCall} {name : String}

/-! ### Fields -/

theorem field?_foldl_put_eq_none_iff (name : String) (given : List (String × Value))
    {fields : Entries} (hkeys : fields.HasTextKeys) :
    (given.foldl (fun es (name, v) => es.put (.str name) v) fields).HasTextKeys ∧
      ((given.foldl (fun es (name, v) => es.put (.str name) v) fields).field? name = none ↔
        fields.field? name = none ∧ name ∉ given.map Prod.fst) := by
  induction given generalizing fields with
  | nil => exact ⟨hkeys, by simp⟩
  | cons entry rest ih =>
    obtain ⟨own, v⟩ := entry
    obtain ⟨hresult, hnone⟩ := ih (hkeys.put own v)
    refine ⟨hresult, hnone.trans ?_⟩
    rw [hkeys.field?_put, List.map_cons, List.mem_cons, not_or]
    by_cases heq : own = name
    · simp [heq]
    · simp [heq, Ne.symm heq]

theorem hasTextKeys_entries (c : LoggerCall) : c.entries.HasTextKeys :=
  (field?_foldl_put_eq_none_iff "" _ Entries.hasTextKeys_nil).1

theorem field?_entries_eq_none_iff : c.entries.field? name = none ↔ name ∉ c.names :=
  (field?_foldl_put_eq_none_iff name _ Entries.hasTextKeys_nil).2.trans (and_iff_right rfl)

theorem exists_mem_entries_iff : (∃ v, (.str name, v) ∈ c.entries) ↔ name ∈ c.names := by
  have hfield : (∃ v, (.str name, v) ∈ c.entries) ↔ ∃ v, c.entries.field? name = some v := by
    simp [c.hasTextKeys_entries.mem_iff]
  rw [hfield, ← Option.isSome_iff_exists, ← Option.ne_none_iff_isSome, ne_eq,
    field?_entries_eq_none_iff, not_not]

/-- An ordinary call has all its fields reported beside its text. -/
theorem beside_text (h : c.IsOrdinary) :
    (reportedFields (c.entries.drop (.str "event"))).drop (.str "stacklevel") =
      c.entries.map fun (key, v) => (key, readableField v) := by
  have hkey : ∀ entry ∈ c.entries, ∃ name, entry.1 = .str name ∧ name ∉ directives := by
    rintro ⟨key, v⟩ hentry
    obtain ⟨name, rfl⟩ := c.hasTextKeys_entries.exists_name hentry
    exact ⟨name, rfl, h name (exists_mem_entries_iff.mp ⟨v, hentry⟩)⟩
  have hkeep (directive : String) (hdirective : directive ∈ directives) :
      ∀ entry ∈ c.entries, (!entry.1.same (.str directive)) = true ∧
        (!(entry.1 == .str directive)) = true := by
    intro entry hentry
    obtain ⟨name, hname, hnot⟩ := hkey entry hentry
    have hne : name ≠ directive := fun heq => hnot (heq ▸ hdirective)
    have hsame : (Value.str name).same (.str directive) = false := beq_false_of_ne hne
    simp [hname, hsame, hne]
  have hevent : c.entries.drop (.str "event") = c.entries :=
    List.filter_eq_self.mpr fun entry hentry => (hkeep "event" (by decide) entry hentry).1
  have hreported : reportedFields c.entries = c.entries.map fun (key, v) => (key, readableField v) := by
    refine congrArg (List.map _) (List.filter_eq_self.mpr fun entry hentry => ?_)
    have hexception := (hkeep "exc_info" (by decide) entry hentry).2
    have hstack := (hkeep "stack_info" (by decide) entry hentry).2
    simp_all [tracebackFields]
  rw [hevent, hreported]
  refine List.filter_eq_self.mpr fun entry hentry => ?_
  obtain ⟨given, hgiven, rfl⟩ := List.mem_map.mp hentry
  exact (hkeep "stacklevel" (by decide) given hgiven).1

/-! ### Records -/

variable {format : Format} {s : System}

/-- A call that can be recorded as JSON has no field with the name of an own part of a record. -/
theorem findSome?_ownNames_eq_none_iff :
    ((c.entries.map fun (key, v) => (key, readableField v)).findSome? fun (key, _) =>
      key.text?.filter ownNames.contains) = none ↔ c.IsRecordable .json := by
  rw [List.findSome?_eq_none_iff]
  constructor
  · intro hnone name hname
    obtain ⟨v, hentry⟩ := exists_mem_entries_iff.mpr hname
    simpa [Value.text?] using hnone _ (List.mem_map_of_mem hentry)
  · intro hrecordable entry hentry
    obtain ⟨⟨key, v⟩, hgiven, rfl⟩ := List.mem_map.mp hentry
    obtain ⟨name, rfl⟩ := c.hasTextKeys_entries.exists_name hgiven
    simpa [Value.text?] using hrecordable name (exists_mem_entries_iff.mp ⟨v, hgiven⟩)

theorem exists_namedLogger_iff {logger : String} {fields : Entries} :
    (∃ named, System.namedLogger logger fields = .ok named) ↔
      NamesLogger (fields.field? "_record") := by
  unfold System.namedLogger
  split
  all_goals
    next hrecord => simp_all [NamesLogger]

/-! ### Lines -/

theorem mem_names_of_field? {v : Value} (hv : c.entries.field? name = some v) : name ∈ c.names := by
  by_contra hnot
  rw [field?_entries_eq_none_iff.mpr hnot] at hv
  cases hv

theorem isWritable_iff : c.IsWritable format ↔
    ∀ name v, c.entries.field? name = some v → fitsFormat format name v = true := by
  constructor
  · intro h name v hv
    simpa [hv] using h name (mem_names_of_field? hv)
  · intro h name _
    cases hv : c.entries.field? name with
    | none => rfl
    | some v => exact h name v hv

def inWords (c : LoggerCall) (named : String) (time : Moment) : Entries :=
  fieldsInWords named c.level time (c.entries.put (.str "event") (.str c.text))

theorem hasTextKeys_inWords (c : LoggerCall) (named : String) (time : Moment) :
    (c.inWords named time).HasTextKeys :=
  hasTextKeys_fieldsInWords (c.hasTextKeys_entries.put _ _) named c.level time

theorem field?_inWords (c : LoggerCall) (named : String) (time : Moment) (name : String) :
    (c.inWords named time).field? name =
      if name = "timestamp" then some (.str (time.textWith " "))
      else if name = "logger" then some (.str named)
      else if name = "level" then some (.str c.level.name)
      else if name = "event" then some (.str c.text)
      else c.entries.field? name := by
  rw [inWords, field?_fieldsInWords (c.hasTextKeys_entries.put _ _), c.hasTextKeys_entries.field?_put]
  simp only [eq_comm]

/-- The event of a record in words is the text, even if a field is called so. -/
theorem event_inWords (c : LoggerCall) (named : String) (time : Moment) :
    (reportedFields (c.inWords named time)).field? "event" = some (.str c.text) :=
  (field?_reportedFields (c.hasTextKeys_inWords named time)).mpr
    ⟨by decide, .str c.text, by simp [field?_inWords], rfl⟩

/-- The record of an ordinary call has a line in words exactly if all its fields can be written. -/
theorem exists_wordLine_iff (h : c.IsOrdinary) (named : String) (time : Moment) :
    (∃ line, wordLine (withoutHidden (reportedFields (c.inWords named time))) = .ok line) ↔
      c.IsWritable .text := by
  have hkeys := c.hasTextKeys_inWords named time
  have hreported := hasTextKeys_reportedFields hkeys
  rw [Logging.exists_wordLine_iff (hasTextKeys_withoutHidden hreported), isWritable_iff]
  simp only [field?_withoutHidden hreported, field?_reportedFields hkeys, field?_inWords, fitsFormat,
    Bool.or_eq_true, List.contains_iff_mem]
  constructor
  · intro hfits name v hv
    by_cases hown : name ∈ ["timestamp", "logger", "level"] ++ hiddenFields
    · exact .inl hown
    · have hdirective : name ∉ directives := h name (mem_names_of_field? hv)
      simp only [List.mem_append, List.mem_cons, List.not_mem_nil, not_or, directives] at hown hdirective
      refine .inr (hfits name _ ⟨hown.2, ?_, v, ?_, rfl⟩)
      · simp [tracebackFields, hdirective]
      · simp [hown, hdirective, hv]
  · rintro hfits name _ ⟨hhidden, _, v, hv, rfl⟩
    -- The parts of the line itself and the event are texts; all else is a field of the call.
    split_ifs at hv with htimestamp hlogger hlevel
    iterate 4
      · cases hv
        exact fitsLine_str _ _
    · refine (hfits name v hv).resolve_left ?_
      simp [htimestamp, hlogger, hlevel, hhidden]

/-- The record of an ordinary call has a line in JSON exactly if all its fields can be written. -/
theorem exists_objectLine_iff (hrecordable : c.IsRecordable .json) (r : Record) :
    (∃ line, objectLine r c.text ((c.entries.map fun (key, v) => (key, readableField v)).filter
      fun (key, _) => isPublic key) = .ok line) ↔ c.IsWritable .json := by
  have hkeys := (c.hasTextKeys_entries.mapValues readableField).sublist
    (List.filter_sublist (p := fun (key, _) => isPublic key))
  have hapart : ∀ name ∈ ownNames, (.str name) ∉ ((c.entries.map fun (key, v) =>
      (key, readableField v)).filter fun (key, _) => isPublic key).map Prod.fst := by
    intro name hown hmem
    obtain ⟨_, hentry, hname⟩ := List.mem_map.mp hmem
    obtain ⟨⟨key, v⟩, hgiven, rfl⟩ := List.mem_map.mp (List.mem_filter.mp hentry).1
    obtain rfl : key = .str name := hname
    exact hrecordable name (exists_mem_entries_iff.mp ⟨v, hgiven⟩) hown
  rw [Logging.exists_objectLine_iff hkeys hapart, isWritable_iff]
  constructor
  · intro hexpressible name v hv
    by_cases hpublic : isPublic (.str name) = true
    · have hentry := List.mem_map_of_mem (f := fun (key, v) => (key, readableField v))
        (c.hasTextKeys_entries.mem_str_iff.mpr hv)
      have hfits := hexpressible _ (List.mem_filter.mpr ⟨hentry, hpublic⟩)
      rw [isExpressible_readableField] at hfits
      simp [fitsFormat, hfits]
    · simp [fitsFormat, hpublic]
  · intro hfits entry hentry
    obtain ⟨hmem, hpublic⟩ := List.mem_filter.mp hentry
    obtain ⟨⟨key, v⟩, hgiven, rfl⟩ := List.mem_map.mp hmem
    obtain ⟨name, rfl, hv⟩ := c.hasTextKeys_entries.mem_iff.mp hgiven
    rw [isExpressible_readableField]
    simpa [fitsFormat, show isPublic (.str name) = true from hpublic] using hfits name v hv

example : ¬ (⟨"tool", .info, "begun", [], [("stack", .int 3)]⟩ : LoggerCall).IsWritable .text := by
  decide

example : ¬ (⟨"tool", .info, "begun", [], [("parts", .map [(.bytes [120], .null)])]⟩ :
    LoggerCall).IsWritable .json := by
  decide

/-- The record of a call that can be recorded tells its logger, its level and its event, and has a line
exactly if all fields can be written. -/
theorem recordOf_recordable (h : c.IsOrdinary) (hrecordable : c.IsRecordable format) :
    ∃ record, s.recordOf format c.logger c.level c.text c.entries = .ok record ∧
      record.headline = c.headline ∧
      ((∃ line, record.line format = .ok line) ↔ c.IsWritable format) := by
  cases format with
  | text =>
    obtain ⟨named, hnamed⟩ := exists_namedLogger_iff.mpr hrecordable
    simp only [System.recordOf]
    rw [hnamed]
    refine ⟨_, rfl, ?_, exists_wordLine_iff h named s.time⟩
    have hevent := c.event_inWords named s.time
    rw [inWords] at hevent
    simp only [Record.headline, headline, hevent]
  | json =>
    have hdepth : c.entries.field? "stacklevel" = none :=
      field?_entries_eq_none_iff.mpr fun hmem => h _ hmem (by decide)
    have hnone := findSome?_ownNames_eq_none_iff.mpr hrecordable
    simp only [System.recordOf, beside_text h, hdepth, Option.bind_none, hnone]
    exact ⟨_, rfl, rfl, exists_objectLine_iff hrecordable _⟩

theorem recordOf_not_recordable (h : c.IsOrdinary) (hrefused : ¬ c.IsRecordable format) :
    ∃ fault, s.recordOf format c.logger c.level c.text c.entries = .error fault := by
  cases format with
  | text =>
    simp only [System.recordOf]
    cases hnamed : System.namedLogger (System.reportingName c.logger) c.entries with
    | ok named => exact absurd (exists_namedLogger_iff.mp ⟨named, hnamed⟩) hrefused
    | error fault => exact ⟨fault, rfl⟩
  | json =>
    have hdepth : c.entries.field? "stacklevel" = none :=
      field?_entries_eq_none_iff.mpr fun hmem => h _ hmem (by decide)
    obtain ⟨name, hsome⟩ :=
      Option.ne_none_iff_exists'.mp (mt findSome?_ownNames_eq_none_iff.mp hrefused)
    simp only [System.recordOf, beside_text h, hdepth, Option.bind_none, hsome]
    exact ⟨_, rfl⟩

/-! ### One call -/

variable {t : FileTree} {threshold : Level}

theorem callFault?_eq_none_iff {signature : Signature} {values : List Value}
    {given : List (String × Value)} (hfurther : signature.furtherNames = true)
    (hfilled : signature.positional.length = values.length) (hnone : signature.nameOnly = []) :
    System.callFault? signature values given = none ↔
      ∀ name ∈ given.map Prod.fst, name ∉ signature.positional := by
  rw [← signature.exists_bind_iff hfurther hfilled hnone, System.callFault?]
  cases signature.bind values given <;> simp

def fault? (s : System) (c : LoggerCall) : Option LogFault :=
  (System.callFault? System.bindSignature [.null] c.bound <|>
    System.callFault? (s.reportSignature c.level) [.null, .str c.text] c.fields) <|>
    System.callFault? s.forwardSignature [.null, .str c.level.name, .str c.text] c.fields

theorem make_eq (s : System) (c : LoggerCall) (t : FileTree) :
    s.make c t = match fault? s c with
      | some fault => (.error fault, s, t)
      | none => s.report c.logger c.level c.text c.entries t := rfl

/-- Once logging has been set up, an ordinary call is bound unless a field takes the name of a
parameter. -/
theorem fault?_eq_none_iff (h : c.IsOrdinary) (hlayout : s.layout = some format) :
    fault? s c = none ↔ ¬ c.Misfits := by
  have hevent : "event" ∉ c.fields.map Prod.fst := fun hmem =>
    h "event" (by simp_all [names]) (by decide)
  have hreport : s.reportSignature c.level =
      ⟨s!"BoundLogger.{c.level.name}", ["self"], ["event"], [], true, true⟩ := by
    rw [System.reportSignature, hlayout]
  have hforward : s.forwardSignature =
      ⟨"BoundLogger._proxy_to_logger", ["self", "method_name"], ["event"], [], true, true⟩ := by
    rw [System.forwardSignature, hlayout]
  have hbind : System.callFault? System.bindSignature [.null] c.bound = none ↔
      ∀ name ∈ c.bound.map Prod.fst, name ∉ System.bindSignature.positional :=
    callFault?_eq_none_iff rfl rfl rfl
  simp only [fault?, Option.orElse_eq_orElse, Option.orElse_eq_or, Option.or_eq_none_iff, hreport,
    hforward]
  rw [hbind, callFault?_eq_none_iff rfl rfl rfl, callFault?_eq_none_iff rfl rfl rfl]
  have hswap (given parameters : List String) :
      (∀ name ∈ given, name ∉ parameters) ↔ ∀ name ∈ parameters, name ∉ given :=
    ⟨fun h name hname hmem => h name hmem hname, fun h name hname hmem => h name hmem hname⟩
  simp only [hswap (List.map _ _), Signature.positional, System.bindSignature, Misfits, names,
    List.map_append, List.mem_append, List.cons_append, List.nil_append, List.append_nil,
    List.forall_mem_cons, not_or, hevent, not_false_eq_true]
  tauto

/-- How a call ends where logging has been set up with a level and a format. -/
inductive Performed (threshold : Level) (format : Format) (s : System) (t : FileTree)
    (c : LoggerCall) : Except LogFault Unit × System × FileTree → Prop where
  | raised {fault : LogFault} (hraises : c.Raises threshold format) :
      Performed threshold format s t c (.error fault, s, t)
  | ignored (hraises : ¬ c.Raises threshold format) (hnot : ¬ c.IsRecorded threshold format) :
      Performed threshold format s t c (.ok (), s, t)
  | recorded {record : Record} (hrecorded : c.IsRecorded threshold format)
      (hheadline : record.headline = c.headline)
      (hline : (∃ line, record.line format = .ok line) ↔ c.IsWritable format) :
      Performed threshold format s t c (.ok (), s.publish record t)

theorem performed (h : c.IsOrdinary) (hlevel : s.level = threshold)
    (hlayout : s.layout = some format) (t : FileTree) :
    Performed threshold format s t c (s.make c t) := by
  rw [make_eq]
  cases hfault : fault? s c with
  | some fault =>
    have hmisfits : c.Misfits := by
      by_contra hfits
      rw [(fault?_eq_none_iff h hlayout).mpr hfits] at hfault
      cases hfault
    exact .raised (.inl hmisfits)
  | none =>
    have hfits := (fault?_eq_none_iff h hlayout).mp hfault
    simp only [System.report, hlayout, hlevel]
    split
    · next hpasses =>
      by_cases hrecordable : c.IsRecordable format
      · obtain ⟨record, hrecord, hheadline, hline⟩ := recordOf_recordable (s := s) h hrecordable
        rw [hrecord]
        exact .recorded ⟨hpasses, not_or.mpr ⟨hfits, fun hno => hno.2 hrecordable⟩⟩ hheadline hline
      · obtain ⟨fault, hfault⟩ := recordOf_not_recordable (s := s) h hrecordable
        rw [hfault]
        exact .raised (.inr ⟨hpasses, hrecordable⟩)
    · next hquiet =>
      exact .ignored (not_or.mpr ⟨hfits, fun hno => hquiet hno.1⟩) fun hrecorded => hquiet hrecorded.1

end LoggerCall

/-! ## Calls one after another -/

variable {s : System} {threshold : Level} {format : Format} {first : Nat} {console : Bool}
  {file : Option LogFile} {calls : List LoggerCall} {t : FileTree}

/-- A system that has been set up with a level and a format, and with handlers from a first number on
for the console and a log file, where they are wanted. -/
structure System.IsTuned (threshold : Level) (format : Format) (first : Nat) (console : Bool)
    (file : Option LogFile) (s : System) : Prop where
  level : s.level = threshold
  layout : s.layout = some format
  attached : s.attached = newHandlers threshold format first (wantedSinks console file)

/-- What calls lead to: those raise that have to, and those that are to be recorded become records, in
order and one for each. The console and the log file, where these are wanted, get all the records. What
is written of a record is its line, and a record has one exactly if all fields of its call can be
written. -/
structure AreHeard (threshold : Level) (format : Format) (console : Bool) (file : Option LogFile)
    (s : System) (t : FileTree) (calls : List LoggerCall)
    (outcome : List (Except LogFault Unit) × System × FileTree) : Prop where
  raising : List.Forall₂ (fun c result => (∃ fault, result = .error fault) ↔
    c.Raises threshold format) calls outcome.1
  recorded : ∃ records : List Record,
    List.Forall₂ (fun c record => record.headline = c.headline ∧
        ((∃ line, record.line format = .ok line) ↔ c.IsWritable format))
      (calls.filter fun c => c.IsRecorded threshold format) records ∧
    outcome.2.1.out = s.out ++ (if console then outputs format records else "") ∧
    outcome.2.2 = file.elim t fun f => (f.receiveAll format records t).2

namespace System

/-- A record that passes the level leaves a system tuned. -/
theorem IsTuned.publish (h : s.IsTuned threshold format first console file) (record : Record)
    (hpasses : threshold.passes record.level = true) (t : FileTree) :
    (s.publish record t).1.IsTuned threshold format first console
      (file.map fun f => (f.receive (record.line format).toOption t).1) := by
  obtain ⟨hlevel, hlayout, hattached⟩ := attached_publish_wanted h.attached record hpasses t
  exact ⟨hlevel.trans h.level, hlayout.trans h.layout, hattached⟩

/-- What calls lead to on a tuned system. -/
theorem IsTuned.makeAll (h : s.IsTuned threshold format first console file)
    (hcalls : ∀ c ∈ calls, c.IsOrdinary) (t : FileTree) :
    AreHeard threshold format console file s t calls (s.makeAll t calls) := by
  induction calls generalizing s t file with
  | nil => exact ⟨.nil, [], .nil, by cases console <;> simp [makeAll, outputs], by cases file <;> rfl⟩
  | cons c rest ih =>
    obtain ⟨hc, hrest⟩ := List.forall_mem_cons.mp hcalls
    have hperformed := LoggerCall.performed hc h.level h.layout t
    rw [makeAll]
    generalize hmake : s.make c t = outcome at hperformed
    cases hperformed with
    | raised hraises =>
      obtain ⟨hresults, records, hrecords, hout, htree⟩ := ih h hrest t
      have hnot : ¬ c.IsRecorded threshold format := fun hrecorded => hrecorded.2 hraises
      refine ⟨.cons (iff_of_true ⟨_, rfl⟩ hraises) hresults, records, ?_, hout, htree⟩
      rwa [List.filter_cons_of_neg (by simpa using hnot)]
    | ignored hraises hnot =>
      obtain ⟨hresults, records, hrecords, hout, htree⟩ := ih h hrest t
      refine ⟨.cons (iff_of_false (fun ⟨_, hfault⟩ => nomatch hfault) hraises) hresults, records, ?_,
        hout, htree⟩
      rwa [List.filter_cons_of_neg (by simpa using hnot)]
    | @recorded record hrecorded hheadline hline =>
      have hpasses : threshold.passes record.level = true := by
        have hlevel : record.level = c.level := congrArg (·.2.1) hheadline
        rw [hlevel]
        exact hrecorded.1
      obtain ⟨hwritten, hstored⟩ := publish_wanted h.attached record hpasses t
      obtain ⟨hresults, records, hrecords, hout, htree⟩ :=
        ih (h.publish record hpasses t) hrest (s.publish record t).2
      refine ⟨.cons (iff_of_false (fun ⟨_, hfault⟩ => nomatch hfault) hrecorded.2) hresults,
        record :: records, ?_, ?_, ?_⟩
      · rw [List.filter_cons_of_pos (by simpa using hrecorded)]
        exact .cons ⟨hheadline, hline⟩ hrecords
      · refine hout.trans ?_
        rw [hwritten]
        cases console <;> simp [outputs, String.append_assoc]
      · refine htree.trans ?_
        rw [hstored]
        cases file <;> rfl

end System

end Logging

end ReleasePackaging
