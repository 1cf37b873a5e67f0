import ReleasePackaging.Json.Writer
import ReleasePackaging.Logging.Level
import ReleasePackaging.Text.Base64
import ReleasePackaging.Text.Utf8

/-!
# Records of events

A record says which logger reported an event, how serious it is, and what was reported: fields, one
of which is the event itself, or a message with further fields beside it. A record is written as
one line, in words with the fields in the order of their names, or as a JSON object with the fields
in the order in which they were given. A record that holds something its format has no writing for has
no line.
-/
namespace ReleasePackaging.Logging

/-- The formats in which records are written. -/
inductive Format where
  | text | json
  deriving DecidableEq, Repr, Inhabited

inductive Report where
  | fields (entries : Entries)
  | message (text : String) (more : Entries)
  deriving Repr

structure Record where
  logger : String
  level : Level
  time : Moment
  report : Report
  deriving Repr

/-! ## Fields -/

/-- A byte string at the top of the fields as the text it encodes, faulty bytes replaced. -/
def readableField (v : Value) : Value :=
  match v with
  | .bytes bs => .str (String.ofList (Text.decodeReplacing [] bs))
  | v => v

/-- The names of fields that ask for a traceback; without one they say nothing. -/
def tracebackFields : List String := ["exc_info", "stack_info"]

def reportedFields (context : Entries) : Entries :=
  (context.filter fun (key, _) => !tracebackFields.any fun name => key == .str name).map
    fun (key, v) => (key, readableField v)

/-- The fields of an event written in words: its text, its level, its logger and its time take the
places of fields of the same names. -/
def fieldsInWords (logger : String) (level : Level) (time : Moment) (entries : Entries) : Entries :=
  ((entries.put (.str "level") (.str level.name)).put (.str "logger") (.str logger)).put
    (.str "timestamp") (.str (time.textWith " "))

/-- The names that a field beside a message must not have, because each record has them itself. -/
def ownNames : List String :=
  ["name", "msg", "args", "levelname", "levelno", "pathname", "filename", "module", "exc_info",
   "exc_text", "stack_info", "lineno", "funcName", "created", "msecs", "relativeCreated", "thread",
   "threadName", "processName", "process", "message", "asctime"]

/-! ## Lines in words -/

def padRight (width : Nat) (text : String) : String :=
  text ++ String.ofList (List.replicate (width - text.length) ' ')

/-- Why a record has no line: an integer of too many digits, a field that follows the line and is no
text, or something that JSON does not know. -/
inductive LineFault where
  | integer (f : Number.IntegerFault)
  | notJoined (kind : String)
  | json (f : Json.WriteFault)
  deriving DecidableEq, Repr

def LineFault.message : LineFault → String
  | .integer f => f.message
  | .notJoined kind => s!"can only concatenate str (not \"{kind}\") to str"
  | .json f => f.message

/-- A value in a line: a text without blanks, quotes and equals signs stands for itself. -/
def lineValue (v : Value) : Except LineFault String :=
  match v with
  | .str s =>
    .ok (if s.toList.any fun c => [' ', '\t', '=', '\r', '\n', '"', '\''].contains c then v.literal
      else s)
  | .platform p => .ok p.name
  | v => v.literalText.mapError .integer

def placedFields : List String := ["timestamp", "level", "event", "logger", "logger_name"]

def placedPart (name : String) (v : Value) : Except LineFault String := do
  let text ← v.plainText.mapError .integer
  return match name with
    | "level" => s!"[{padRight 9 text}]"
    | "event" => padRight 30 text
    | "logger" | "logger_name" => s!"[{text}]"
    | _ => text

/-- The fields that follow a line on lines of their own. -/
def trailingFields : List String := ["stack", "exception"]

/-- The fields that are left out of what is written in words. -/
def hiddenFields : List String := ["_record", "_from_structlog"]

/-- The text of a field that is given and not null. It has to be a text. -/
def givenText (entries : Entries) (name : String) : Except LineFault (Option String) :=
  match entries.field? name with
  | none | some .null => .ok none
  | some v =>
    match v.text? with
    | some text => .ok (some text)
    | none => .error (.notJoined v.fullKind)

/-- What follows a line: where an event came from, and what went wrong. -/
def trailer (entries : Entries) : Except LineFault String := do
  return match ← givenText entries "stack", ← givenText entries "exception" with
    | none, none => ""
    | some stack, none => "\n" ++ stack
    | none, some exception => "\n" ++ exception
    | some stack, some exception =>
      "\n" ++ stack ++ "\n\n" ++ String.ofList (List.replicate 79 '=') ++ "\n" ++ "\n" ++ exception

/-- Removes blanks at the end of a text. -/
def trimRight (s : String) : String :=
  String.ofList (s.toList.reverse.dropWhile (· == ' ')).reverse

def placedParts (entries : Entries) : Except LineFault (List String) :=
  (placedFields.filterMap fun name => (entries.field? name).map fun v => (name, v)).mapM
    fun (name, v) => placedPart name v

/-- A remaining field of a line: the name that its key is, unless the field stands elsewhere. -/
def remaining? (entry : Value × Value) : Option (String × Value) :=
  (entry.1.text?.filter fun name => !(placedFields ++ trailingFields).contains name).map
    fun name => (name, entry.2)

def remainingPart (name : String) (v : Value) : Except LineFault String := do
  return s!"{name}={← lineValue v}"

/-- The remaining fields of a line, in the order of their names. -/
def remainingParts (entries : Entries) : Except LineFault (List String) :=
  ((entries.filterMap remaining?).mergeSort fun a b => a.1 ≤ b.1).mapM
    fun (name, v) => remainingPart name v

def wordLine (entries : Entries) : Except LineFault String := do
  let parts := (← placedParts entries) ++ (← remainingParts entries)
  return trimRight (" ".intercalate (parts.filter (· != ""))) ++ (← trailer entries)

/-- The fields without those that are left out of what is written in words. -/
def withoutHidden (entries : Entries) : Entries :=
  entries.filter fun (key, _) => !hiddenFields.any fun name => key == .str name

/-! ## Lines in JSON -/

mutual

/-- A value in an object: what JSON does not know is written as text, bytes in base 64. -/
def plainData : Value → Value
  | .bytes bs => .str (String.ofList (Text.encodeBase64 true bs))
  | .date d => .str d.text
  | .moment t => .str t.text
  | .path p => .str p.toString
  | .platform p => .str p.name
  | .set xs => .str ((Value.set xs).plainText.toOption.getD "__could_not_encode__")
  | .list xs => .list (plainDataAll xs)
  | .tuple xs => .list (plainDataAll xs)
  | .map entries => .map (plainEntries entries)
  | v => v

def plainDataAll : List Value → List Value
  | [] => []
  | x :: xs => plainData x :: plainDataAll xs

def plainEntries : List (Value × Value) → List (Value × Value)
  | [] => []
  | (k, v) :: rest => (k, plainData v) :: plainEntries rest

end

/-- Whether a field beside a message is written in an object: its name does not start with an
underscore. -/
def isPublic (key : Value) : Bool :=
  match key.text? with
  | some name => name.toList.head? != some '_'
  | none => true

def Record.ownEntries (r : Record) (text : String) : Entries :=
  [(.str "asctime", .str (r.time.text ++ "+0000")), (.str "name", .str r.logger),
   (.str "levelname", .str (r.level.name.map Char.toUpper)), (.str "message", .str text)]

def objectLine (r : Record) (text : String) (more : Entries) : Except LineFault String :=
  let entries := more.foldl (fun entries (key, v) => entries.put key (plainData v))
    (r.ownEntries text)
  match Json.write Json.lineLayout (.map entries) with
  | (line, none) => .ok line
  | (_, some fault) => .error (.json fault)

/-! ## Lines -/

/-- A record as a line without its end. -/
def Record.line (format : Format) (r : Record) : Except LineFault String :=
  match format, r.report with
  | .text, .fields entries => wordLine (withoutHidden entries)
  | .text, .message text _ =>
    wordLine (fieldsInWords r.logger r.level r.time [(.str "event", .str text)])
  | .json, .fields entries => objectLine r "" entries
  | .json, .message text more => objectLine r text (more.filter fun (key, _) => isPublic key)

/-- A record as a line with its end; nothing if it has no line. -/
def Record.output (format : Format) (r : Record) : String :=
  (r.line format).toOption.elim "" (· ++ "\n")

def Record.bareMessage (r : Record) : Except LineFault String :=
  match r.report with
  | .fields entries => (Value.map entries).literalText.mapError .integer
  | .message text _ => .ok text

end ReleasePackaging.Logging
