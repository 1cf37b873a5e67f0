import ReleasePackaging.Call.Signature
import ReleasePackaging.Logging.LogFile
import ReleasePackaging.Logging.Record

/-!
# The logging system

Records go to handlers, each of which has a level, a format and a sink: the console or a log file.
The system knows all handlers that have ever been made; those that are attached get the records that
reach its own level. A record that has no line in the format of a handler is lost there. Where no
handler is attached, warnings and worse go to the error output as bare messages. An event with
fields becomes a record in the way that was set up last; before anything has been set up events are
written elsewhere and leave no record.
-/
namespace ReleasePackaging.Logging

/-- Where a handler writes. -/
inductive Sink where
  | console
  | file (f : LogFile)
  deriving DecidableEq, Repr

/-- A handler. It is known by its number. -/
structure Handler where
  number : Nat
  level : Level
  format : Format
  sink : Sink
  isAttached : Bool
  isClosed : Bool
  deriving DecidableEq, Repr

structure System where
  level : Level
  handlers : List Handler
  layout : Option Format
  out : String
  err : String
  time : Moment
  deriving Repr

/-- Why an event cannot be recorded: a field with a name that each record has itself, a call that does
not fit, a field of a kind that its use does not allow, or no line where events leave no record. -/
inductive LogFault where
  | ownName (name : String)
  | call (callee : String) (f : CallFault)
  | noName (kind : String)
  | noDifference (kind : String)
  | notWhole (kind : String)
  | line (f : LineFault)
  deriving DecidableEq, Repr

def LogFault.message : LogFault → String
  | .ownName name => Text.quote s!"Attempt to overwrite '{name}' in LogRecord"
  | .call callee f => f.message callee
  | .noName kind => s!"'{kind}' object has no attribute 'name'"
  | .noDifference kind => s!"unsupported operand type(s) for -: '{kind}' and 'int'"
  | .notWhole kind => s!"'{kind}' object cannot be interpreted as an integer"
  | .line f => f.message

namespace System

def initial (time : Moment) : System := ⟨.warning, [], none, "", "", time⟩

/-- The handlers that get records, in the order in which they were made. -/
def attached (s : System) : List Handler := s.handlers.filter (·.isAttached)

def update (s : System) (number : Nat) (change : Handler → Handler) : System :=
  { s with handlers := s.handlers.map fun h => if h.number = number then change h else h }

def detachAll (s : System) : System :=
  { s with handlers := s.handlers.map fun h => { h with isAttached := false } }

/-- The system with a new handler attached, and its number. -/
def attach (s : System) (level : Level) (format : Format) (sink : Sink) : Nat × System :=
  let number := s.handlers.length
  (number, { s with handlers := s.handlers ++ [⟨number, level, format, sink, true, false⟩] })

/-- The system with some handlers detached and closed. -/
def release (s : System) (numbers : List Nat) : System :=
  { s with handlers := s.handlers.map fun h =>
      if numbers.contains h.number then { h with isAttached := false, isClosed := true } else h }

/-- Writes a record to a handler that gets it, if the record has a line. -/
def deliver (record : Record) (s : System) (t : FileTree) (h : Handler) : System × FileTree :=
  if !h.level.passes record.level then (s, t)
  else
    match h.sink with
    | .console => ({ s with out := s.out ++ record.output h.format }, t)
    | .file f =>
      let (f, t) := f.receive (record.line h.format).toOption t
      (s.update h.number fun h => { h with sink := .file f }, t)

/-- Hands a record that has reached the level of the system to the handlers. -/
def publish (s : System) (record : Record) (t : FileTree) : System × FileTree :=
  match s.attached with
  | [] =>
    if Level.warning.passes record.level then
      ({ s with err := s.err ++ record.bareMessage.toOption.elim "" (· ++ "\n") }, t)
    else (s, t)
  | handlers => handlers.foldl (fun (s, t) h => deliver record s t h) (s, t)

/-- The name under which a logger reports: the nameless one is the root of all. -/
def reportingName (logger : String) : String := if logger = "" then "root" else logger

def tell (s : System) (logger : String) (level : Level) (message : String) (t : FileTree) :
    System × FileTree :=
  if s.level.passes level then
    s.publish ⟨reportingName logger, level, s.time, .message message []⟩ t
  else (s, t)

/-- The logger that an event in words names: the one that reports it, unless a field holds a record,
which then names it. -/
def namedLogger (name : String) (fields : Entries) : Except LogFault String :=
  match fields.field? "_record" with
  | none | some .null => .ok name
  | some (.path p) => .ok p.name
  | some (.platform p) => .ok p.name.toUpper
  | some v => .error (.noName v.fullKind)

/-- What is wrong with the number of calls to go back to where an event is reported from. -/
def depthFault? (depth : Value) : Option LogFault :=
  if !depth.isTruthy then none
  else
    match depth with
    | .bool _ | .int _ => none
    | .float x => if x.isAbove 1 then some (.notWhole "float") else none
    | v => some (.noDifference v.fullKind)

def recordOf (s : System) (format : Format) (logger : String) (level : Level) (text : String)
    (fields : Entries) : Except LogFault Record :=
  let name := reportingName logger
  match format with
  | .text => do
    let entries := fields.put (.str "event") (.str text)
    let named ← namedLogger name fields
    .ok ⟨name, level, s.time,
      .fields (reportedFields (fieldsInWords named level s.time entries))⟩
  | .json =>
    let more := (reportedFields (fields.drop (.str "event"))).drop (.str "stacklevel")
    match (fields.field? "stacklevel").bind depthFault? with
    | some fault => .error fault
    | none =>
      match more.findSome? fun (key, _) => key.text?.filter ownNames.contains with
      | some name => .error (.ownName name)
      | none => .ok ⟨name, level, s.time, .message text more⟩

/-- Reports an event with fields. Before the first set-up only what is to follow the line is looked at. -/
def report (s : System) (logger : String) (level : Level) (text : String) (fields : Entries)
    (t : FileTree) : Except LogFault Unit × System × FileTree :=
  match s.layout with
  | none => (((trailer fields).map fun _ => ()).mapError .line, s, t)
  | some format =>
    if s.level.passes level then
      match s.recordOf format logger level text fields with
      | .ok record => (.ok (), s.publish record t)
      | .error fault => (.error fault, s, t)
    else (.ok (), s, t)

/-- What reporting an event is called, with its parameters, before and after the first set-up. -/
def reportSignature (s : System) (level : Level) : Signature :=
  match s.layout with
  | some _ => ⟨s!"BoundLogger.{level.name}", ["self"], ["event"], [], true, true⟩
  | none =>
    ⟨"_make_filtering_bound_logger.<locals>.make_method.<locals>.meth", ["self", "event"], [], [],
      true, true⟩

/-- What reporting an event calls in turn. -/
def forwardSignature (s : System) : Signature :=
  match s.layout with
  | some _ =>
    ⟨"BoundLogger._proxy_to_logger", ["self", "method_name"], ["event"], [], true, true⟩
  | none => ⟨"BoundLoggerBase._proxy_to_logger", ["self", "method_name"], ["event"], [], false, true⟩

def bindSignature : Signature := ⟨"BoundLoggerLazyProxy.bind", ["self"], [], [], false, true⟩

def callFault? (signature : Signature) (values : List Value) (names : List (String × Value)) :
    Option LogFault :=
  match signature.bind values names with
  | .error fault => some (.call signature.name fault)
  | .ok _ => none

/-- Reports an event for a call: its text by position, its fields by name, after fields that were
bound before. -/
def reportCall (s : System) (logger : String) (level : Level) (text : String)
    (bound fields : List (String × Value)) (t : FileTree) :
    Except LogFault Unit × System × FileTree :=
  let entries : Entries := (bound ++ fields).foldl (fun es (name, v) => es.put (.str name) v) []
  let fault := (callFault? bindSignature [.null] bound <|>
    callFault? (s.reportSignature level) [.null, .str text] fields) <|>
    callFault? s.forwardSignature [.null, .str level.name, .str text] fields
  match fault with
  | some fault => (.error fault, s, t)
  | none => s.report logger level text entries t

end System

end ReleasePackaging.Logging
