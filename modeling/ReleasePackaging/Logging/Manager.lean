import ReleasePackaging.World

/-!
# Setting up logging

A manager sets up the logging system as its settings say: the level, and a handler for the console
and one for a log file, if they are wanted. Handlers that were attached before are detached, once the
level is known. If setting up fails half-way, the handlers made so far stay attached, and events are
recorded as they were before. Shutting down detaches and closes the handlers that the manager has made.
-/
namespace ReleasePackaging.Logging

/-- A manager: its settings, the handlers it has made, and whether it has ever set up logging. -/
structure Manager where
  settings : Entries
  made : List Nat
  isBegun : Bool
  deriving Repr

namespace Manager

def ofEntries (settings : Entries) : Manager := ⟨settings, [], false⟩

/-- The manager for a value, which has to be a mapping if it counts as given at all. -/
def ofValue (settings : Value) : Except Misuse Manager :=
  match settings with
  | .map entries => .ok (ofEntries entries)
  | v => if v.isTruthy then .error (.noAttribute v.fullKind "get") else .ok (ofEntries [])

def level (m : Manager) : Except Number.IntegerFault Level :=
  Level.ofSetting ((m.settings.field? "level").getD (.str "INFO"))

def formatName (m : Manager) : Except Number.IntegerFault String :=
  ((m.settings.field? "format").getD (.str "text")).plainText.map Text.lower

/-- The format that a manager asks for: a name that is not known means text. -/
def format (m : Manager) : Except Number.IntegerFault Format :=
  m.formatName.map fun name => if name = "json" then .json else .text

/-- A section of the settings, which has to be a mapping if it is given. -/
def part (m : Manager) (name : String) : Except Misuse Entries :=
  match m.settings.field? name with
  | none => .ok []
  | some (.map entries) => .ok entries
  | some v => .error (.noAttribute v.fullKind "get")

/-- Whether a section asks for its handler. -/
def isEnabled (entries : Entries) (default : Bool) : Bool :=
  ((entries.field? "enabled").getD (.bool default)).isTruthy

/-- The log file that a section of the settings describes, not yet open, and its path as given. -/
def logFile (entries : Entries) (workDir : Location) (p : Path) : Except Fault LogFile := do
  let number (name : String) (default : Int) : Except Fault Int :=
    ((entries.field? name).getD (.int default)).asInteger.mapError Fault.noInteger
  let limit ← number "max_bytes" (10 * 1024 * 1024)
  let backups ← number "backup_count" 5
  .ok ⟨LogFile.absolute workDir p, limit, backups, none, 0⟩

/-- Makes the log file of a section of the settings ready, with the directory it stands in. -/
def openLogFile (entries : Entries) : Action Fault LogFile := do
  let p ← Action.ofResult
    (((entries.field? "path").getD (.str "logs/tonpack.log")).asPath.mapError Fault.misuse)
  Action.onTree
    ((TreeAction.makeMissingDirectories p.components.length p.parent).adapt Fault.access)
  let f ← Action.ofResult (logFile entries (← get).tree.workDir p)
  let (f, tree) ← Action.ofResult ((f.reopened (← get).tree).mapError Fault.access)
  modify fun w => { w with tree := tree }
  return f

def change (f : System → System) : Action Fault Unit :=
  modify fun w => { w with logging := f w.logging }

def attach (m : Manager) (level : Level) (format : Format) (sink : Sink) : Action Fault Manager := do
  let (number, system) := (← get).logging.attach level format sink
  change fun _ => system
  return { m with made := m.made ++ [number] }

/-- Attaches the handler for the console if it is wanted. -/
def setUpConsole (m : Manager) (level : Level) (format : Format) : Action Fault Manager := do
  let entries ← Action.ofResult ((m.part "console").mapError Fault.misuse)
  if isEnabled entries true then m.attach level format .console else return m

/-- Attaches the handler for a log file if it is wanted. -/
def setUpFile (m : Manager) (level : Level) (format : Format) : Action Fault Manager := do
  let entries ← Action.ofResult ((m.part "file").mapError Fault.misuse)
  if isEnabled entries false then m.attach level format (.file (← openLogFile entries)) else return m

/-- Attaches the handlers that are wanted and has events recorded for them. -/
def setUpHandlers (m : Manager) (level : Level) (format : Format) :
    Action Fault (Manager × Except Fault Unit) := do
  match ← (m.setUpConsole level format).outcome with
  | .error fault => return (m, .error fault)
  | .ok m =>
    match ← (m.setUpFile level format).outcome with
    | .error fault => return (m, .error fault)
    | .ok m =>
      change fun s => { s with layout := some format }
      return (m, .ok ())

/-- Sets up logging. Gives the manager as it is afterwards, also if setting up fails. -/
def setUp (m : Manager) : Action Fault (Manager × Except Fault Unit) := do
  let m := { m with isBegun := true }
  match m.level with
  | .error fault => return (m, .error (.integer fault))
  | .ok level =>
    change fun s => { s.detachAll with level := level }
    match m.format with
    | .error fault => return (m, .error (.integer fault))
    | .ok format => m.setUpHandlers level format

def shutDown (m : Manager) : Action Fault Manager := do
  if m.isBegun then change fun s => s.release m.made
  return { m with made := [] }

end Manager

end ReleasePackaging.Logging
