import ReleasePackaging.Config.Settings
import ReleasePackaging.FileTree.Access
import ReleasePackaging.Json.Reader
import ReleasePackaging.Json.Writer
import ReleasePackaging.Text.Lines

/-!
# Configuration files

Settings stand in a file, as JSON if the name of the file says so and as YAML otherwise. A text
that is no document of its format is a failure of the configuration, and so is a document that is no
mapping; an empty document gives no settings. A configuration is written to a file as JSON.
-/
namespace ReleasePackaging.Config

/-- Why a file gives no settings. -/
inductive FileProblem where
  | missing
  | unreadable (cause : String)
  | notMapping
  deriving DecidableEq, Repr

def FileProblem.message (path : Path) : FileProblem → String
  | .missing => s!"Configuration file not found: {path}"
  | .unreadable cause => s!"Error parsing config file {path}: {cause}"
  | .notMapping => s!"Config file {path} must contain a mapping"

def FileProblem.fault (path : Path) (problem : FileProblem) : Fault :=
  .failure (.configuration (some "config_path") (problem.message path))

def isJson (path : Path) : Bool := Text.lower path.suffix == ".json"

/-- The fault of a text that is no JSON document. -/
def jsonFault (path : Path) (fault : Json.Fault) : Fault :=
  match fault with
  | .grammar _ _ => (FileProblem.unreadable fault.message).fault path
  | .integer f => .integer f

/-- The fault of bytes that hold no YAML document, or of a scalar in one. -/
def yamlFault (path : Path) (fault : Yaml.ReadFault) : Fault :=
  match fault with
  | .source (.undecodable f) => .decoding f
  | .source (.unprintable _ _) | .document _ =>
    (FileProblem.unreadable (fault.message path.toString)).fault path
  | _ => .scalar fault

/-- The document that the content of a file gives. YAML is read piece by piece. -/
def documentIn (path : Path) (content : ByteArray) : Except Fault Value :=
  if isJson path then do
    let cs ← (Text.fileText content).mapError Fault.decoding
    (Json.read cs).mapError (jsonFault path)
  else (Yaml.read (.ofBytes content)).mapError (yamlFault path)

def settingsAt (t : FileTree) (path : Path) : Except Fault Entries := do
  if !(← (t.isFile path).mapError Fault.access) then .error (FileProblem.missing.fault path)
  else
    let content ← (t.read path.toString).mapError Fault.access
    match ← documentIn path content with
    | .null => .ok []
    | .map entries => .ok entries
    | _ => .error (FileProblem.notMapping.fault path)

def ofFile (t : FileTree) (path : Path) : Except Fault Config := do ofEntries (← settingsAt t path)

/-- Writes a configuration to a file, which is emptied first. What has been written before a fault
stays in the file. -/
def save (c : Config) (text : String) : TreeAction Fault Unit := do
  let number ← (TreeAction.openFor false text).adapt Fault.access
  match c.toEntries with
  | .error f => throw (.ofExport f)
  | .ok entries => do
    let (document, fault?) := Json.write Json.fileLayout (.map entries)
    modify fun t => t.setContent number document.toUTF8
    match fault? with
    | none => return
    | some f => throw (.json f)

end ReleasePackaging.Config
