import ReleasePackaging.Artifact.ArchiveName
import ReleasePackaging.Fault
import ReleasePackaging.Json.Reader
import ReleasePackaging.Text.Lines
import ReleasePackaging.Text.LowerCase
import ReleasePackaging.Toml.Document

/-!
# Project manifests

The version of a project stands in its manifest: in a TOML document under `version` in the table
`package`, in a JSON document under `version` at the top. It must be a text, not empty and without
an underscore, since it becomes a part of the names of archives.
-/
namespace ReleasePackaging.Manifest

/-- Why a manifest gives no version. The unreadable ones come with what makes them unreadable. -/
inductive Problem where
  | missing
  | unreadable (cause : String)
  | noVersion
  | delimiterInVersion (version : String)
  deriving DecidableEq, Repr

def Problem.message (path : Path) : Problem → String
  | .missing => s!"Project manifest not found: {path}"
  | .unreadable cause => s!"Cannot read project manifest {path}: {cause}"
  | .noVersion => s!"No version found in {path}"
  | .delimiterInVersion version =>
    s!"Version {Text.quote version} in {path} must not contain " ++
      Text.quote (String.singleton ArchiveName.delimiter)

def Problem.fault (path : Path) (problem : Problem) : Fault :=
  .failure (.configuration (some "manifest_path") (problem.message path))

/-- A fault of a document that is well formed but not of the expected shape. -/
def shapeFault (kind : String) : Fault := .misuse (.noAttribute kind "get")

/-- The version that a TOML manifest gives, if it gives a text. -/
def tomlVersion (table : Toml.Table) : Except Fault (Option String) :=
  match table.lookup "package" with
  | none => .ok none
  | some (.table package) =>
    match package.lookup "version" with
    | some (.text version) => .ok (some version)
    | _ => .ok none
  | some item => .error (shapeFault item.kind)

/-- The version that a JSON manifest gives, if it gives a text. -/
def jsonVersion (document : Value) : Except Fault (Option String) :=
  match document with
  | .map entries =>
    match Entries.field? "version" entries with
    | some (.str version) => .ok (some version)
    | _ => .ok none
  | v => .error (shapeFault v.fullKind)

def isToml (path : Path) : Bool := Text.lower path.suffix == ".toml"

/-- The version, if it is a text, that the content of a manifest gives. -/
def versionIn (path : Path) (content : ByteArray) : Except Fault (Option String) :=
  let unreadable {α : Type} (cause : String) : Except Fault α :=
    .error ((Problem.unreadable cause).fault path)
  if isToml path then
    match Text.decode content with
    | .error f => unreadable f.message
    | .ok text =>
      match Toml.read text.toList with
      | .error f => unreadable f.message
      | .ok table => tomlVersion table
  else
    match Text.fileText content with
    | .error f => unreadable f.message
    | .ok cs =>
      match Json.read cs with
      | .error f => unreadable f.message
      | .ok document => jsonVersion document

/-- A version that can stand in the names of archives. -/
def accept (path : Path) (version : Option String) : Except Fault String :=
  match version with
  | none | some "" => .error (Problem.noVersion.fault path)
  | some version =>
    if version.toList.contains ArchiveName.delimiter then
      .error ((Problem.delimiterInVersion version).fault path)
    else .ok version

/-- The version of the project whose manifest stands at a path. -/
def version (t : FileTree) (path : Path) : Except Fault String := do
  if !(← (t.isFile path).mapError Fault.access) then .error (Problem.missing.fault path)
  else
    match t.read path.toString with
    | .error f => .error ((Problem.unreadable f.message).fault path)
    | .ok content => accept path (← versionIn path content)

end ReleasePackaging.Manifest
