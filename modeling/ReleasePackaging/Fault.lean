import ReleasePackaging.Artifact.ArchiveName
import ReleasePackaging.Artifact.Template
import ReleasePackaging.Failure
import ReleasePackaging.FileTree.Access
import ReleasePackaging.Logging.System
import ReleasePackaging.Number.Integer
import ReleasePackaging.Text.Utf8
import ReleasePackaging.Value.Conversion
import ReleasePackaging.Value.Export
import ReleasePackaging.VersionFile.Basic
import ReleasePackaging.Yaml.Reader

/-!
# What an operation can end with

Besides the failures that this program reports in its own words, an operation can end with the bare
fault of something it relies on: a file access, the decoding of bytes, the reading of a number or of
a scalar in a document, a value of the wrong kind, or code that is not part of this program. Both are
gathered here, with their wording.
-/
namespace ReleasePackaging

/-- What an operation can end with instead of a result. -/
inductive Fault where
  | failure (f : Failure)
  | access (f : AccessFault)
  | decoding (f : Text.DecodeFault)
  | integer (f : Number.IntegerFault)
  | noInteger (p : Value.IntegerProblem)
  | scalar (f : Yaml.ReadFault)
  | logging (f : Logging.LogFault)
  | misuse (m : Misuse)
  | foreign (message : String)
  | noWords
  | template (f : TemplateFault)
  | archiveName (f : ArchiveNameFault)
  | version (f : VersionFile.Fault)
  | json (f : Json.WriteFault)
  deriving Repr

def Fault.message : Fault → String
  | .failure f => f.text
  | .access f => f.message
  | .decoding f => f.message
  | .integer f => f.message
  | .noInteger p => p.message
  | .scalar f => f.message ""
  | .logging f => f.message
  | .misuse m => m.message
  | .foreign message => message
  | .noWords => "list index out of range"
  | .template f => f.message
  | .archiveName f => f.message
  | .version f => f.message
  | .json f => f.message

def Fault.ofExport : Value.ExportFault → Fault
  | .decoding f => .decoding f
  | .integer f => .integer f

end ReleasePackaging
