import ReleasePackaging.Value.Literal

/-!
# Failures of a release

A failure tells what went wrong in the words of this program. It carries a message, details for
those who look into it, and what its cause adds: the setting at fault, or the step of the release
with the artifact concerned. The text of a step's failure names the step and, when there is one,
the artifact.
-/
namespace ReleasePackaging

inductive Failure.Stage where
  | packaging
  | toolchain (command : List Value) (status output : Value)
  | outputDirectory (path : Path)
  | missingArtifact (path : Path)
  | postBuild
  | archive
  deriving DecidableEq, Repr, Inhabited

inductive Failure.Cause where
  | general
  | configuration (key : Value)
  | step (name : Value) (artifact : Option String) (stage : Failure.Stage)
  deriving DecidableEq, Repr, Inhabited

/-- A failure: its cause, its message and its details. -/
structure Failure where
  cause : Failure.Cause
  message : Value
  details : Entries
  deriving DecidableEq, Repr, Inhabited

namespace Failure

/-- The name of a stage, unless the failure gives another one. -/
def Stage.label : Stage → String
  | .packaging => "packaging"
  | .toolchain _ _ _ => "toolchain"
  | .outputDirectory _ => "reset-output"
  | .missingArtifact _ => "resolve"
  | .postBuild => "post-build"
  | .archive => "archive"

def text (f : Failure) : String :=
  match f.cause with
  | .general | .configuration _ => f.message.plain
  | .step name artifact _ =>
    match artifact with
    | none | some "" => s!"[{name.plain}] {f.message.plain}"
    | some a => s!"[{name.plain}] {f.message.plain} (artifact: {a})"

def isPackaging (f : Failure) : Bool :=
  match f.cause with
  | .step _ _ _ => true
  | .general | .configuration _ => false

/-- A failure of the configuration, at a setting if one is known. -/
def configuration (key : Option String) (message : String) : Failure :=
  let inner : Entries := match key with
    | some key => [(.str "config_key", .str key)]
    | none => []
  ⟨.configuration ((key.map Value.str).getD .null), .str message, [(.str "details", .map inner)]⟩

/-- The details that every failure of a step has, before those of its own. -/
def stepDetails (label : String) (artifact : Value) (own : Entries) : Entries :=
  (.str "step", .str label) :: (.str "artifact", artifact) :: own

/-- A failure of a toolchain command. Without a status the command could not be launched. -/
def toolchain (message : String) (command : List String) (status : Option Int) (output : String) :
    Failure :=
  let words := command.map Value.str
  let code := (status.map Value.int).getD .null
  let stage := Stage.toolchain words code (.str output)
  ⟨.step (.str stage.label) none stage, .str message,
    stepDetails stage.label .null [(.str "command", .list words), (.str "returncode", code)]⟩

def outputDirectory (message : String) (path : Path) : Failure :=
  let stage := Stage.outputDirectory path
  ⟨.step (.str stage.label) none stage, .str message,
    stepDetails stage.label .null [(.str "path", .str path.toString)]⟩

/-- A build output that is not there, noticed in the named step. -/
def missingArtifact (path : Path) (step : String) : Failure :=
  ⟨.step (.str step) (some path.toString) (.missingArtifact path),
    .str s!"Expected build output not found: {path}", stepDetails step (.path path) []⟩

def postBuild (message : String) (artifact : Path) : Failure :=
  ⟨.step (.str Stage.postBuild.label) (some artifact.toString) .postBuild, .str message,
    stepDetails Stage.postBuild.label (.path artifact) []⟩

def archive (message : String) (artifact target : Path) : Failure :=
  ⟨.step (.str Stage.archive.label) (some artifact.toString) .archive, .str message,
    stepDetails Stage.archive.label (.path artifact) [(.str "archive", .str target.toString)]⟩

end Failure

end ReleasePackaging
