import ReleasePackaging.Failure
import ReleasePackaging.Value.Conversion

/-!
# Failures given by name

A hook may end with a failure of its own choice: it names the kind of the failure and gives values
for it, by position and by name. What no parameter takes becomes a detail of the failure.
-/
namespace ReleasePackaging.Failure

inductive Kind where
  | general | configuration | packaging | toolchain | outputDirectory | missingArtifact | postBuild
  | archive
  deriving DecidableEq, Repr

namespace Kind

def all : List Kind :=
  [.general, .configuration, .packaging, .toolchain, .outputDirectory, .missingArtifact, .postBuild,
   .archive]

def name : Kind → String
  | .general => "TonpackError"
  | .configuration => "ConfigurationError"
  | .packaging => "PackagingError"
  | .toolchain => "ToolchainFailure"
  | .outputDirectory => "FilesystemFailure"
  | .missingArtifact => "MissingArtifact"
  | .postBuild => "PostBuildFailure"
  | .archive => "ArchiveFailure"

def ofName? (name : String) : Option Kind := all.find? fun k => k.name == name

def names (k : Kind) : List String :=
  match k with
  | .general => [k.name]
  | .configuration | .packaging => [k.name, Kind.general.name]
  | _ => [k.name, Kind.packaging.name, Kind.general.name]

/-- The name under which the faults of a call for a kind are reported. -/
def callee (k : Kind) : String := s!"{k.name}.__init__"

def placedCallee (k : Kind) : String := s!"tonpack.utils.exceptions.{k.callee}"

/-- The parameters of a kind. The first one stands for the failure itself. -/
def signature (k : Kind) : Signature :=
  let of (kind : Kind) (required optional nameOnly : List String) (further : Bool) : Signature :=
    ⟨kind.callee, "self" :: required, optional, nameOnly, further, true⟩
  match k with
  | .general => of k ["message"] [] [] false
  | .configuration => of k ["message"] [] ["config_key"] true
  | .packaging | .postBuild | .archive => of .packaging ["message"] ["artifact"] [] false
  | .toolchain => of k ["message", "command"] ["returncode", "output"] [] false
  | .outputDirectory => of k ["message", "path"] [] [] false
  | .missingArtifact => of k ["path"] ["step"] [] false

end Kind

def kind (f : Failure) : Kind :=
  match f.cause with
  | .general => .general
  | .configuration _ => .configuration
  | .step _ _ stage =>
    match stage with
    | .packaging => .packaging
    | .toolchain _ _ _ => .toolchain
    | .outputDirectory _ => .outputDirectory
    | .missingArtifact _ => .missingArtifact
    | .postBuild => .postBuild
    | .archive => .archive

/-- The details of a failure of the configuration, with the setting at fault put into those given. -/
def detailsWith (given key : Value) : Except Misuse Value :=
  if !key.isTruthy then .ok given
  else
    match given with
    | .map entries => .ok (.map (Entries.put (.str "config_key") key entries))
    | .list _ => .error .notIndex
    | v => .error (.noItems v.fullKind)

/-- A failure of a step: `own` are the details of its kind, `named` what no parameter took. -/
def ofStep (stage : Stage) (step message artifact : Value) (own named : Entries) :
    Except Misuse Failure :=
  if (named.field? "step").isSome then
    .error (.call Kind.general.placedCallee (.repeatedName "step"))
  else
    let text := match artifact with
      | .null => none
      | v => some v.plain
    .ok ⟨.step step text stage, message,
      (.str "step", step) :: (.str "artifact", artifact) :: (own ++ named)⟩

/-- A failure of a step under its usual name. -/
def ofStage (stage : Stage) (message artifact : Value) (own named : Entries) :
    Except Misuse Failure :=
  ofStep stage (.str stage.label) message artifact own named

/-- A failure of a step under its usual name with the artifact among the values given by name. -/
def ofNamedStep (stage : Stage) (message : Value) (own named : Entries) : Except Misuse Failure :=
  ofStage stage message ((named.field? "artifact").getD .null) own (named.drop (.str "artifact"))

def ofArguments (kind : Kind) (a : Arguments) : Except Misuse Failure := do
  let message := a.getOr "message" .null
  match kind with
  | .general => .ok ⟨.general, message, a.named⟩
  | .configuration => do
    let key := a.getOr "config_key" .null
    let details ← detailsWith ((a.named.field? "details").getD (.map [])) key
    if a.further.isEmpty then
      .ok ⟨.configuration key, message,
        (.str "details", details) :: a.named.drop (.str "details")⟩
    else .error (.call Kind.general.callee (.tooMany 2 2 (2 + a.further.length)))
  | .packaging => ofStage .packaging message (a.getOr "artifact" .null) [] a.named
  | .postBuild => ofStage .postBuild message (a.getOr "artifact" .null) [] a.named
  | .archive => ofStage .archive message (a.getOr "artifact" .null) [] a.named
  | .toolchain => do
    let command ← (a.getOr "command" .null).elements
    let status := a.getOr "returncode" .null
    ofNamedStep (.toolchain command status (a.getOr "output" (.str ""))) message
      [(.str "command", .list command), (.str "returncode", status)] a.named
  | .outputDirectory => do
    let path := a.getOr "path" .null
    let reported (p : Path) := ofNamedStep (.outputDirectory p) message [(.str "path", .str path.plain)]
      a.named
    let _ ← reported default
    reported (← path.asPath)
  | .missingArtifact => do
    let path := a.getOr "path" .null
    let given := a.getOr "step" .null
    let step := if given.isTruthy then given else .str (Stage.missingArtifact default).label
    if (a.named.field? "artifact").isSome then
      .error (.call Kind.packaging.placedCallee (.repeatedName "artifact"))
    else if (a.named.field? "message").isSome then
      .error (.call Kind.packaging.callee (.repeated "message"))
    else
      let message := Value.str s!"Expected build output not found: {path.plain}"
      let _ ← ofStep (.missingArtifact default) step message path [] a.named
      ofStep (.missingArtifact (← path.asPath)) step message path [] a.named

/-- The names of values given by name, which have to be texts. -/
def textNames (named : Entries) : Except Misuse (List (String × Value)) :=
  named.mapM fun (key, value) =>
    match key.text? with
    | some name => .ok (name, value)
    | none => .error .keyNotText

def given (kind : Kind) (values : List Value) (named : Entries) : Except Misuse Failure := do
  let s := kind.signature
  let a ← (s.bind (.null :: values) (← textNames named)).mapError (.call s.name)
  ofArguments kind a

end ReleasePackaging.Failure
