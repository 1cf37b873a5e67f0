import ReleasePackaging.Release.Packaging

/-!
# Carrying a release out

The steps of a release are taken in order, and the first failure ends it. A failure of one of the
steps is an event too; archives written before it are left in place.
-/
namespace ReleasePackaging.Release

def packageAndReport (r : Release) (e : Equipment) (artifacts : List Artifact) :
    Action Fault Report := do
  let archives ← r.packageAll e artifacts
  return ⟨r.host, r.version, artifacts, archives⟩

/-- Takes the steps that follow the toolchain. -/
def takeOutputSteps (r : Release) (e : Equipment) : Action Fault Report := do
  let _ ← r.resetOutput e
  r.packageAndReport e (← r.resolveArtifacts e)

def takeSteps (r : Release) (e : Equipment) : Action Fault Report := do
  announce e .info "Starting release build"
    [("library", .str r.config.library), ("version", .str r.version), ("host_os", .str r.host)]
  r.runToolchain e
  r.takeOutputSteps e

def failureContext (f : Failure) : Option (List (String × Value)) :=
  match f.cause with
  | .step name artifact _ =>
    some [("step", name), ("artifact", (artifact.map Value.str).getD .null), ("error", f.message)]
  | .general | .configuration _ => none

/-- Reports a fault if it is a failure of a step. -/
def announceFault (e : Equipment) (f : Fault) : Action Fault Unit :=
  match f with
  | .failure f =>
    match failureContext f with
    | some context => announce e .error "Build failed" context
    | none => pure ()
  | _ => pure ()

def conclude (e : Equipment) (steps : Action Fault Report) : Action Fault Report := do
  let report ← tryCatch steps fun f => do
    announceFault e f
    throw f
  announce e .info "Build completed successfully" [("archives", .int report.archives.length)]
  return report

def build (r : Release) (e : Equipment) : Action Fault Report := conclude e (r.takeSteps e)

end ReleasePackaging.Release
