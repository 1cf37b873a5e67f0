import ReleasePackaging.OutputDirectory
import ReleasePackaging.Release.Basic

/-!
# The steps of a release

The toolchain builds the library, the output directory is made anew, the artifacts are resolved, and
each artifact is packaged: the hook is applied to it, then it is archived. A failure of the hook that
is one of this program's own is passed on as it is; any other one becomes a failure of the step.
-/
namespace ReleasePackaging.Release

def announce (e : Equipment) (level : Logging.Level) (text : String)
    (context : List (String × Value)) : Action Fault Unit :=
  (Event.mk level text (context.map fun (key, v) => (.str key, v))).emit e.target

def runToolchain (r : Release) (e : Equipment) : Action Fault Unit := do
  announce e .info "Building native library" [("dev_mode", .bool r.config.devMode)]
  let _ ← r.toolchain.invoke e.launcher e.target

def resetOutput (r : Release) (e : Equipment) : Action Fault Path := do
  announce e .info "Resetting output directory" [("path", .str r.config.outputDir.toString)]
  Action.onTree (OutputDirectory.reset e.remover r.config.outputDir)

def resolveArtifacts (r : Release) (e : Equipment) : Action Fault (List Artifact) := do
  match r.artifacts with
  | [] => announce e .warning "No artifacts defined for platform" [("host_os", .str r.host)]
  | found =>
    announce e .info "Resolved artifacts"
      [("host_os", .str r.host),
       ("artifacts", .list (found.map fun a => .str a.path.toString))]
  return r.artifacts

def hookFault (hook : Hook) (artifact : Path) : HookFault → Fault
  | .failure f => .failure f
  | .other message =>
    .failure (.postBuild s!"Post-build hook {hook.name} failed: {message}" artifact)

/-- Calls the hook and notes the call, which counts even if it ends badly. -/
def callHook (hook : Hook) (call : HookCall) : Action Fault Unit :=
  ExceptT.mk fun w =>
    let (result, tree) := (hook.apply w.hookCalls call).run.run w.tree
    (result.mapError (hookFault hook call.artifact),
      { w with tree := tree, hookCalls := w.hookCalls ++ [call] })

/-- Applies the hook to an artifact, which has to be there. -/
def applyHook (r : Release) (a : Artifact) : Action Fault Unit := do
  let present ← Action.onTree ((TreeAction.query fun t => t.isFile a.path).adapt Fault.access)
  if present then callHook r.hook ⟨a.path, r.host⟩
  else throw (.failure (.missingArtifact a.path "post-build"))

def packageArtifact (r : Release) (e : Equipment) (a : Artifact) : Action Fault Path := do
  r.applyHook a
  let target ← Action.onTree (Archive.write e.device a.path a.baseName r.config.outputDir)
  announce e .info "Archived artifact"
    [("artifact", .str a.path.toString), ("archive", .str target.toString)]
  return target

def packageAll (r : Release) (e : Equipment) : List Artifact → Action Fault (List Path)
  | [] => return []
  | a :: rest => do
    let archive ← r.packageArtifact e a
    return archive :: (← r.packageAll e rest)

end ReleasePackaging.Release
