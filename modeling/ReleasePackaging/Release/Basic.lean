import ReleasePackaging.Archive.Basic
import ReleasePackaging.Config.Basic
import ReleasePackaging.Hook.Load
import ReleasePackaging.Manifest
import ReleasePackaging.Toolchain.Invocation

/-!
# Releases

A release is prepared from its configuration: the host and the version it is for are settled, and
its hook is loaded. It is carried out with some equipment, and a report tells what came of it.
-/
namespace ReleasePackaging

/-- A release that is ready to be carried out. -/
structure Release where
  config : Config
  host : String
  version : String
  hook : Hook

/-- What a release is carried out with: how programs are launched, how directories are removed, what
becomes of the bytes of an archive, and where events go. -/
structure Equipment where
  launcher : Toolchain.Launcher
  remover : TreeAction.Remover
  device : Archive.Device
  target : EventTarget

structure Report where
  host : String
  version : String
  artifacts : List Artifact
  archives : List Path
  deriving DecidableEq, Repr

namespace Release

/-- The version of a release: the configured one, or else that of the project manifest. -/
def versionOf (t : FileTree) (c : Config) : Except Fault String :=
  match c.version with
  | none | some "" => Manifest.version t c.manifest
  | some version => .ok version

/-- The hook of a release: the given one, or else the one that the configuration asks for. -/
def hookOf (modules : Hook.Modules) (c : Config) (given : Option Hook) : TreeAction Fault Hook :=
  match given with
  | some hook => return hook
  | none => Hook.load modules c.postBuildHook

/-- Prepares a release on a host that reports itself by a name. The version is settled before the
hook, and both before anything is run. -/
def prepare (modules : Hook.Modules) (reported : String) (c : Config) (given : Option Hook) :
    TreeAction Fault Release := do
  let version ← TreeAction.query fun t => versionOf t c
  let hook ← hookOf modules c given
  return ⟨c, c.resolvedHost reported, version, hook⟩

def toolchain (r : Release) : Toolchain.Plan :=
  ⟨r.config.updateCommand, r.config.buildCommand, r.config.projectDir, r.config.devMode⟩

def artifacts (r : Release) : List Artifact :=
  resolve r.host r.config.library r.config.buildRoot r.version r.config.product

end Release

end ReleasePackaging
