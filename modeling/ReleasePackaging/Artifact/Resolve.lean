import ReleasePackaging.Artifact.ArchiveName
import ReleasePackaging.Artifact.Template
import ReleasePackaging.Path.Basic

/-!
# Resolving artifacts

The artifacts of a release are the build outputs of the host's platform, each with the place where
the toolchain leaves it and the base name of its archive.
-/
namespace ReleasePackaging

/-- A build output and the base name of the archive it goes into. -/
structure Artifact where
  parts : List String
  baseName : String
  deriving DecidableEq, Repr

namespace Artifact

def path (a : Artifact) : Path := Path.ofParts a.parts

/-- The last part of the path of an artifact. -/
def name (a : Artifact) : String := a.parts.getLastD ""

end Artifact

def libraryName : String := "ton_client"

/-- The leading part of the names of archives. -/
def productName : String := "tonclient"

/-- Where the toolchain leaves its outputs, below the build root. -/
def releaseDirectory : List String := ["target", "release"]

/-- The name of a host in the names of archives: that of its platform if it is known. -/
def hostLabel (host : String) : String :=
  match Platform.ofName? host with
  | some p => p.name
  | none => host

/-- The artifacts of a library on a host, in the order of the platform's templates. -/
def resolve (host library : String) (buildRoot : Path) (version product : String) :
    List Artifact :=
  let root := if buildRoot.parts.isEmpty then ["."] else buildRoot.parts
  (templatesFor host).map fun t =>
    { parts := root ++ releaseDirectory ++ [t.fileName library]
      baseName := (ArchiveName.mk product version (hostLabel host) t.tag).render }

end ReleasePackaging
