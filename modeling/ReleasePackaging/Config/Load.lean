import ReleasePackaging.Config.Environment
import ReleasePackaging.Config.File
import ReleasePackaging.Config.Merge

/-!
# Loading a configuration

The configuration of a run is made from four layers of settings: the defaults, a file, the
environment, and what the caller gives. Each layer is put over the ones before it. A setting for
which the caller gives null is not given.
-/
namespace ReleasePackaging.Config

/-- The settings that a caller gives, without those that are null. -/
def given (overrides : Entries) : Entries := overrides.filter fun (_, v) => v != .null

/-- The layers of settings over the defaults, each over the ones before it. -/
def layers (file : Option Entries) (environment : Entries) (overrides : Entries) : List Entries :=
  file.toList ++ [environment, given overrides]

/-- The settings that some layers make over the defaults. -/
def assemble (upper : List Entries) : Entries := upper.foldl merge standardEntries

/-- The configuration of a run: from a file if there is one, the variables of the environment, and
what the caller gives. -/
def load (t : FileTree) (path : Option Path) (environment : List (String × String))
    (overrides : Entries) : Except Fault Config := do
  let file ← path.mapM (settingsAt t)
  let settings ← (fromEnvironment variableStart environment).mapError Fault.integer
  ofEntries (assemble (layers file settings overrides))

end ReleasePackaging.Config
