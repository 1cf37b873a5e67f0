import ReleasePackaging.Artifact.Resolve
import ReleasePackaging.Value.Export

/-!
# The configuration of a release

What a release is built from and how it is packaged, with a default for every setting. The logging
section is kept as it was given; the part of the library that logs interprets it.
-/
namespace ReleasePackaging

structure Config where
  library : String
  product : String
  version : Option String
  manifest : Path
  projectDir : Path
  buildRoot : Path
  outputDir : Path
  devMode : Bool
  host : Option String
  updateCommand : List String
  buildCommand : List String
  postBuildHook : Option String
  logging : Entries
  deriving DecidableEq, Repr, Inhabited

namespace Config

def defaultLogging : Entries :=
  [(.str "level", .str "INFO"),
   (.str "format", .str "text"),
   (.str "console", .map [(.str "enabled", .bool true)]),
   (.str "file", .map
     [(.str "enabled", .bool false),
      (.str "path", .str "logs/tonpack.log"),
      (.str "max_bytes", .int (10 * 1024 * 1024)),
      (.str "backup_count", .int 5)])]

/-- The configuration in which every setting has its default. -/
def standard : Config where
  library := libraryName
  product := productName
  version := none
  manifest := Path.ofString "package.json"
  projectDir := Path.ofString "."
  buildRoot := Path.ofString ".."
  outputDir := Path.ofString "bin"
  devMode := false
  host := none
  updateCommand := ["cargo", "update"]
  buildCommand := ["cargo", "build", "--release"]
  postBuildHook := none
  logging := defaultLogging

/-- The names of the settings, in order. -/
def settingNames : List String :=
  ["library_identifier", "product_prefix", "version", "manifest_path", "project_dir", "build_root",
   "output_dir", "dev_mode", "host_os", "update_command", "build_command", "post_build_hook",
   "logging"]

/-- The settings of a configuration as plain data. -/
def toEntries (c : Config) : Except Value.ExportFault Entries := do
  let optional (text : Option String) : Value := (text.map Value.str).getD .null
  let texts (words : List String) : Value := .list (words.map Value.str)
  let logging ← (Value.map c.logging).exported
  return settingNames.map Value.str |>.zip
    [.str c.library, .str c.product, optional c.version, .str c.manifest.toString,
     .str c.projectDir.toString, .str c.buildRoot.toString, .str c.outputDir.toString,
     .bool c.devMode, optional c.host, texts c.updateCommand, texts c.buildCommand,
     optional c.postBuildHook, logging]

def standardEntries : Entries :=
  match standard.toEntries with
  | .ok entries => entries
  | .error _ => []

/-- The host of a release: the configured one, or else the one that is reported. -/
def resolvedHost (c : Config) (reported : String) : String :=
  match c.host with
  | none | some "" => Platform.detect reported
  | some host => host

end Config

end ReleasePackaging
