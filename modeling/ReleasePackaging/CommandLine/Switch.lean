import ReleasePackaging.Logging.Level
import ReleasePackaging.Text.Quoted

/-!
# The options of the command line

Each option has its spellings, what it takes, and a line of help. The arguments of a run are what the
options that were given last say.
-/
namespace ReleasePackaging.CommandLine

/-- The options. -/
inductive Switch where
  | help | config | dev | outputDir | version | logLevel | logFormat
  deriving DecidableEq, Repr

/-- What an option takes. -/
inductive Intake where
  | nothing
  | text (placeholder : String)
  | choice (words : List String)
  deriving DecidableEq, Repr

namespace Switch

/-- All options, in the order in which they are shown. -/
def all : List Switch := [.help, .config, .dev, .outputDir, .version, .logLevel, .logFormat]

def spellings : Switch → List String
  | .help => ["-h", "--help"]
  | .config => ["--config"]
  | .dev => ["--dev"]
  | .outputDir => ["--output-dir"]
  | .version => ["--version-override"]
  | .logLevel => ["--log-level"]
  | .logFormat => ["--log-format"]

def intake : Switch → Intake
  | .help | .dev => .nothing
  | .config => .text "CONFIG"
  | .outputDir => .text "OUTPUT_DIR"
  | .version => .text "VERSION"
  | .logLevel => .choice (Logging.Level.all.map Logging.Level.name)
  | .logFormat => .choice ["text", "json"]

def helpLine : Switch → String
  | .help => "show this help message and exit"
  | .config => "JSON or YAML build configuration file"
  | .dev => "Development mode: skip the dependency refresh"
  | .outputDir => "Directory receiving the archives"
  | .version => "Release version to use instead of the manifest version"
  | .logLevel => "Logging level"
  | .logFormat => "Logging output format"

/-- All spellings with their options, in order. -/
def table : List (String × Switch) := all.flatMap fun s => s.spellings.map fun w => (w, s)

def ofSpelling? (spelling : String) : Option Switch := table.lookup spelling

def label (s : Switch) : String := "/".intercalate s.spellings

end Switch

structure Arguments where
  config : Option String
  isDev : Bool
  outputDir : Option String
  version : Option String
  logLevel : Option String
  logFormat : Option String
  deriving DecidableEq, Repr

namespace Arguments

/-- The arguments of a run for which no option was given. -/
def empty : Arguments := ⟨none, false, none, none, none, none⟩

def take (a : Arguments) (s : Switch) (text : String) : Arguments :=
  match s with
  | .config => { a with config := some text }
  | .outputDir => { a with outputDir := some text }
  | .version => { a with version := some text }
  | .logLevel => { a with logLevel := some text }
  | .logFormat => { a with logFormat := some text }
  | .help | .dev => a

def loggingOverrides (a : Arguments) : Entries :=
  [("level", a.logLevel), ("format", a.logFormat)].filterMap fun (key, text) =>
    text.map fun text => (.str key, .str text)

/-- The settings that the arguments give; what was not given is null. -/
def overrides (a : Arguments) : Entries :=
  let optional (text : Option String) : Value := (text.map Value.str).getD .null
  [(.str "dev_mode", if a.isDev then .bool true else .null),
   (.str "output_dir", optional a.outputDir), (.str "version", optional a.version)] ++
    if a.loggingOverrides.isEmpty then []
    else [(.str "logging", .map a.loggingOverrides)]

end Arguments

end ReleasePackaging.CommandLine
