import ReleasePackaging.Call.Signature
import ReleasePackaging.Failure.Given
import ReleasePackaging.Hook.Load

/-!
# The modules that come with the release tool

The release tool brings its own modules and the one for JSON. What is found there is called without
arguments: a hook comes of it, something that is no hook, or a fault. Other modules are those of the
machine on which a release is made.
-/
namespace ReleasePackaging.Hook

/-- What a name in a module stands for, as far as calling it without arguments shows. -/
inductive Named where
  | hook (h : Hook)
  | other
  | refused (cause : String)

/-- What a module offers: whether other modules stand below it, and the names in it. -/
structure Module where
  name : String
  isPackage : Bool
  members : List (String × Named)

def notCallable (kind : String) : Named := .refused s!"'{kind}' object is not callable"

def needs (callee : String) (parameters : List String) : Named :=
  .refused ((CallFault.missing parameters).message callee)

def madeFrom (name : String) (parameters : List String) : Named := needs s!"{name}.__init__" parameters

def functions (all : List (String × List String)) : List (String × Named) :=
  all.map fun (name, parameters) => (name, needs name parameters)

def ofKind (named : Named) (names : List String) : List (String × Named) :=
  names.map fun name => (name, named)

def modules : List String → List (String × Named) := ofKind (notCallable "module")

def texts : List String → List (String × Named) := ofKind (notCallable "str")

/-- Names of what can be made from nothing and is no hook. -/
def others : List String → List (String × Named) := ofKind .other

/-- The kinds of failures with the parameters that they need. -/
def failures : List (String × Named) :=
  Failure.Kind.all.map fun k => (k.name, needs k.signature.name (k.signature.required.drop 1))

def typeNames : List String → List (String × Named) := fun names =>
  names.map fun name => (name, .refused (match name with
    | "Any" => "Any cannot be instantiated"
    | "Dict" | "List" | "Tuple" =>
      s!"Type {name} cannot be instantiated; use {name.toLower}() instead"
    | "Mapping" => "Can't instantiate abstract class Mapping with abstract methods " ++
        "__getitem__, __iter__, __len__"
    | "Sequence" =>
      "Can't instantiate abstract class Sequence with abstract methods __getitem__, __len__"
    | _ => s!"Cannot instantiate typing.{name}"))

/-- The names that everything has, as they mean in a module. -/
def inheritedMembers : List (String × Named) :=
  ofKind (.refused "module() missing required argument 'name' (pos 1)") ["__class__", "__init__"] ++
  ofKind (.refused "expected 1 argument, got 0")
    ["__delattr__", "__eq__", "__ge__", "__getattribute__", "__gt__", "__le__", "__lt__", "__ne__"] ++
  [("__setattr__", .refused " expected 2 arguments, got 0"),
   ("__format__", .refused "__format__() takes exactly one argument (0 given)"),
   ("__reduce_ex__", .refused "__reduce_ex__() takes exactly one argument (0 given)"),
   ("__reduce__", .refused "cannot pickle 'module' object"),
   ("__new__", .refused "module.__new__(): not enough arguments")] ++
  others
    ["__dir__", "__getstate__", "__hash__", "__init_subclass__", "__repr__", "__sizeof__", "__str__",
     "__subclasshook__"]

def commonMembers (isPackage documented : Bool) : List (String × Named) :=
  texts ["__name__", "__package__", "__file__", "__cached__"] ++
    [("__doc__", notCallable (if documented then "str" else "NoneType")),
     ("__spec__", notCallable "ModuleSpec"), ("__loader__", notCallable "SourceFileLoader"),
     ("__builtins__", notCallable "dict"), ("__dict__", notCallable "dict"),
     ("__annotations__", notCallable "dict")] ++ inheritedMembers ++
    (if isPackage then [("__path__", notCallable "list")] else [])

/-- The feature that most modules ask for. -/
def annotations : List (String × Named) := [("annotations", notCallable "_Feature")]

/-- What the platform module and those who take names from it offer. -/
def platformMembers : List (String × Named) :=
  [("HostPlatform", needs "EnumType.__call__" ["value"]),
   ("ArtifactTemplate", madeFrom "ArtifactTemplate" ["source_pattern"]),
   ("ArchiveName", madeFrom "ArchiveName" ["prefix", "version", "host_os"]),
   ("ResolvedArtifact", madeFrom "ResolvedArtifact" ["path", "archive_base_name"]),
   ("PLATFORM_MATRIX", notCallable "mappingproxy"), ("detect_host_os", .other)] ++
  functions
    [("resolve", ["host_os", "library_identifier", "build_root", "version"]),
     ("templates_for", ["host_os"])] ++
  texts ["LIBRARY_IDENTIFIER", "PRODUCT_PREFIX", "ARCHIVE_DELIMITER", "PLACEHOLDER"] ++
  ofKind (notCallable "tuple") ["RELEASE_OUTPUT_DIR", "_SYS_PLATFORM_PREFIXES"]

/-- What the other modules offer of their own. -/
def ownMembers : List (String × Named) :=
  platformMembers ++ failures ++
  [("NoOpPostBuildHook", .hook .idle),
   ("PostBuildHook",
    .refused "Can't instantiate abstract class PostBuildHook with abstract method apply"),
   ("Builder", madeFrom "Builder" ["config"]),
   ("BuildReport", madeFrom "BuildReport" ["host_os", "version"]),
   ("CommandResult", madeFrom "CommandResult" ["command", "returncode"]),
   ("ToolchainInvoker", madeFrom "ToolchainInvoker" ["update_command", "build_command"]),
   ("DEFAULT_LOGGING", notCallable "dict"), ("__all__", notCallable "list"),
   ("BaseModel", .refused ("Pydantic models should inherit from BaseModel, BaseModel cannot be " ++
      "instantiated directly\n\nFor further information visit " ++
      "https://errors.pydantic.dev/2.14/u/base-model-instantiated")),
   ("ValidationError", .refused "No constructor defined for ValidationError"),
   ("MappingProxyType", .refused "mappingproxy() missing required argument 'mapping' (pos 1)")] ++
  functions
    [("load_hook", ["spec"]), ("archive_path_for", ["archive_base_name", "output_dir"]),
     ("archive", ["artifact_path", "archive_base_name", "output_dir"]),
     ("load_config_file", ["path"]), ("parse_env_value", ["value"]),
     ("_nested_path", ["parts", "known"]), ("_set_nested_value", ["config", "path", "value"]),
     ("merge_config", ["base", "override"]), ("get_project_version", ["manifest_path"]),
     ("reset_directory", ["path"]), ("run_command", ["command"]), ("_cli_overrides", ["args"]),
     ("get_logger", ["name"]), ("field_validator", ["field"])] ++
  texts ["__version__", "ARCHIVE_EXTENSION", "ENV_PREFIX"] ++
  others
    ["BuildConfig", "LoggingManager", "load_build_config", "env_overrides", "build_parser", "main",
     "build_cli", "dataclass", "field", "Field", "TextIO"] ++
  typeNames ["Any", "Dict", "List", "Mapping", "Optional", "Sequence", "Tuple", "Union"]

/-- Members by their names, each meaning the same wherever it is found. -/
def members (names : List String) : List (String × Named) :=
  names.filterMap fun name => (ownMembers.lookup name).map fun named => (name, named)

/-- A package: the modules below it and the members in it. -/
def package (name : String) (below names : List String) (more : List (String × Named)) : Module :=
  ⟨name, true, modules below ++ members names ++ more ++ commonMembers true true⟩

/-- A module: the modules it uses and the members in it. -/
def plainModule (name : String) (documented : Bool) (uses names : List String) : Module :=
  ⟨name, false, modules uses ++ members names ++ annotations ++ commonMembers false documented⟩

/-- The names of all kinds of failures but the given ones. -/
def failureNames : List String := Failure.Kind.all.map Failure.Kind.name

def known : List Module :=
  [package "tonpack" ["build", "core", "utils"] ["__version__"] [],
   ⟨"tonpack.__version__", false, members ["__version__"] ++ commonMembers false false⟩,
   package "tonpack.build"
    ["archiver", "builder", "cli", "config", "hooks", "platforms", "toolchain", "utils"]
    ["Builder", "BuildReport", "BuildConfig", "load_build_config", "PLATFORM_MATRIX", "ArchiveName",
     "ArtifactTemplate", "HostPlatform", "ResolvedArtifact", "resolve", "build_cli", "__all__"]
    annotations,
   plainModule "tonpack.build.archiver" true ["gzip", "pathlib", "shutil"]
    ["Union", "ArchiveFailure", "MissingArtifact", "ARCHIVE_EXTENSION", "archive_path_for",
     "archive"],
   plainModule "tonpack.build.builder" true ["pathlib", "archiver"]
    ["dataclass", "field", "Any", "List", "Optional", "BuildConfig", "PostBuildHook", "load_hook",
     "ResolvedArtifact", "resolve", "ToolchainInvoker", "get_project_version", "reset_directory",
     "get_logger", "MissingArtifact", "PackagingError", "PostBuildFailure", "TonpackError",
     "BuildReport", "Builder"],
   plainModule "tonpack.build.cli" true ["argparse", "sys"]
    ["Any", "Dict", "List", "Optional", "Builder", "load_build_config", "LoggingManager",
     "get_logger", "TonpackError", "build_parser", "_cli_overrides", "main"],
   plainModule "tonpack.build.config" true ["copy", "json", "os", "pathlib", "yaml"]
    ["Any", "Dict", "List", "Mapping", "Optional", "Union", "BaseModel", "Field", "ValidationError",
     "field_validator", "LIBRARY_IDENTIFIER", "PRODUCT_PREFIX", "detect_host_os",
     "ConfigurationError", "ENV_PREFIX", "DEFAULT_LOGGING", "BuildConfig", "load_config_file",
     "parse_env_value", "env_overrides", "_nested_path", "_set_nested_value", "merge_config",
     "load_build_config"],
   plainModule "tonpack.build.hooks" true ["abc", "importlib", "pathlib"]
    ["Optional", "ConfigurationError", "PostBuildHook", "NoOpPostBuildHook", "load_hook"],
   plainModule "tonpack.build.platforms" true ["enum", "pathlib", "sys"]
    (["dataclass", "MappingProxyType", "Mapping", "Optional", "Tuple", "Union"] ++
      platformMembers.map (·.1)),
   plainModule "tonpack.build.toolchain" true ["pathlib", "subprocess"]
    ["dataclass", "Any", "List", "Optional", "Sequence", "Union", "get_logger", "ToolchainFailure",
     "CommandResult", "run_command", "ToolchainInvoker"],
   plainModule "tonpack.build.utils" true ["json", "pathlib", "shutil", "tomllib"]
    ["Any", "Dict", "Union", "ARCHIVE_DELIMITER", "ConfigurationError", "FilesystemFailure",
     "get_project_version", "reset_directory"],
   package "tonpack.core" ["logging_manager"] ["LoggingManager", "get_logger"] [],
   plainModule "tonpack.core.logging_manager" false
    ["logging", "os", "pathlib", "sys", "structlog", "jsonlogger"]
    ["Any", "Dict", "List", "Optional", "TextIO", "get_logger", "LoggingManager"],
   package "tonpack.utils" ["exceptions"] failureNames [],
   plainModule "tonpack.utils.exceptions" false ["pathlib"]
    (["Any", "List", "Optional", "Sequence", "Union"] ++ failureNames),
   ⟨"json", true,
    [("JSONDecodeError", madeFrom "JSONDecodeError" ["msg", "doc", "pos"])] ++
    functions [("dump", ["obj", "fp"]), ("dumps", ["obj"]), ("load", ["fp"]), ("loads", ["s"]),
      ("detect_encoding", ["b"])] ++
    others ["JSONDecoder", "JSONEncoder"] ++ modules ["codecs", "decoder", "encoder", "scanner"] ++
    [("__all__", notCallable "list")] ++ texts ["__version__", "__author__"] ++
    commonMembers true true⟩]

/-- The names of a module and of the packages it stands in, the outermost first. -/
def chain (parts : List String) : List String :=
  (List.range parts.length).map fun n => ".".intercalate (parts.take (n + 1))

/-- Finds the last of some modules, each of which has to stand in the one before. -/
def findModule (parent : Option Module) : List String → Except String Module
  | [] =>
    match parent with
    | some m => .ok m
    | none => .error "Empty module name"
  | name :: rest =>
    match parent with
    | some ⟨outer, false, _⟩ =>
      .error s!"No module named {Text.quote name}; {Text.quote outer} is not a package"
    | _ =>
      match known.find? fun m => m.name == name with
      | some m => findModule (some m) rest
      | none => .error s!"No module named {Text.quote name}"

/-- Finds a module by its full name; one that starts with a dot has nothing to start from. -/
def module (name : String) : Except String Module :=
  if name.toList.head? = some '.' then
    .error ("the 'package' argument is required to perform a relative import for " ++
      Text.quote name)
  else findModule none (chain (Text.splitAll '.' name))

/-- Makes what a name in a module stands for, if it is a hook. -/
def make (m : Module) (name : String) : Except ModuleFault (Option Hook) :=
  match m.members.lookup name with
  | none => .error (.unusable s!"module '{m.name}' has no attribute '{name}'")
  | some (.refused cause) => .error (.unusable cause)
  | some .other => .ok none
  | some (.hook h) => .ok (some h)

/-- The modules that come with the release tool, where there are no others. -/
def bundled : Modules := fun place name =>
  TreeAction.query fun _ => do make (← (module place).mapError .unusable) name

end ReleasePackaging.Hook
