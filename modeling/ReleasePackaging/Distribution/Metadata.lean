import ReleasePackaging.Distribution.Package
import ReleasePackaging.Fault
import ReleasePackaging.Text.Lines
import ReleasePackaging.VersionFile.Definitions

/-!
# Metadata of the distribution

What the distribution of this program is called, what it needs and what it holds. Its description is
read from a file, its version from the definitions of another one, and its packages are looked for.
-/
namespace ReleasePackaging.Distribution

def descriptionFile : String := "README.md"

def versionFile : String := "tonpack/__version__.py"

def versionName : String := "__version__"

def defaultVersion : Value := .str "0.1.0"

def requirements : List String :=
  ["pydantic>=2.0.0", "pyyaml>=6.0", "structlog>=22.1.0", "python-json-logger>=2.0.4"]

def testRequirements : List String := ["pytest>=7.0.0", "pytest-cov>=4.0.0"]

def developmentRequirements : List String :=
  testRequirements ++ ["black>=23.1.0", "isort>=5.12.0", "mypy>=1.0.0", "types-pyyaml"]

def classifiers : List String :=
  ["Development Status :: 4 - Beta",
   "Intended Audience :: Developers",
   "Programming Language :: Python :: 3",
   "Programming Language :: Python :: 3.11",
   "License :: OSI Approved :: MIT License",
   "Operating System :: OS Independent"]

/-- The metadata, given what was read and found. -/
def entries (description : String) (version : Value) (packages : List String) : Entries :=
  let texts (xs : List String) : Value := .list (xs.map Value.str)
  let map (xs : List (String × Value)) : Entries := xs.map fun (key, v) => (.str key, v)
  map
    [("name", .str family),
     ("version", version),
     ("description", .str "Release packaging driver for the ton_client native library"),
     ("long_description", .str description),
     ("long_description_content_type", .str "text/markdown"),
     ("packages", texts packages),
     ("classifiers", texts classifiers),
     ("python_requires", .str ">=3.11"),
     ("install_requires", texts requirements),
     ("extras_require",
      .map (map [("dev", texts developmentRequirements), ("test", texts testRequirements)])),
     ("entry_points",
      .map (map [("console_scripts", texts ["tonpack-build=tonpack.build.cli:main"])]))]

def textAt (t : FileTree) (path : String) : Except Fault (List Char) := do
  let content ← (t.read path).mapError Fault.access
  (Text.fileText content).mapError Fault.decoding

def versionIn (cs : List Char) : Except VersionFile.Fault Value := do
  return ((← VersionFile.definitions cs).lookup versionName).getD defaultVersion

def metadata (t : FileTree) : Except Fault Entries := do
  let description ← textAt t descriptionFile
  let version ← (versionIn (← textAt t versionFile)).mapError Fault.version
  return entries (String.ofList description) version (packages t)

end ReleasePackaging.Distribution
