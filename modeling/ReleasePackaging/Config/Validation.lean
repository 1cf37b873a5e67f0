import ReleasePackaging.Config.Basic
import ReleasePackaging.Number.Power
import ReleasePackaging.Text.Blank
import ReleasePackaging.Value.Literal

/-!
# Validation of settings

Settings are checked one by one and turned into a configuration. Every setting is checked even if
an earlier one has a defect, so that all defects are reported together, in the order of the
settings. A setting that is not given has its default; a name that is no setting is ignored.
-/
namespace ReleasePackaging.Config

/-- What is wrong with a value. -/
inductive DefectKind where
  | notText | undecodableText | notPath | notFlag | unreadableFlag | notList | notMapping
  | rule (message : String)
  deriving DecidableEq, Repr

/-- A value with something wrong, and where it stands in the settings. -/
structure Defect where
  location : List String
  kind : DefectKind
  input : Value
  deriving Repr

namespace DefectKind

def code : DefectKind → String
  | .notText => "string_type"
  | .undecodableText => "string_unicode"
  | .notPath => "path_type"
  | .notFlag => "bool_type"
  | .unreadableFlag => "bool_parsing"
  | .notList => "list_type"
  | .notMapping => "dict_type"
  | .rule _ => "value_error"

def message : DefectKind → String
  | .notText => "Input should be a valid string"
  | .undecodableText =>
    "Input should be a valid string, unable to parse raw data as a unicode string"
  | .notPath => "Input is not a valid path for <class 'pathlib.Path'>"
  | .notFlag => "Input should be a valid boolean"
  | .unreadableFlag => "Input should be a valid boolean, unable to interpret input"
  | .notList => "Input should be a valid list"
  | .notMapping => "Input should be a valid dictionary"
  | .rule message => s!"Value error, {message}"

/-- The line that points to further reading; a defect of a path has none. -/
def furtherReading (kind : DefectKind) : String :=
  match kind with
  | .notPath => ""
  | _ => s!"\n    For further information visit https://errors.pydantic.dev/2.14/v/{kind.code}"

end DefectKind

/-- The longest beginning of a text that fits into a number of bytes. -/
def firstBytes (limit : Nat) : List Char → List Char
  | [] => []
  | c :: rest => if c.utf8Size ≤ limit then c :: firstBytes (limit - c.utf8Size) rest else []

/-- A text of more than fifty bytes with its middle left out. -/
def abridged (text : String) : String :=
  if text.utf8ByteSize ≤ 50 then text
  else
    let cs := text.toList
    String.ofList (firstBytes 25 cs ++ ['.', '.', '.'] ++ (firstBytes 24 cs.reverse).reverse)

def Defect.report (d : Defect) : String :=
  ".".intercalate d.location ++ s!"\n  {d.kind.message} [type={d.kind.code}, " ++
    s!"input_value={abridged d.input.shown}, input_type={d.input.kind}]" ++
    d.kind.furtherReading

def defectReport (defects : List Defect) : String :=
  let noun := if defects.length = 1 then "error" else "errors"
  "\n".intercalate (s!"{defects.length} validation {noun} for BuildConfig" ::
    defects.map Defect.report)

/-- The outcome of a check: a result, or all defects found. -/
inductive Checked (α : Type) where
  | valid (result : α)
  | defective (defects : List Defect)
  deriving Repr

namespace Checked

/-- Applies a function to the result of a check. -/
def map (f : α → β) : Checked α → Checked β
  | valid a => valid (f a)
  | defective defects => defective defects

/-- Applies a checked function to a checked argument; the defects of both are kept. -/
def apply (f : Checked (α → β)) (x : Checked α) : Checked β :=
  match f, x with
  | valid f, x => x.map f
  | defective d, valid _ => defective d
  | defective d, defective e => defective (d ++ e)

instance : Applicative Checked where
  pure := valid
  map := map
  seq f x := apply f (x ())

def andThen (x : Checked α) (check : α → Checked β) : Checked β :=
  match x with
  | valid a => check a
  | defective defects => defective defects

/-- The results of checks one after another; the defects of all are kept. -/
def all : List (Checked α) → Checked (List α)
  | [] => valid []
  | x :: xs => List.cons <$> x <*> all xs

end Checked

def refuse (location : List String) (kind : DefectKind) (input : Value) : Checked α :=
  .defective [⟨location, kind, input⟩]

def checkText (location : List String) (v : Value) : Checked String :=
  match v with
  | .str s => .valid s
  | .platform p => .valid p.name
  | .bytes bs =>
    match Text.decode ⟨bs.toArray⟩ with
    | .ok s => .valid s
    | .error _ => refuse location .undecodableText v
  | _ => refuse location .notText v

/-- Checks for a text or nothing. -/
def checkOptionalText (location : List String) (v : Value) : Checked (Option String) :=
  match v with
  | .null => .valid none
  | _ => (checkText location v).map some

def checkPath (location : List String) (v : Value) : Checked Path :=
  match v with
  | .path p => .valid p
  | .str s => .valid (Path.ofString s)
  | .platform p => .valid (Path.ofString p.name)
  | _ => refuse location .notPath v

/-- The truth value that a text spells, in any letter case. -/
def flagOf? (text : String) : Option Bool :=
  let key := text.toLower
  if ["1", "t", "y", "on", "yes", "true"].contains key then some true
  else if ["0", "f", "n", "no", "off", "false"].contains key then some false
  else none

/-- Whether an integer fits into 64 bits with a sign. -/
def fitsWord (n : Int) : Bool := -(2 ^ 63) ≤ n && n < 2 ^ 63

/-- Checks for a truth value: one itself, a text that spells one, or one of the numbers zero and
one. -/
def checkFlag (location : List String) (v : Value) : Checked Bool :=
  let spelled (text : String) : Checked Bool :=
    match flagOf? text with
    | some b => .valid b
    | none => refuse location .unreadableFlag v
  let counted (n : Int) : Checked Bool :=
    if n = 0 then .valid false
    else if n = 1 then .valid true
    else refuse location .unreadableFlag v
  match v with
  | .bool b => .valid b
  | .str s => spelled s
  | .platform p => spelled p.name
  | .bytes bs =>
    match Text.decode ⟨bs.toArray⟩ with
    | .ok s => spelled s
    | .error _ => refuse location .unreadableFlag v
  | .int n => if fitsWord n then counted n else refuse location .notFlag v
  | .float x =>
    if x.isFinite && x.isIntegral && -(2 ^ 63) < x.truncate && x.truncate < 2 ^ 63 then
      counted x.truncate
    else refuse location .notFlag v
  | _ => refuse location .notFlag v

def checkWords (location : List String) (words : List Value) : Checked (List String) :=
  Checked.all (words.zipIdx.map fun (word, n) => checkText (location ++ [s!"{n}"]) word)

/-- Checks for a command: a list of words, or a text that is cut into words. It must not be
empty. -/
def checkCommand (location : List String) (v : Value) : Checked (List String) :=
  let given : Value := match v with
    | .str s => .list ((Text.words s).map .str)
    | .platform p => .list ((Text.words p.name).map .str)
    | _ => v
  if !given.isTruthy then refuse location (.rule "Command must not be empty") v
  else
    match given with
    | .list words | .tuple words | .set words => checkWords location words
    | _ => refuse location .notList given

/-- A key of a mapping as a part of a location. -/
def keyLabel (key : Value) : String :=
  match key with
  | .bool b => if b then "1" else "0"
  | .str s => s
  | .platform p => p.name
  | _ => key.shown

/-- Checks for a mapping whose keys are texts. -/
def checkMapping (location : List String) (v : Value) : Checked Entries :=
  match v with
  | .map entries =>
    (Checked.all (entries.map fun (key, value) =>
      (checkText (location ++ [keyLabel key, "[key]"]) key).map fun text =>
        (Value.str text, value))).map Entries.ofList
  | _ => refuse location .notMapping v

def checkRule (location : List String) (input : Value) (holds : String → Bool)
    (message : String → String) (text : String) : Checked String :=
  if holds text then .valid text else refuse location (.rule (message text)) input

def holdsPlaceholder (cs : List Char) : Bool :=
  match cs with
  | '\x7b' :: '\x7d' :: _ => true
  | _ :: rest => holdsPlaceholder rest
  | [] => false

/-- Whether a text can stand before an underscore in the name of an archive. -/
def isSegment (text : String) : Bool :=
  text != "" && !text.toList.contains ArchiveName.delimiter

/-- Checks for the name of a library: a text, not empty and without the placeholder. -/
def checkLibrary (location : List String) (v : Value) : Checked String :=
  (checkText location v).andThen
    (checkRule location v (fun s => s != "" && !holdsPlaceholder s.toList)
      fun s => s!"Invalid library identifier: {Text.quote s}")

/-- Checks for the name of a product: a text that is a segment. -/
def checkProduct (location : List String) (v : Value) : Checked String :=
  (checkText location v).andThen
    (checkRule location v isSegment
      fun s => s!"Product prefix must be non-empty and must not contain '_': {Text.quote s}")

/-- Checks for a version: nothing or a text that is a segment. -/
def checkVersion (location : List String) (v : Value) : Checked (Option String) :=
  (checkOptionalText location v).andThen fun
    | none => .valid none
    | some text => some <$> checkRule location v isSegment
        (fun s => s!"Version must be non-empty and must not contain '_': {Text.quote s}") text

/-- Checks a setting if it is given; otherwise it has its default. -/
def checkSetting (entries : Entries) (name : String)
    (check : List String → Value → Checked α) (default : α) : Checked α :=
  match entries.field? name with
  | some v => check [name] v
  | none => .valid default

/-- The configuration that some settings give, or all their defects. -/
def ofSettings (entries : Entries) : Checked Config :=
  let setting {α : Type} (name : String) (check : List String → Value → Checked α) (default : α) :=
    checkSetting entries name check default
  let d := standard
  Config.mk
    <$> setting "library_identifier" checkLibrary d.library
    <*> setting "product_prefix" checkProduct d.product
    <*> setting "version" checkVersion d.version
    <*> setting "manifest_path" checkPath d.manifest
    <*> setting "project_dir" checkPath d.projectDir
    <*> setting "build_root" checkPath d.buildRoot
    <*> setting "output_dir" checkPath d.outputDir
    <*> setting "dev_mode" checkFlag d.devMode
    <*> setting "host_os" checkOptionalText d.host
    <*> setting "update_command" checkCommand d.updateCommand
    <*> setting "build_command" checkCommand d.buildCommand
    <*> setting "post_build_hook" checkOptionalText d.postBuildHook
    <*> setting "logging" checkMapping d.logging

end ReleasePackaging.Config
