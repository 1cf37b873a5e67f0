import ReleasePackaging.Config.Basic
import ReleasePackaging.Number.Integer
import ReleasePackaging.Text.LowerCase
import ReleasePackaging.Text.Split

/-!
# Settings from the environment

A variable whose name starts with a common beginning gives a value to a setting. The rest of the
name, in lower case, is the name of a setting, or the name of a setting and a path into it, its
parts joined by underscores. Since keys hold underscores themselves, the parts are grouped: at each
level the longest group that is a key of the defaults is taken, and a single part where none is.
-/
namespace ReleasePackaging.Config

/-- The beginning of the names of the variables that give settings. -/
def variableStart : String := "TONPACK_"

/-- Whether a text is made of digits only, and at least one. -/
def isDigits (cs : List Char) : Bool := !cs.isEmpty && cs.all Text.isDigit

/-- The value that the text of a variable gives: a truth value, an integer or the text itself. -/
def readVariable (text : String) : Except Number.IntegerFault Value :=
  let key := Text.lower text
  let cs := text.toList
  if ["true", "yes", "1", "on"].contains key then .ok (.bool true)
  else if ["false", "no", "0", "off"].contains key then .ok (.bool false)
  else if isDigits cs || (cs.head? == some '-' && isDigits cs.tail) then
    (Number.readInteger 10 text).map .int
  else .ok (.str text)

/-- How many leading parts make the longest key of a mapping, at least one. Tries `count` parts,
then fewer. -/
def longestKey (known : Value) (parts : List String) : Nat → Nat
  | 0 => 1
  | count + 1 =>
    match known with
    | .map entries =>
      if (Entries.field? ("_".intercalate (parts.take (count + 1))) entries).isSome then count + 1
      else longestKey known parts count
    | _ => 1

theorem longestKey_pos (known : Value) (parts : List String) (count : Nat) :
    0 < longestKey known parts count := by
  induction count with
  | zero => simp [longestKey]
  | succ count ih =>
    unfold longestKey
    split
    · split
      · omega
      · exact ih
    · omega

/-- What a value holds under a key; nothing unless it is a mapping. -/
def entryOf (known : Value) (key : String) : Value :=
  match known with
  | .map entries => (Entries.field? key entries).getD .null
  | _ => .null

def groupKeys (known : Value) (parts : List String) : List String :=
  match parts with
  | [] => []
  | part :: rest =>
    let count := longestKey known (part :: rest) (rest.length + 1)
    let key := "_".intercalate ((part :: rest).take count)
    key :: groupKeys (entryOf known key) ((part :: rest).drop count)
termination_by parts.length
decreasing_by
  have := longestKey_pos known (part :: rest) (rest.length + 1)
  simp only [List.length_drop, List.length_cons]
  omega

/-- Puts a value at a path of keys, replacing what is no mapping on the way. -/
def setAt (value : Value) : List String → Entries → Entries
  | [], entries => entries
  | [key], entries => entries.put (.str key) value
  | key :: path, entries =>
    let inner : Entries := match entries.field? key with
      | some (.map inner) => inner
      | _ => []
    entries.put (.str key) (.map (setAt value path inner))

/-- The path of keys that the name of a variable, without the common beginning and in lower case,
denotes. Its first key is a setting. -/
def variablePath? (key : String) : Option (List String) :=
  if settingNames.contains key then some [key]
  else
    match Text.cut '_' key with
    | (head, some rest) =>
      if settingNames.contains head && rest != "" then
        some (head :: groupKeys (entryOf (.map standardEntries) head) (Text.splitAll '_' rest))
      else none
    | (_, none) => none

/-- The value that a variable gives at a path. Of the settings themselves only the flag is read;
all others take the text as it is. -/
def variableValue (path : List String) (text : String) : Except Number.IntegerFault Value :=
  match path with
  | [key] => if key = "dev_mode" then readVariable text else .ok (.str text)
  | _ => readVariable text

/-- The settings that an environment gives; of two variables for one path the later one counts. -/
def fromEnvironment (start : String) (environment : List (String × String)) :
    Except Number.IntegerFault Entries :=
  environment.foldlM (fun entries (name, text) =>
    if start.toList.isPrefixOf name.toList then
      match variablePath? (Text.lower (String.ofList (name.toList.drop start.length))) with
      | some path => return setAt (← variableValue path text) path entries
      | none => return entries
    else return entries) []

end ReleasePackaging.Config
