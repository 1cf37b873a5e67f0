import ReleasePackaging.Calendar.Moment
import ReleasePackaging.Number.Integer
import ReleasePackaging.Number.Binary64
import ReleasePackaging.Text.Place
import ReleasePackaging.Text.Quoted

/-!
# TOML documents

A document is a table: keys in order, each with an item. An item is a scalar, an array or a table.
What is wrong with a text is one of a fixed number of reasons, with its place.
-/
namespace ReleasePackaging.Toml

/-- A time of day that belongs to no date. -/
structure TimeOfDay where
  hour : Nat
  minute : Nat
  second : Nat
  microsecond : Nat
  deriving DecidableEq, Repr

inductive Item where
  | text (s : String)
  | integer (n : Int)
  | float (x : Number.Binary64)
  | flag (b : Bool)
  | date (d : Date)
  | moment (t : Moment)
  | time (t : TimeOfDay)
  | array (items : List Item)
  | table (entries : List (String × Item))
  deriving Repr, Inhabited

abbrev Table := List (String × Item)

namespace Item

def kind : Item → String
  | .text _ => "str"
  | .integer _ => "int"
  | .float _ => "float"
  | .flag _ => "bool"
  | .date _ => "datetime.date"
  | .moment _ => "datetime.datetime"
  | .time _ => "datetime.time"
  | .array _ => "list"
  | .table _ => "dict"

def isCollection : Item → Bool
  | .array _ | .table _ => true
  | _ => false

end Item

namespace Table

/-- The table with an item under a key, in place of the old one or at the end. -/
def put (key : String) (item : Item) : Table → Table
  | [] => [(key, item)]
  | (k, i) :: rest => if k = key then (k, item) :: rest else (k, i) :: put key item rest

end Table

/-- A path of keys, spelled out. -/
def pathLiteral (path : List String) : String :=
  match path with
  | [key] => s!"({Text.quote key},)"
  | _ => "(" ++ ", ".intercalate (path.map Text.quote) ++ ")"

/-- Why a text is no document. -/
inductive Reason where
  | invalidStatement | expectedLineEnd | declaredTwice (path : List String)
  | immutableNamespace (path : List String) | redefinedNamespace (path : List String)
  | overwritten | duplicateKey (key : String) | expectedEquals | expectedTableEnd
  | expectedArrayTableEnd | invalidKey | unclosedArray | unclosedTable | badEscape
  | invalidHex | notScalarValue | unterminatedString | expected (delimiter : String)
  | illegalCharacter (c : Char) | invalidCharacter (c : Char) | invalidMoment | invalidValue
  deriving DecidableEq, Repr

def Reason.message : Reason → String
  | .invalidStatement => "Invalid statement"
  | .expectedLineEnd => "Expected newline or end of document after a statement"
  | .declaredTwice path => s!"Cannot declare {pathLiteral path} twice"
  | .immutableNamespace path => s!"Cannot mutate immutable namespace {pathLiteral path}"
  | .redefinedNamespace path => s!"Cannot redefine namespace {pathLiteral path}"
  | .overwritten => "Cannot overwrite a value"
  | .duplicateKey key => s!"Duplicate inline table key {Text.quote key}"
  | .expectedEquals => "Expected '=' after a key in a key/value pair"
  | .expectedTableEnd => "Expected ']' at the end of a table declaration"
  | .expectedArrayTableEnd => "Expected ']]' at the end of an array declaration"
  | .invalidKey => "Invalid initial character for a key part"
  | .unclosedArray => "Unclosed array"
  | .unclosedTable => "Unclosed inline table"
  | .badEscape => "Unescaped '\\' in a string"
  | .invalidHex => "Invalid hex value"
  | .notScalarValue => "Escaped character is not a Unicode scalar value"
  | .unterminatedString => "Unterminated string"
  | .expected delimiter => s!"Expected {Text.quote delimiter}"
  | .illegalCharacter c => s!"Illegal character {Text.quote (String.singleton c)}"
  | .invalidCharacter c => s!"Found invalid character {Text.quote (String.singleton c)}"
  | .invalidMoment => "Invalid date or datetime"
  | .invalidValue => "Invalid value"

/-- What is wrong with a text; a fault at the end of the text has no place. -/
inductive Fault where
  | grammar (reason : Reason) (place : Option Text.Place)
  | integer (f : Number.IntegerFault)
  deriving DecidableEq, Repr

def Fault.message : Fault → String
  | .grammar reason none => s!"{reason.message} (at end of document)"
  | .grammar reason (some place) =>
    s!"{reason.message} (at line {place.line}, column {place.column})"
  | .integer f => f.message

/-- A fault while reading: a reason with the number of characters left, or an integer. -/
inductive Stop where
  | grammar (reason : Reason) (remaining : Nat)
  | integer (f : Number.IntegerFault)
  deriving DecidableEq, Repr

end ReleasePackaging.Toml
