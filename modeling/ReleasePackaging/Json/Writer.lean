import ReleasePackaging.Number.Integer
import ReleasePackaging.Number.Shortest
import ReleasePackaging.Text.Quoted
import ReleasePackaging.Value.Basic

/-!
# Writing JSON

A value is written in one line, or over several lines with the members of objects and the elements
of arrays indented. Characters outside ASCII are written as they are or escaped by their code units.
Numbers that are not finite are written by name. A value is written piece by piece: what stands before
something that cannot be written has been written by then.
-/
namespace ReleasePackaging.Json

/-- How documents are laid out: the number of blanks for each level, if members stand on lines of
their own, and whether characters outside ASCII are escaped. -/
structure Layout where
  indent : Option Nat
  asciiOnly : Bool
  deriving DecidableEq, Repr

/-- The layout of files: two blanks for each level, ASCII only. -/
def fileLayout : Layout := ⟨some 2, true⟩

/-- The layout of single lines with all characters as they are. -/
def lineLayout : Layout := ⟨none, false⟩

/-- A code unit after a backslash and the letter u. -/
def unitEscape (n : Nat) : List Char := '\\' :: 'u' :: Text.hexPadded 4 n

def escapeChar (asciiOnly : Bool) (c : Char) : List Char :=
  if c = '"' then ['\\', '"']
  else if c = '\\' then ['\\', '\\']
  else if c = '\n' then ['\\', 'n']
  else if c = '\r' then ['\\', 'r']
  else if c = '\t' then ['\\', 't']
  else if c = '\x08' then ['\\', 'b']
  else if c = '\x0c' then ['\\', 'f']
  else if c.toNat < 0x20 then unitEscape c.toNat
  else if c.toNat < 0x7F then [c]
  else if !asciiOnly then [c]
  else if c.toNat < 0x10000 then unitEscape c.toNat
  else
    let n := c.toNat - 0x10000
    unitEscape (0xD800 + n / 0x400) ++ unitEscape (0xDC00 + n % 0x400)

def writeString (asciiOnly : Bool) (s : String) : String :=
  String.ofList ('"' :: s.toList.flatMap (escapeChar asciiOnly) ++ ['"'])

/-- A number with a fraction; one that is not finite by name. -/
def writeNumber (x : Number.Binary64) : String :=
  if x.isNaN then "NaN"
  else if x.isInfinite then if x.isNegative then "-Infinity" else "Infinity"
  else x.text

/-- Why a value cannot be written: a key or a value of a kind that there is not in JSON, or an integer
of too many digits. -/
inductive WriteFault where
  | key (kind : String)
  | value (kind : String)
  | integer (f : Number.IntegerFault)
  deriving DecidableEq, Repr

def WriteFault.message : WriteFault → String
  | .key kind => s!"keys must be str, int, float, bool or None, not {kind}"
  | .value kind => s!"Object of type {kind} is not JSON serializable"
  | .integer f => f.message

def writeInteger (n : Int) : Except WriteFault String :=
  if Number.isOverlong n then .error (.integer .unwritable) else .ok s!"{n}"

/-- The text of a key of an object; only null and scalars have one. -/
def keyText : Value → Except WriteFault String
  | .null => .ok "null"
  | .bool b => .ok (if b then "true" else "false")
  | .int n => writeInteger n
  | .float x => .ok (writeNumber x)
  | .str s => .ok s
  | .platform p => .ok p.name
  | v => .error (.key v.kind)

/-- A new line and the blanks of a level, if members stand on lines of their own. -/
def Layout.lineBreak (layout : Layout) (level : Nat) : String :=
  match layout.indent with
  | none => ""
  | some width => "\n" ++ String.ofList (List.replicate (level * width) ' ')

/-- What stands between two members of a level. -/
def Layout.separator (layout : Layout) (level : Nat) : String :=
  match layout.indent with
  | none => ", "
  | some _ => "," ++ layout.lineBreak level

/-- A piece of a document, or the fault in its place. -/
abbrev Piece := Except WriteFault String

mutual

/-- The pieces of a value at a level of indentation, after some text. -/
def pieces (layout : Layout) (level : Nat) (before : String) : Value → List Piece
  | .null => [.ok (before ++ "null")]
  | .bool b => [.ok (before ++ if b then "true" else "false")]
  | .int n => [(writeInteger n).map (before ++ ·)]
  | .float x => [.ok (before ++ writeNumber x)]
  | .str s => [.ok (before ++ writeString layout.asciiOnly s)]
  | .platform p => [.ok (before ++ writeString layout.asciiOnly p.name)]
  | .list [] | .tuple [] => [.ok (before ++ "[]")]
  | .list xs | .tuple xs =>
    .ok before :: elementPieces layout (level + 1) ("[" ++ layout.lineBreak (level + 1)) xs ++
      [.ok (layout.lineBreak level ++ "]")]
  | .map [] => [.ok (before ++ "\x7b\x7d")]
  | .map entries =>
    .ok (before ++ "\x7b" ++ layout.lineBreak (level + 1)) ::
      memberPieces layout (level + 1) "" entries ++ [.ok (layout.lineBreak level ++ "\x7d")]
  | v => [.ok before, .error (.value v.fullKind)]

def elementPieces (layout : Layout) (level : Nat) (before : String) : List Value → List Piece
  | [] => []
  | x :: xs =>
    pieces layout level before x ++ elementPieces layout level (layout.separator level) xs

def memberPieces (layout : Layout) (level : Nat) (before : String) :
    List (Value × Value) → List Piece
  | [] => []
  | (k, v) :: rest =>
    (keyText k).map (fun key => before ++ writeString layout.asciiOnly key ++ ": ") ::
      pieces layout level "" v ++ memberPieces layout level (layout.separator level) rest

end

/-- The text that some pieces make up to the first fault, and that fault. -/
def written : List Piece → String × Option WriteFault
  | [] => ("", none)
  | .ok text :: rest =>
    let (later, fault) := written rest
    (text ++ later, fault)
  | .error fault :: _ => ("", some fault)

/-- Writes a value as a document: the text as far as it is written, and what went wrong. -/
def write (layout : Layout) (v : Value) : String × Option WriteFault := written (pieces layout 0 "" v)

end ReleasePackaging.Json
