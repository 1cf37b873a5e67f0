import ReleasePackaging.Number.Integer
import ReleasePackaging.Text.Place
import ReleasePackaging.Value.Basic

/-!
# Reading JSON

A document is one value with blanks around it. Besides the values of the standard, the numbers that
are not finite are read. Every reader takes the characters that are left and gives a value and the
characters after it; a fault tells how many characters were left at its place. Of several entries
of an object under one key the last one counts.
-/
namespace ReleasePackaging.Json

/-- Why a text is no document. -/
inductive Reason where
  | byteOrderMark | expectingValue | extraData | expectingName | expectingColon | expectingComma
  | unterminatedString | controlCharacter | badEscape | badUnicodeEscape
  deriving DecidableEq, Repr

def Reason.message : Reason → String
  | .byteOrderMark => "Unexpected UTF-8 BOM (decode using utf-8-sig)"
  | .expectingValue => "Expecting value"
  | .extraData => "Extra data"
  | .expectingName => "Expecting property name enclosed in double quotes"
  | .expectingColon => "Expecting ':' delimiter"
  | .expectingComma => "Expecting ',' delimiter"
  | .unterminatedString => "Unterminated string starting at"
  | .controlCharacter => "Invalid control character at"
  | .badEscape => "Invalid \\escape"
  | .badUnicodeEscape => "Invalid \\uXXXX escape"

/-- What is wrong with a text: it is no document, or it holds an integer that cannot be read. -/
inductive Fault where
  | grammar (reason : Reason) (place : Text.Place)
  | integer (f : Number.IntegerFault)
  deriving DecidableEq, Repr

def Fault.message : Fault → String
  | .grammar reason place =>
    s!"{reason.message}: line {place.line} column {place.column} (char {place.offset})"
  | .integer f => f.message

/-- A fault while reading: a reason with the number of characters left, or an integer. -/
inductive Stop where
  | grammar (reason : Reason) (remaining : Nat)
  | integer (f : Number.IntegerFault)
  deriving DecidableEq, Repr

/-- What a reader gives: a result and the characters after it. -/
abbrev Reading (α : Type) := Except Stop (α × List Char)

/-- Whether a character may stand between the parts of a document. -/
def isBlank (c : Char) : Bool := c == ' ' || c == '\t' || c == '\n' || c == '\r'

def skipBlanks (cs : List Char) : List Char := cs.dropWhile isBlank

def hexValue? (digits : List Char) : Option Nat :=
  digits.foldlM (fun n c =>
    let d := c.toNat
    if 0x30 ≤ d && d ≤ 0x39 then some (n * 16 + (d - 0x30))
    else if 0x61 ≤ d && d ≤ 0x66 then some (n * 16 + (d - 0x61 + 10))
    else if 0x41 ≤ d && d ≤ 0x46 then some (n * 16 + (d - 0x41 + 10))
    else none) 0

/-- The character that a letter after a backslash stands for. -/
def escaped? : Char → Option Char
  | '"' => some '"'
  | '\\' => some '\\'
  | '/' => some '/'
  | 'b' => some '\x08'
  | 'f' => some '\x0c'
  | 'n' => some '\n'
  | 'r' => some '\r'
  | 't' => some '\t'
  | _ => none

/-- The character of a code unit; a surrogate that stands alone is replaced. -/
def charOfUnit (n : Nat) : Char :=
  if 0xD800 ≤ n && n ≤ 0xDFFF then '\uFFFD' else Char.ofNat n

def charOfPair (high low : Nat) : Char :=
  Char.ofNat (0x10000 + (high - 0xD800) * 0x400 + (low - 0xDC00))

def consChar (c : Char) (r : Reading (List Char)) : Reading (List Char) :=
  r.map fun (cs, rest) => (c :: cs, rest)

/-- Reads a string after its opening quotation mark, before which `opening` characters were left. -/
def readString (opening : Nat) : List Char → Reading (List Char)
  | [] => .error (.grammar .unterminatedString opening)
  | '"' :: rest => .ok ([], rest)
  | ['\\'] => .error (.grammar .unterminatedString opening)
  | '\\' :: 'u' :: a :: b :: c :: d :: e :: rest =>
    match hexValue? [a, b, c, d] with
    | none => .error (.grammar .badUnicodeEscape (rest.length + 6))
    | some unit =>
      if 0xD800 ≤ unit && unit ≤ 0xDBFF && e == '\\' then
        match _h : rest with
        | 'u' :: a :: b :: c :: d :: f :: tail =>
          match hexValue? [a, b, c, d] with
          | none => .error (.grammar .badUnicodeEscape (tail.length + 6))
          | some low =>
            if 0xDC00 ≤ low && low ≤ 0xDFFF then
              consChar (charOfPair unit low) (readString opening (f :: tail))
            else consChar (charOfUnit unit) (readString opening (e :: rest))
        | _ => consChar (charOfUnit unit) (readString opening (e :: rest))
      else consChar (charOfUnit unit) (readString opening (e :: rest))
  | '\\' :: 'u' :: rest => .error (.grammar .badUnicodeEscape (rest.length + 1))
  | '\\' :: c :: rest =>
    match escaped? c with
    | some x => consChar x (readString opening rest)
    | none => .error (.grammar .badEscape (rest.length + 2))
  | c :: rest =>
    if c.toNat ≤ 0x1F then .error (.grammar .controlCharacter (rest.length + 1))
    else consChar c (readString opening rest)
termination_by cs => cs.length

def isDigit (c : Char) : Bool := '0' ≤ c && c ≤ '9'

/-- The digits at the beginning of some characters, and the rest. -/
def digitRun (cs : List Char) : List Char × List Char := (cs.takeWhile isDigit, cs.dropWhile isDigit)

/-- The characters of the whole part of a number, and the rest: a single zero, or digits that do
not start with zero. -/
def wholePart? (cs : List Char) : Option (List Char × List Char) :=
  match cs with
  | '0' :: rest => some (['0'], rest)
  | c :: _ => if isDigit c then some (digitRun cs) else none
  | [] => none

/-- The characters of the fraction of a number, with its point, and the rest. -/
def fractionPart (cs : List Char) : List Char × List Char :=
  match cs with
  | '.' :: rest =>
    match digitRun rest with
    | ([], _) => ([], cs)
    | (digits, rest) => ('.' :: digits, rest)
  | _ => ([], cs)

/-- The characters of the exponent of a number, with its letter, and the rest. -/
def exponentPart (cs : List Char) : List Char × List Char :=
  match cs with
  | e :: rest =>
    if e == 'e' || e == 'E' then
      let (sign, after) := match rest with
        | '+' :: after => (['+'], after)
        | '-' :: after => (['-'], after)
        | _ => ([], rest)
      match digitRun after with
      | ([], _) => ([], cs)
      | (digits, rest) => (e :: sign ++ digits, rest)
    else ([], cs)
  | [] => ([], cs)

def readNumber (cs : List Char) : Reading Value :=
  let (sign, unsigned) := match cs with
    | '-' :: rest => (['-'], rest)
    | _ => ([], cs)
  match wholePart? unsigned with
  | none => .error (.grammar .expectingValue cs.length)
  | some (whole, rest) =>
    let (fraction, rest) := fractionPart rest
    let (exponent, rest) := exponentPart rest
    let text := String.ofList (sign ++ whole ++ fraction ++ exponent)
    if fraction.isEmpty && exponent.isEmpty then
      match Number.readInteger 10 text with
      | .ok n => .ok (.int n, rest)
      | .error f => .error (.integer f)
    else .ok (.float ((Number.readBinary64? text).getD .nan), rest)

/-- The words that are values, with what they stand for. -/
def wordValues : List (String × Value) :=
  [("null", .null), ("true", .bool true), ("false", .bool false), ("NaN", .float .nan),
   ("Infinity", .float (.infinity false)), ("-Infinity", .float (.infinity true))]

/-- The word at the beginning of some characters, and the rest. -/
def readWord? (cs : List Char) : Option (Value × List Char) :=
  (wordValues.find? fun (word, _) => word.toList.isPrefixOf cs).map fun (word, v) =>
    (v, cs.drop word.length)

mutual

def readValue (fuel : Nat) (cs : List Char) : Reading Value :=
  match fuel, cs with
  | 0, _ => .error (.grammar .expectingValue cs.length)
  | _, '"' :: rest =>
    (readString (rest.length + 1) rest).map fun (s, rest) => (.str (String.ofList s), rest)
  | fuel + 1, '[' :: rest =>
    match skipBlanks rest with
    | ']' :: rest => .ok (.list [], rest)
    | rest => (readElements fuel rest).map fun (vs, rest) => (.list vs, rest)
  | fuel + 1, '\x7b' :: rest =>
    match skipBlanks rest with
    | '\x7d' :: rest => .ok (.map [], rest)
    | rest => (readMembers fuel [] rest).map fun (entries, rest) => (.map entries, rest)
  | _, _ =>
    match readWord? cs with
    | some result => .ok result
    | none => readNumber cs

def readElements (fuel : Nat) (cs : List Char) :
    Except Stop (List Value × List Char) :=
  match fuel with
  | 0 => .error (.grammar .expectingValue cs.length)
  | fuel + 1 => do
    let (v, rest) ← readValue fuel cs
    match skipBlanks rest with
    | ']' :: rest => .ok ([v], rest)
    | ',' :: rest => do
      let (vs, rest) ← readElements fuel (skipBlanks rest)
      .ok (v :: vs, rest)
    | rest => .error (.grammar .expectingComma rest.length)

/-- Reads the members of an object up to its closing brace, after those already read. -/
def readMembers (fuel : Nat) (done : Entries) (cs : List Char) :
    Except Stop (Entries × List Char) :=
  match fuel, cs with
  | 0, _ => .error (.grammar .expectingName cs.length)
  | fuel + 1, '"' :: rest => do
    let (name, rest) ← readString (rest.length + 1) rest
    match skipBlanks rest with
    | ':' :: rest => do
      let (v, rest) ← readValue fuel (skipBlanks rest)
      let entries := done.put (.str (String.ofList name)) v
      match skipBlanks rest with
      | '\x7d' :: rest => .ok (entries, rest)
      | ',' :: rest => readMembers fuel entries (skipBlanks rest)
      | rest => .error (.grammar .expectingComma rest.length)
    | rest => .error (.grammar .expectingColon rest.length)
  | _, _ => .error (.grammar .expectingName cs.length)

end

def readDocument (cs : List Char) : Except Stop Value :=
  match cs with
  | '\uFEFF' :: _ => .error (.grammar .byteOrderMark cs.length)
  | _ => do
    let (v, rest) ← readValue (2 * cs.length + 2) (skipBlanks cs)
    match skipBlanks rest with
    | [] => .ok v
    | rest => .error (.grammar .extraData rest.length)

/-- Reads a document; a fault is given with its place. -/
def read (cs : List Char) : Except Fault Value :=
  match readDocument cs with
  | .ok v => .ok v
  | .error (.grammar reason remaining) => .error (.grammar reason (Text.placeBefore cs remaining))
  | .error (.integer f) => .error (.integer f)

end ReleasePackaging.Json
