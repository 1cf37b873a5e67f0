import ReleasePackaging.Number.Integer
import ReleasePackaging.VersionFile.Basic

/-!
# Literal texts

The content of a literal text stands between its quotes; escapes in it are read unless it is raw. In
a text an escape can name any character, in a byte string an octet. Positions in messages count a
character outside ASCII ten times, for the escape that it could be written with.
-/
namespace ReleasePackaging.VersionFile

/-- What stands before the quote of a literal text. -/
structure Marks where
  isBytes : Bool
  isRaw : Bool
  isFormatted : Bool
  deriving DecidableEq, Repr

def letterEscape? : Char → Option Char
  | '\\' => some '\\'
  | '\'' => some '\''
  | '"' => some '"'
  | 'a' => some '\x07'
  | 'b' => some '\x08'
  | 'f' => some '\x0c'
  | 'n' => some '\n'
  | 'r' => some '\r'
  | 't' => some '\t'
  | 'v' => some '\x0b'
  | _ => none

/-- The number of hexadecimal digits of an escape, and what it is called when some are missing. -/
def hexEscape? : Char → Option (Nat × String)
  | 'x' => some (2, "truncated \\xXX escape")
  | 'u' => some (4, "truncated \\uXXXX escape")
  | 'U' => some (8, "truncated \\UXXXXXXXX escape")
  | _ => none

def isHexDigit (c : Char) : Bool := c.toNat < 128 && (Number.digitValue? c).isSome

def isOctalDigit (c : Char) : Bool := '0' ≤ c && c ≤ '7'

/-- The leading characters of a class, at most a number of them. -/
def leading (isMember : Char → Bool) (limit : Nat) (cs : List Char) : List Char :=
  (cs.take limit).takeWhile isMember

def numberOf (base : Nat) (ds : List Char) : Nat :=
  Number.ofDigits base (ds.map fun c => (Number.digitValue? c).getD 0)

def widthOf (c : Char) : Nat := if c.toNat < 128 then 1 else 10

def widthOfAll (cs : List Char) : Nat := cs.foldl (fun width c => width + widthOf c) 0

/-- Reads what follows a backslash: the characters it stands for and how many characters it takes. -/
def readEscape (position : Nat) (cs : List Char) : Except EscapeProblem (List Char × Nat) :=
  match cs with
  | [] => .ok (['\\'], 0)
  | '\n' :: _ => .ok ([], 1)
  | 'N' :: rest =>
    match rest with
    | '\x7b' :: name =>
      let before := name.takeWhile (· != '\x7d')
      let width := widthOfAll before
      if before.length = name.length then
        .error (.text position (position + 3 + width) "malformed \\N character escape")
      else if before.isEmpty then
        .error (.text position (position + 3) "malformed \\N character escape")
      else .error (.text position (position + 4 + width) "unknown Unicode character name")
    | _ => .error (.text position (position + 2) "malformed \\N character escape")
  | c :: rest =>
    match letterEscape? c, hexEscape? c with
    | some e, _ => .ok ([e], 1)
    | none, some (count, problem) =>
      let ds := leading isHexDigit count rest
      let n := numberOf 16 ds
      if ds.length < count then .error (.text position (position + 2 + ds.length) problem)
      else if 0x110000 ≤ n then
        .error (.text position (position + 2 + count) "illegal Unicode character")
      else .ok ([Char.ofNat n], 1 + count)
    | none, none =>
      let ds := leading isOctalDigit 3 cs
      if ds.isEmpty then .ok (['\\', c], 1) else .ok ([Char.ofNat (numberOf 8 ds)], ds.length)

def readContent (fuel position : Nat) (cs : List Char) : Except EscapeProblem (List Char) :=
  match fuel, cs with
  | fuel + 1, '\\' :: rest => do
    let (made, taken) ← readEscape position rest
    let width := 1 + widthOfAll (rest.take taken) +
      if taken != 0 && rest.head?.any (128 ≤ ·.toNat) then 5 else 0
    return made ++ (← readContent fuel (position + width) (rest.drop taken))
  | fuel + 1, c :: rest => do return c :: (← readContent fuel (position + widthOf c) rest)
  | _, _ => return []

/-- Reads what follows a backslash in a byte string: the octets and how many characters it takes. -/
def readByteEscape (position : Nat) (cs : List Char) : Except EscapeProblem (List Nat × Nat) :=
  match cs with
  | [] => .ok ([92], 0)
  | '\n' :: _ => .ok ([], 1)
  | 'x' :: rest =>
    let ds := leading isHexDigit 2 rest
    if ds.length < 2 then .error (.bytes position) else .ok ([numberOf 16 ds], 3)
  | c :: _ =>
    match letterEscape? c with
    | some e => .ok ([e.toNat], 1)
    | none =>
      let ds := leading isOctalDigit 3 cs
      if ds.isEmpty then .ok ([92, c.toNat], 1) else .ok ([numberOf 8 ds % 256], ds.length)

def readByteContent (fuel position : Nat) (cs : List Char) : Except EscapeProblem (List Nat) :=
  match fuel, cs with
  | fuel + 1, '\\' :: rest => do
    let (made, taken) ← readByteEscape position rest
    return made ++ (← readByteContent fuel (position + 1 + taken) (rest.drop taken))
  | fuel + 1, c :: rest => do return c.toNat :: (← readByteContent fuel (position + 1) rest)
  | _, _ => return []

def literalText (m : Marks) (content : List Char) : Except Problem Value :=
  if m.isBytes then
    if content.any fun c => 128 ≤ c.toNat then .error .notAscii
    else
      (if m.isRaw then .ok (content.map (·.toNat))
        else (readByteContent content.length 0 content).mapError Problem.escape).map
        fun ns => .bytes (ns.map UInt8.ofNat)
  else
    (if m.isRaw then .ok content
      else (readContent content.length 0 content).mapError Problem.escape).map
      fun cs => .str (String.ofList cs)

/-- The value of two literal texts that stand side by side. -/
def joinTexts (a b : Value) : Except Problem Value :=
  match a, b with
  | .str s, .str t => .ok (.str (s ++ t))
  | .bytes s, .bytes t => .ok (.bytes (s ++ t))
  | _, _ => .error .mixedTexts

end ReleasePackaging.VersionFile
