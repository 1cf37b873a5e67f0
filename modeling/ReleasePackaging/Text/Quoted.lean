import ReleasePackaging.Text.Printable

/-!
# Quoted texts

A text or a byte string is quoted between apostrophes, or between quotation marks when it holds an
apostrophe and no quotation mark. The backslash and the delimiter are written after a backslash;
tab, line feed and carriage return have short escapes; every other character that is not printable
is written by its code point in hexadecimal.
-/
namespace ReleasePackaging.Text

/-- The digits of a number in hexadecimal, with leading zeros up to a width. -/
def hexPadded (width n : Nat) : List Char :=
  let digits := Nat.toDigits 16 n
  List.replicate (width - digits.length) '0' ++ digits

/-- The delimiter of a quoted text: the apostrophe unless only it would have to be escaped. -/
def delimiterFor (cs : List Char) : Char :=
  if cs.contains '\'' && !cs.contains '"' then '"' else '\''

def escapeChar (delimiter c : Char) : List Char :=
  if c = delimiter || c = '\\' then ['\\', c]
  else if c = '\t' then ['\\', 't']
  else if c = '\n' then ['\\', 'n']
  else if c = '\r' then ['\\', 'r']
  else if isPrintable c then [c]
  else if c.toNat ≤ 0xFF then '\\' :: 'x' :: hexPadded 2 c.toNat
  else if c.toNat ≤ 0xFFFF then '\\' :: 'u' :: hexPadded 4 c.toNat
  else '\\' :: 'U' :: hexPadded 8 c.toNat

def quote (text : String) : String :=
  let cs := text.toList
  let delimiter := delimiterFor cs
  String.ofList (delimiter :: cs.flatMap (escapeChar delimiter) ++ [delimiter])

def escapeByte (delimiter : Char) (b : UInt8) : List Char :=
  let c := Char.ofNat b.toNat
  if c = delimiter || c = '\\' then ['\\', c]
  else if c = '\t' then ['\\', 't']
  else if c = '\n' then ['\\', 'n']
  else if c = '\r' then ['\\', 'r']
  else if 0x20 ≤ b.toNat && b.toNat < 0x7F then [c]
  else '\\' :: 'x' :: hexPadded 2 b.toNat

/-- A byte string between quotes, marked by a leading letter b. -/
def quoteBytes (bytes : List UInt8) : String :=
  let delimiter := delimiterFor (bytes.map fun b => Char.ofNat b.toNat)
  String.ofList ('b' :: delimiter :: bytes.flatMap (escapeByte delimiter) ++ [delimiter])

end ReleasePackaging.Text
