import ReleasePackaging.Number.Power
import ReleasePackaging.Shell.Script

/-!
# Numerals of the command shell

Numbers stand in words in decimal; in expressions and formats a zero at the beginning makes them octal,
and a zero with an x hexadecimal. What is read as a number is the longest beginning that is one.
-/
namespace ReleasePackaging.Shell

def isNumberBlank (c : Char) : Bool := c == ' ' || ('\t' ≤ c && c ≤ '\r')

def digitOf? (c : Char) : Option Nat :=
  if c.isDigit then some (c.toNat - 0x30)
  else if 'a' ≤ c && c ≤ 'f' then some (c.toNat - 0x57)
  else if 'A' ≤ c && c ≤ 'F' then some (c.toNat - 0x37)
  else none

def digitsAt (base : Nat) (cs : List Char) : List Char :=
  cs.takeWhile fun c => (digitOf? c).any (· < base)

def sizeOf (base : Nat) (digits : List Char) : Nat :=
  digits.foldl (fun n c => n * base + (digitOf? c).getD 0) 0

/-- The size that the numeral at the beginning of some characters stands for, in hexadecimal, octal or
decimal, and the number of characters it takes. A mark of the base counts only before a digit. -/
def numeralAt (cs : List Char) : Nat × Nat :=
  let sized (base : Nat) (cs : List Char) : Nat × Nat :=
    let digits := digitsAt base cs
    (sizeOf base digits, digits.length)
  match cs with
  | '0' :: x :: rest =>
    let (n, taken) := sized 16 rest
    if (x == 'x' || x == 'X') && taken != 0 then (n, taken + 2) else sized 8 cs
  | _ => sized 10 cs

/-- A sign at the beginning of some characters, and the characters after it. -/
def signAt (cs : List Char) : Bool × List Char :=
  match cs with
  | '-' :: rest => (true, rest)
  | '+' :: rest => (false, rest)
  | _ => (false, cs)

/-- The integer that the numeral at the beginning of some characters stands for, blanks and a sign
before it, and the number of characters it takes; none are taken if there is no numeral. -/
def signedAt (cs : List Char) : Int × Nat :=
  let unblanked := cs.dropWhile isNumberBlank
  let (isNegative, digits) := signAt unblanked
  let (n, taken) := numeralAt digits
  let n : Int := if isNegative then -n else n
  if taken = 0 then (0, 0) else (n, cs.length - digits.length + taken)

/-- The least integer of 64 bits. -/
def leastInteger : Int := -(2 ^ 63)

def greatestInteger : Int := 2 ^ 63 - 1

def fits (n : Int) : Bool := leastInteger ≤ n && n ≤ greatestInteger

/-- The integer that a word stands for in decimal; blanks around it do not count. -/
def integer? (word : Octets) : Option Int :=
  let unblanked := ((word.dropWhile isNumberBlank).reverse.dropWhile isNumberBlank).reverse
  let (isNegative, digits) := signAt unblanked
  if digits.isEmpty || !digits.all Char.isDigit then none
  else
    let n : Int := if isNegative then -(sizeOf 10 digits : Int) else sizeOf 10 digits
    if fits n then some n else none

/-- The integer that the text of a variable stands for in an expression; blank text stands for zero. -/
def expressionInteger? (text : Octets) : Option Int :=
  let (n, taken) := signedAt text
  if text.dropWhile isNumberBlank == [] then some 0
  else if taken = 0 || !(text.drop taken).all isNumberBlank || !fits n then none
  else some n

end ReleasePackaging.Shell
