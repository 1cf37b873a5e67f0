import ReleasePackaging.Number.Power
import ReleasePackaging.Text.Blank
import ReleasePackaging.Text.Digit
import ReleasePackaging.Text.Quoted

/-!
# Reading integers

An integer is written with an optional sign and digits of any script, single underscores between
them, blanks around them. In base 2, 8 and 16 a base mark may stand before the digits. A text of
more than 4300 digits is refused in bases that are no power of two, because the time to read it
grows with the square of its length. For the same reason an integer of so many decimal digits has no
text.
-/
namespace ReleasePackaging.Number

/-- Why a text is not read as an integer, or an integer not written as a text. -/
inductive IntegerFault where
  | notNumeral (base : Nat) (text : String)
  | tooLong (digits : Nat)
  | unwritable
  deriving DecidableEq, Repr

/-- The greatest number of decimal digits that is read or written. -/
def digitLimit : Nat := 4300

/-- Whether an integer has too many decimal digits to be written. -/
-- Closed, because the power is not to be computed in passing.
@[irreducible] def isOverlong (n : Int) : Bool := 10 ^ digitLimit ≤ n.natAbs

theorem isOverlong_iff {n : Int} : isOverlong n = true ↔ 10 ^ digitLimit ≤ n.natAbs := by
  unfold isOverlong
  exact decide_eq_true_iff

theorem isOverlong_pow {digits : Nat} (h : digitLimit ≤ digits) : isOverlong (10 ^ digits) = true := by
  rw [isOverlong_iff, Int.natAbs_pow]
  exact Nat.pow_le_pow_right (by decide) h

/-- The wording of a fault; the text is shown in quotes, cut after 200 characters. -/
def IntegerFault.message : IntegerFault → String
  | .notNumeral base text =>
    let shown := String.ofList ((Text.quote text).toList.take 200)
    s!"invalid literal for int() with base {base}: {shown}"
  | .tooLong digits =>
    s!"Exceeds the limit ({digitLimit} digits) for integer string conversion: " ++
      s!"value has {digits} digits; use sys.set_int_max_str_digits() to increase the limit"
  | .unwritable =>
    s!"Exceeds the limit ({digitLimit} digits) for integer string conversion; " ++
      "use sys.set_int_max_str_digits() to increase the limit"

/-- The value of a digit in bases up to sixteen: a decimal digit of any script or a letter. -/
def digitValue? (c : Char) : Option Nat :=
  match Text.decimalValue? c with
  | some d => some d
  | none =>
    let n := c.toNat
    if 0x61 ≤ n ∧ n ≤ 0x66 then some (n - 0x61 + 10)
    else if 0x41 ≤ n ∧ n ≤ 0x46 then some (n - 0x41 + 10)
    else none

def isNumeralChar (base : Nat) (c : Char) : Bool := c == '_' || (digitValue? c).any (· < base)

/-- Whether underscores stand between digits only, and one at a time; `after` tells that a digit has
just been read. -/
def underscoresApart (after : Bool) : List Char → Bool
  | [] => after
  | '_' :: rest => after && underscoresApart false rest
  | _ :: rest => underscoresApart true rest

def ofDigits (base : Nat) (digits : List Nat) : Nat := digits.foldl (fun n d => n * base + d) 0

/-- Removes the base mark of a numeral in base 2, 8 or 16; one underscore may follow the mark. -/
def dropBaseMark (base : Nat) (cs : List Char) : List Char :=
  let marks : List Char := match base with
    | 2 => ['b', 'B']
    | 8 => ['o', 'O']
    | 16 => ['x', 'X']
    | _ => []
  match cs with
  | '0' :: m :: '_' :: rest => if marks.contains m then rest else cs
  | '0' :: m :: rest => if marks.contains m then rest else cs
  | _ => cs

/-- Splits a leading sign off; true means negative. -/
def splitSign : List Char → Bool × List Char
  | '-' :: rest => (true, rest)
  | '+' :: rest => (false, rest)
  | cs => (false, cs)

def isLimited (base : Nat) : Bool := !(base == 2 || base == 8 || base == 16)

/-- Reads an integer in a base. Digits that are too many are noticed before what follows them. -/
def readInteger (base : Nat) (text : String) : Except IntegerFault Int :=
  let (negative, cs) := splitSign (Text.trimSpaces text.toList)
  let numeral := dropBaseMark base cs
  let run := numeral.takeWhile (isNumeralChar base)
  let digits := run.filterMap digitValue?
  if !underscoresApart false run then .error (.notNumeral base text)
  else if isLimited base && digitLimit < digits.length then .error (.tooLong digits.length)
  else if run.length < numeral.length then .error (.notNumeral base text)
  else
    let n : Int := ofDigits base digits
    .ok (if negative then -n else n)

end ReleasePackaging.Number
