import ReleasePackaging.Number.Power
import ReleasePackaging.Text.Blank
import ReleasePackaging.Text.Digit

/-!
# Binary floating-point numbers

A 64-bit number of IEEE 754 is its bits. Its finite values are `significand * 2 ^ exponent`; a
ratio is rounded to the nearest one, a tie going to the even significand. All arithmetic is exact
on natural numbers, with one rounding at the end.
-/
namespace ReleasePackaging.Number

/-- A 64-bit floating-point number, given by its bits. -/
structure Binary64 where
  bits : UInt64
  deriving DecidableEq, Repr, Inhabited

namespace Binary64

def isNegative (x : Binary64) : Bool := 2 ^ 63 ≤ x.bits.toNat

def biased (x : Binary64) : Nat := x.bits.toNat / 2 ^ 52 % 2 ^ 11

/-- The fifty-two bits of the fraction. -/
def fraction (x : Binary64) : Nat := x.bits.toNat % 2 ^ 52

def isNaN (x : Binary64) : Bool := x.biased == 2047 && x.fraction != 0

def isInfinite (x : Binary64) : Bool := x.biased == 2047 && x.fraction == 0

def isFinite (x : Binary64) : Bool := x.biased != 2047

def isZero (x : Binary64) : Bool := x.biased == 0 && x.fraction == 0

def significand (x : Binary64) : Nat :=
  if x.biased = 0 then x.fraction else 2 ^ 52 + x.fraction

/-- The exponent of two that belongs to the significand of a finite number. -/
def exponent (x : Binary64) : Int := (max x.biased 1 : Nat) - 1075

/-- Puts a number together from its sign, biased exponent and fraction. -/
def ofParts (negative : Bool) (biased fraction : Nat) : Binary64 :=
  ⟨UInt64.ofNat ((if negative then 2 ^ 63 else 0) + biased * 2 ^ 52 + fraction)⟩

def infinity (negative : Bool) : Binary64 := ofParts negative 2047 0

def nan : Binary64 := ofParts false 2047 (2 ^ 51)

def zero (negative : Bool) : Binary64 := ofParts negative 0 0

/-- The quotient of two natural numbers, rounded to the nearest, a tie to the even one. -/
def roundedQuotient (num den : Nat) : Nat :=
  let q := num / den
  let r := num % den
  if 2 * r < den then q
  else if den < 2 * r then q + 1
  else if q % 2 = 0 then q else q + 1

/-- The position of the leading bit of `num / den`: the greatest `e` with `2 ^ e ≤ num / den`. -/
def leadingExponent (num den : Nat) : Int :=
  let guess : Int := (num.log2 : Int) - den.log2
  let fits (e : Int) : Bool :=
    if 0 ≤ e then den * 2 ^ e.toNat ≤ num else den ≤ num * 2 ^ (-e).toNat
  if fits guess then guess else guess - 1

/-- The number nearest to a ratio, infinite when the ratio is too large. -/
def ofRatio (negative : Bool) (num den : Nat) : Binary64 :=
  if num = 0 || den = 0 then zero negative
  else
    let e := max (leadingExponent num den - 52) (-1074)
    let m :=
      if 0 ≤ e then roundedQuotient num (den * 2 ^ e.toNat)
      else roundedQuotient (num * 2 ^ (-e).toNat) den
    let (m, e) := if m = 2 ^ 53 then (2 ^ 52, e + 1) else (m, e)
    if m < 2 ^ 52 then ofParts negative 0 m
    else if 971 < e then infinity negative
    else ofParts negative (e + 1075).toNat (m - 2 ^ 52)

/-- The number nearest to `digits * 10 ^ power`. Powers that can only give zero or infinity are
not computed. -/
def ofDecimal (negative : Bool) (digits : Nat) (power : Int) : Binary64 :=
  if digits = 0 then zero negative
  else
    let magnitude : Int := power + (Nat.toDigits 10 digits).length
    if 310 < magnitude then infinity negative
    else if magnitude < -330 then zero negative
    else if 0 ≤ power then ofRatio negative (digits * 10 ^ power.toNat) 1
    else ofRatio negative digits (10 ^ (-power).toNat)

def ofInt (n : Int) : Binary64 := ofRatio (n < 0) n.natAbs 1

/-- A finite number as a ratio with its sign; the denominator is a power of two. -/
def toRatio (x : Binary64) : Int × Nat :=
  let m : Int := x.significand
  let m := if x.isNegative then -m else m
  if 0 ≤ x.exponent then (m * 2 ^ x.exponent.toNat, 1) else (m, 2 ^ (-x.exponent).toNat)

/-- The integer part of a finite number. -/
def truncate (x : Binary64) : Int :=
  let (n, d) := x.toRatio
  n.tdiv d

def isIntegral (x : Binary64) : Bool :=
  x.isFinite && (let (n, d) := x.toRatio; n % d == 0)

/-- Whether two numbers are equal: the two zeros are, and a value that is no number is unequal to
everything. -/
def eqv (x y : Binary64) : Bool :=
  !x.isNaN && !y.isNaN && (x.bits == y.bits || x.isZero && y.isZero)

def eqvInt (x : Binary64) (n : Int) : Bool := x.isIntegral && x.truncate == n

/-- The rounded sum of finite numbers. -/
def add (x y : Binary64) : Binary64 :=
  if x.isFinite && y.isFinite then
    let (n, d) := x.toRatio
    let (m, e) := y.toRatio
    let sum := n * e + m * d
    if sum = 0 then zero (x.isNegative && y.isNegative)
    else ofRatio (sum < 0) sum.natAbs (d * e)
  else if x.isNaN || (x.isInfinite && y.isInfinite && x.isNegative != y.isNegative) then nan
  else if x.isInfinite then x else y

def mul (x y : Binary64) : Binary64 :=
  let negative := x.isNegative != y.isNegative
  if x.isNaN || y.isNaN then nan
  else if x.isInfinite || y.isInfinite then
    if x.isZero || y.isZero then nan else infinity negative
  else
    let (n, d) := x.toRatio
    let (m, e) := y.toRatio
    ofRatio negative (n * m).natAbs (d * e)

def isAbove (x : Binary64) (n : Int) : Bool :=
  if x.isFinite then
    let (m, d) := x.toRatio
    n * d < m
  else x.isInfinite && !x.isNegative

def neg (x : Binary64) : Binary64 := ofParts (!x.isNegative) x.biased x.fraction

end Binary64

/-- A run of decimal digits in which single underscores may stand between digits. -/
def decimalRun (value count : Nat) (after : Bool) : List Char → Nat × Nat × Bool × List Char
  | [] => (value, count, after, [])
  | c :: rest =>
    match Text.decimalValue? c with
    | some d => decimalRun (value * 10 + d) (count + 1) true rest
    | none =>
      if c = '_' && after then
        match rest with
        | d :: _ =>
          if (Text.decimalValue? d).isSome then decimalRun value count false rest
          else (value, count, after, c :: rest)
        | [] => (value, count, after, c :: rest)
      else (value, count, after, c :: rest)

/-- Reads a number in decimal notation: digits with an optional point and exponent, or one of the
words for infinity and for no number; a sign before it and blanks around it. -/
def readBinary64? (text : String) : Option Binary64 :=
  let cs := Text.trimSpaces text.toList
  let (negative, cs) := match cs with
    | '-' :: rest => (true, rest)
    | '+' :: rest => (false, rest)
    | _ => (false, cs)
  let word := String.ofList (cs.map Char.toLower)
  if word = "inf" || word = "infinity" then some (Binary64.infinity negative)
  else if word = "nan" then some (Binary64.ofParts negative 2047 (2 ^ 51))
  else
    let (value, count, _, cs) := decimalRun 0 0 false cs
    let (value, places, count, cs) := match cs with
      | '.' :: rest =>
        let (v, n, _, cs) := decimalRun value 0 false rest
        (v, n, count + n, cs)
      | _ => (value, 0, count, cs)
    if count = 0 then none
    else
      match cs with
      | [] => some (Binary64.ofDecimal negative value (-(places : Int)))
      | e :: rest =>
        if e = 'e' || e = 'E' then
          let (minus, rest) := match rest with
            | '-' :: rest => (true, rest)
            | '+' :: rest => (false, rest)
            | _ => (false, rest)
          match decimalRun 0 0 false rest with
          | (power, n, _, []) =>
            if n = 0 then none
            else
              let power : Int := if minus then -(power : Int) else power
              some (Binary64.ofDecimal negative value (power - places))
          | _ => none
        else none

end ReleasePackaging.Number
