import ReleasePackaging.Number.Binary64
import ReleasePackaging.Number.Power

/-!
# The shortest decimal that reads back

Among the decimals that round to a given number, the one with the fewest digits is chosen, and of
several of these the nearest. For each number of digits the only candidates are the two neighbours
of the number on the grid of that many digits, so the first grid with a candidate decides.
-/
namespace ReleasePackaging.Number

/-- The reals that round to a finite non-zero number: between `low / scale` and `high / scale`, the
ends included when the significand is even, around `value / scale`. -/
structure RoundingInterval where
  low : Nat
  value : Nat
  high : Nat
  scale : Nat
  closed : Bool

/-- The interval of a finite non-zero number, its sign disregarded. -/
def Binary64.interval (x : Binary64) : RoundingInterval :=
  let m := x.significand
  let (up, scale) :=
    if 0 ≤ x.exponent then (2 ^ x.exponent.toNat, 4) else (1, 4 * 2 ^ (-x.exponent).toNat)
  let below := if m = 2 ^ 52 ∧ 1 < x.biased then 1 else 2
  ⟨(4 * m - below) * up, 4 * m * up, (4 * m + 2) * up, scale, m % 2 = 0⟩

/-- Whether `n * 10 ^ power` lies in an interval. -/
def RoundingInterval.contains (i : RoundingInterval) (n : Nat) (power : Int) : Bool :=
  let (candidate, unit) :=
    if 0 ≤ power then (n * 10 ^ power.toNat * i.scale, 1)
    else (n * i.scale, 10 ^ (-power).toNat)
  if i.closed then i.low * unit ≤ candidate && candidate ≤ i.high * unit
  else i.low * unit < candidate && candidate < i.high * unit

/-- The greatest power of ten that does not exceed a ratio of positive numbers, found by counting
from an estimate that is never too large. -/
def decimalExponent (num den : Nat) : Int :=
  let rec climb (fuel : Nat) (e : Int) : Int :=
    match fuel with
    | 0 => e
    | fuel + 1 =>
      let next := e + 1
      let fits :=
        if 0 ≤ next then den * 10 ^ next.toNat ≤ num else den ≤ num * 10 ^ (-next).toNat
      if fits then climb fuel next else e
  let estimate : Int :=
    ((Nat.toDigits 10 num).length : Int) - (Nat.toDigits 10 den).length - 1
  climb 3 estimate

/-- A candidate of the grid on which the last digit counts `10 ^ power`, if one lies in the
interval: the nearer neighbour of the value, at equal distance the even one. -/
def RoundingInterval.onGrid? (i : RoundingInterval) (power : Int) : Option Nat :=
  let (num, den) :=
    if 0 ≤ power then (i.value, i.scale * 10 ^ power.toNat)
    else (i.value * 10 ^ (-power).toNat, i.scale)
  let floor := num / den
  let nearest := Binary64.roundedQuotient num den
  let other := if nearest = floor then floor + 1 else floor
  if i.contains nearest power then some nearest
  else if i.contains other power then some other
  else none

/-- The digits and the power of ten of the shortest decimal in an interval, `count` being the
number of digits to try first. -/
def RoundingInterval.search (i : RoundingInterval) (lead : Int) : Nat → Nat → Nat × Int
  | 0, _ => (0, 0)
  | fuel + 1, count =>
    let power := lead - (count - 1 : Nat)
    match i.onGrid? power with
    | some n => (n, power)
    | none => i.search lead fuel (count + 1)

/-- Removes trailing zeros from digits, raising the power of ten. -/
def dropZeros (fuel n : Nat) (power : Int) : Nat × Int :=
  match fuel with
  | 0 => (n, power)
  | fuel + 1 => if n % 10 = 0 ∧ n ≠ 0 then dropZeros fuel (n / 10) (power + 1) else (n, power)

/-- The digits and the power of ten of the shortest decimal that rounds to a finite non-zero
number. Seventeen digits always suffice. -/
def Binary64.shortest (x : Binary64) : Nat × Int :=
  let i := x.interval
  let (n, power) := i.search (decimalExponent i.value i.scale) 17 1
  dropZeros 20 n power

/-- How numbers are laid out: positional notation is used while the position of the leading digit
lies in a range, the exponent otherwise. -/
structure DecimalLayout where
  leastPosition : Int
  greatestPosition : Int

/-- Numbers are written positionally from 0.0001 up to, and not including, 10 ^ 16. -/
def plainLayout : DecimalLayout := ⟨-4, 15⟩

/-- The text of a number in a layout: always with a point or an exponent, the exponent with a sign
and at least two digits. -/
def Binary64.render (layout : DecimalLayout) (x : Binary64) : String :=
  if x.isNaN then "nan"
  else
    let sign := if x.isNegative then "-" else ""
    if x.isInfinite then sign ++ "inf"
    else if x.isZero then sign ++ "0.0"
    else
      let (n, power) := x.shortest
      let digits := Nat.toDigits 10 n
      let lead : Int := power + digits.length - 1
      let body : List Char :=
        if layout.leastPosition ≤ lead ∧ lead ≤ layout.greatestPosition then
          if 0 ≤ power then digits ++ List.replicate power.toNat '0' ++ ['.', '0']
          else if 0 ≤ lead then
            digits.take (lead.toNat + 1) ++ '.' :: digits.drop (lead.toNat + 1)
          else '0' :: '.' :: List.replicate ((-lead).toNat - 1) '0' ++ digits
        else
          let mantissa := match digits with
            | [] => []
            | [d] => [d]
            | d :: rest => d :: '.' :: rest
          let e := Nat.toDigits 10 lead.natAbs
          let e := if e.length < 2 then '0' :: e else e
          mantissa ++ 'e' :: (if lead < 0 then '-' else '+') :: e
      sign ++ String.ofList body

def Binary64.text (x : Binary64) : String := x.render plainLayout

end ReleasePackaging.Number
