import ReleasePackaging.Number.Integer
import ReleasePackaging.VersionFile.Basic

/-!
# Numerals

An integer in base ten, two, eight or sixteen, or a decimal fraction with or without an exponent;
single underscores may stand between digits. A nonzero integer does not start with a zero.
-/
namespace ReleasePackaging.VersionFile

/-- A run of digits of a class in which single underscores may stand between digits, and what is
left. None if an underscore is not followed by a digit. -/
def digitRun (isMember : Char → Bool) : List Char → Option (List Char × List Char)
  | '_' :: c :: rest =>
    if isMember c then (digitRun isMember rest).map fun (ds, more) => (c :: ds, more) else none
  | ['_'] => none
  | c :: rest =>
    if isMember c then (digitRun isMember rest).map fun (ds, more) => (c :: ds, more)
    else some ([], c :: rest)
  | [] => some ([], [])

/-- The words that may follow a numeral without a blank. -/
def wordsAfterNumeral : List String := ["and", "else", "for", "if", "in", "is", "or", "not"]

def checkEnd (kind : String) (rest : List Char) : Except NumeralProblem Unit :=
  match rest with
  | c :: _ =>
    if (c.isAlphanum || c == '_' || 128 ≤ c.toNat) &&
        !(wordsAfterNumeral.any fun w => w.toList.isPrefixOf rest) then
      .error (.malformed kind)
    else .ok ()
  | [] => .ok ()

def digitsValue (base : Nat) (ds : List Char) : Nat :=
  Number.ofDigits base (ds.map fun c => (Number.digitValue? c).getD 0)

def isDigitIn (base : Nat) (c : Char) : Bool :=
  c.toNat < 128 && (Number.digitValue? c).any fun d => d < base

def readBased (base : Nat) (kind : String) (cs : List Char) :
    Except NumeralProblem (Value × List Char) := do
  let digits := match cs with
    | '_' :: rest => rest
    | _ => cs
  match digitRun (isDigitIn base) digits with
  | some ([], c :: _) | some (_ :: _, c :: _) =>
    if c.isDigit then throw (.badDigit c kind)
  | _ => pure ()
  match digitRun (isDigitIn base) digits with
  | none | some ([], _) => throw (.malformed kind)
  | some (ds, rest) => do
    checkEnd kind rest
    return (.int (digitsValue base ds), rest)

/-- The exponent of a decimal numeral, if there is one. -/
def readExponent (cs : List Char) : Except NumeralProblem (Int × Bool × List Char) :=
  match cs with
  | e :: rest =>
    if e != 'e' && e != 'E' then .ok (0, false, cs)
    else
      let (negative, digits) := Number.splitSign rest
      match digits with
      | d :: _ =>
        if d.isDigit then
          match digitRun Char.isDigit digits with
          | some (ds, rest) =>
            let n : Int := digitsValue 10 ds
            .ok (if negative then -n else n, true, rest)
          | none => .error (.malformed "decimal")
        else if digits.length < rest.length then .error (.malformed "decimal")
        else .ok (0, false, cs)
      | [] => if digits.length < rest.length then .error (.malformed "decimal") else .ok (0, false, cs)
  | [] => .ok (0, false, cs)

def readDecimal (cs : List Char) : Except NumeralProblem (Value × List Char) := do
  let (whole, rest) ← match digitRun Char.isDigit cs with
    | some r => pure r
    | none => throw (.malformed "decimal")
  let (places, isFraction, rest) ← match rest with
    | '.' :: after =>
      if after.head?.any Char.isDigit then
        match digitRun Char.isDigit after with
        | some (ds, rest) => pure (ds, true, rest)
        | none => throw (.malformed "decimal")
      else pure ([], true, after)
    | _ => pure ([], false, rest)
  let (power, isScaled, rest) ← readExponent rest
  if isFraction || isScaled then
    checkEnd "decimal" rest
    let digits := digitsValue 10 (whole ++ places)
    return (.float (Number.Binary64.ofDecimal false digits (power - places.length)), rest)
  else if whole.head? = some '0' && whole.any (· != '0') then throw .leadingZeros
  else do
    checkEnd "decimal" rest
    if Number.digitLimit < whole.length then throw (.tooLong whole.length)
    return (.int (digitsValue 10 whole), rest)

def readNumeral (cs : List Char) : Except NumeralProblem (Value × List Char) :=
  match cs with
  | '0' :: m :: rest =>
    if m == 'x' || m == 'X' then readBased 16 "hexadecimal" rest
    else if m == 'o' || m == 'O' then readBased 8 "octal" rest
    else if m == 'b' || m == 'B' then readBased 2 "binary" rest
    else readDecimal cs
  | _ => readDecimal cs

end ReleasePackaging.VersionFile
