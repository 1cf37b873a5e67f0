import ReleasePackaging.Number.Binary64
import ReleasePackaging.Number.Power
import ReleasePackaging.Shell.Numeral

/-!
# Output of the command shell

Octets are put together from words with escapes in them, as they are, or after a format. A format is
used again as long as words are left for it.
-/
namespace ReleasePackaging.Shell

def isOctal (c : Char) : Bool := '0' ≤ c && c ≤ '7'

def octet (n : Nat) : Char := Char.ofNat (n % 256)

/-- The octet that a letter after a backslash stands for. -/
def escapedOctet? : Char → Option Char
  | 'a' => some '\x07'
  | 'b' => some '\x08'
  | 'e' => some '\x1b'
  | 'f' => some '\x0c'
  | 'n' => some '\n'
  | 'r' => some '\r'
  | 't' => some '\t'
  | 'v' => some '\x0b'
  | '\\' => some '\\'
  | _ => none

/-- The octet that the characters after a backslash stand for, and how many of them it takes; a backslash
that means nothing stands for itself. -/
def escapeAt (cs : Octets) : Char × Nat :=
  let digits := (cs.take 3).takeWhile isOctal
  if digits.isEmpty then
    match cs.head?.bind escapedOctet? with
    | some o => (o, 1)
    | none => ('\\', 0)
  else (octet (sizeOf 8 digits), digits.length)

/-- The octets of a word with escapes, and whether they are the last ones to be written. A zero before
octal digits does not count as one. -/
def unescape (fuel : Nat) (cs : Octets) : Octets × Bool :=
  match fuel, cs with
  | 0, _ | _, [] => ([], false)
  | fuel + 1, '\\' :: rest =>
    if rest.head? == some 'c' then ([], true)
    else
      let rest := match rest with
        | '0' :: d :: more => if isOctal d then d :: more else rest
        | _ => rest
      let (o, taken) := escapeAt rest
      let (os, isLast) := unescape fuel (rest.drop taken)
      (o :: os, isLast)
  | fuel + 1, c :: rest =>
    let (os, isLast) := unescape fuel rest
    (c :: os, isLast)

/-- The words of an output, and whether its line is left open. -/
def outputWords (words : List Octets) : List Octets × Bool :=
  match words with
  | ['-', 'n'] :: rest => (rest, true)
  | _ => (words, false)

/-- The words of an output with blanks between, escapes taken, and a line end unless it is
suppressed. -/
def echo (words : List Octets) : Octets :=
  let (words, isOpen) := outputWords words
  let text := [' '].intercalate words
  let (octets, isLast) := unescape (text.length + 1) text
  if isLast || isOpen then octets else octets ++ ['\n']

/-- The words of an output with blanks between, as they are. -/
def plainEcho (words : List Octets) : Octets :=
  let (words, isOpen) := outputWords words
  [' '].intercalate words ++ (if isOpen then [] else ['\n'])

/-- A place in a format: flags, width, precision and the letter. -/
structure Directive where
  flags : List Char
  width : Nat
  precision : Option Nat
  letter : Char

namespace Directive

def pad (d : Directive) (cs : Octets) : Octets :=
  let blanks := List.replicate (d.width - cs.length) ' '
  if d.flags.contains '-' then cs ++ blanks else blanks ++ cs

/-- A number padded to the width of a directive: its sign and the mark of its base, and its digits. -/
def padNumber (d : Directive) (withZeros : Bool) (sign digits : Octets) : Octets :=
  if withZeros && d.flags.contains '0' && !d.flags.contains '-' then
    sign ++ List.replicate (d.width - sign.length - digits.length) '0' ++ digits
  else d.pad (sign ++ digits)

def signOf (d : Directive) (isNegative : Bool) : Octets :=
  if isNegative then ['-']
  else if d.flags.contains '+' then ['+']
  else if d.flags.contains ' ' then [' ']
  else []

def integer (d : Directive) (n : Int) : Octets :=
  let isUnsigned := !(['d', 'i'].contains d.letter)
  let base := match d.letter with
    | 'o' => 8
    | 'x' | 'X' => 16
    | _ => 10
  let size := if isUnsigned && n < 0 then (n + 2 ^ 64).toNat else n.natAbs
  let digits := if size = 0 && d.precision = some 0 then [] else Nat.toDigits base size
  let digits := List.replicate (d.precision.getD 1 - digits.length) '0' ++ digits
  let isMarked := d.flags.contains '#'
  let digits := if isMarked && base = 8 && digits.head? != some '0' then '0' :: digits else digits
  let sign := if isUnsigned then (if isMarked && base = 16 && size != 0 then "0x".toList else [])
    else d.signOf (n < 0)
  let text := d.padNumber d.precision.isNone sign digits
  if d.letter = 'X' then text.map Char.toUpper else text

def withPoint (isMarked : Bool) (digits : List Char) (places : Nat) : List Char :=
  let digits := List.replicate (places + 1 - digits.length) '0' ++ digits
  let whole := digits.take (digits.length - places)
  if places = 0 && !isMarked then whole else whole ++ '.' :: digits.drop whole.length

def fixed (isMarked : Bool) (num den places : Nat) : List Char :=
  withPoint isMarked (Nat.toDigits 10 (Number.Binary64.roundedQuotient (num * 10 ^ places) den)) places

def firstDigit (num den : Nat) : Int :=
  let guess : Int := ((Nat.toDigits 10 num).length : Int) - (Nat.toDigits 10 den).length
  let reaches (e : Int) : Bool :=
    if 0 ≤ e then den * 10 ^ e.toNat ≤ num else den ≤ num * 10 ^ (-e).toNat
  if reaches guess then guess else guess - 1

/-- The digits of a ratio, one before the point and a number of places after it, and the exponent. -/
def scientificDigits (num den places : Nat) : List Char × Int :=
  if num = 0 then (List.replicate (places + 1) '0', 0)
  else
    let e := firstDigit num den
    let up := (places : Int) - e
    let n := if 0 ≤ up then Number.Binary64.roundedQuotient (num * 10 ^ up.toNat) den
      else Number.Binary64.roundedQuotient num (den * 10 ^ (-up).toNat)
    let digits := Nat.toDigits 10 n
    if places + 1 < digits.length then (digits.dropLast, e + 1) else (digits, e)

/-- An exponent with its sign and at least two digits. -/
def exponentText (e : Int) : List Char :=
  let digits := Nat.toDigits 10 e.natAbs
  (if e < 0 then '-' else '+') :: List.replicate (2 - digits.length) '0' ++ digits

/-- Digits without the zeros at the end of a fraction. -/
def withoutZeros (cs : List Char) : List Char :=
  if cs.contains '.' then
    let kept := cs.reverse.dropWhile (· == '0')
    (if kept.head? == some '.' then kept.drop 1 else kept).reverse
  else cs

/-- The hexadecimal text of a floating-point number without its sign. -/
def hexadecimal (d : Directive) (x : Number.Binary64) : List Char :=
  let isNormal := x.biased != 0
  let e : Int := if x.isZero then 0 else if isNormal then (x.biased : Int) - 1023 else -1022
  let places := d.precision.getD 13
  let m := x.significand
  let n := if places < 13 then Number.Binary64.roundedQuotient m (16 ^ (13 - places))
    else m * 16 ^ (places - 13)
  let whole := Nat.toDigits 16 (n / 16 ^ places)
  let part := Nat.toDigits 16 (n % 16 ^ places)
  let part := List.replicate (places - part.length) '0' ++ part
  let part := if places = 0 then [] else part
  let part := if d.precision.isNone then (part.reverse.dropWhile (· == '0')).reverse else part
  let point := if part.isEmpty && !d.flags.contains '#' then [] else ['.']
  "0x".toList ++ whole ++ point ++ part ++
    'p' :: (if e < 0 then '-' else '+') :: Nat.toDigits 10 e.natAbs

/-- The text of a finite floating-point number without its sign, as a directive asks. -/
def realDigits (d : Directive) (x : Number.Binary64) : List Char :=
  let (n, den) := x.toRatio
  let num := n.natAbs
  let isMarked := d.flags.contains '#'
  let places := d.precision.getD 6
  let scientific (places : Nat) : List Char × Int :=
    let (digits, e) := scientificDigits num den places
    (withPoint isMarked digits places, e)
  match d.letter.toLower with
  | 'f' => fixed isMarked num den places
  | 'e' =>
    let (digits, e) := scientific places
    digits ++ 'e' :: exponentText e
  | 'g' =>
    let significant := max places 1
    let (digits, e) := scientific (significant - 1)
    let strip (cs : List Char) : List Char := if isMarked then cs else withoutZeros cs
    if -4 ≤ e && e < significant then strip (fixed isMarked num den (significant - 1 - e).toNat)
    else strip digits ++ 'e' :: exponentText e
  | _ => hexadecimal d x

def real (d : Directive) (x : Number.Binary64) : Octets :=
  let sign := d.signOf x.isNegative
  let text := if x.isNaN then d.padNumber false sign "nan".toList
    else if x.isInfinite then d.padNumber false sign "inf".toList
    else d.padNumber true sign (d.realDigits x)
  if d.letter.isUpper then text.map Char.toUpper else text

end Directive

/-- Words that are being printed after a format: the words left, the octets, the complaints about words,
whether printing has ended, and whether it ended because of the format. -/
structure Printing where
  words : List Octets
  octets : Octets
  complaints : List Octets
  hasEnded : Bool
  isFaulty : Bool

namespace Printing

def add (cs : Octets) : StateM Printing Unit := modify fun p => { p with octets := p.octets ++ cs }

def complain (word : Octets) (problem : String) : StateM Printing Unit := modify fun p =>
  { p with complaints := p.complaints ++ [word ++ s!": {problem}".toList] }

/-- Ends because of the format. -/
def endFaulty (problem : Octets) : StateM Printing Unit := modify fun p =>
  { p with complaints := p.complaints ++ [problem], hasEnded := true, isFaulty := true }

/-- Takes the next word; nothing if there is none. -/
def next : StateM Printing (Option Octets) := modifyGet fun p => (p.words.head?, { p with words := p.words.drop 1 })

/-- Complains if a word was not a number to its end, or one that is too large. -/
def check (word : Octets) (taken : Nat) (isTooLarge : Bool) : StateM Printing Unit := do
  if taken < word.length then
    complain word (if taken = 0 then "expected numeric value" else "not completely converted")
  else if isTooLarge then complain word "Numerical result out of range"

/-- The number of the character after a quotation mark at the beginning of a word. -/
def characterNumber? : Octets → Option Nat
  | '"' :: rest | '\'' :: rest => some ((rest.head?.map Char.toNat).getD 0)
  | _ => none

def nextInteger (isSigned : Bool) : StateM Printing Int := do
  match ← next with
  | none => return 0
  | some word =>
    match characterNumber? word with
    | some n => return n
    | none => do
      let (n, taken) := signedAt word
      let least := if isSigned then leastInteger else -(2 ^ 64 - 1)
      let greatest := if isSigned then greatestInteger else 2 ^ 64 - 1
      check word taken (n < least || greatest < n)
      if n < least then return if isSigned then least else greatest
      else return min n greatest

/-- The finite floating-point number at the beginning of some characters, the number of characters it
takes, and whether it is out of range. -/
def finiteAt (cs : List Char) (isNegative : Bool) : Number.Binary64 × Nat × Bool :=
  let base := match cs with
    | '0' :: x :: c :: more =>
      if (x == 'x' || x == 'X') && (!(digitsAt 16 [c]).isEmpty ||
          (c == '.' && !(digitsAt 16 (more.take 1)).isEmpty)) then 16 else 10
    | _ => 10
  let body := if base = 16 then cs.drop 2 else cs
  let whole := digitsAt base body
  let part := match body.drop whole.length with
    | '.' :: rest => digitsAt base rest
    | _ => []
  let pointed := if (body.drop whole.length).head? == some '.' && !(whole.isEmpty && part.isEmpty) then 1
    else 0
  let rest := body.drop (whole.length + pointed + part.length)
  let (power, powerTaken) : Int × Nat := match rest with
    | e :: more =>
      let (isDown, ds) := signAt more
      let digits := ds.takeWhile Char.isDigit
      let marks := if base = 16 then ['p', 'P'] else ['e', 'E']
      if marks.contains e && !digits.isEmpty then
        (if isDown then -(sizeOf 10 digits : Int) else sizeOf 10 digits,
          rest.length - ds.length + digits.length)
      else (0, 0)
    | [] => (0, 0)
  let size := sizeOf base (whole ++ part)
  let taken := if whole.isEmpty && part.isEmpty then 0
    else cs.length - body.length + whole.length + pointed + part.length + powerTaken
  let power := max (-100000) (min 100000 power)
  let x :=
    if base = 10 then Number.Binary64.ofDecimal isNegative size (power - part.length)
    else
      let e := power - 4 * part.length
      if 0 ≤ e then Number.Binary64.ofRatio isNegative (size * 2 ^ e.toNat) 1
      else Number.Binary64.ofRatio isNegative size (2 ^ (-e).toNat)
  (x, taken, x.isInfinite || (x.biased = 0 && size != 0))

/-- The floating-point number at the beginning of a word, the number of characters it takes, and whether
it is out of range. -/
def realAt (word : Octets) : Number.Binary64 × Nat × Bool :=
  let unblanked := word.dropWhile isNumberBlank
  let (isNegative, cs) := signAt unblanked
  let before := word.length - cs.length
  let small := cs.map Char.toLower
  if "infinity".toList.isPrefixOf small then (Number.Binary64.infinity isNegative, before + 8, false)
  else if "inf".toList.isPrefixOf small then (Number.Binary64.infinity isNegative, before + 3, false)
  else if "nan".toList.isPrefixOf small then
    (if isNegative then Number.Binary64.neg .nan else .nan, before + 3, false)
  else
    let (x, taken, isOut) := finiteAt cs isNegative
    if taken = 0 then (.zero false, 0, false) else (x, before + taken, isOut)

def nextReal : StateM Printing Number.Binary64 := do
  match ← next with
  | none => return .zero false
  | some word =>
    match characterNumber? word with
    | some n => return .ofInt n
    | none => do
      let (x, taken, isOut) := realAt word
      check word taken isOut
      return x

/-- What a directive makes of the next word. The directive is given as it stands too. -/
def fill (d : Directive) (shown : Octets) : StateM Printing Unit := do
  match d.letter with
  | 's' => do
    let word := (← next).getD []
    add (d.pad ((d.precision.map word.take).getD word))
  | 'b' => do
    let word := (← next).getD []
    let (octets, isLast) := unescape (word.length + 1) word
    add (d.pad ((d.precision.map octets.take).getD octets))
    if isLast then modify fun p => { p with hasEnded := true }
  | 'c' => add (d.pad [((← next).bind List.head?).getD '\x00'])
  | 'd' | 'i' => add (d.integer (← nextInteger true))
  | 'o' | 'u' | 'x' | 'X' => add (d.integer (← nextInteger false))
  | 'a' | 'A' | 'e' | 'E' | 'f' | 'F' | 'g' | 'G' => add (d.real (← nextReal))
  | _ => endFaulty (shown ++ ": invalid directive".toList)

/-- A number in a directive, which may be taken from a word; the characters after it. -/
def count (cs : Octets) : StateM Printing (Option Int × Octets) := do
  match cs with
  | '*' :: rest => return (some (← nextInteger true), rest)
  | _ =>
    let digits := cs.takeWhile Char.isDigit
    return (if digits.isEmpty then none else some (sizeOf 10 digits), cs.drop digits.length)

/-- Fills the directive after a percent sign, and gives what follows it. -/
def directive (cs : Octets) : StateM Printing Octets := do
  let flags := cs.takeWhile fun c => "#-+ 0".toList.contains c
  let (width, rest) ← count (cs.drop flags.length)
  let (precision, rest) ← match rest with
    | '.' :: rest => do
      let (n, rest) ← count rest
      pure (if n.getD 0 < 0 then none else some ((n.getD 0).toNat), rest)
    | _ => pure (none, rest)
  let width := width.getD 0
  let flags := if width < 0 then '-' :: flags else flags
  match rest with
  | [] => do
    endFaulty "missing format character".toList
    return []
  | letter :: rest => do
    fill ⟨flags, width.natAbs, precision, letter⟩ ('%' :: cs.take (cs.length - rest.length))
    return rest

def pass (fuel : Nat) (format : Octets) : StateM Printing Unit := do
  if (← get).hasEnded then return
  match fuel, format with
  | 0, _ | _, [] => return
  | fuel + 1, '%' :: '%' :: rest => do
    add ['%']
    pass fuel rest
  | fuel + 1, '%' :: rest => do
    let rest ← directive rest
    pass fuel rest
  | fuel + 1, '\\' :: rest => do
    let (o, taken) := escapeAt rest
    add [o]
    pass fuel (rest.drop taken)
  | fuel + 1, c :: rest => do
    add [c]
    pass fuel rest

/-- Goes through a format again and again as long as words are left and taken. -/
def passes (fuel : Nat) (format : Octets) : StateM Printing Unit := do
  match fuel with
  | 0 => return
  | fuel + 1 => do
    let before := (← get).words.length
    pass (format.length + 1) format
    let p ← get
    if p.hasEnded || p.words.isEmpty || p.words.length = before then return
    else passes fuel format

end Printing

def formatted (format : Octets) (words : List Octets) : Printing :=
  ((Printing.passes (words.length + 2) format).run ⟨words, [], [], false, false⟩).2

end ReleasePackaging.Shell
