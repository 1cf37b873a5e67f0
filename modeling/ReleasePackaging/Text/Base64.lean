/-!
# Bytes in base 64

Four characters of the alphabet stand for three bytes. In what is read, characters outside the
alphabet are skipped. Padding that completes a group ends the data; padding anywhere else is
skipped.
-/
namespace ReleasePackaging.Text

/-- Why characters are no bytes in base 64. -/
inductive Base64Fault where
  | extraCharacter (count : Nat) | padding
  deriving DecidableEq, Repr

def Base64Fault.message : Base64Fault → String
  | .extraCharacter count =>
    s!"Invalid base64-encoded string: number of data characters ({count}) cannot be 1 more " ++
      "than a multiple of 4"
  | .padding => "Incorrect padding"

def base64Value? (c : Char) : Option Nat :=
  let n := c.toNat
  if 'A' ≤ c && c ≤ 'Z' then some (n - 0x41)
  else if 'a' ≤ c && c ≤ 'z' then some (n - 0x61 + 26)
  else if '0' ≤ c && c ≤ '9' then some (n - 0x30 + 52)
  else if c = '+' then some 62
  else if c = '/' then some 63
  else none

/-- Decodes characters after those already taken: `position` is the place in the group, `rest` the
bits left over from it, `pads` the number of padding characters seen since the last character, and
`done` the bytes so far in reverse order. -/
def decodeBase64From (position rest pads : Nat) (done : List UInt8) :
    List Char → Except Base64Fault (List UInt8)
  | [] =>
    match position with
    | 0 => .ok done.reverse
    | 1 => .error (.extraCharacter (done.length / 3 * 4 + 1))
    | _ => .error .padding
  | '=' :: cs =>
    if 2 ≤ position then
      if 4 ≤ position + (pads + 1) then .ok done.reverse
      else decodeBase64From position rest (pads + 1) done cs
    else decodeBase64From position rest pads done cs
  | c :: cs =>
    match base64Value? c with
    | none => decodeBase64From position rest pads done cs
    | some n =>
      match position with
      | 0 => decodeBase64From 1 n 0 done cs
      | 1 => decodeBase64From 2 (n % 16) 0 (UInt8.ofNat (rest * 4 + n / 16) :: done) cs
      | 2 => decodeBase64From 3 (n % 4) 0 (UInt8.ofNat (rest * 16 + n / 4) :: done) cs
      | _ => decodeBase64From 0 0 0 (UInt8.ofNat (rest * 64 + n) :: done) cs

/-- The bytes that characters in base 64 stand for. -/
def decodeBase64 (cs : List Char) : Except Base64Fault (List UInt8) :=
  decodeBase64From 0 0 0 [] cs

/-- The character of the alphabet for a value; in the alphabet for addresses two marks differ. -/
def base64Char (forAddress : Bool) (n : Nat) : Char :=
  if n < 26 then Char.ofNat (0x41 + n)
  else if n < 52 then Char.ofNat (0x61 + (n - 26))
  else if n < 62 then Char.ofNat (0x30 + (n - 52))
  else if n = 62 then (if forAddress then '-' else '+')
  else if forAddress then '_' else '/'

/-- The characters that stand for some bytes, padded to whole groups. -/
def encodeBase64 (forAddress : Bool) : List UInt8 → List Char
  | [] => []
  | [a] =>
    let n := a.toNat * 16
    [base64Char forAddress (n / 64), base64Char forAddress (n % 64), '=', '=']
  | [a, b] =>
    let n := (a.toNat * 256 + b.toNat) * 4
    [base64Char forAddress (n / 4096), base64Char forAddress (n / 64 % 64),
     base64Char forAddress (n % 64), '=']
  | a :: b :: c :: rest =>
    let n := (a.toNat * 256 + b.toNat) * 256 + c.toNat
    base64Char forAddress (n / 262144) :: base64Char forAddress (n / 4096 % 64) ::
      base64Char forAddress (n / 64 % 64) :: base64Char forAddress (n % 64) ::
      encodeBase64 forAddress rest

/-- The wording for a text that should be ASCII: the first run of other characters is named. -/
def notAsciiMessage? (cs : List Char) : Option String :=
  let isAscii (c : Char) : Bool := c.toNat < 0x80
  let start := (cs.takeWhile isAscii).length
  match cs.drop start with
  | [] => none
  | c :: rest =>
    let more := (rest.takeWhile (!isAscii ·)).length
    let n := c.toNat
    let digits (width : Nat) : String :=
      let ds := Nat.toDigits 16 n
      String.ofList (List.replicate (width - ds.length) '0' ++ ds)
    let shown := if n ≤ 0xFF then s!"\\x{digits 2}"
      else if n ≤ 0xFFFF then s!"\\u{digits 4}" else s!"\\U{digits 8}"
    some (if more = 0 then
        s!"'ascii' codec can't encode character '{shown}' in position {start}: " ++
          "ordinal not in range(128)"
      else
        s!"'ascii' codec can't encode characters in position {start}-{start + more}: " ++
          "ordinal not in range(128)")

end ReleasePackaging.Text
