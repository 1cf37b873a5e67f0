import ReleasePackaging.Toml.Basic

/-!
# The smallest parts of a TOML document

Blanks, comments, keys, strings, numbers, dates and times. Each reader takes the characters that are
left and gives what it has read with the characters after it.
-/
namespace ReleasePackaging.Toml

def stopAt (reason : Reason) (rest : List Char) : Except Stop α :=
  .error (.grammar reason rest.length)

def isBlank (c : Char) : Bool := c == ' ' || c == '\t'

def isSpace (c : Char) : Bool := isBlank c || c == '\n'

/-- Whether a character is a control character of ASCII other than the tab. -/
def isControl (c : Char) : Bool := (c.toNat < 0x20 && c != '\t') || c.toNat == 0x7F

/-- Whether a character may stand in a key without quotes. -/
def isKeyChar (c : Char) : Bool := c.isAlphanum || c == '-' || c == '_'

def isDigit (c : Char) : Bool := c.isDigit

def skipBlanks (cs : List Char) : List Char := cs.dropWhile isBlank

/-- The characters after a comment, if one stands at the beginning. -/
def skipComment (cs : List Char) : Except Stop (List Char) :=
  match cs with
  | '#' :: rest =>
    let comment := rest.takeWhile (· != '\n')
    match comment.dropWhile (!isControl ·) with
    | [] => .ok (rest.drop comment.length)
    | c :: after =>
      .error (.grammar (.invalidCharacter c) (after.length + 1 + (rest.length - comment.length)))
  | _ => .ok cs

/-- The characters after blanks, line ends and comments; `fuel` bounds the number of comments. -/
def skipSpaces (fuel : Nat) (cs : List Char) : Except Stop (List Char) :=
  match fuel with
  | 0 => .ok cs
  | fuel + 1 => do
    let rest ← skipComment (cs.dropWhile isSpace)
    if rest.length = cs.length then .ok rest else skipSpaces fuel rest

/-- The characters before the first occurrence of a delimiter, and those after it. -/
def splitAt? (delimiter : List Char) : List Char → Option (List Char × List Char)
  | [] => none
  | c :: rest =>
    if delimiter.isPrefixOf (c :: rest) then some ([], (c :: rest).drop delimiter.length)
    else (splitAt? delimiter rest).map fun (before, after) => (c :: before, after)

/-- Reads a literal string up to its closing delimiter; line ends are allowed in a string over
several lines only. -/
def readLiteral (delimiter : List Char) (multiline : Bool) (cs : List Char) :
    Except Stop (List Char × List Char) :=
  match splitAt? delimiter cs with
  | none => .error (.grammar (.expected (String.ofList delimiter)) 0)
  | some (before, after) =>
    match before.dropWhile fun c => !(isControl c && !(multiline && c == '\n')) with
    | [] => .ok (before, after)
    | c :: rest =>
      .error (.grammar (.invalidCharacter c) (rest.length + 1 + (cs.length - before.length)))

def hexDigit? (c : Char) : Option Nat :=
  let n := c.toNat
  if 0x30 ≤ n && n ≤ 0x39 then some (n - 0x30)
  else if 0x61 ≤ n && n ≤ 0x66 then some (n - 0x61 + 10)
  else if 0x41 ≤ n && n ≤ 0x46 then some (n - 0x41 + 10)
  else none

/-- The character that a number of hexadecimal digits denotes, and the rest. -/
def readHexChar (count : Nat) (cs : List Char) : Except Stop (Char × List Char) :=
  let digits := cs.take count
  match digits.mapM hexDigit? with
  | none => stopAt .invalidHex cs
  | some ds =>
    if digits.length < count then stopAt .invalidHex cs
    else
      let n := ds.foldl (fun n d => n * 16 + d) 0
      let rest := cs.drop count
      if n ≤ 0xD7FF || (0xE000 ≤ n && n ≤ 0x10FFFF) then .ok (Char.ofNat n, rest)
      else stopAt .notScalarValue rest

/-- The character that a letter after a backslash stands for. -/
def escaped? : Char → Option Char
  | 'b' => some '\x08'
  | 't' => some '\t'
  | 'n' => some '\n'
  | 'f' => some '\x0c'
  | 'r' => some '\r'
  | '"' => some '"'
  | '\\' => some '\\'
  | _ => none

/-- Reads an escape after its backslash: the characters it stands for and the rest. In a string over
several lines a backslash at the end of a line stands for nothing and takes the blanks and line
ends after it along. -/
def readEscape (multiline : Bool) (cs : List Char) : Except Stop (List Char × List Char) :=
  match cs with
  | [] => stopAt .badEscape []
  | c :: rest =>
    if multiline && c == '\n' then .ok ([], rest.dropWhile isSpace)
    else if multiline && isBlank c then
      match skipBlanks rest with
      | [] => .ok ([], [])
      | '\n' :: rest => .ok ([], rest.dropWhile isSpace)
      | rest => stopAt .badEscape rest
    else if c == 'u' then (readHexChar 4 rest).map fun (x, rest) => ([x], rest)
    else if c == 'U' then (readHexChar 8 rest).map fun (x, rest) => ([x], rest)
    else
      match escaped? c with
      | some x => .ok ([x], rest)
      | none => stopAt .badEscape rest

/-- Reads a string with escapes after its opening delimiter. A string over several lines ends at
three quotation marks, any other at the first one. -/
def readBasic (multiline : Bool) (fuel : Nat) (cs : List Char) :
    Except Stop (List Char × List Char) :=
  match fuel, cs with
  | 0, _ | _, [] => stopAt .unterminatedString []
  | fuel + 1, '\\' :: rest => do
    let (xs, rest) ← readEscape multiline rest
    let (ys, rest) ← readBasic multiline fuel rest
    .ok (xs ++ ys, rest)
  | fuel + 1, c :: rest =>
    if c == '"' then
      if !multiline then .ok ([], rest)
      else
        match rest with
        | '"' :: '"' :: rest => .ok ([], rest)
        | _ => (readBasic multiline fuel rest).map fun (ys, rest) => (c :: ys, rest)
    else if isControl c && !(multiline && c == '\n') then
      stopAt (.illegalCharacter c) (c :: rest)
    else (readBasic multiline fuel rest).map fun (ys, rest) => (c :: ys, rest)

/-- Takes up to two delimiters that directly follow a string over several lines into the string. -/
def extraDelimiters (c : Char) (text rest : List Char) : List Char × List Char :=
  match rest with
  | a :: b :: after =>
    if a == c && b == c then (text ++ [c, c], after)
    else if a == c then (text ++ [c], b :: after)
    else (text, rest)
  | [a] => if a == c then (text ++ [c], []) else (text, rest)
  | [] => (text, [])

def skipLineEnd : List Char → List Char
  | '\n' :: rest => rest
  | cs => cs

/-- Reads a string of any form; none if no string starts here. -/
def readString? (cs : List Char) : Option (Except Stop (List Char × List Char)) :=
  match cs with
  | '"' :: '"' :: '"' :: rest =>
    let rest := skipLineEnd rest
    some ((readBasic true (rest.length + 1) rest).map fun (s, rest) => extraDelimiters '"' s rest)
  | '"' :: rest => some (readBasic false (rest.length + 1) rest)
  | '\'' :: '\'' :: '\'' :: rest =>
    some ((readLiteral ['\'', '\'', '\''] true (skipLineEnd rest)).map fun (s, rest) =>
      extraDelimiters '\'' s rest)
  | '\'' :: rest => some (readLiteral ['\''] false rest)
  | _ => none

def readKeyPart (cs : List Char) : Except Stop (String × List Char) :=
  let text (r : Except Stop (List Char × List Char)) : Except Stop (String × List Char) :=
    r.map fun (s, rest) => (String.ofList s, rest)
  match cs with
  | '\'' :: rest => text (readLiteral ['\''] false rest)
  | '"' :: rest => text (readBasic false (rest.length + 1) rest)
  | c :: _ =>
    if isKeyChar c then .ok (String.ofList (cs.takeWhile isKeyChar), cs.dropWhile isKeyChar)
    else stopAt .invalidKey cs
  | [] => stopAt .invalidKey cs

/-- Reads a key, its parts joined by dots. -/
def readKey (fuel : Nat) (cs : List Char) : Except Stop (List String × List Char) := do
  let (part, rest) ← readKeyPart cs
  match fuel, skipBlanks rest with
  | fuel + 1, '.' :: rest => do
    let (parts, rest) ← readKey fuel (skipBlanks rest)
    .ok (part :: parts, rest)
  | _, rest => .ok ([part], rest)

/-- The number of two digits within bounds, and the rest. -/
def twoDigits? (low high : Nat) (cs : List Char) : Option (Nat × List Char) :=
  match cs with
  | a :: b :: rest =>
    if isDigit a && isDigit b then
      let n := (a.toNat - 48) * 10 + (b.toNat - 48)
      if low ≤ n && n ≤ high then some (n, rest) else none
    else none
  | _ => none

def after? (c : Char) (cs : List Char) : Option (List Char) :=
  match cs with
  | d :: rest => if d == c then some rest else none
  | [] => none

def digitsValue (ds : List Char) : Nat := ds.foldl (fun n c => n * 10 + (c.toNat - 48)) 0

/-- The fraction of a second in microseconds, cut after six digits, and the rest. -/
def fraction (cs : List Char) : Nat × List Char :=
  match cs with
  | '.' :: rest =>
    let ds := rest.takeWhile isDigit
    if ds.isEmpty then (0, cs)
    else
      let six := ds.take 6
      (digitsValue (six ++ List.replicate (6 - six.length) '0'), rest.drop ds.length)
  | _ => (0, cs)

/-- A time of day, and the rest. -/
def readTime? (cs : List Char) : Option (TimeOfDay × List Char) := do
  let (hour, rest) ← twoDigits? 0 23 cs
  let (minute, rest) ← twoDigits? 0 59 (← after? ':' rest)
  let (second, rest) ← twoDigits? 0 59 (← after? ':' rest)
  let (micro, rest) := fraction rest
  return (⟨hour, minute, second, micro⟩, rest)

/-- A distance from universal time in seconds, and the rest. -/
def readOffset? (cs : List Char) : Option (Int × List Char) :=
  match cs with
  | c :: rest =>
    if c == 'Z' || c == 'z' then some (0, rest)
    else if c == '+' || c == '-' then do
      let (hours, rest) ← twoDigits? 0 23 rest
      let (minutes, rest) ← twoDigits? 0 59 (← after? ':' rest)
      let seconds : Int := (hours * 3600 + minutes * 60 : Nat)
      return (if c == '-' then -seconds else seconds, rest)
    else none
  | [] => none

/-- The numbers of a date, and the rest. -/
def dateNumbers? (cs : List Char) : Option (Nat × Nat × Nat × List Char) := do
  let year := cs.take 4
  if year.length < 4 || !year.all isDigit then none
  else
    let (month, rest) ← twoDigits? 1 12 (← after? '-' (cs.drop 4))
    let (day, rest) ← twoDigits? 1 31 (← after? '-' rest)
    return (digitsValue year, month, day, rest)

/-- The time that follows a date, and the rest. -/
def timeAfterDate? (cs : List Char) : Option (TimeOfDay × List Char) :=
  match cs with
  | c :: rest => if c == 'T' || c == 't' || c == ' ' then readTime? rest else none
  | [] => none

/-- Reads a date, alone or with a time; none if no date starts here. -/
def readDate? (cs : List Char) : Option (Except Stop (Item × List Char)) :=
  (dateNumbers? cs).map fun (year, month, day, rest) =>
    match Date.of year month day with
    | .error _ => stopAt .invalidMoment cs
    | .ok date =>
      match timeAfterDate? rest with
      | none => .ok (.date date, rest)
      | some (time, rest) =>
        let (offset, rest) := match readOffset? rest with
          | some (offset, rest) => (some offset, rest)
          | none => (none, rest)
        .ok (.moment ⟨date, time.hour, time.minute, time.second, time.microsecond, offset⟩, rest)

/-- The characters of a run of digits in which single underscores may stand between two digits, and
the rest. -/
def digitRun (isMember : Char → Bool) : List Char → List Char × List Char
  | '_' :: c :: rest =>
    if isMember c then
      let (run, after) := digitRun isMember rest
      (c :: run, after)
    else ([], '_' :: c :: rest)
  | c :: rest =>
    if isMember c then
      let (run, after) := digitRun isMember rest
      (c :: run, after)
    else ([], c :: rest)
  | [] => ([], [])

/-- A run of digits that starts with a digit, and the rest. -/
def digits? (isMember : Char → Bool) (cs : List Char) : Option (List Char × List Char) :=
  match cs with
  | c :: rest => if isMember c then
      let (run, after) := digitRun isMember rest
      some (c :: run, after)
    else none
  | [] => none

/-- An integer in base 2, 8 or 16 after its zero, and the rest. -/
def basedInteger? (cs : List Char) : Option (Int × List Char) :=
  let value (base : Nat) (ds : List Char) : Int :=
    (Number.ofDigits base (ds.filterMap hexDigit?) : Nat)
  match cs with
  | 'x' :: rest => (digits? (fun c => (hexDigit? c).isSome) rest).map fun (ds, r) => (value 16 ds, r)
  | 'b' :: rest => (digits? (fun c => c == '0' || c == '1') rest).map fun (ds, r) => (value 2 ds, r)
  | 'o' :: rest => (digits? (fun c => '0' ≤ c && c ≤ '7') rest).map fun (ds, r) => (value 8 ds, r)
  | _ => none

/-- The characters of a fraction with its point, and the rest. -/
def fractionPart (cs : List Char) : List Char × List Char :=
  match cs with
  | '.' :: rest =>
    match digits? isDigit rest with
    | some (ds, rest) => ('.' :: ds, rest)
    | none => ([], cs)
  | _ => ([], cs)

/-- The characters of an exponent with its letter, and the rest. -/
def exponentPart (cs : List Char) : List Char × List Char :=
  match cs with
  | e :: rest =>
    if e == 'e' || e == 'E' then
      let (sign, after) := match rest with
        | '+' :: after => (['+'], after)
        | '-' :: after => (['-'], after)
        | _ => ([], rest)
      match digits? isDigit after with
      | some (ds, rest) => (e :: sign ++ ds, rest)
      | none => ([], cs)
    else ([], cs)
  | [] => ([], cs)

/-- Reads a number in base ten; none if no number starts here. -/
def readDecimal? (cs : List Char) : Option (Except Stop (Item × List Char)) :=
  let (sign, unsigned) := match cs with
    | '+' :: rest => (['+'], rest)
    | '-' :: rest => (['-'], rest)
    | _ => ([], cs)
  let whole? := match unsigned with
    | '0' :: rest => some (['0'], rest)
    | _ => digits? isDigit unsigned
  whole?.map fun (whole, rest) =>
    let (fraction, rest) := fractionPart rest
    let (exponent, rest) := exponentPart rest
    let text := String.ofList (sign ++ whole ++ fraction ++ exponent)
    if fraction.isEmpty && exponent.isEmpty then
      match Number.readInteger 10 text with
      | .ok n => .ok (.integer n, rest)
      | .error f => .error (.integer f)
    else .ok (.float ((Number.readBinary64? text).getD .nan), rest)

def readSpecial? (cs : List Char) : Option (Item × List Char) :=
  let (negative, signed, rest) := match cs with
    | '+' :: rest => (false, true, rest)
    | '-' :: rest => (true, true, rest)
    | _ => (false, false, cs)
  let width := if signed then 4 else 3
  if ['i', 'n', 'f'].isPrefixOf rest then some (.float (.infinity negative), cs.drop width)
  else if ['n', 'a', 'n'].isPrefixOf rest then some (.float .nan, cs.drop width)
  else none

def readScalar (cs : List Char) : Except Stop (Item × List Char) :=
  match readString? cs with
  | some r => r.map fun (s, rest) => (.text (String.ofList s), rest)
  | none =>
    if ['t', 'r', 'u', 'e'].isPrefixOf cs then .ok (.flag true, cs.drop 4)
    else if ['f', 'a', 'l', 's', 'e'].isPrefixOf cs then .ok (.flag false, cs.drop 5)
    else
      match readDate? cs with
      | some r => r
      | none =>
        match readTime? cs with
        | some (time, rest) => .ok (.time time, rest)
        | none =>
          let based? := match cs with
            | '0' :: rest => basedInteger? rest
            | _ => none
          match based? with
          | some (n, rest) => .ok (.integer n, rest)
          | none =>
            match readDecimal? cs with
            | some r => r
            | none =>
              match readSpecial? cs with
              | some (item, rest) => .ok (item, rest)
              | none => stopAt .invalidValue cs

end ReleasePackaging.Toml
