/-!
# Tags of plain scalars

A plain scalar gets the tag of the first kind whose spelling it has: truth values, numbers with a
fraction, integers, the mark of a merge, null, times, the mark of a default value, and indicators.
Every other scalar is a text.
-/
namespace ReleasePackaging.Yaml

def commonAddress : String := "tag:yaml.org,2002:"

def textTag : String := commonAddress ++ "str"

def sequenceTag : String := commonAddress ++ "seq"

def mappingTag : String := commonAddress ++ "map"

/-- The tag of the key under which other mappings are merged. -/
def mergeTag : String := commonAddress ++ "merge"

/-- The tag of the key under which a default value stands. -/
def valueTag : String := commonAddress ++ "value"

def flagSpellings : List String :=
  ["yes", "Yes", "YES", "no", "No", "NO", "true", "True", "TRUE", "false", "False", "FALSE", "on",
   "On", "ON", "off", "Off", "OFF"]

def nullSpellings : List String := ["~", "null", "Null", "NULL", ""]

def isGroupedDigit (c : Char) : Bool := c.isDigit || c == '_'

def afterSign : List Char → List Char
  | '-' :: rest => rest
  | '+' :: rest => rest
  | cs => cs

/-- Whether characters are an exponent: a letter, a sign and digits. -/
def isExponent (cs : List Char) : Bool :=
  match cs with
  | e :: sign :: digits =>
    (e == 'e' || e == 'E') && (sign == '-' || sign == '+') && !digits.isEmpty &&
      digits.all Char.isDigit
  | _ => false

/-- The characters after a group of the base sixty: a colon and one or two digits, the first of two
below six. The longer group is tried first. -/
def afterGroups? (accept : List Char → Bool) (fuel : Nat) (cs : List Char) : Bool :=
  match fuel, cs with
  | fuel + 1, ':' :: a :: b :: rest =>
    ('0' ≤ a && a ≤ '5' && b.isDigit && (accept rest || afterGroups? accept fuel rest)) ||
      (a.isDigit && (accept (b :: rest) || afterGroups? accept fuel (b :: rest)))
  | _, [':', a] => a.isDigit && accept []
  | _, _ => false

def afterGroupedDigits? (first : Char → Bool) (cs : List Char) : Option (List Char) :=
  match cs with
  | c :: rest => if first c then some (rest.dropWhile isGroupedDigit) else none
  | [] => none

/-- Whether characters are a point with digits or underscores after it. -/
def isFractionOnly (cs : List Char) : Bool :=
  match cs with
  | '.' :: rest => rest.all isGroupedDigit
  | _ => false

def spellsFloat (cs : List Char) : Bool :=
  let unsigned := afterSign cs
  let ends (rest : List Char) : Bool := rest.isEmpty || isExponent rest
  (match afterGroupedDigits? Char.isDigit unsigned with
    | some ('.' :: rest) => ends (rest.dropWhile isGroupedDigit)
    | some rest => afterGroups? isFractionOnly rest.length rest
    | none => false) ||
  (match cs with
    | '.' :: rest =>
      match afterGroupedDigits? Char.isDigit rest with
      | some rest => ends rest
      | none => false
    | _ => false) ||
  [".inf", ".Inf", ".INF"].contains (String.ofList unsigned) ||
  [".nan", ".NaN", ".NAN"].contains (String.ofList cs)

/-- Whether a character is a hexadecimal digit or an underscore. -/
def isGroupedHex (c : Char) : Bool :=
  isGroupedDigit c || ('a' ≤ c && c ≤ 'f') || ('A' ≤ c && c ≤ 'F')

def spellsInteger (cs : List Char) : Bool :=
  let unsigned := afterSign cs
  let some? (test : Char → Bool) (ds : List Char) : Bool := !ds.isEmpty && ds.all test
  match unsigned with
  | ['0'] => true
  | '0' :: 'b' :: ds => some? (fun c => c == '0' || c == '1' || c == '_') ds
  | '0' :: 'x' :: ds => some? isGroupedHex ds
  | '0' :: ds => some? (fun c => ('0' ≤ c && c ≤ '7') || c == '_') ds
  | _ =>
    match afterGroupedDigits? (fun c => '1' ≤ c && c ≤ '9') unsigned with
    | some [] => true
    | some rest => afterGroups? List.isEmpty rest.length rest
    | none => false

/-- The parts of a time as they are written. -/
structure TimeSpelling where
  year : List Char
  month : List Char
  day : List Char
  clock : Option (List Char × List Char × List Char × List Char)
  zone : Option (Option (Char × List Char × List Char))
  deriving Repr

/-- One or two digits, two if there are two, and the rest. -/
def oneOrTwo? (cs : List Char) : Option (List Char × List Char) :=
  let ds := (cs.take 2).takeWhile Char.isDigit
  if ds.isEmpty then none else some (ds, cs.drop ds.length)

/-- Exactly a number of digits, and the rest. -/
def exactly? (count : Nat) (cs : List Char) : Option (List Char × List Char) :=
  let ds := cs.take count
  if ds.length = count && ds.all Char.isDigit then some (ds, cs.drop count) else none

def past? (c : Char) : List Char → Option (List Char)
  | d :: rest => if c == d then some rest else none
  | [] => none

/-- The distance from universal time at the end of a time: none for the letter that means none. -/
def zoneSpelling? (cs : List Char) : Option (Option (Char × List Char × List Char)) :=
  match cs with
  | ['Z'] => some none
  | sign :: rest =>
    if sign == '-' || sign == '+' then
      match oneOrTwo? rest with
      | some (hours, []) => some (some (sign, hours, []))
      | some (hours, rest) =>
        match past? ':' rest >>= exactly? 2 with
        | some (minutes, []) => some (some (sign, hours, minutes))
        | _ => none
      | none => none
    else none
  | [] => none

/-- Reads a time as it is written: a date, alone or with a time of day, its fraction and its
distance from universal time. -/
def timeSpelling? (cs : List Char) : Option TimeSpelling := do
  let (year, rest) ← exactly? 4 cs
  let (month, rest) ← oneOrTwo? (← past? '-' rest)
  let (day, rest) ← oneOrTwo? (← past? '-' rest)
  if rest.isEmpty then return ⟨year, month, day, none, none⟩
  else
    let isBlank (c : Char) : Bool := c == ' ' || c == '\t'
    let rest ← match rest with
      | c :: after =>
        if c == 'T' || c == 't' then some after
        else if isBlank c then some (after.dropWhile isBlank)
        else none
      | [] => none
    let (hour, rest) ← oneOrTwo? rest
    let (minute, rest) ← exactly? 2 (← past? ':' rest)
    let (second, rest) ← exactly? 2 (← past? ':' rest)
    let (fraction, rest) := match rest with
      | '.' :: after => (after.takeWhile Char.isDigit, after.dropWhile Char.isDigit)
      | _ => ([], rest)
    let clock := some (hour, minute, second, fraction)
    if rest.isEmpty then return ⟨year, month, day, clock, none⟩
    else return ⟨year, month, day, clock, some (← zoneSpelling? (rest.dropWhile isBlank))⟩

/-- Whether characters spell a time. A date alone needs two digits for month and day. -/
def spellsTime (cs : List Char) : Bool :=
  match timeSpelling? cs with
  | some t => t.clock.isSome || (t.month.length = 2 && t.day.length = 2)
  | none => false

/-- A text without a line feed at its end. -/
def withoutLineFeed (cs : List Char) : List Char :=
  if cs.getLast? = some '\n' then cs.dropLast else cs

def resolvePlain (text : String) : String :=
  let cs := withoutLineFeed text.toList
  let word := String.ofList cs
  if text != "" && flagSpellings.contains word then commonAddress ++ "bool"
  else if spellsFloat cs then commonAddress ++ "float"
  else if spellsInteger cs then commonAddress ++ "int"
  else if word == "<<" then mergeTag
  else if nullSpellings.contains word && (text == "" || word != "") then commonAddress ++ "null"
  else if spellsTime cs then commonAddress ++ "timestamp"
  else if word == "=" then valueTag
  else if ["!", "&", "*"].contains word then commonAddress ++ "yaml"
  else textTag

end ReleasePackaging.Yaml
