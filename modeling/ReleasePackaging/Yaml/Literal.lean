import ReleasePackaging.Calendar.Moment
import ReleasePackaging.Number.Binary64
import ReleasePackaging.Number.Integer
import ReleasePackaging.Text.Base64
import ReleasePackaging.Text.LowerCase
import ReleasePackaging.Value.Basic
import ReleasePackaging.Yaml.Resolution
import ReleasePackaging.Yaml.Source
import ReleasePackaging.Yaml.Fault

/-!
# Values of scalars

What the text of a scalar says under the tags that all documents share: an integer or a number with
a fraction, also in base 60; a truth value; a date or a moment; bytes in base 64.
-/
namespace ReleasePackaging.Yaml

/-- Why a text gives no value: a text that cannot be read; a fault of the document; a scalar that its
tag does not allow; or a scalar whose default value is itself. -/
inductive ReadFault where
  | source (f : SourceFault)
  | document (f : Fault)
  | codePoint (n : Nat)
  | integer (f : Number.IntegerFault)
  | float (text : String)
  | calendar (f : CalendarFault)
  | notFlag (text : String)
  | emptyNumber
  | tooLarge
  | notTime
  | timeOfMapping
  | endless
  deriving DecidableEq, Repr

def ReadFault.message (name : String) : ReadFault → String
  | .source f => f.message name
  | .document f => f.message name
  | .codePoint n => (Problem.notCodePoint n).text
  | .integer f => f.message
  | .float text => s!"could not convert string to float: {Text.quote text}"
  | .calendar f => f.message
  | .notFlag text => Text.quote text
  | .emptyNumber => "string index out of range"
  | .tooLarge => "int too large to convert to float"
  | .notTime => "'NoneType' object has no attribute 'groupdict'"
  | .timeOfMapping => "expected string or bytes-like object, got 'list'"
  | .endless => "maximum recursion depth exceeded"

def refuse (context : Option (Context × Option Mark)) (problem : Problem) (mark : Mark) :
    Except ReadFault α :=
  .error (.document ⟨context, problem, mark⟩)

def integerOf (base : Nat) (cs : List Char) : Except ReadFault Int :=
  (Number.readInteger base (String.ofList cs)).mapError .integer

def colonParts (part : List Char) : List Char → List (List Char)
  | [] => [part.reverse]
  | ':' :: rest => part.reverse :: colonParts [] rest
  | c :: rest => colonParts (c :: part) rest

/-- The sign of a number and what is left after it; nothing must not be left before it. -/
def signed (cs : List Char) : Except ReadFault (Bool × List Char) :=
  match cs with
  | [] => .error .emptyNumber
  | '-' :: rest => .ok (true, rest)
  | '+' :: rest => .ok (false, rest)
  | _ => .ok (false, cs)

/-- The integer that the characters of a scalar without sign write: in base 2, 8, 10 or 16, or in
base 60 with colons between the digits. -/
def unsignedInteger (cs : List Char) : Except ReadFault Int :=
  match cs with
  | [] => .error .emptyNumber
  | ['0'] => .ok 0
  | '0' :: 'b' :: rest => integerOf 2 rest
  | '0' :: 'x' :: rest => integerOf 16 rest
  | '0' :: _ => integerOf 8 cs
  | _ =>
    if cs.contains ':' then do
      let parts ← (colonParts [] cs).mapM (integerOf 10)
      .ok (parts.foldl (fun n part => n * 60 + part) 0)
    else integerOf 10 cs

/-- The integer that a scalar writes; underscores in it are skipped. -/
def readInteger (text : String) : Except ReadFault Int := do
  let (negative, cs) ← signed (text.toList.filter (· != '_'))
  let n ← unsignedInteger cs
  .ok (if negative then -n else n)

def floatOf (cs : List Char) : Except ReadFault Number.Binary64 :=
  match Number.readBinary64? (String.ofList cs) with
  | some x => .ok x
  | none => .error (.float (String.ofList cs))

/-- The sum of digits in base 60, the last one first. A weight must be in the range of numbers with a
fraction. -/
def sumOfSixtieths (weight : Int) (sum : Number.Binary64) :
    List Number.Binary64 → Except ReadFault Number.Binary64
  | [] => .ok sum
  | digit :: rest =>
    let factor := Number.Binary64.ofInt weight
    if factor.isFinite then
      sumOfSixtieths (weight * 60) (sum.add (digit.mul factor)) rest
    else .error .tooLarge

/-- The number with a fraction that the characters of a scalar without sign write. -/
def unsignedFloat (cs : List Char) : Except ReadFault Number.Binary64 :=
  if cs == ".inf".toList then .ok (.infinity false)
  else if cs.contains ':' then do
    let parts ← (colonParts [] cs).mapM floatOf
    sumOfSixtieths 1 (.zero false) parts.reverse
  else floatOf cs

/-- The characters of a number with a fraction, in lower case and without underscores. -/
def floatChars (text : String) : List Char :=
  (Text.lower (String.ofList (text.toList.filter (· != '_')))).toList

/-- Whether a scalar writes the mark of what is no number, with or without a sign. -/
def isNotNumberMark (text : String) : Bool :=
  match floatChars text with
  | '+' :: cs | '-' :: cs | cs => cs == ".nan".toList

/-- The number with a fraction that a scalar writes; underscores in it are skipped. -/
def readFloat (text : String) : Except ReadFault Number.Binary64 := do
  let (negative, cs) ← signed (floatChars text)
  if cs == ".nan".toList then .ok .nan
  else
    let x ← unsignedFloat cs
    .ok (if negative then x.neg else x)

def numberOf (ds : List Char) : Nat := ds.foldl (fun n c => n * 10 + (c.toNat - 0x30)) 0

/-- The distance from universal time in seconds that a time gives. -/
def zoneSeconds (zone : Option (Option (Char × List Char × List Char))) :
    Except ReadFault (Option Int) :=
  match zone with
  | none => .ok none
  | some none => .ok (some 0)
  | some (some (sign, hours, minutes)) =>
    let n : Int := (numberOf hours * 3600 + numberOf minutes * 60 : Nat)
    let seconds := if sign == '-' then -n else n
    if 86400 ≤ n then .error (.calendar (.offset seconds)) else .ok (some seconds)

def readTime (text : String) : Except ReadFault Value :=
  match timeSpelling? (withoutLineFeed text.toList) with
  | none => .error .notTime
  | some t => do
    let zone ← zoneSeconds t.zone
    let date ← (Date.of (numberOf t.year) (numberOf t.month) (numberOf t.day)).mapError .calendar
    match t.clock with
    | none => .ok (.date date)
    | some (hour, minute, second, fraction) =>
      let six := fraction.take 6
      let micro := numberOf (six ++ List.replicate (6 - six.length) '0')
      let moment ← (Moment.of date (numberOf hour) (numberOf minute) (numberOf second) micro
        zone).mapError .calendar
      .ok (.moment moment)

/-- The truth value that a scalar writes, in any letter case. -/
def readFlag (text : String) : Except ReadFault Bool :=
  let key := Text.lower text
  if ["yes", "true", "on"].contains key then .ok true
  else if ["no", "false", "off"].contains key then .ok false
  else .error (.notFlag key)

/-- The bytes that a scalar at a place writes in base 64. -/
def readBytes (text : String) (mark : Mark) : Except ReadFault (List UInt8) :=
  match Text.notAsciiMessage? text.toList with
  | some cause => refuse none (.notAscii cause) mark
  | none =>
    match Text.decodeBase64 text.toList with
    | .ok bytes => .ok bytes
    | .error f => refuse none (.notBase64 f.message) mark

end ReleasePackaging.Yaml
