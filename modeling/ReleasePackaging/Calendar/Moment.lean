/-!
# Dates and times of day

Dates of the Gregorian calendar from year 1 to 9999, and times of such days to the microsecond,
with or without a distance from universal time. A clock counts the seconds since the beginning of 1970
in universal time. The date of a day is found in years that begin with March, so that a leap day is the
last day of its year.
-/
namespace ReleasePackaging

structure Date where
  year : Nat
  month : Nat
  day : Nat
  deriving DecidableEq, Repr, Inhabited

/-- A time on a date. The offset, when known, is the distance from universal time in seconds. -/
structure Moment where
  date : Date
  hour : Nat
  minute : Nat
  second : Nat
  microsecond : Nat
  offset : Option Int
  deriving DecidableEq, Repr, Inhabited

/-- Why numbers are no date or no time. -/
inductive CalendarFault where
  | year (n : Nat) | month | day | hour | minute | second | offset (seconds : Int)
  deriving DecidableEq, Repr

/-- A number in decimal with leading zeros up to a width. -/
def padded (width n : Nat) : String :=
  let digits := Nat.toDigits 10 n
  String.ofList (List.replicate (width - digits.length) '0' ++ digits)

/-- A duration in seconds as whole days and a rest of seconds, spelled out. -/
def durationText (seconds : Int) : String :=
  let days := seconds.fdiv 86400
  let rest := seconds.fmod 86400
  let parts := (if days = 0 then [] else [s!"days={days}"]) ++
    (if rest = 0 then [] else [s!"seconds={rest}"])
  let inner := if parts.isEmpty then "0" else ", ".intercalate parts
  s!"datetime.timedelta({inner})"

def CalendarFault.message : CalendarFault → String
  | .year n => s!"year {n} is out of range"
  | .month => "month must be in 1..12"
  | .day => "day is out of range for month"
  | .hour => "hour must be in 0..23"
  | .minute => "minute must be in 0..59"
  | .second => "second must be in 0..59"
  | .offset seconds =>
    "offset must be a timedelta strictly between -timedelta(hours=24) and timedelta(hours=24), " ++
      s!"not {durationText seconds}."

namespace Date

def isLeap (year : Nat) : Bool := year % 4 == 0 && (year % 100 != 0 || year % 400 == 0)

def daysIn (year month : Nat) : Nat :=
  match month with
  | 2 => if isLeap year then 29 else 28
  | 4 | 6 | 9 | 11 => 30
  | _ => 31

def of (year month day : Nat) : Except CalendarFault Date :=
  if year < 1 || 9999 < year then .error (.year year)
  else if month < 1 || 12 < month then .error .month
  else if day < 1 || daysIn year month < day then .error .day
  else .ok ⟨year, month, day⟩

/-- A date as year, month and day with hyphens between. -/
def text (d : Date) : String := s!"{padded 4 d.year}-{padded 2 d.month}-{padded 2 d.day}"

def literal (d : Date) : String := s!"datetime.date({d.year}, {d.month}, {d.day})"

end Date

namespace Moment

def of (date : Date) (hour minute second microsecond : Nat) (offset : Option Int) :
    Except CalendarFault Moment :=
  if 23 < hour then .error .hour
  else if 59 < minute then .error .minute
  else if 59 < second then .error .second
  else .ok ⟨date, hour, minute, second, microsecond, offset⟩

/-- The number of days before a date since the beginning of the year 1. -/
def daysBefore (d : Date) : Nat :=
  let years := d.year - 1
  let earlier := (List.range (d.month - 1)).foldl (fun n m => n + Date.daysIn d.year (m + 1)) 0
  years * 365 + years / 4 - years / 100 + years / 400 + earlier + (d.day - 1)

/-- A moment in microseconds since the beginning of the year 1, in universal time if its distance
from it is known. -/
def instant (t : Moment) : Int :=
  let clock := (t.hour * 60 + t.minute) * 60 + t.second
  ((daysBefore t.date * 86400 + clock : Nat) - t.offset.getD 0) * 1000000 + t.microsecond

/-- Whether two moments are the same: both with a known distance from universal time or both without,
and at one instant. -/
def same (s t : Moment) : Bool :=
  s.offset.isSome == t.offset.isSome && s.instant == t.instant

/-- An offset as sign, hours and minutes, with seconds when there are any. -/
def offsetText (offset : Int) : String :=
  let sign := if offset < 0 then "-" else "+"
  let n := offset.natAbs
  let base := s!"{sign}{padded 2 (n / 3600)}:{padded 2 (n / 60 % 60)}"
  if n % 60 = 0 then base else s!"{base}:{padded 2 (n % 60)}"

/-- The time of day of a moment, with microseconds when there are any. -/
def clockText (t : Moment) : String :=
  let base := s!"{padded 2 t.hour}:{padded 2 t.minute}:{padded 2 t.second}"
  if t.microsecond = 0 then base else s!"{base}.{padded 6 t.microsecond}"

/-- A moment in the standard notation, with the given text between date and time. -/
def textWith (separator : String) (t : Moment) : String :=
  t.date.text ++ separator ++ t.clockText ++ (t.offset.map offsetText).getD ""

def text (t : Moment) : String := t.textWith "T"

/-- A moment in the standard notation with universal time marked by a letter. -/
def zuluText (t : Moment) : String :=
  match t.offset with
  | some 0 => t.date.text ++ "T" ++ t.clockText ++ "Z"
  | _ => t.text

def literal (t : Moment) : String :=
  let base := s!"datetime.datetime({t.date.year}, {t.date.month}, {t.date.day}, {t.hour}, " ++
    s!"{t.minute}"
  let seconds := if t.second = 0 && t.microsecond = 0 then "" else s!", {t.second}"
  let micro := if t.microsecond = 0 then "" else s!", {t.microsecond}"
  let zone := match t.offset with
    | none => ""
    | some 0 => ", tzinfo=datetime.timezone.utc"
    | some n => s!", tzinfo=datetime.timezone({durationText n})"
  base ++ seconds ++ micro ++ zone ++ ")"

end Moment

/-! ## Moments counted in seconds -/

def daysInCycle : Nat := 146097

/-- The number of days from the first of March of the year 0 to the beginning of 1970. -/
def daysToEpoch : Nat := 719468

/-- The date that comes some days after the beginning of 1970. -/
def Date.ofDays (days : Nat) : Date :=
  let n := days + daysToEpoch
  let inCycle := n % daysInCycle
  let yearOfCycle := (inCycle - inCycle / 1460 + inCycle / 36524 - inCycle / 146096) / 365
  let dayOfYear := inCycle - (365 * yearOfCycle + yearOfCycle / 4 - yearOfCycle / 100)
  let monthFromMarch := (5 * dayOfYear + 2) / 153
  let month := if monthFromMarch < 10 then monthFromMarch + 3 else monthFromMarch - 9
  let year := yearOfCycle + n / daysInCycle * 400 + (if month ≤ 2 then 1 else 0)
  ⟨year, month, dayOfYear - (153 * monthFromMarch + 2) / 5 + 1⟩

/-- The moment that comes some seconds after the beginning of 1970. -/
def Moment.ofSeconds (seconds : Nat) : Moment :=
  let inDay := seconds % 86400
  ⟨Date.ofDays (seconds / 86400), inDay / 3600, inDay / 60 % 60, inDay % 60, 0, none⟩

example : Date.ofDays 0 = ⟨1970, 1, 1⟩ := by decide

example : Date.ofDays 19782 = ⟨2024, 2, 29⟩ := by decide

example : Date.ofDays 11016 = ⟨2000, 2, 29⟩ := by decide

end ReleasePackaging
