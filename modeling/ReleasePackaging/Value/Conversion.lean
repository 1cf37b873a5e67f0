import ReleasePackaging.Misuse
import ReleasePackaging.Number.Integer
import ReleasePackaging.Value.Literal

/-!
# Values taken as something else

A value may be gone through element by element, taken as a path, or taken as an integer. A number
with a fraction is cut to an integer; a text is read as one.
-/
namespace ReleasePackaging.Value

def elements : Value → Except Misuse (List Value)
  | .str s => .ok (s.toList.map fun c => .str (String.singleton c))
  | .platform p => .ok (p.name.toList.map fun c => .str (String.singleton c))
  | .bytes bs => .ok (bs.map fun b => .int b.toNat)
  | .list xs | .tuple xs | .set xs => .ok xs
  | .map entries => .ok (entries.map (·.1))
  | v => .error (.notIterable v.fullKind)

def asPath : Value → Except Misuse Path
  | .str s => .ok (Path.ofString s)
  | .path p => .ok p
  | .platform p => .ok (Path.ofString (Value.platform p).plain)
  | .bytes _ => .error .bytesPath
  | v => .error (.notPath v.fullKind)

/-- Why a value gives no integer. -/
inductive IntegerProblem where
  | notRead (f : Number.IntegerFault)
  | unreadable (literal : String)
  | notANumber
  | infinite
  | misuse (m : Misuse)
  deriving DecidableEq, Repr

def IntegerProblem.message : IntegerProblem → String
  | .notRead f => f.message
  | .unreadable literal =>
    s!"invalid literal for int() with base 10: {String.ofList (literal.toList.take 200)}"
  | .notANumber => "cannot convert float NaN to integer"
  | .infinite => "cannot convert float infinity to integer"
  | .misuse m => m.message

/-- The integer that a text gives; `literal` is the text as a fault shows it. -/
def integerOf (text literal : String) : Except IntegerProblem Int :=
  match Number.readInteger 10 text with
  | .ok n => .ok n
  | .error (.notNumeral _ _) => .error (.unreadable literal)
  | .error f => .error (.notRead f)

def asInteger (v : Value) : Except IntegerProblem Int :=
  match v with
  | .bool b => .ok (if b then 1 else 0)
  | .int n => .ok n
  | .float x =>
    if x.isNaN then .error .notANumber
    else if x.isInfinite then .error .infinite
    else .ok x.truncate
  | .str s => integerOf s v.literal
  | .platform p => integerOf p.name v.literal
  | .bytes bs =>
    let char (b : UInt8) : Char := if b < 128 then Char.ofNat b.toNat else '\uFFFD'
    integerOf (String.ofList (bs.map char)) v.literal
  | _ => .error (.misuse (.notNumeral v.fullKind))

end ReleasePackaging.Value
