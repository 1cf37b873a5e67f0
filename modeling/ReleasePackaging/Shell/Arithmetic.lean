import ReleasePackaging.Number.Power
import ReleasePackaging.Shell.Numeral
import ReleasePackaging.Shell.Variables

/-!
# Arithmetic of the command shell

Expressions over integers of 64 bits, with the operators and their ranks as in most programming
languages. A name stands for the number that the variable holds; an assignment changes it. What a
logical operator or a choice leaves aside is read but has no effect.
-/
namespace ReleasePackaging.Shell

inductive ArithmeticToken where
  | number (n : Int)
  | name (cs : Octets)
  | mark (s : String)
  | unknown
  deriving DecidableEq, Repr

namespace Arithmetic

def wrap (n : Int) : Int := Int.bmod n (2 ^ 64)

/-- The marks of expressions, longer ones first. -/
def marks : List String :=
  ["<<=", ">>=", "&&", "||", "==", "!=", "<=", ">=", "<<", ">>", "+=", "-=", "*=", "/=", "%=", "&=",
   "|=", "^=", "+", "-", "*", "/", "%", "<", ">", "=", "!", "~", "&", "|", "^", "?", ":", "(", ")"]

/-- The tokens of an expression, up to a character that cannot begin one. -/
def tokens (fuel : Nat) (cs : List Char) : List ArithmeticToken :=
  match fuel, cs with
  | _, [] | 0, _ => []
  | fuel + 1, c :: rest =>
    if c = ' ' || c = '\t' || c = '\n' then tokens fuel rest
    else if c.isDigit then
      let (n, taken) := numeralAt cs
      .number (min n greatestInteger) :: tokens fuel (cs.drop taken)
    else if startsName c then
      let name := cs.takeWhile inName
      .name name :: tokens fuel (cs.drop name.length)
    else
      match marks.find? fun m => m.toList.isPrefixOf cs with
      | some mark => .mark mark :: tokens fuel (cs.drop mark.length)
      | none => [.unknown]

/-- An expression that is being worked out: its text, and the tokens left. -/
structure Calculation where
  text : Octets
  left : List ArithmeticToken

abbrev Calc (α : Type) := StateT Calculation (ExceptT Stop (StateM State)) α

def fail (problem : String) : Calc α := do
  Run.refuse (s!"arithmetic expression: {problem}: \"".toList ++ (← get).text ++ ['"'])

/-- The ranks of binary operators, from the loosest. -/
def ranks : List (List String) :=
  [["|"], ["^"], ["&"], ["==", "!="], ["<", ">", "<=", ">="], ["<<", ">>"], ["+", "-"],
   ["*", "/", "%"]]

/-- One for true, zero for false. -/
def ofBool (b : Bool) : Int := if b then 1 else 0

def apply (op : String) (a b : Int) : Calc Int :=
  match op with
  | "|" => return (Int64.ofInt a ||| Int64.ofInt b).toInt
  | "^" => return (Int64.ofInt a ^^^ Int64.ofInt b).toInt
  | "&" => return (Int64.ofInt a &&& Int64.ofInt b).toInt
  | "==" => return ofBool (a == b)
  | "!=" => return ofBool (a != b)
  | "<" => return ofBool (decide (a < b))
  | ">" => return ofBool (decide (b < a))
  | "<=" => return ofBool (decide (a ≤ b))
  | ">=" => return ofBool (decide (b ≤ a))
  | "<<" => return (Int64.ofInt a <<< Int64.ofInt b).toInt
  | ">>" => return (Int64.ofInt a >>> Int64.ofInt b).toInt
  | "+" => return wrap (a + b)
  | "-" => return wrap (a - b)
  | "*" => return wrap (a * b)
  | "/" => if b = 0 then fail "division by zero" else return wrap (a.tdiv b)
  | "%" => if b = 0 then fail "division by zero" else return a.tmod b
  | _ => fail "expecting primary"

def valueOf (name : Octets) : Calc Int := do
  let s : State ← getThe State
  let text := (s.valueOf? name).getD []
  match expressionInteger? text with
  | some n => return n
  | none => Run.refuseWord "Illegal number" text

/-- The operator of an assignment, if a mark is one. -/
def assigning? (mark : String) : Option (Option String) :=
  if mark = "=" then some none
  else if ["+=", "-=", "*=", "/=", "%=", "<<=", ">>=", "&=", "|=", "^="].contains mark then
    some (some (String.ofList mark.toList.dropLast))
  else none

/-- Goes on after a mark, if it comes next. -/
def takes (mark : String) : Calc Bool := do
  match (← get).left with
  | .mark m :: rest =>
    if m = mark then do
      modify fun c => { c with left := rest }
      return true
    else return false
  | _ => return false

mutual

/-- An expression with assignment and choice. Without `counts` it has no effect. -/
def whole (fuel : Nat) (counts : Bool) : Calc Int := do
  match fuel with
  | 0 => fail "expecting primary"
  | fuel + 1 =>
    match (← get).left with
    | .name name :: .mark m :: rest =>
      match assigning? m with
      | some op => do
        modify fun c => { c with left := rest }
        let value ← whole fuel counts
        if counts then do
          let value ← match op with
            | none => pure value
            | some op => do
              let old ← valueOf name
              apply op old value
          Run.assign name (toString value).toList
          return value
        else return value
      | none => choice fuel counts
    | _ => choice fuel counts

/-- A condition with a choice of two expressions after it. -/
def choice (fuel : Nat) (counts : Bool) : Calc Int := do
  match fuel with
  | 0 => fail "expecting primary"
  | fuel + 1 => do
    let condition ← either fuel counts
    if ← takes "?" then do
      let yes ← whole fuel (counts && condition != 0)
      if ← takes ":" then do
        let no ← choice fuel (counts && condition == 0)
        return if condition != 0 then yes else no
      else fail "expecting ':'"
    else return condition

def either (fuel : Nat) (counts : Bool) : Calc Int := do
  match fuel with
  | 0 => fail "expecting primary"
  | fuel + 1 => do
    let first ← both fuel counts
    if ← takes "||" then do
      let second ← either fuel (counts && first == 0)
      return ofBool (first != 0 || second != 0)
    else return first

def both (fuel : Nat) (counts : Bool) : Calc Int := do
  match fuel with
  | 0 => fail "expecting primary"
  | fuel + 1 => do
    let first ← binary fuel counts ranks
    if ← takes "&&" then do
      let second ← both fuel (counts && first != 0)
      return ofBool (first != 0 && second != 0)
    else return first

def binary (fuel : Nat) (counts : Bool) (levels : List (List String)) : Calc Int := do
  match fuel, levels with
  | 0, _ => fail "expecting primary"
  | fuel + 1, [] => unary fuel counts
  | fuel + 1, ops :: tighter => do
    let first ← binary fuel counts tighter
    more fuel counts ops tighter first

/-- Goes on with operators of a rank after a first operand. -/
def more (fuel : Nat) (counts : Bool) (ops : List String) (tighter : List (List String))
    (first : Int) : Calc Int := do
  match fuel with
  | 0 => return first
  | fuel + 1 =>
    match (← get).left with
    | .mark m :: rest =>
      if ops.contains m then do
        modify fun c => { c with left := rest }
        let second ← binary fuel counts tighter
        if counts then do
          let result ← apply m first second
          more fuel counts ops tighter result
        else more fuel counts ops tighter second
      else return first
    | _ => return first

/-- A number, a name, or an expression in brackets, with signs before it. -/
def unary (fuel : Nat) (counts : Bool) : Calc Int := do
  match fuel with
  | 0 => fail "expecting primary"
  | fuel + 1 =>
    let c ← get
    let go (rest : List ArithmeticToken) : Calc Unit := set { c with left := rest }
    match c.left with
    | .number n :: rest => do
      go rest
      return n
    | .name name :: rest => do
      go rest
      if counts then valueOf name else return 0
    | .mark "-" :: rest => do
      go rest
      return wrap (-(← unary fuel counts))
    | .mark "+" :: rest => do
      go rest
      unary fuel counts
    | .mark "!" :: rest => do
      go rest
      return ofBool ((← unary fuel counts) == 0)
    | .mark "~" :: rest => do
      go rest
      return -(← unary fuel counts) - 1
    | .mark "(" :: rest => do
      go rest
      let value ← whole fuel counts
      if ← takes ")" then return value else fail "expecting ')'"
    | _ => fail "expecting primary"

end

def evaluate (expression : Octets) : Run Int := do
  let ts := tokens (expression.length + 1) expression
  let (value, c) ← (do
    let value ← whole (16 * ts.length + 64) true
    if (← get).left.isEmpty then return value else fail "expecting EOF" : Calc Int).run
      ⟨expression, ts⟩
  let _ := c
  return value

end Arithmetic

end ReleasePackaging.Shell
