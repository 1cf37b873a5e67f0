import ReleasePackaging.Value.Basic

/-!
# Calls

A call gives values by position and by name. A signature says which parameters there are: those that
must be given, those that may be left out, and those that are given by name only; and whether further
values may be given. Binding a call to a signature gives each parameter its value. Of several faults
of a call that of a name is found first, then that of the number of values, then a missing value.
-/
namespace ReleasePackaging

structure Signature where
  name : String
  required : List String
  optional : List String
  nameOnly : List String
  furtherValues : Bool
  furtherNames : Bool
  deriving Repr

inductive CallFault where
  | repeated (parameter : String)
  | repeatedName (parameter : String)
  | unexpected (parameter : String)
  | tooMany (least greatest given : Nat)
  | missing (parameters : List String)
  deriving DecidableEq, Repr

/-- Names between apostrophes, the last two joined by a word. -/
def enumeration : List String → String
  | [] => ""
  | [a] => s!"'{a}'"
  | [a, b] => s!"'{a}' and '{b}'"
  | [a, b, c] => s!"'{a}', '{b}', and '{c}'"
  | a :: rest => s!"'{a}', {enumeration rest}"

def CallFault.message (callee : String) : CallFault → String
  | .repeated parameter => s!"{callee}() got multiple values for argument '{parameter}'"
  | .repeatedName parameter => s!"{callee}() got multiple values for keyword argument '{parameter}'"
  | .unexpected parameter => s!"{callee}() got an unexpected keyword argument '{parameter}'"
  | .tooMany least greatest given =>
    let count := if least = greatest then s!"{greatest}" else s!"from {least} to {greatest}"
    let noun := if least = greatest && greatest = 1 then "argument" else "arguments"
    let verb := if given = 1 then "was" else "were"
    s!"{callee}() takes {count} positional {noun} but {given} {verb} given"
  | .missing parameters =>
    let noun := if parameters.length = 1 then "argument" else "arguments"
    s!"{callee}() missing {parameters.length} required positional {noun}: {enumeration parameters}"

/-- The values of a call: those of the parameters, and the further ones. -/
structure Arguments where
  bound : List (String × Value)
  further : List Value
  named : Entries

namespace Arguments

/-- The value of a parameter, if it was given. -/
def get? (a : Arguments) (parameter : String) : Option Value := a.bound.lookup parameter

/-- The value of a parameter, or a default. -/
def getOr (a : Arguments) (parameter : String) (default : Value) : Value :=
  (a.get? parameter).getD default

end Arguments

namespace Signature

def positional (s : Signature) : List String := s.required ++ s.optional

def bindNames (s : Signature) (a : Arguments) : List (String × Value) → Except CallFault Arguments
  | [] => .ok a
  | (name, value) :: rest =>
    if s.positional.contains name || s.nameOnly.contains name then
      if (a.get? name).isSome then .error (.repeated name)
      else bindNames s { a with bound := a.bound ++ [(name, value)] } rest
    else if s.furtherNames then
      bindNames s { a with named := a.named ++ [(.str name, value)] } rest
    else .error (.unexpected name)

def bind (s : Signature) (values : List Value) (names : List (String × Value)) :
    Except CallFault Arguments := do
  let a ← s.bindNames ⟨s.positional.zip values, values.drop s.positional.length, []⟩ names
  if !a.further.isEmpty && !s.furtherValues then
    .error (.tooMany s.required.length s.positional.length values.length)
  else
    match s.required.filter fun name => (a.get? name).isNone with
    | [] => .ok a
    | missing => .error (.missing missing)

end Signature

end ReleasePackaging
