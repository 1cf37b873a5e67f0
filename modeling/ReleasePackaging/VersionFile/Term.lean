import ReleasePackaging.Value.Basic
import ReleasePackaging.VersionFile.Basic

/-!
# Terms of a version file

A term is a name, a literal, a display of terms, or made from terms in another way. Only some terms can
be assigned to: names, members and items of what a term stands for, and displays of such terms.
-/
namespace ReleasePackaging.VersionFile

/-- How a term is made from others, other than as a display of them. -/
inductive Making where
  | arithmetic | negation | conjunction | disjunction | comparison | choice | call | member | item
  deriving DecidableEq, Repr

inductive Term where
  | literal (v : Value)
  | name (text : String)
  | signed (sign : Char) (t : Term)
  | list (ts : List Term)
  | tuple (ts : List Term)
  | set (ts : List Term)
  | map (entries : List (Term × Term))
  | joined (ts : List Term)
  | shown (letter : Option Char) (t : Term)
  | made (m : Making) (ts : List Term)
  deriving Inhabited, Repr

/-- What a value is assigned to: a name, several parts that its items are assigned to, or a place that
some terms give. -/
inductive Target where
  | name (text : String)
  | parts (ts : List Target)
  | place (ts : List Term)
  deriving Inhabited, Repr

def Term.kind : Term → TermKind
  | .literal .null => .constant "None"
  | .literal (.bool b) => .constant (if b then "True" else "False")
  | .literal _ => .literal
  | .name _ => .name
  | .signed _ _ | .shown _ _ => .expression
  | .list _ => .list
  | .tuple _ => .tuple
  | .set _ => .set
  | .map _ => .mapping
  | .joined _ => .formatted
  | .made m _ =>
    match m with
    | .arithmetic | .negation | .conjunction | .disjunction => .expression
    | .comparison => .comparison
    | .choice => .choice
    | .call => .call
    | .member => .member
    | .item => .item

def Term.obstacle? : Term → Option TermKind
  | .name _ => none
  | .list ts | .tuple ts => first ts
  | t => if [TermKind.member, .item].contains t.kind then none else some t.kind
where
  /-- The first that there is among the items of a display. -/
  first : List Term → Option TermKind
    | [] => none
    | t :: rest => (obstacle? t).orElse fun _ => first rest

def Term.target? : Term → Option Target
  | .name text => some (.name text)
  | .list ts | .tuple ts => (all ts).map Target.parts
  | .made .member ts | .made .item ts => some (.place ts)
  | _ => none
where
  /-- The items of a display as targets. -/
  all : List Term → Option (List Target)
    | [] => some []
    | t :: rest => do return (← target? t) :: (← all rest)

/-- Whether a term that is assigned to looks like a comparison gone wrong. -/
def Term.mayBeCompared : Term → Bool
  | .list _ | .tuple _ | .literal .null | .literal (.bool _) => false
  | .made m (t :: _) => [.arithmetic, .call, .member, .item].contains m && t.mayBeCompared
  | _ => true

def Target.gives (name : String) : Target → Bool
  | .name text => text == name
  | .parts ts => any ts
  | .place _ => false
where
  /-- Whether one of some targets does. -/
  any : List Target → Bool
    | [] => false
    | t :: rest => gives name t || any rest

end ReleasePackaging.VersionFile
