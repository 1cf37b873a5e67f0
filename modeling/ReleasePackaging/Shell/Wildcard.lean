/-!
# Wildcards

A pattern matches a text character by character: a star stands for any number of characters, a
question mark for one, brackets for one of a set, and every literal character for itself. A backslash
that is not literal itself makes the next character literal.
-/
namespace ReleasePackaging.Shell

inductive CharacterSet where
  | range (first last : Char)
  | named (name : String)
  deriving DecidableEq, Repr

namespace CharacterSet

def names : List String :=
  ["alnum", "alpha", "blank", "cntrl", "digit", "graph", "lower", "print", "punct", "space", "upper",
   "xdigit"]

def has (s : CharacterSet) (c : Char) : Bool :=
  match s with
  | .range first last => first ≤ c && c ≤ last
  | .named "alnum" => c.isAlphanum
  | .named "alpha" => c.isAlpha
  | .named "blank" => c == ' ' || c == '\t'
  | .named "cntrl" => c.toNat < 0x20 || c.toNat == 0x7f
  | .named "digit" => c.isDigit
  | .named "graph" => 0x20 < c.toNat && c.toNat < 0x7f
  | .named "lower" => c.isLower
  | .named "print" => 0x20 ≤ c.toNat && c.toNat < 0x7f
  | .named "punct" => 0x20 < c.toNat && c.toNat < 0x7f && !c.isAlphanum
  | .named "space" => c == ' ' || ('\t' ≤ c && c ≤ '\r')
  | .named "upper" => c.isUpper
  | .named "xdigit" => c.isDigit || ('a' ≤ c && c ≤ 'f') || ('A' ≤ c && c ≤ 'F')
  | .named _ => false

end CharacterSet

/-- One member of a pattern. -/
inductive Wildcard where
  | exactly (c : Char)
  | one
  | any
  | oneOf (isNegated : Bool) (sets : List CharacterSet)
  deriving DecidableEq, Repr

namespace Wildcard

abbrev Marked := Char × Bool

/-- The named set that begins after an opening bracket, and what follows it. -/
def namedSet? (cs : List Marked) : Option (CharacterSet × List Marked) :=
  CharacterSet.names.findSome? fun name =>
    let spelling := s!":{name}:]".toList.map fun c => (c, false)
    if spelling.isPrefixOf cs then some (.named name, cs.drop spelling.length) else none

/-- The next character of a pattern as a literal one, after a backslash that makes it so. -/
def literal? : List Marked → Option (Char × List Marked)
  | ('\\', false) :: (c, _) :: rest => some (c, rest)
  | (c, _) :: rest => some (c, rest)
  | [] => none

/-- The members of a set up to its closing bracket, and what follows it. A closing bracket that comes
first is a member. -/
def members (fuel : Nat) (isFirst : Bool) (cs : List Marked) :
    Option (List CharacterSet × List Marked) :=
  match fuel, cs with
  | 0, _ => none
  | fuel + 1, cs => do
    if cs.head? == some (']', false) && !isFirst then return ([], cs.drop 1)
    else
      let named := if cs.head? == some ('[', false) then namedSet? (cs.drop 1) else none
      match named with
      | some (s, rest) => do
        let (more, rest) ← members fuel false rest
        return (s :: more, rest)
      | none => do
        let (a, rest) ← literal? cs
        match rest with
        | ('-', false) :: next :: _ =>
          if next = (']', false) then do
            let (more, rest) ← members fuel false rest
            return (.range a a :: more, rest)
          else do
            let (b, rest) ← literal? (rest.drop 1)
            let (more, rest) ← members fuel false rest
            return (.range a b :: more, rest)
        | _ => do
          let (more, rest) ← members fuel false rest
          return (.range a a :: more, rest)

/-- A set after its opening bracket, and what follows it. -/
def bracket (cs : List Marked) : Option (Wildcard × List Marked) :=
  let isNegated := cs.head? == some ('!', false)
  (members (cs.length + 1) true (if isNegated then cs.drop 1 else cs)).map fun (sets, rest) =>
    (.oneOf isNegated sets, rest)

def pattern (fuel : Nat) (cs : List Marked) : List Wildcard :=
  match fuel, cs with
  | 0, _ | _, [] => []
  | fuel + 1, (c, isLiteral) :: rest =>
    if isLiteral then .exactly c :: pattern fuel rest
    else
      match c, rest with
      | '*', _ => .any :: pattern fuel rest
      | '?', _ => .one :: pattern fuel rest
      | '[', _ =>
        match bracket rest with
        | some (w, rest) => w :: pattern fuel rest
        | none => .exactly c :: pattern fuel rest
      | '\\', (d, _) :: rest => .exactly d :: pattern fuel rest
      | _, _ => .exactly c :: pattern fuel rest

def ofMarked (cs : List Marked) : List Wildcard := pattern (cs.length + 1) cs

/-- Whether a member of a pattern stands for more than one text. -/
def isOpen : Wildcard → Bool
  | .exactly _ => false
  | _ => true

def accepts : List Wildcard → List Char → Bool
  | [], cs => cs.isEmpty
  | .any :: p, [] => accepts p []
  | .any :: p, c :: cs => accepts p (c :: cs) || accepts (.any :: p) cs
  | _ :: _, [] => false
  | .exactly a :: p, c :: cs => a = c && accepts p cs
  | .one :: p, _ :: cs => accepts p cs
  | .oneOf isNegated sets :: p, c :: cs => (sets.any (·.has c)) != isNegated && accepts p cs
termination_by p cs => p.length + cs.length

end Wildcard

end ReleasePackaging.Shell
