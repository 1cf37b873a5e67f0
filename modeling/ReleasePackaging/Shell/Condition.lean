import ReleasePackaging.FileTree.Access
import ReleasePackaging.Shell.Numeral

/-!
# Conditions of the command shell

A condition asks about texts, integers, and what stands at a path. Its operands are words; how they are
taken depends on their number first, and then on the words after them.
-/
namespace ReleasePackaging.Shell.Condition

inductive Token where
  | ending | operand | negation | both | either | opening | closing
  | unary (op : Char)
  | binary (op : String)
  deriving DecidableEq, Repr

def unaryOperators : List Char := "rwxefdcbpugkstznhOGLS".toList

def binaryOperators : List String :=
  ["=", "!=", "<", ">", "-eq", "-ne", "-ge", "-gt", "-le", "-lt", "-nt", "-ot", "-ef"]

/-- The operator that a word is, if it is one. -/
def operator? (word : Octets) : Option Token :=
  match word with
  | ['!'] => some .negation
  | ['('] => some .opening
  | [')'] => some .closing
  | ['-', 'a'] => some .both
  | ['-', 'o'] => some .either
  | _ =>
    if binaryOperators.contains (textOf word) then some (.binary (textOf word))
    else
      match word with
      | ['-', c] => if unaryOperators.contains c then some (.unary c) else none
      | _ => none

def isBinary (word : Octets) : Bool :=
  match operator? word with
  | some (.binary _) => true
  | _ => false

/-- What the first word of some words is. An operator of one operand is an operand itself if no word
follows, or an operator of two operands and a word. -/
def tokenAt (words : List Octets) : Token :=
  match words with
  | [] => .ending
  | word :: rest =>
    match operator? word with
    | some (.unary c) =>
      match rest with
      | [] => .operand
      | [_] => .unary c
      | next :: _ => if isBinary next then .operand else .unary c
    | some .opening => if rest.isEmpty then .operand else .opening
    | some t => t
    | none => .operand

/-- Why a condition cannot be decided: what is complained about, after a word. -/
structure Fault where
  word : Octets
  problem : String

def Fault.message (f : Fault) : Octets :=
  if f.word.isEmpty then f.problem.toList else f.word ++ s!": {f.problem}".toList

/-- Deciding with the words that are left, the first of which is the current one. -/
abbrev Decide (α : Type) := StateT (List Octets) (Except Octets) α

def refuse (word : Octets) (problem : String) : Decide α := throw (Fault.message ⟨word, problem⟩)

def integer (word : Octets) : Decide Int :=
  match integer? word with
  | some n => return n
  | none => throw ("Illegal number: ".toList ++ word)

/-- The file that is always there, and empty. -/
def nullFile : String := "/dev/null"

def unary (t : FileTree) (op : Char) (operand : Octets) : Decide Bool := do
  let path := textOf operand
  let stands (follow : Bool) (question : Node → Bool) : Bool :=
    match t.status follow path with
    | .ok (_, node) => question node
    | .error _ => false
  match op with
  | 'z' => return operand.isEmpty
  | 'n' => return !operand.isEmpty
  | 't' => do
    let _ ← integer operand
    return false
  | 'f' => return stands true fun | .file _ _ => true | _ => false
  | 'd' => return stands true fun | .directory => true | _ => false
  | 'h' | 'L' => return stands false fun | .link _ => true | _ => false
  | 's' => return stands true fun | .file _ content => content.size != 0 | _ => true
  | 'c' => return path == nullFile
  | 'e' | 'r' | 'w' | 'O' | 'G' => return path == nullFile || stands true fun _ => true
  | 'x' => return stands true fun | .directory => true | _ => false
  | _ => return false

def binary (t : FileTree) (op : String) (a b : Octets) : Decide Bool := do
  match op with
  | "=" => return a == b
  | "!=" => return a != b
  | "<" => return a < b
  | ">" => return b < a
  | "-eq" => return (← integer a) == (← integer b)
  | "-ne" => return (← integer a) != (← integer b)
  | "-lt" => return (← integer a) < (← integer b)
  | "-le" => return (← integer a) ≤ (← integer b)
  | "-gt" => return (← integer a) > (← integer b)
  | "-ge" => return (← integer a) ≥ (← integer b)
  | "-ef" =>
    match t.status true (textOf a), t.status true (textOf b) with
    | .ok (l, _), .ok (m, _) => return l == m
    | _, _ => return false
  | _ => return false

def following : Decide (List Octets) := do return (← get).drop 1

def advance (n : Nat) : Decide Unit := modify (List.drop n)

mutual

/-- Alternatives. At the end the current word is the last one taken. -/
def alternatives (t : FileTree) (fuel : Nat) (first : Token) : Decide Bool := do
  match fuel with
  | 0 => return false
  | fuel + 1 =>
    let value ← parts t fuel first
    if tokenAt (← following) = .either then do
      advance 2
      let others ← alternatives t fuel (tokenAt (← get))
      return value || others
    else return value

def parts (t : FileTree) (fuel : Nat) (first : Token) : Decide Bool := do
  match fuel with
  | 0 => return false
  | fuel + 1 =>
    let value ← negated t fuel first
    if tokenAt (← following) = .both then do
      advance 2
      let others ← parts t fuel (tokenAt (← get))
      return value && others
    else return value

def negated (t : FileTree) (fuel : Nat) (first : Token) : Decide Bool := do
  match fuel with
  | 0 => return false
  | fuel + 1 =>
    if first = .negation then do
      let next := tokenAt (← following)
      if next != .ending then advance 1
      let value ← negated t fuel next
      return !value
    else single t fuel first

/-- A condition without other conditions, or one in brackets. -/
def single (t : FileTree) (fuel : Nat) (first : Token) : Decide Bool := do
  match fuel with
  | 0 => return false
  | fuel + 1 =>
    match first with
    | .ending => return false
    | .opening => do
      advance 1
      let next := tokenAt (← get)
      if next = .closing then return false
      else do
        let value ← alternatives t fuel next
        advance 1
        if tokenAt (← get) = .closing then return value else refuse [] "closing paren expected"
    | .unary op => do
      let word := (← get).headD []
      advance 1
      match (← get) with
      | operand :: _ => unary t op operand
      | [] => refuse word "argument expected"
    | _ => do
      match ← get with
      | a :: op :: rest =>
        match tokenAt (op :: rest) with
        | .binary name => do
          advance 2
          match rest with
          | b :: _ => binary t name a b
          | [] => refuse op "argument expected"
        | _ => return !a.isEmpty
      | words => return !(words.headD []).isEmpty

end

/-- Decides a condition whose words are taken one after another. -/
def decideAll (t : FileTree) (first : Token) (words : List Octets) : Except Octets Bool := do
  let (value, rest) ← (alternatives t (4 * words.length + 4) first).run words
  match rest with
  | word :: _ :: _ => .error (Fault.message ⟨word, "unexpected operator"⟩)
  | _ => return value

/-- Decides a condition. Three words with an operator in the middle are its operands; a negation in front
of two or three words, and brackets around one or two, come first otherwise. -/
def holds (t : FileTree) (words : List Octets) : Except Octets Bool :=
  match words with
  | [] => .ok false
  | [a, b, c] =>
    if isBinary b then decideAll t .operand words
    else if a = ['('] && c = [')'] then decideAll t (tokenAt [b]) [b]
    else if a = ['!'] then (decideAll t (tokenAt [b, c]) [b, c]).map (!·)
    else decideAll t (tokenAt words) words
  | [a, b, c, d] =>
    if a = ['('] && d = [')'] then decideAll t (tokenAt [b, c]) [b, c]
    else if a = ['!'] then
      if isBinary c then (decideAll t .operand [b, c, d]).map (!·)
      else if b = ['('] && d = [')'] then (decideAll t (tokenAt [c]) [c]).map (!·)
      else if b = ['!'] then (decideAll t (tokenAt [c, d]) [c, d]).map (!·)
      else (decideAll t (tokenAt [b, c, d]) [b, c, d]).map (!·)
    else decideAll t (tokenAt words) words
  | _ => decideAll t (tokenAt words) words

end ReleasePackaging.Shell.Condition
