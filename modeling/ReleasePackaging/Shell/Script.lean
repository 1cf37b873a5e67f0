/-!
# Scripts of the command shell

A script is a list of commands. A simple command is made of words, each of which is put together
from pieces: characters, quoted or not, quotation marks and expansions. Texts are octets, written as
the characters with the same numbers, because the shell cuts and joins text without regard to its
encoding.
-/
namespace ReleasePackaging.Shell

abbrev Octets := List Char

/-- Whether octets do not come after others, compared one by one from the start. -/
def isInOrder (first later : Octets) : Bool := !later.lex first fun x y => x.toNat < y.toNat

def octetsOf (text : String) : Octets := text.toUTF8.toList.map fun b => Char.ofNat b.toNat

def bytesOf (cs : Octets) : ByteArray := ⟨(cs.map fun c => UInt8.ofNat c.toNat).toArray⟩

def ofBytes (bytes : ByteArray) : Octets := bytes.data.toList.map fun b => Char.ofNat b.toNat

def textOf (cs : Octets) : String := (String.fromUTF8? (bytesOf cs)).getD (String.ofList cs)

/-- What is done with the value of a parameter before it is used. -/
inductive ParameterUse where
  | plain | length
  | default | assign | alternative | required
  | withoutShortestEnd | withoutLongestEnd | withoutShortestStart | withoutLongestStart
  | unknown
  deriving DecidableEq, Repr

/-- What the redirection of a descriptor to a file or to another descriptor does. -/
inductive RedirectKind where
  | read | write | overwrite | append | readWrite | copy
  deriving DecidableEq, Repr

mutual

/-- A part of a word. -/
inductive Piece where
  | plain (c : Char)
  | quoted (c : Char)
  | quotation
  | parameter (name : Octets) (use : ParameterUse) (emptyCounts : Bool) (argument : List Piece)
  | output (script : List Command)
  | arithmetic (expression : List Piece)

/-- A redirection of a descriptor, to what a word names or to a document of the script. -/
inductive Redirect where
  | named (descriptor : Nat) (kind : RedirectKind) (target : List Piece)
  | document (descriptor : Nat) (number : Nat)

/-- A command. Commands that can be complained about know their line. -/
inductive Command where
  | simple (line : Nat) (assignments : List (Octets × List Piece)) (words : List (List Piece))
    (redirects : List Redirect)
  | pipeline (commands : List Command)
  | negation (command : Command)
  | andThen (first second : Command)
  | orElse (first second : Command)
  | background (line : Nat) (command : Command)
  | group (line : Nat) (body : List Command) (redirects : List Redirect)
  | subshell (line : Nat) (body : List Command) (redirects : List Redirect)
  | conditional (condition thenPart elsePart : List Command)
  | loop (stopsOn : Bool) (condition body : List Command)
  | each (line : Nat) (name : Octets) (words : Option (List (List Piece))) (body : List Command)
  | choice (line : Nat) (word : List Piece) (branches : List (List (List Piece) × List Command))
  | define (name : Octets) (body : Command)

end

abbrev Word := List Piece

def startsName (c : Char) : Bool := c.isAlpha || c == '_'

def inName (c : Char) : Bool := c.isAlphanum || c == '_'

def isName (cs : Octets) : Bool := cs.head?.any startsName && cs.all inName

/-- The name before an equals sign at the beginning of some octets. -/
def assignedName (cs : Octets) : Option Octets :=
  let name := cs.takeWhile inName
  if isName name && (cs.drop name.length).head? == some '=' then some name else none

namespace Word

/-- The characters of a word, if all of them are plain. -/
def plainText? (w : Word) : Option Octets :=
  w.mapM fun
    | .plain c => some c
    | _ => none

def plainStart : Word → Octets
  | .plain c :: rest => c :: plainStart rest
  | _ => []

def assignment? (w : Word) : Option (Octets × Word) :=
  (assignedName (plainStart w)).map fun name => (name, w.drop (name.length + 1))

/-- The characters of a word without its quotation marks. -/
def characters (w : Word) : Octets :=
  w.filterMap fun
    | .plain c | .quoted c => some c
    | _ => none

def isQuoted (w : Word) : Bool :=
  w.any fun
    | .quoted _ | .quotation => true
    | _ => false

end Word

end ReleasePackaging.Shell
