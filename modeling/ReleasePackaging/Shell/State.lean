import ReleasePackaging.FileTree.Access
import ReleasePackaging.Number.Power
import ReleasePackaging.Shell.Numeral
import ReleasePackaging.Shell.Reader

/-!
# The state of the command shell

A running shell has descriptors, which lead to streams, to open files or nowhere, variables, some of
which other programs get too or cannot be changed, parameters, functions, options, and what it does on
signals. Octets written to a stream are kept in order; an open file knows the place in it.
-/
namespace ReleasePackaging.Shell

/-- What a descriptor leads to. -/
inductive Channel where
  | stream (n : Nat)
  | source (n : Nat)
  | file (n : Nat)
  | nowhere
  deriving DecidableEq, Repr

/-- An open file: its number in the tree, the place where it is read and written, and whether it is
written at its end only. -/
structure OpenFile where
  number : Nat
  place : Nat
  appends : Bool

/-- A variable: its value, if it has one, whether other programs get it, and whether it is kept from
changes. -/
structure Variable where
  value : Option Octets
  isExported : Bool
  isFixed : Bool

/-- Why the running of commands ends early: the shell exits, a command is at fault, the shell is ended
by a signal, or loops or a function are left. -/
inductive Stop where
  | exit (status : Nat)
  | fault
  | signal (n : Nat)
  | leave (loops : Nat)
  | again (loops : Nat)
  | back (status : Nat)

/-- What comes back at the end of a scope: what a variable was, or the options that were on. -/
inductive Former where
  | ofVariable (name : Octets) (old : Option Variable)
  | ofOptions (letters : List Char)

structure State where
  tree : FileTree
  streams : List (Nat × ByteArray)
  sources : List (Nat × Octets)
  files : List (Nat × OpenFile)
  channels : List (Nat × Channel)
  bindings : List (Octets × Variable)
  scopes : List (List Former)
  name : Octets
  number : Nat
  arguments : List Octets
  functions : List (Octets × Command)
  aliases : List (Octets × Octets)
  documents : List (Nat × Word)
  nextDocument : Nat
  traps : List (Nat × Octets)
  outerTraps : Option (List (Nat × Octets))
  received : List Nat
  jobs : List (Nat × Nat)
  status : Nat
  trapStatus : Option Nat
  outputStatus : Nat
  line : Nat
  command : Option Octets
  failsToWrite : Bool
  options : List Char
  mask : Nat
  loops : Nat
  optionPlace : Nat × Option Nat
  directory : String

abbrev Run (α : Type) := ExceptT Stop (StateM State) α

namespace State

def under (n : Nat) (xs : List (Nat × α)) : Option α := xs.lookup n

def putUnder (n : Nat) (a : α) (xs : List (Nat × α)) : List (Nat × α) :=
  (n, a) :: xs.filter fun (m, _) => m != n

/-- A number under which a list holds nothing. -/
def freshNumber (xs : List (Nat × α)) : Nat := xs.foldl (fun n (m, _) => max n (m + 1)) 0

def findVariable (s : State) (name : Octets) : Option Variable := s.bindings.lookup name

def valueOf? (s : State) (name : Octets) : Option Octets := (s.findVariable name).bind (·.value)

def putVariable (s : State) (name : Octets) (v : Option Variable) : State :=
  let others := s.bindings.filter fun (n, _) => n != name
  { s with bindings := match v with
      | some v => (name, v) :: others
      | none => others }

def isOn (s : State) (option : Char) : Bool := s.options.contains option

def written (s : State) (n : Nat) : ByteArray := (under n s.streams).getD .empty

def overwrite (content : ByteArray) (place : Nat) (octets : ByteArray) : ByteArray :=
  let gap : ByteArray := ⟨Array.replicate (place - content.size) 0⟩
  content.extract 0 place ++ gap ++ octets ++ content.extract (place + octets.size) content.size

/-- The state after writing octets to a descriptor, if that leads somewhere to write. -/
def write? (s : State) (descriptor : Nat) (octets : Octets) : Option State :=
  let bytes := bytesOf octets
  match under descriptor s.channels with
  | some (.stream n) => some { s with streams := putUnder n (s.written n ++ bytes) s.streams }
  | some (.file n) =>
    (under n s.files).map fun f =>
      let content := (s.tree.contentOf? f.number).getD .empty
      let place := if f.appends then content.size else f.place
      { s with
        tree := s.tree.setContent f.number (overwrite content place bytes)
        files := putUnder n { f with place := place + bytes.size } s.files }
  | some .nowhere => some s
  | some (.source _) | none => none

/-- What is left to read from a descriptor, if that leads somewhere to read. -/
def left? (s : State) (descriptor : Nat) : Option Octets :=
  match under descriptor s.channels with
  | some (.source n) => some ((under n s.sources).getD [])
  | some (.file n) =>
    (under n s.files).map fun f =>
      (ofBytes ((s.tree.contentOf? f.number).getD .empty)).drop f.place
  | some .nowhere => some []
  | some (.stream _) | none => none

/-- The state after a number of octets were read from a descriptor. -/
def advance (s : State) (descriptor n : Nat) : State :=
  match under descriptor s.channels with
  | some (.source k) =>
    { s with sources := putUnder k (((under k s.sources).getD []).drop n) s.sources }
  | some (.file k) =>
    match under k s.files with
    | some f => { s with files := putUnder k { f with place := f.place + n } s.files }
    | none => s
  | _ => s

def pathText (loc : Location) : String := "/" ++ "/".intercalate loc

def startVariables (directory : String) (given : List (Octets × Octets)) : List (Octets × Variable) :=
  let own (name value : String) : Octets × Variable :=
    (name.toList, ⟨some (octetsOf value), false, false⟩)
  let kept := given.filter fun (n, _) => isName n && !(["IFS", "OPTIND", "PPID", "PWD"].contains (textOf n))
  let names := kept.map (·.1)
  let owns := [own "IFS" " \t\n", own "OPTIND" "1", own "PPID" "1", own "PS1" "# ", own "PS2" "> ",
    own "PS4" "+ "].filter fun (n, _) => !names.contains n
  ("PWD".toList, ⟨some (octetsOf directory), true, false⟩) ::
    (kept.map fun (n, v) => (n, ⟨some v, true, false⟩)) ++ owns

end State

namespace Run

/-- Writes octets to a descriptor; tells whether it could be written. -/
def write (descriptor : Nat) (octets : Octets) : Run Bool := do
  match (← get).write? descriptor octets with
  | some s => do
    set s
    return true
  | none => return false

def put (octets : Octets) : Run Unit := do
  if octets.isEmpty then pure ()
  else if ← write 1 octets then pure ()
  else modify fun s => { s with failsToWrite := true }

def putLine (octets : Octets) : Run Unit := put (octets ++ ['\n'])

def setStatus (status : Nat) : Run Unit := modify fun s => { s with status := status }

/-- Writes a complaint to the error output, after the name of the shell, the line, and the command of the
shell's own that is running. -/
def complain (message : Octets) : Run Unit := do
  let s ← get
  let command := match s.command with
    | some c => c ++ ": ".toList
    | none => []
  let _ ← write 2 (s.name ++ s!": {s.line}: ".toList ++ command ++ message ++ ['\n'])

def refuse (message : Octets) : Run α := do
  complain message
  setStatus 2
  throw .fault

/-- Complains of something with a word, and gives up the command. -/
def refuseWord (problem : String) (word : Octets) : Run α :=
  refuse (s!"{problem}: ".toList ++ word)

/-- Runs something to its end; what stops it is a value. -/
def attempt (action : Run α) : Run (Except Stop α) := ExceptT.mk fun s =>
  let (r, s) := action.run.run s
  ((.ok r : Except Stop (Except Stop α)), s)

/-- Gives back what was tried, or stops. -/
def settle (r : Except Stop α) : Run α :=
  match r with
  | .ok a => pure a
  | .error stop => throw stop

/-- Runs something and then something else, however the first one ends. -/
def finally_ (action : Run α) (after : Run Unit) : Run α := do
  let r ← attempt action
  after
  settle r

def number (word : Octets) : Run Nat := do
  match integer? word with
  | some n => if 0 ≤ n && n < 2 ^ 31 then return n.toNat else refuseWord "Illegal number" word
  | none => refuseWord "Illegal number" word

end Run

end ReleasePackaging.Shell
