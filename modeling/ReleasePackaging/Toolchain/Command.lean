import ReleasePackaging.Text.Lines
import ReleasePackaging.Toolchain.Launcher
import ReleasePackaging.World

/-!
# Running a command

A command is launched, and what it writes is taken as text, line by line: each line is an event. The
output of the command is its lines joined again. A command that cannot be launched has no status, and
its output says why.
-/
namespace ReleasePackaging.Toolchain

/-- What became of a command. There is a status exactly if it could be launched. -/
structure CommandResult where
  command : List String
  status : Option Int
  output : String
  deriving DecidableEq, Repr

namespace CommandResult

def isLaunched (r : CommandResult) : Bool := r.status.isSome

def isOk (r : CommandResult) : Bool := r.status == some 0

end CommandResult

/-- The lines of a text whose last line is not ended, that line left out. -/
def endedLines (cs : List Char) : List String :=
  Text.lines (cs.reverse.dropWhile (· != '\n')).reverse

/-- The lines that can be read from what a program wrote, and the fault that keeps the rest from
being read, if there is one. -/
def readOutput (output : ByteArray) : List String × Option Text.DecodeFault :=
  let text := Text.decodeStream output
  let cs := Text.unifyLineEnds text.chars
  match text.fault with
  | none => (Text.lines cs, none)
  | some fault => (endedLines cs, some fault)

def lineEvent (command line : String) : Event := ⟨.debug, line, [(.str "command", .str command)]⟩

def reportLines (target : EventTarget) (command : String) : List String → Action Fault Unit
  | [] => pure ()
  | line :: rest => do
    (lineEvent command line).emit target
    reportLines target command rest

/-- The words of a command that is given as values, each of which has to be a text. -/
def givenWords : List Value → Except Fault (List String)
  | [] => .ok []
  | .str word :: rest =>
    if word.toList.contains '\x00' then .error (.access .nullCharacter)
    else return word :: (← givenWords rest)
  | v :: _ => .error (.misuse (.notPath v.fullKind))

def runCommand (launcher : Launcher) (target : EventTarget) (command : List String)
    (directory : Option String) : Action Fault CommandResult := do
  match command with
  | [] => throw .noWords
  | word :: _ =>
    match ← (Action.onTree (launcher command directory)).outcome with
    | .error (.system cause path) =>
      return ⟨command, none, (AccessFault.system cause path).message⟩
    | .error .nullCharacter => throw (.access .nullCharacter)
    | .ok ending => do
      let (lines, fault) := readOutput ending.output
      reportLines target word lines
      match fault with
      | some fault => throw (.decoding fault)
      | none => return ⟨command, some ending.status, "\n".intercalate lines⟩

def runGiven (launcher : Launcher) (target : EventTarget) (command : List Value)
    (directory : Option String) : Action Fault CommandResult := do
  runCommand launcher target (← Action.ofResult (givenWords command)) directory

end ReleasePackaging.Toolchain
