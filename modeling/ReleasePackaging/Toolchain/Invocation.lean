import ReleasePackaging.Toolchain.Command

/-!
# Invoking the toolchain

The toolchain is invoked by two commands: one refreshes the dependencies and is left out in
development mode, the other one builds the library. The first command that cannot be launched or ends
with another status than zero ends the invocation with a failure.
-/
namespace ReleasePackaging.Toolchain

/-- How a toolchain is invoked: its two commands, where they are run, and whether the first one is left
out. -/
structure Plan where
  updateCommand : List String
  buildCommand : List String
  directory : Path
  devMode : Bool
  deriving DecidableEq, Repr

def commandLine (command : List String) : String := " ".intercalate command

/-- The failure of a command, if it did not end well. -/
def failureOf? (r : CommandResult) : Option Failure :=
  let line := commandLine r.command
  match r.status with
  | none => some (.toolchain s!"Could not launch '{line}': {r.output}" r.command none r.output)
  | some 0 => none
  | some n => some (.toolchain s!"'{line}' exited with status {n}" r.command (some n) r.output)

/-- Runs a command in a directory; it has to end well. -/
def runIn (directory : Path) (launcher : Launcher) (target : EventTarget) (command : List String) :
    Action Fault CommandResult := do
  let context : Entries :=
    [(.str "command", .str (commandLine command)), (.str "cwd", .str directory.toString)]
  (Event.mk .info "Running toolchain command" context).emit target
  let result ← runCommand launcher target command (some directory.toString)
  match failureOf? result with
  | some f => throw (.failure f)
  | none => return result

def Plan.run (t : Plan) (launcher : Launcher) (target : EventTarget)
    (command : List String) : Action Fault CommandResult :=
  runIn t.directory launcher target command

/-- The commands that are due, in order. -/
def Plan.dueCommands (t : Plan) : List (List String) :=
  if t.devMode then [t.buildCommand] else [t.updateCommand, t.buildCommand]

def Plan.runAll (t : Plan) (launcher : Launcher) (target : EventTarget) :
    List (List String) → Action Fault (List CommandResult)
  | [] => return []
  | command :: rest => do
    let result ← t.run launcher target command
    return result :: (← t.runAll launcher target rest)

def reportMode (devMode : Bool) (target : EventTarget) : Action Fault Unit := do
  if devMode then
    (Event.mk .info "Development mode, skipping dependency refresh" []).emit target

def Plan.invoke (t : Plan) (launcher : Launcher) (target : EventTarget) :
    Action Fault (List CommandResult) := do
  reportMode t.devMode target
  t.runAll launcher target t.dueCommands

/-- The words of a command that is to be shown, each of which has to be a text. -/
def shownWords (index : Nat) : List Value → Except Misuse (List String)
  | [] => .ok []
  | .str word :: rest => return word :: (← shownWords (index + 1) rest)
  | v :: _ => .error (.notPart index v.fullKind)

/-- Runs commands that are given as values in a directory, one after another. -/
def runAllGiven (directory : Path) (launcher : Launcher) (target : EventTarget) :
    List (List Value) → Action Fault (List CommandResult)
  | [] => return []
  | values :: rest => do
    let command ← Action.ofResult ((shownWords 0 values).mapError Fault.misuse)
    let result ← runIn directory launcher target command
    return result :: (← runAllGiven directory launcher target rest)

/-- Invokes a toolchain whose commands are given as values. -/
def invokeGiven (directory : Path) (devMode : Bool) (updateCommand buildCommand : List Value)
    (launcher : Launcher) (target : EventTarget) : Action Fault (List CommandResult) := do
  reportMode devMode target
  runAllGiven directory launcher target
    (if devMode then [buildCommand] else [updateCommand, buildCommand])

end ReleasePackaging.Toolchain
