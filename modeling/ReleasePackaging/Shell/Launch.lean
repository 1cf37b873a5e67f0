import ReleasePackaging.Shell.Running
import ReleasePackaging.Toolchain.Launcher

/-!
# Launching the command shell

The programs that can be launched are the command shell and a few that do one of its simple commands.
A name with a slash is looked for in the file tree, where no file is a program.
-/
namespace ReleasePackaging.Shell

def stepLimit : Nat := 1000000

/-- The state in which a program starts: both outputs lead to one stream, and there is no input. -/
def startState (t : FileTree) (environment : List (String × String)) (name : String) : State :=
  let directory := State.pathText t.workDir
  { tree := t
    streams := [(0, .empty)]
    sources := [(0, [])]
    files := []
    channels := [(0, .source 0), (1, .stream 0), (2, .stream 0)]
    bindings := State.startVariables directory
      (environment.map fun (n, v) => (octetsOf n, octetsOf v))
    scopes := []
    name := octetsOf name
    number := 4242
    arguments := []
    functions := []
    aliases := []
    documents := []
    nextDocument := 0
    traps := []
    outerTraps := none
    received := []
    jobs := []
    status := 0
    trapStatus := none
    outputStatus := 0
    line := 0
    command := none
    failsToWrite := false
    options := []
    mask := 0o022
    loops := 0
    optionPlace := (1, none)
    directory := directory }

def endingStatus (outcome : Except Stop Unit) (s : State) : Int :=
  match outcome with
  | .error (.exit n) | .error (.back n) => n
  | .error (.signal n) => -(n : Int)
  | _ => s.status

def findProgram (t : FileTree) (word : String) (arguments : List Octets) :
    Except AccessFault (Run Unit) :=
  match Run.program? stepLimit ⟨false, true⟩ word arguments with
  | some action => .ok action
  | none =>
    if word = "" then .error (.system .notPermitted word)
    else if word.toList.contains '/' then
      match t.status true word with
      | .ok _ => .error (.system .notPermitted word)
      | .error fault => .error fault
    else .error (.system .noEntry word)

def launch (environment : List (String × String)) : Toolchain.Launcher := fun words directory => do
  if words.any fun w => w.toList.contains '\x00' then throw .nullCharacter
  let start ← get
  let workDir ← match directory with
    | none => pure start.workDir
    | some path =>
      match ← TreeAction.query fun t => t.status true path with
      | (loc, .directory) => pure loc
      | _ => throw (.system .notDirectory path)
  let inside := { start with workDir := workDir }
  let word := words.headD ""
  let action ← TreeAction.query fun _ =>
    findProgram inside word ((words.drop 1).map octetsOf)
  let (outcome, s) := action.run.run (startState inside environment word)
  set { s.tree with workDir := start.workDir }
  return ⟨endingStatus outcome s, s.written 0⟩

end ReleasePackaging.Shell
