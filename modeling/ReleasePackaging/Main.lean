import ReleasePackaging.CommandLine.Run
import ReleasePackaging.Hook.Registry
import ReleasePackaging.Shell.Launch
import Std.Time.Format

/-!
# The program

The program reads what stands below the working directory, the environment and the clock, makes a run
with the words of its command line, and writes back what the run has changed. What a run does is said
in `ReleasePackaging.CommandLine.Run`; here it only meets the machine.
-/
namespace ReleasePackaging.Program

def placeOf (loc : Location) : String := "/" ++ "/".intercalate loc

def locationOf (path : String) : Location := FileTree.stepsOf path

/-- Reads what stands below a directory; files get numbers from a number on. A link is read as one to
what it leads to, because its own text cannot be asked for, and as one to itself if it leads nowhere. -/
partial def readBelow (loc : Location) (number : Nat) : IO (List (Location × Node) × Nat) := do
  let directory ← IO.FS.realPath (placeOf loc)
  let mut nodes := []
  let mut number := number
  for entry in ← directory.readDir do
    let place := loc ++ [entry.fileName]
    match (← entry.path.symlinkMetadata).type with
    | .dir =>
      let (inner, next) ← readBelow place number
      nodes := nodes ++ (place, .directory) :: inner
      number := next
    | .file =>
      nodes := (place, .file number (← IO.FS.readBinFile entry.path)) :: nodes
      number := number + 1
    | .symlink =>
      let target ← tryCatch (do return (← IO.FS.realPath entry.path).toString) fun _ =>
        return placeOf place
      nodes := (place, .link target) :: nodes
    | .other => pure ()
  return (nodes, number)

def readTree : IO FileTree := do
  let workDir := locationOf (← IO.currentDir).toString
  let (nodes, number) ← readBelow workDir 0
  let around := FileTree.emptyAt workDir
  return { around with nodes := nodes ++ around.nodes, nextNumber := number }

/-- Whether two nodes hold the same, whatever the numbers of files. -/
def isKept (a b : Node) : Bool :=
  match a, b with
  | .file _ x, .file _ y => x == y
  | _, _ => a == b

/-- Writes what differs between two trees. -/
def writeChanges (before after : FileTree) : IO Unit := do
  for (loc, node) in before.nodes do
    let isGone := match after.node? loc with
      | some new => !isKept node new
      | none => true
    if isGone && node != .directory then IO.FS.removeFile (placeOf loc)
  for (loc, node) in before.nodes.mergeSort fun a b => b.1.length ≤ a.1.length do
    if node == .directory && after.node? loc != some .directory then
      IO.FS.removeDir (placeOf loc)
  for (loc, node) in after.nodes.mergeSort fun a b => a.1.length ≤ b.1.length do
    let isNew := match before.node? loc with
      | some old => !isKept old node
      | none => true
    if isNew then
      match node with
      | .directory => IO.FS.createDirAll (placeOf loc)
      | .file _ content => IO.FS.writeBinFile (placeOf loc) content
      | .link _ => pure ()

/-- The variables of the environment, in their order. -/
def readEnvironment : IO (List (String × String)) := do
  let content ← IO.FS.readBinFile "/proc/self/environ"
  let entries := (String.fromUTF8? content).getD "" |>.splitOn "\x00"
  return entries.filterMap fun entry =>
    match entry.splitOn "=" with
    | name :: value => if name = "" then none else some (name, "=".intercalate value)
    | [] => none

def readClock : IO Moment := do
  let seconds := (← Std.Time.Timestamp.now).toSecondsSinceUnixEpoch.val
  return .ofSeconds seconds.toNat

end ReleasePackaging.Program

open ReleasePackaging ReleasePackaging.Program in
/-- Makes a run with the words of the command line, and ends with its status. -/
def main (words : List String) : IO UInt32 := do
  let tree ← readTree
  let environment ← readEnvironment
  let machine : CommandLine.Machine :=
    { launcher := Shell.launch environment
      remover := TreeAction.freeRemover
      device := Archive.soundDevice
      modules := Hook.bundled
      host := "linux"
      environment := environment }
  let (result, world) :=
    (CommandLine.run machine words).run.run ⟨tree, .initial (← readClock), [], []⟩
  writeChanges tree world.tree
  IO.print world.logging.out
  IO.eprint world.logging.err
  match result with
  | .ok exit => return exit.number.toUInt32
  | .error f => do
    IO.eprintln f.message
    return 1
