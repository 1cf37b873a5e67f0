import ReleasePackaging.FileTree.Fault
import ReleasePackaging.Path.Basic

/-!
# The file tree

A file tree says what stands at each location, a location being the names from the root down.
Directories, regular files and symbolic links are told apart; a file carries a number that no other
file of the tree has, so that a file that is still open can be told from a new one in its place.
The root is always a directory.
-/
namespace ReleasePackaging

/-- A place in the tree: the names from the root down. -/
abbrev Location := List String

instance (priority := high) contentDecidableEq : DecidableEq ByteArray := ByteArray.decEq

/-- What stands at a location. -/
inductive Node where
  | directory
  | file (number : Nat) (content : ByteArray)
  | link (target : String)
  deriving DecidableEq

/-- A file tree: the nodes by location, the working directory and the number for the next file. -/
structure FileTree where
  nodes : List (Location × Node)
  workDir : Location
  nextNumber : Nat

namespace FileTree

def node? (t : FileTree) (loc : Location) : Option Node :=
  if loc = [] then some .directory else t.nodes.lookup loc

def put (t : FileTree) (loc : Location) (node : Node) : FileTree :=
  { t with nodes := (loc, node) :: t.nodes.filter fun (l, _) => l != loc }

/-- The tree without the node at a location. -/
def erase (t : FileTree) (loc : Location) : FileTree :=
  { t with nodes := t.nodes.filter fun (l, _) => l != loc }

/-- The tree without what stands below a location, except for some locations and the directories in
which they stand. -/
def thin (t : FileTree) (loc : Location) (staying : List Location) : FileTree :=
  { t with nodes := t.nodes.filter fun (l, _) =>
      !(loc.isPrefixOf l && l != loc) || staying.any l.isPrefixOf }

/-- The tree without what stands below a location. -/
def eraseBelow (t : FileTree) (loc : Location) : FileTree := t.thin loc []

def names (t : FileTree) (loc : Location) : List String :=
  t.nodes.filterMap fun (l, _) =>
    if l.length = loc.length + 1 && loc.isPrefixOf l then l.getLast? else none

def below (t : FileTree) (loc : Location) : List (Location × Node) :=
  t.nodes.filter fun (l, _) => loc.isPrefixOf l && l != loc

def emptyAt (workDir : Location) : FileTree :=
  { nodes := (List.range workDir.length).map fun n => (workDir.take (n + 1), .directory)
    workDir := workDir
    nextNumber := 0 }

/-- How many links are followed before a path is given up. -/
def linkLimit : Nat := 40

/-- The greatest length of a name in bytes. -/
def nameLimit : Nat := 255

/-- The greatest length of a path in bytes. -/
def pathLimit : Nat := 4095

/-- The steps that a text takes as a path. A text that ends with a slash takes a last step to the
directory reached itself. -/
def stepsOf (text : String) : List String :=
  let cs := text.toList
  let steps := (Path.splitSlashes [] cs).filter (· != "")
  if cs.getLast? = some '/' then steps ++ ["."] else steps

def startOf (from_ : Location) (text : String) : Location :=
  if text.startsWith "/" then [] else from_

/-- Takes steps from a location. The last step may lead to a location where nothing stands yet;
a link is followed unless it is the last step and `follow` is false. -/
def walk (t : FileTree) (follow : Bool) (links : Nat) (loc : Location) (steps : List String) :
    Except AccessCause Location :=
  match steps with
  | [] => .ok loc
  | step :: rest =>
    match t.node? loc with
    | none => .error .noEntry
    | some .directory =>
      if step = "." then walk t follow links loc rest
      else if step = ".." then walk t follow links loc.dropLast rest
      else if nameLimit < step.utf8ByteSize then .error .nameTooLong
      else
        match t.node? (loc ++ [step]) with
        | some (.link target) =>
          if rest.isEmpty && !follow then .ok (loc ++ [step])
          else
            match links with
            | 0 => .error .linkLoop
            | links + 1 =>
              if target = "" then .error .noEntry
              else walk t follow links (startOf loc target) (stepsOf target ++ rest)
        | some _ => walk t follow links (loc ++ [step]) rest
        | none => if rest.isEmpty then .ok (loc ++ [step]) else .error .noEntry
    | some _ => .error .notDirectory
termination_by (links, steps.length)

def locate (t : FileTree) (follow : Bool) (text : String) : Except AccessFault Location :=
  if text.toList.contains '\x00' then .error .nullCharacter
  else if text = "" then .error (.system .noEntry text)
  else if pathLimit < text.utf8ByteSize then .error (.system .nameTooLong text)
  else
    match t.walk follow linkLimit (startOf t.workDir text) (stepsOf text) with
    | .ok loc => .ok loc
    | .error cause => .error (.system cause text)

def status (t : FileTree) (follow : Bool) (text : String) :
    Except AccessFault (Location × Node) := do
  let loc ← t.locate follow text
  match t.node? loc with
  | some node => .ok (loc, node)
  | none => .error (.system .noEntry text)

end FileTree

end ReleasePackaging
