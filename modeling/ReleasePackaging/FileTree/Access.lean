import ReleasePackaging.FileTree.Basic

/-!
# Access to the file tree

Questions about what stands at a path, and the elementary changes: making and removing directories,
removing files and links, reading, writing and renaming. An elementary change that fails leaves the
tree as it was. The compound changes, which make missing parents or remove a whole directory, go as
far as they get.
-/
namespace ReleasePackaging

/-- Whether a fault of a question about a path means no: nothing stands there. -/
def AccessFault.meansAbsent : AccessFault → Bool
  | .system .noEntry _ | .system .notDirectory _ | .system .linkLoop _ => true
  | .system _ _ => false
  | .nullCharacter => true

namespace FileTree

/-- Asks a question about the node at a path; where nothing stands the answer is no. -/
def ask (t : FileTree) (follow : Bool) (question : Node → Bool) (p : Path) :
    Except AccessFault Bool :=
  match t.status follow p.toString with
  | .ok (_, node) => .ok (question node)
  | .error fault => if fault.meansAbsent then .ok false else .error fault

/-- Whether a regular file stands at a path, links followed. -/
def isFile (t : FileTree) (p : Path) : Except AccessFault Bool :=
  t.ask true (fun | .file _ _ => true | _ => false) p

/-- Whether a directory stands at a path, links followed. -/
def isDirectory (t : FileTree) (p : Path) : Except AccessFault Bool :=
  t.ask true (fun | .directory => true | _ => false) p

/-- Whether anything stands at a path, links followed. -/
def exists? (t : FileTree) (p : Path) : Except AccessFault Bool :=
  t.ask true (fun _ => true) p

def isLink (t : FileTree) (p : Path) : Except AccessFault Bool :=
  t.ask false (fun | .link _ => true | _ => false) p

/-- Whether something stands at a path, where any fault counts as no. -/
def stands (t : FileTree) (question : Node → Bool) (text : String) : Bool :=
  match t.status true text with
  | .ok (_, node) => question node
  | .error _ => false

def read (t : FileTree) (text : String) : Except AccessFault ByteArray := do
  match ← t.status true text with
  | (_, .file _ content) => .ok content
  | (_, .directory) => .error (.system .isDirectory text)
  | (_, .link _) => .error (.system .linkLoop text)

/-- Opens the file at a path for writing, making it if nothing stands there. Gives its location and
number; `keep` tells whether a former content stays. -/
def openFor (t : FileTree) (keep : Bool) (text : String) :
    Except AccessFault (Location × Nat × FileTree) := do
  let loc ← t.locate true text
  match t.node? loc with
  | none =>
    .ok (loc, t.nextNumber,
      { t.put loc (.file t.nextNumber .empty) with nextNumber := t.nextNumber + 1 })
  | some (.file number content) =>
    .ok (loc, number, if keep then t else t.put loc (.file number (if keep then content else .empty)))
  | some .directory => .error (.system .isDirectory text)
  | some (.link _) => .error (.system .linkLoop text)

/-- Replaces the content of the file with a number, wherever it stands. A file that has been
removed takes the content with it. -/
def setContent (t : FileTree) (number : Nat) (content : ByteArray) : FileTree :=
  { t with
    nodes := t.nodes.map fun (loc, node) =>
      match node with
      | .file n old => (loc, .file n (if n = number then content else old))
      | _ => (loc, node) }

/-- The content of the file with a number, if it still stands in the tree. -/
def contentOf? (t : FileTree) (number : Nat) : Option ByteArray :=
  t.nodes.findSome? fun
    | (_, .file n content) => if n = number then some content else none
    | _ => none

/-- Writes a file, making it or replacing its content. -/
def write (t : FileTree) (text : String) (content : ByteArray) : Except AccessFault FileTree := do
  let (loc, number, t) ← t.openFor false text
  .ok (t.put loc (.file number content))

def makeDirectory (t : FileTree) (text : String) : Except AccessFault FileTree := do
  let loc ← t.locate false text
  match t.node? loc with
  | some _ => .error (.system .exists text)
  | none => .ok (t.put loc .directory)

def makeLink (t : FileTree) (text target : String) : Except AccessFault FileTree := do
  let loc ← t.locate false text
  match t.node? loc with
  | some _ => .error (.system .exists text)
  | none => .ok (t.put loc (.link target))

def unlink (t : FileTree) (text : String) : Except AccessFault FileTree := do
  match ← t.status false text with
  | (_, .directory) => .error (.system .isDirectory text)
  | (loc, _) => .ok (t.erase loc)

def removeDirectory (t : FileTree) (text : String) : Except AccessFault FileTree := do
  let (loc, node) ← t.status false text
  match node with
  | .directory =>
    match (stepsOf text).getLast? with
    | some "." => .error (.system .invalid text)
    | some ".." => .error (.system .notEmpty text)
    | none => .error (.system .busy text)
    | some _ =>
      if (t.below loc).isEmpty then .ok (t.erase loc) else .error (.system .notEmpty text)
  | _ => .error (.system .notDirectory text)

/-- Gives a file or directory another name; a file in its place is replaced. -/
def rename (t : FileTree) (source target : String) : Except AccessFault FileTree := do
  let (old, node) ← t.status false source
  let new ← t.locate false target
  if old = new then .ok t
  else
    match node, t.node? new with
    | .directory, _ =>
      let moved := (t.below old).map fun (l, n) => (new ++ l.drop old.length, n)
      let rest := ((t.eraseBelow old).erase old).nodes
      .ok { t with nodes := (new, .directory) :: moved ++ rest }
    | _, some .directory => .error (.system .isDirectory target)
    | _, _ => .ok ((t.erase old).put new node)

end FileTree

/-- A change of the file tree that may fail, keeping what has been changed before. -/
abbrev TreeAction (ε α : Type) := ExceptT ε (StateM FileTree) α

namespace TreeAction

def change (f : FileTree → Except AccessFault FileTree) : TreeAction AccessFault Unit :=
  ExceptT.mk fun t =>
    match f t with
    | .ok t => (.ok (), t)
    | .error fault => (.error fault, t)

def query (f : FileTree → Except ε α) : TreeAction ε α :=
  ExceptT.mk fun t => (f t, t)

def openFor (keep : Bool) (text : String) : TreeAction AccessFault Nat :=
  ExceptT.mk fun t =>
    match t.openFor keep text with
    | .ok (_, number, t) => (.ok number, t)
    | .error fault => (.error fault, t)

/-- What keeps what stands in a directory from being removed, if anything does: the locations that
stay, and the cause and the path of the fault. -/
abbrev Remover := Location → Option (List Location × AccessCause × String)

/-- The remover that nothing in a directory keeps from going on. -/
def freeRemover : Remover := fun _ => none

/-- Removes a directory with all that is in it; links in it are removed, not followed. Something in it
may keep the remover from going on. -/
def removeTree (remover : Remover) (text : String) : TreeAction AccessFault Unit := do
  let (loc, node) ← query fun t => t.status false text
  match node with
  | .directory =>
    match remover loc with
    | some (staying, cause, place) => do
      change fun t => .ok (t.thin loc staying)
      throw (.system cause place)
    | none => do
      change fun t => .ok (t.eraseBelow loc)
      change fun t => t.removeDirectory text
  | .link _ => throw (.system .notDirectory text)
  | .file _ _ => throw (.system .notDirectory text)

/-- Makes a directory unless there is one. -/
def provideDirectory (p : Path) : TreeAction AccessFault Unit :=
  tryCatch (change fun t => t.makeDirectory p.toString) fun
    | .nullCharacter => throw .nullCharacter
    | fault => do
      if !(← get).stands (fun | .directory => true | _ => false) p.toString then throw fault

/-- Makes a directory unless there is one, after its parents that are missing. A parent that turns
out to be something else is left to the next step to complain of. -/
def makeMissingDirectories : Nat → Path → TreeAction AccessFault Unit
  | 0, p => provideDirectory p
  | depth + 1, p => do
    let parent := p.parent
    if !p.components.isEmpty && !parent.isEmptyRelative &&
        !(← get).stands (fun _ => true) parent.toString then
      tryCatch (makeMissingDirectories depth parent) fun
        | .system .exists _ => pure ()
        | fault => throw fault
    provideDirectory p

/-- Makes a directory. Missing parents are made first, each parent that exists being accepted;
`depth` bounds the number of parents. A directory that exists is accepted. -/
def makeDirectories (depth : Nat) (p : Path) : TreeAction AccessFault Unit := fun t =>
  let accepted (fault : AccessFault) (t : FileTree) : Except AccessFault Unit × FileTree :=
    match fault with
    | .nullCharacter => (.error fault, t)
    | .system _ _ =>
      match t.isDirectory p with
      | .ok true => (.ok (), t)
      | .ok false => (.error fault, t)
      | .error other => (.error other, t)
  match t.makeDirectory p.toString with
  | .ok t => (.ok (), t)
  | .error (.system .noEntry text) =>
    match depth with
    | 0 => (.error (.system .noEntry text), t)
    | depth + 1 =>
      if p.parent = p then (.error (.system .noEntry text), t)
      else
        match makeDirectories depth p.parent t with
        | (.error fault, t) => (.error fault, t)
        | (.ok (), t) =>
          match t.makeDirectory p.toString with
          | .ok t => (.ok (), t)
          | .error fault => accepted fault t
  | .error fault => accepted fault t

end TreeAction

end ReleasePackaging
