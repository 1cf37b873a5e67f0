import ReleasePackaging.FileTree.Access
import ReleasePackaging.Text.Split

/-!
# Log files

A log file grows at its end. When a line would make it as long as its limit, the file is put aside
under its name with a number, older files moving up by one and the oldest being removed, and a new
file is begun. Without a limit, or where something else than a regular file stands in its place, a
log file only grows. A log file stays open, so that it can still be written when it has been removed
from the tree.
-/
namespace ReleasePackaging.Logging

/-- A log file: its path from the root, the limit of its length, how many older files are kept, and
the number and length of the open file. -/
structure LogFile where
  path : String
  limit : Int
  backups : Int
  number : Option Nat
  size : Nat
  deriving DecidableEq, Repr

namespace LogFile

/-- The path from the root of what a path denotes, with two dots taken back at once. -/
def absolute (workDir : Location) (p : Path) : String :=
  let start := match p.root with
    | .relative => workDir
    | .single | .double => []
  let names := p.components.foldl (fun names name =>
    if name = ".." then names.dropLast else names ++ [name]) start
  let root := match p.root with
    | .double => "//"
    | .relative | .single => "/"
  root ++ "/".intercalate names

def reopened (f : LogFile) (t : FileTree) : Except AccessFault (LogFile × FileTree) := do
  let (_, number, t) ← t.openFor true f.path
  let size := ((t.contentOf? number).map ByteArray.size).getD 0
  return ({ f with number := some number, size := size }, t)

def backupPath (f : LogFile) (n : Nat) : String := s!"{f.path}.{n}"

/-- Moves what stands at a path to another one, in place of what stands there. -/
def displace (source target : String) (t : FileTree) : Except AccessFault FileTree := do
  if t.stands (fun _ => true) source then
    let t ← if t.stands (fun _ => true) target then t.unlink target else .ok t
    t.rename source target
  else .ok t

/-- Moves the older files up by one, the oldest first, for the numbers below `count`. -/
def shift (f : LogFile) (count : Nat) (t : FileTree) : Except AccessFault FileTree :=
  (List.range (count - 1)).reverse.foldlM (fun t n =>
    displace (f.backupPath (n + 1)) (f.backupPath (n + 2)) t) t

def putAside (f : LogFile) (t : FileTree) : Except AccessFault FileTree := do
  if f.backups ≤ 0 then .ok t
  else
    let t ← f.shift f.backups.toNat t
    let target := f.backupPath 1
    let t ← if t.stands (fun _ => true) target then t.unlink target else .ok t
    if t.stands (fun _ => true) f.path then t.rename f.path target else .ok t

/-- Whether a line of a number of characters makes a new file necessary. -/
def isFull (f : LogFile) (length : Nat) : Bool :=
  0 < f.limit && f.limit ≤ (f.size + (length + 1) : Nat)

/-- Whether something else than a regular file stands at the path of a log file. -/
def isBlocked (f : LogFile) (t : FileTree) : Bool :=
  t.stands (fun _ => true) f.path && !t.stands (fun | .file _ _ => true | _ => false) f.path

def append (f : LogFile) (text : String) (t : FileTree) : LogFile × FileTree :=
  match f.number with
  | none => (f, t)
  | some number =>
    match t.contentOf? number with
    | some content =>
      let content := content ++ text.toUTF8
      ({ f with size := content.size }, t.setContent number content)
    | none => ({ f with size := f.size + text.utf8ByteSize }, t)

/-- Opens a log file unless it is open. -/
def reopen (f : LogFile) (t : FileTree) : LogFile × FileTree :=
  match f.number with
  | some _ => (f, t)
  | none => (f.reopened t).toOption.getD (f, t)

/-- Puts a log file aside and begins a new one. If something goes wrong the file is left closed. -/
def rotate (f : LogFile) (t : FileTree) : LogFile × FileTree :=
  let closed := { f with number := none }
  match f.putAside t with
  | .error _ => (closed, t)
  | .ok t => (closed.reopened t).toOption.getD (closed, t)

/-- Writes a line to a log file. A line that cannot be written is lost. -/
def write (f : LogFile) (line : String) (t : FileTree) : LogFile × FileTree :=
  let (f, t) := f.reopen t
  let (f, t) := if !f.isBlocked t && f.isFull line.length then f.rotate t else (f, t)
  f.append (line ++ "\n") t

/-- Takes a record that has a line or none: the file is opened in any case. -/
def receive (f : LogFile) (line? : Option String) (t : FileTree) : LogFile × FileTree :=
  match line? with
  | some line => f.write line t
  | none => f.reopen t

end LogFile

end ReleasePackaging.Logging
