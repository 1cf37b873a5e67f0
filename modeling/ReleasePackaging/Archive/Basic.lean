import ReleasePackaging.Archive.Stream
import ReleasePackaging.Fault

/-!
# Archiving an artifact

An artifact is packed into an archive of its own in the output directory. If packing fails, what
stands at the place of the archive is removed before the failure is reported.
-/
namespace ReleasePackaging

def archiveEnding : String := ".gz"

def archivePath (baseName : String) (outputDir : Path) : Path := outputDir / (baseName ++ archiveEnding)

namespace Archive

/-- What becomes of bytes that are written to a file: the bytes that reach it, and the fault that
ends the writing, if there is one. -/
abbrev Device := List UInt8 → List UInt8 × Option AccessFault

/-- The device on which every writing succeeds. -/
def soundDevice : Device := fun bytes => (bytes, none)

/-- Packs the file at a path into a new file at another one. The target is emptied before the
source is read; the archive is written while the source is read piece by piece. -/
def pack (device : Device) (source target : Path) : TreeAction AccessFault Unit := do
  let _ ← TreeAction.query fun t => t.read source.toString
  TreeAction.change fun t => (t.openFor false target.toString).map fun (_, _, t) => t
  let content ← TreeAction.query fun t => t.read source.toString
  let (written, fault) := device (Stream.start.copy content.data.toList).finish
  TreeAction.change fun t => t.write target.toString ⟨written.toArray⟩
  match fault with
  | some fault => throw fault
  | none => return

/-- Removes the file or link at a path if there is one. -/
def discard (target : Path) : TreeAction AccessFault Unit :=
  TreeAction.change fun t =>
    match t.unlink target.toString with
    | .error (.system .noEntry _) => .ok t
    | r => r

/-- Archives an artifact under a base name in a directory and gives the path of the archive. -/
def write (device : Device) (artifact : Path) (baseName : String) (outputDir : Path) :
    TreeAction Fault Path := do
  let target := archivePath baseName outputDir
  let present ← (TreeAction.query fun t => t.isFile artifact).adapt Fault.access
  if !present then throw (.failure (.missingArtifact artifact "archive"))
  let outcome ← ExceptT.mk fun t =>
    let (r, t) := (pack device artifact target).run.run t
    ((.ok r : Except Fault (Except AccessFault Unit)), t)
  match outcome with
  | .ok () => return target
  | .error fault => do
    (discard target).adapt Fault.access
    throw (.failure (.archive s!"Failed to write {target}: {fault.message}" artifact target))

end Archive

end ReleasePackaging
