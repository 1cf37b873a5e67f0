import ReleasePackaging.Fault

/-!
# The output directory

The output directory is made anew for every release. A directory is removed with all that is in it,
a file or a link in its place alone; then the directory and missing parents of it are made.
-/
namespace ReleasePackaging.OutputDirectory

def clear (remover : TreeAction.Remover) (path : Path) : TreeAction AccessFault Unit := do
  let isDirectory ← TreeAction.query fun t => t.isDirectory path
  let isLink ← if isDirectory then TreeAction.query fun t => t.isLink path else pure false
  if isDirectory && !isLink then TreeAction.removeTree remover path.toString
  else
    let present ← TreeAction.query fun t => t.exists? path
    let isLink ← if present then pure true else TreeAction.query fun t => t.isLink path
    if isLink then TreeAction.change fun t => t.unlink path.toString

def renew (remover : TreeAction.Remover) (path : Path) : TreeAction AccessFault Unit := do
  clear remover path
  TreeAction.makeDirectories path.components.length path

def resetFault (path : Path) (fault : AccessFault) : Fault :=
  match fault with
  | .system _ _ =>
    .failure (.outputDirectory s!"Cannot reset output directory {path}: {fault.message}" path)
  | .nullCharacter => .access fault

def reset (remover : TreeAction.Remover) (path : Path) : TreeAction Fault Path := do
  (renew remover path).adapt (resetFault path)
  return path

end ReleasePackaging.OutputDirectory
