import ReleasePackaging.FileTree.Access
import ReleasePackaging.Text.Split

/-!
# Packages

A directory without a dot in its name is a package if it holds a start file. Only packages are gone
down into, through links too, so that the name of a package is the dotted path of names that lead to
it. Of the packages those of one family are listed.
-/
namespace ReleasePackaging.Distribution

def startFile : String := "__init__.py"

def family : String := "tonpack"

def isPackage (t : FileTree) (path name : String) : Bool :=
  !name.toList.contains '.' && t.stands (fun | .file _ _ => true | _ => false) s!"{path}/{startFile}"

def namesAt (t : FileTree) (path : String) : List String :=
  match t.status true path with
  | .ok (loc, .directory) => t.names loc
  | _ => []

/-- The packages below a directory, each as the list of names that leads to it. Each step makes the
path longer, and there are no paths beyond the greatest length. -/
def packagesBelow (t : FileTree) (fuel : Nat) (path : String) (names : List String) :
    List (List String) :=
  match fuel with
  | 0 => []
  | fuel + 1 =>
    ((namesAt t path).filter fun name => isPackage t s!"{path}/{name}" name).flatMap fun name =>
      (names ++ [name]) :: packagesBelow t fuel s!"{path}/{name}" (names ++ [name])

/-- Whether a package is listed: it belongs to the family and is neither a set-up aid nor a store of
compiled files. -/
def isListed (package : String) : Bool :=
  (package == family || (family ++ ".").toList.isPrefixOf package.toList) &&
    package != "ez_setup" && !"__pycache__".toList.isSuffixOf package.toList

/-- The listed packages below the working directory, in order. -/
def packages (t : FileTree) : List String :=
  let found := (packagesBelow t FileTree.pathLimit "." []).map ".".intercalate
  (found.filter isListed).mergeSort fun a b => a ≤ b

end ReleasePackaging.Distribution
