import ReleasePackaging.Failure
import ReleasePackaging.FileTree.Access

/-!
# Hooks

A hook is applied to each artifact before it is archived. It may change the file tree, and it may
end with a failure of this program or in some way of its own. What a hook does may depend on the
calls it has had before.
-/
namespace ReleasePackaging

/-- A call of a hook: the path of the artifact and the host of the release. -/
structure HookCall where
  artifact : Path
  host : String
  deriving DecidableEq, Repr

/-- How a hook ends badly: with a failure of this program, or with a fault of its own. -/
inductive HookFault where
  | failure (f : Failure)
  | other (message : String)
  deriving Repr

/-- A hook: its name, and what a call does after some earlier calls. -/
structure Hook where
  name : String
  apply : List HookCall → HookCall → TreeAction HookFault Unit

def Hook.idle : Hook := ⟨"NoOpPostBuildHook", fun _ _ => pure ()⟩

end ReleasePackaging
