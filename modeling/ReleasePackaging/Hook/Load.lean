import ReleasePackaging.Fault
import ReleasePackaging.Hook.Basic
import ReleasePackaging.Text.Split

/-!
# Loading a hook

The configuration names a hook by a reference: a module, a colon and a name in the module. The module is
imported, and the name in it is called without arguments. Both run code that is not part of this program.
A fault of importing, of the name or of the call becomes a failure of the configuration, and so does
something that is no hook; any other fault of that code is passed on as it is.
-/
namespace ReleasePackaging.Hook

/-- What keeps a name in a module from giving anything: a module, a name or a call that cannot be used,
or a fault of the module's own. -/
inductive ModuleFault where
  | unusable (cause : String)
  | foreign (message : String)
  deriving DecidableEq, Repr

/-- What importing a module and calling a name in it does, and the hook that comes of it, if it is
one. -/
abbrev Modules := String → String → TreeAction ModuleFault (Option Hook)

/-- Why a reference gives no hook. -/
inductive LoadFault where
  | badForm
  | unloadable (cause : String)
  | noHook
  deriving DecidableEq, Repr

def LoadFault.message (reference : String) : LoadFault → String
  | .badForm =>
    s!"Post-build hook must be given as 'module:ClassName', got {Text.quote reference}"
  | .unloadable cause => s!"Cannot load post-build hook {Text.quote reference}: {cause}"
  | .noHook => s!"{Text.quote reference} is not a PostBuildHook"

def LoadFault.fault (reference : String) (f : LoadFault) : Fault :=
  .failure (.configuration (some "post_build_hook") (f.message reference))

def moduleFault (reference : String) : ModuleFault → Fault
  | .unusable cause => (LoadFault.unloadable cause).fault reference
  | .foreign message => .foreign message

/-- The module and the name in it that a reference consists of. -/
def partsOf? (reference : String) : Option (String × String) :=
  match Text.cut ':' reference with
  | (place, some name) => if place = "" || name = "" then none else some (place, name)
  | (_, none) => none

def ofReference (modules : Modules) (reference : String) : TreeAction Fault Hook := do
  match partsOf? reference with
  | none => throw (LoadFault.badForm.fault reference)
  | some (place, name) =>
    match ← (modules place name).adapt (moduleFault reference) with
    | some hook => return hook
    | none => throw (LoadFault.noHook.fault reference)

/-- The hook that a configuration asks for; without a reference it is the one that does nothing. -/
def load (modules : Modules) (reference : Option String) : TreeAction Fault Hook :=
  match reference with
  | none | some "" => return idle
  | some reference => ofReference modules reference

end ReleasePackaging.Hook
