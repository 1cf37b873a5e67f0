import ReleasePackaging.Config.Validation
import ReleasePackaging.Fault

/-!
# Configurations from settings

A configuration is made from a mapping of settings; defects of the settings become one failure.
-/
namespace ReleasePackaging.Config

def allTextKeys (entries : Entries) : Bool := entries.all fun (key, _) => key.text?.isSome

def ofEntries (entries : Entries) : Except Fault Config :=
  if allTextKeys entries then
    match ofSettings entries with
    | .valid c => .ok c
    | .defective defects =>
      .error (.failure (.configuration none s!"Invalid build configuration: {defectReport defects}"))
  else .error (.misuse .keyNotText)

/-- The configuration of a value, which has to be a mapping of settings. -/
def ofValue (v : Value) : Except Fault Config :=
  match v with
  | .map entries => ofEntries entries
  | _ => .error (.misuse (.notSettings v.fullKind))

end ReleasePackaging.Config
