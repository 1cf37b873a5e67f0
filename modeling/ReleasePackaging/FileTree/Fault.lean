import ReleasePackaging.Text.Quoted

/-!
# Faults of file access

An access to the file tree fails for one of a few causes, each with its number and wording. A text
that holds the null character is no path at all.
-/
namespace ReleasePackaging

/-- Why an access to the file tree or the start of a program fails. -/
inductive AccessCause where
  | noEntry | notPermitted | exists | notDirectory | isDirectory | invalid | nameTooLong | notEmpty
  | linkLoop | busy | execFormat
  deriving DecidableEq, Repr

namespace AccessCause

def number : AccessCause → Nat
  | .noEntry => 2
  | .execFormat => 8
  | .notPermitted => 13
  | .busy => 16
  | .exists => 17
  | .notDirectory => 20
  | .isDirectory => 21
  | .invalid => 22
  | .nameTooLong => 36
  | .notEmpty => 39
  | .linkLoop => 40

def text : AccessCause → String
  | .noEntry => "No such file or directory"
  | .execFormat => "Exec format error"
  | .notPermitted => "Permission denied"
  | .busy => "Device or resource busy"
  | .exists => "File exists"
  | .notDirectory => "Not a directory"
  | .isDirectory => "Is a directory"
  | .invalid => "Invalid argument"
  | .nameTooLong => "File name too long"
  | .notEmpty => "Directory not empty"
  | .linkLoop => "Too many levels of symbolic links"

end AccessCause

/-- A failed access: a cause and the path as it was given, or a path that holds a null character. -/
inductive AccessFault where
  | system (cause : AccessCause) (path : String)
  | nullCharacter
  deriving DecidableEq, Repr

def AccessFault.message : AccessFault → String
  | .system cause path => s!"[Errno {cause.number}] {cause.text}: {Text.quote path}"
  | .nullCharacter => "embedded null byte"

end ReleasePackaging
