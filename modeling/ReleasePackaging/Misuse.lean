import ReleasePackaging.Call.Signature

/-!
# Misused values

Each value can be used only as its kind allows: gone through, called for an attribute, taken as a
number or a path. A misuse tells the kind of the value and what it was used for.
-/
namespace ReleasePackaging

/-- A use of a value that its kind does not allow. -/
inductive Misuse where
  /-- A value that has no such attribute. -/
  | noAttribute (kind name : String)
  /-- Settings that are no mapping, given for a call. -/
  | notSettings (kind : String)
  /-- Settings with a key that is no text, given for a call. -/
  | keyNotText
  /-- A value that cannot be gone through. -/
  | notIterable (kind : String)
  /-- A value that is no number and no text of one. -/
  | notNumeral (kind : String)
  /-- A value whose items cannot be set. -/
  | noItems (kind : String)
  /-- A list, given for a mapping. -/
  | notIndex
  /-- A value that is no path and no text of one. -/
  | notPath (kind : String)
  /-- A byte string, given for a path. -/
  | bytesPath
  /-- A value that is no text, given as a part of one. -/
  | notPart (index : Nat) (kind : String)
  /-- A call whose arguments do not fit. -/
  | call (callee : String) (f : CallFault)
  deriving DecidableEq, Repr

def Misuse.message : Misuse → String
  | .noAttribute kind name => s!"'{kind}' object has no attribute '{name}'"
  | .notSettings kind =>
    s!"tonpack.build.config.BuildConfig() argument after ** must be a mapping, not {kind}"
  | .keyNotText => "keywords must be strings"
  | .notIterable kind => s!"'{kind}' object is not iterable"
  | .notNumeral kind =>
    "int() argument must be a string, a bytes-like object or a real number, not " ++ s!"'{kind}'"
  | .noItems kind => s!"'{kind}' object does not support item assignment"
  | .notIndex => "list indices must be integers or slices, not str"
  | .notPath kind => s!"expected str, bytes or os.PathLike object, not {kind}"
  | .bytesPath =>
    "argument should be a str object or an os.PathLike object returning str, not <class 'bytes'>"
  | .notPart index kind => s!"sequence item {index}: expected str instance, {kind} found"
  | .call callee f => f.message callee

end ReleasePackaging
