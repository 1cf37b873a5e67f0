import ReleasePackaging.Text.Quoted
import ReleasePackaging.Text.Split

/-!
# Names of archives

The base name of an archive is made of product, version, host and, where a platform has several
outputs, a tag, with an underscore between. A name is read back by cutting at the first three
underscores, so only the last part may hold one.
-/
namespace ReleasePackaging

structure ArchiveName where
  product : String
  version : String
  host : String
  tag : String
  deriving DecidableEq, Repr

/-- A text that has too few parts for the base name of an archive. -/
structure ArchiveNameFault where
  text : String
  deriving DecidableEq, Repr

def ArchiveNameFault.message (fault : ArchiveNameFault) : String :=
  "Not an archive base name: " ++ Text.quote fault.text

namespace ArchiveName

/-- What separates the parts of a base name. -/
def delimiter : Char := '_'

/-- The base name of the given parts. An empty tag is left out. -/
def render (name : ArchiveName) : String :=
  let tag := if name.tag = "" then [] else [name.tag]
  (String.singleton delimiter).intercalate ([name.product, name.version, name.host] ++ tag)

def parse (text : String) : Except ArchiveNameFault ArchiveName :=
  match Text.splitAtMost delimiter 3 text with
  | [product, version, host] => .ok ⟨product, version, host, ""⟩
  | [product, version, host, tag] => .ok ⟨product, version, host, tag⟩
  | _ => .error ⟨text⟩

end ArchiveName

end ReleasePackaging
