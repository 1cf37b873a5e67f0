import ReleasePackaging.Platform.Host
import ReleasePackaging.Text.Quoted

/-!
# Templates of build outputs

The file name of a build output is a pattern with one placeholder, which stands for the name of the
library. Each platform has a row of templates, in the order in which the outputs are packaged.
-/
namespace ReleasePackaging

/-- A pattern that does not have exactly one placeholder. -/
structure TemplateFault where
  pattern : String
  deriving DecidableEq, Repr

def placeholder : String := "\x7b\x7d"

def TemplateFault.message (fault : TemplateFault) : String :=
  s!"Artifact pattern must contain exactly one '" ++ placeholder ++ "': " ++
    Text.quote fault.pattern

/-- A build output that is expected on a platform: the text before and after the library's name in
its file name, and a tag that tells it from other outputs of the platform. -/
structure Template where
  before : String
  after : String
  tag : String
  deriving DecidableEq, Repr

namespace Template

/-- The parts of a text between placeholders, `part` being the reversed beginning of the current
one. -/
def partsBetween (part : List Char) : List Char → List String
  | [] => [String.ofList part.reverse]
  | '\x7b' :: '\x7d' :: rest => String.ofList part.reverse :: partsBetween [] rest
  | c :: rest => partsBetween (c :: part) rest

/-- The template of a pattern, which has exactly one placeholder. -/
def ofPattern (pattern tag : String) : Except TemplateFault Template :=
  match partsBetween [] pattern.toList with
  | [before, after] => .ok ⟨before, after, tag⟩
  | _ => .error ⟨pattern⟩

def pattern (t : Template) : String := t.before ++ placeholder ++ t.after

def fileName (t : Template) (library : String) : String := t.before ++ library ++ t.after

end Template

/-- The templates of a platform. On Windows the import library comes before the library that is
loaded at run time. -/
def Platform.templates : Platform → List Template
  | .darwin => [⟨"lib", ".dylib", ""⟩]
  | .linux => [⟨"lib", ".so", ""⟩]
  | .win32 => [⟨"", ".dll.lib", "lib"⟩, ⟨"", ".dll", "dll"⟩]
  | .aix | .freebsd | .openbsd | .sunos => []

/-- The templates for a host of the given name; an unknown host has none. -/
def templatesFor (host : String) : List Template :=
  match Platform.ofName? host with
  | some p => p.templates
  | none => []

end ReleasePackaging
