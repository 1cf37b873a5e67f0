import ReleasePackaging.Text.LowerCase

/-!
# Host platforms

The operating systems a release can be packaged on, their names, and the two ways in which a text
is recognised as one of them: a name in any letter case, and the identifier that a running system
reports of itself, of which only the beginning counts.
-/
namespace ReleasePackaging

inductive Platform where
  | aix | darwin | freebsd | linux | openbsd | sunos | win32
  deriving DecidableEq, Repr, Inhabited

namespace Platform

/-- All platforms, in alphabetical order. -/
def all : List Platform := [.aix, .darwin, .freebsd, .linux, .openbsd, .sunos, .win32]

def name : Platform → String
  | .aix => "aix"
  | .darwin => "darwin"
  | .freebsd => "freebsd"
  | .linux => "linux"
  | .openbsd => "openbsd"
  | .sunos => "sunos"
  | .win32 => "win32"

/-- The platform whose name equals a text in lower case. -/
def ofName? (text : String) : Option Platform :=
  let key := Text.lower text
  all.find? fun p => p.name == key

/-- How the systems report themselves: the beginning of the reported identifier and the platform,
in the order in which they are tried. -/
def reported : List (String × Platform) :=
  [("linux", .linux), ("win32", .win32), ("cygwin", .win32), ("darwin", .darwin),
   ("freebsd", .freebsd), ("openbsd", .openbsd), ("aix", .aix), ("sunos", .sunos),
   ("solaris", .sunos)]

def ofReported? (identifier : String) : Option Platform :=
  (reported.find? fun (start, _) => start.toList.isPrefixOf identifier.toList).map (·.2)

/-- The name under which a host is known: that of its platform, or what the host reports. -/
def detect (identifier : String) : String :=
  match ofReported? identifier with
  | some p => p.name
  | none => identifier

end Platform

end ReleasePackaging
