/-!
# Paths

A path is an optional root and a list of components. Empty components and single dots carry no
meaning and are dropped when a text is read; two dots are kept. A text that starts with exactly two
slashes has a root of its own; any other number of leading slashes is the ordinary root.
-/
namespace ReleasePackaging

inductive Path.Root where
  | relative | single | double
  deriving DecidableEq, Repr, Inhabited

namespace Path

def isComponent (part : String) : Bool := part != "" && part != "."

/-- Whether a text can stand between the slashes of a path's text and keeps its place there. -/
def IsName (name : String) : Prop := isComponent name = true ∧ '/' ∉ name.toList

instance (name : String) : Decidable (IsName name) := inferInstanceAs (Decidable (_ ∧ _))

end Path

/-- A path in normal form: no component is empty or a single dot, and none holds a slash. -/
structure Path where
  root : Path.Root
  components : List String
  areNames : ∀ name ∈ components, Path.IsName name
  deriving DecidableEq, Repr

namespace Path

instance : Inhabited Path := ⟨⟨.relative, [], fun _ h => nomatch h⟩⟩

def Root.text : Root → String
  | .relative => ""
  | .single => "/"
  | .double => "//"

/-- The parts of a list of characters between slashes, `part` being the reversed beginning of the
current one. -/
def splitSlashes (part : List Char) : List Char → List String
  | [] => [String.ofList part.reverse]
  | '/' :: rest => String.ofList part.reverse :: splitSlashes [] rest
  | c :: rest => splitSlashes (c :: part) rest

/-- No part between slashes holds a slash. -/
theorem slash_not_mem_splitSlashes {part cs : List Char} (hpart : '/' ∉ part) :
    ∀ name ∈ splitSlashes part cs, '/' ∉ name.toList := by
  fun_induction splitSlashes part cs with
  | case1 => simpa using hpart
  | case2 part rest ih => simpa [hpart] using ih
  | case3 part c rest hc ih => exact ih (by simp [hpart, Ne.symm hc])

def rootOf (cs : List Char) : Root :=
  match (cs.takeWhile (· == '/')).length with
  | 0 => .relative
  | 2 => .double
  | _ => .single

def ofString (text : String) : Path where
  root := rootOf text.toList
  components := (splitSlashes [] text.toList).filter isComponent
  areNames := fun _ h =>
    have ⟨hpart, hname⟩ := List.mem_filter.mp h
    ⟨hname, slash_not_mem_splitSlashes (by simp) _ hpart⟩

/-- The text of a path; the empty relative path is a single dot. -/
def toString (p : Path) : String :=
  match p.root, p.components with
  | .relative, [] => "."
  | root, components => root.text ++ "/".intercalate components

instance : ToString Path := ⟨Path.toString⟩

/-- Continues a path by another one; a path with a root starts anew. -/
def join (p q : Path) : Path :=
  match q.root with
  | .relative =>
    { root := p.root
      components := p.components ++ q.components
      areNames := fun name h => (List.mem_append.mp h).elim (p.areNames name) (q.areNames name) }
  | _ => q

instance : HDiv Path String Path := ⟨fun p text => p.join (ofString text)⟩

/-- The path that a list of texts denotes, each continuing the one before. -/
def ofParts (parts : List String) : Path :=
  parts.foldl (fun p part => p.join (ofString part)) default

/-- The parts of a path: its root, if it has one, and its components. -/
def parts (p : Path) : List String :=
  match p.root with
  | .relative => p.components
  | root => root.text :: p.components

def name (p : Path) : String := p.components.getLastD ""

/-- The path without its last component. -/
def parent (p : Path) : Path where
  root := p.root
  components := p.components.dropLast
  areNames := fun name h => p.areNames name (List.dropLast_subset _ h)

/-- The part of a name from its last dot on, unless the dot is the first or the last character. -/
def suffix (p : Path) : String :=
  let reversed := p.name.toList.reverse
  let after := reversed.takeWhile (· != '.')
  match reversed.dropWhile (· != '.') with
  | _ :: _ :: _ => if after.isEmpty then "" else String.ofList ('.' :: after.reverse)
  | _ => ""

/-- Whether a path denotes the directory it is resolved from. -/
def isEmptyRelative (p : Path) : Bool := p.root == .relative && p.components.isEmpty

end Path

end ReleasePackaging
