import ReleasePackaging.Shell.State
import ReleasePackaging.Shell.Wildcard

/-!
# Fields of the command shell

An expanded word is a row of segments. What an expansion gave is split into fields at separators; what
was quoted is never split. A field with wildcards that are not literal stands for the paths it matches,
if there are any.
-/
namespace ReleasePackaging.Shell

/-- Where a segment of an expanded word is split into fields. -/
inductive Splitting where
  | never | atSeparators | atNulls
  deriving DecidableEq, Repr

/-- An element of an expanded word: an octet, which may be a wildcard unless it is literal, or a
quotation mark. -/
inductive Glyph where
  | octet (c : Char) (isLiteral : Bool)
  | quotation
  deriving DecidableEq, Repr

/-- A part of an expanded word that is split in one way. -/
structure Segment where
  splitting : Splitting
  glyphs : List Glyph

namespace Glyph

def all (isLiteral : Bool) (cs : Octets) : List Glyph := cs.map fun c => .octet c isLiteral

def octets (gs : List Glyph) : Octets :=
  gs.filterMap fun
    | .octet c _ => some c
    | .quotation => none

/-- The octets of some glyphs, each with whether it is literal. -/
def marked (gs : List Glyph) : List Wildcard.Marked :=
  gs.filterMap fun
    | .octet c isLiteral => some (c, isLiteral)
    | .quotation => none

end Glyph

namespace Segment

def whole (gs : List Glyph) : Segment := ⟨.never, gs⟩

def glyphsOf (ss : List Segment) : List Glyph := ss.flatMap (·.glyphs)

def octetsOf (ss : List Segment) : Octets := Glyph.octets (glyphsOf ss)

end Segment

/-- A word that is being split: the fields found, the last ones first, the glyphs of the current field,
the last ones first, whether it follows a blank that separates, how many more fields may be split off,
where the last field ends if blanks follow it, and how the last segment was split. -/
structure Splitter where
  fields : List (List Glyph)
  current : List Glyph
  afterBlank : Bool
  left : Option Nat
  cut : Option Nat
  last : Splitting

namespace Splitter

def step (separators : Octets) (afterNulls : Bool) (s : Splitter) (c : Char) (isLiteral : Bool) :
    Splitter :=
  let byNulls := s.last = .atNulls
  let separates := c = '\x00' || (!byNulls && separators.contains c)
  let isBlank := separates && (c = '\x00' || c = ' ' || c = '\t' || c = '\n')
  let kept := .octet c isLiteral :: s.current
  if s.left = some 0 then
    if isBlank then { s with current := kept, cut := some (s.cut.getD s.current.length) }
    else
      { s with current := kept, afterBlank := false
               cut := if separates && s.afterBlank then s.cut else none }
  else if s.afterBlank && separates then { s with current := [], afterBlank := isBlank }
  else if s.afterBlank then { s with current := [.octet c isLiteral], afterBlank := false }
  else if separates then
    let afterBlank := isBlank && !afterNulls && !byNulls
    if s.current.isEmpty && afterBlank then s
    else if s.left = some 1 then
      { s with current := kept, cut := some s.current.length, left := some 0, afterBlank := afterBlank }
    else
      { s with fields := s.current.reverse :: s.fields, current := [], afterBlank := afterBlank
               left := s.left.map (· - 1) }
  else { s with current := kept }

def segment (separators : Octets) (s : Splitter) (part : Segment) : Splitter :=
  match part.splitting with
  | .never => { s with current := part.glyphs.reverse ++ s.current }
  | splitting =>
    let afterNulls := s.last = .atNulls
    part.glyphs.foldl (fun s g =>
      match g with
      | .octet c isLiteral => s.step separators afterNulls c isLiteral
      | .quotation => { s with current := g :: s.current })
      { s with afterBlank := false, last := splitting }

/-- The fields of an expanded word, at most a number of them if one is given. -/
def fieldsOf (separators : Octets) (limit : Option Nat) (parts : List Segment) :
    List (List Glyph) :=
  let s := parts.foldl (segment separators) ⟨[], [], false, limit, none, .never⟩
  let last := match s.cut with
    | some n => s.current.reverse.take n
    | none => s.current.reverse
  if last.isEmpty && s.last != .atNulls then s.fields.reverse else (last :: s.fields).reverse

end Splitter

/-- The names in a directory that a pattern matches; a name that starts with a dot only if the pattern
starts with one. -/
def matchingNames (t : FileTree) (directory : String) (pattern : List Wildcard) : List String :=
  match t.status true (if directory = "" then "." else directory) with
  | .ok (loc, .directory) =>
    let hidden := pattern.head? == some (.exactly '.')
    ("." :: ".." :: t.names loc).filter fun name =>
      let cs := octetsOf name
      (hidden || cs.head? != some '.') && Wildcard.accepts pattern cs
  | _ => []

def pathParts (part : List Wildcard.Marked) : List Wildcard.Marked → List (List Wildcard.Marked)
  | [] => [part.reverse]
  | (c, isLiteral) :: rest =>
    if c = '/' then part.reverse :: pathParts [] rest else pathParts ((c, isLiteral) :: part) rest

def matchingPaths (t : FileTree) (before : String) : List (List Wildcard.Marked) → List String
  | [] => [before]
  | part :: rest =>
    let pattern := Wildcard.ofMarked part
    let isOpen := pattern.any Wildcard.isOpen
    let names := if isOpen then matchingNames t before pattern else [textOf (part.map (·.1))]
    names.flatMap fun name =>
      let path := before ++ name
      if rest.isEmpty then
        if isOpen || (t.status false path).isOk then [path] else []
      else matchingPaths t (path ++ "/") rest

/-- What a field stands for: the paths it matches in their order, or its octets. -/
def resolveField (t : FileTree) (gs : List Glyph) : List Octets :=
  let cs := Glyph.marked gs
  if (Wildcard.ofMarked cs).any Wildcard.isOpen then
    match matchingPaths t "" (pathParts [] cs) with
    | [] => [Glyph.octets gs]
    | paths => (paths.map octetsOf).mergeSort isInOrder
  else [Glyph.octets gs]

end ReleasePackaging.Shell
