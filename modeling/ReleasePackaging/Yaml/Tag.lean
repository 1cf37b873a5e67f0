import ReleasePackaging.Text.Utf8
import ReleasePackaging.Yaml.Scalar
import ReleasePackaging.Yaml.Token

/-!
# Names, tags and directives in the text

Anchors and aliases carry a name. A tag is an address between angle brackets, or a handle and a
suffix; a directive at the beginning of a document gives its version or the address that a handle
stands for.
-/
namespace ReleasePackaging.Yaml

def readName (context : Context) (s : Cursor) : Except Fault (String × Cursor) := do
  let start := s.mark
  let (name, s) := s.next.span isNameChar
  if name.isEmpty then failAt context start (.notName s.head) s
  else
    let c := s.head
    if isSpaceEnd c || ['?', ':', ',', ']', '\x7d', '%', '@', '\x60'].contains c then
      .ok (String.ofList name, s)
    else failAt context start (.notName c) s

/-- The wording for escapes in addresses depends on where the address stands. -/
def escapeContext : Context → Context
  | .directiveAddress => .directive
  | _ => .tag

/-- Reads bytes that are written as pairs of hexadecimal digits after percent signs. -/
def escapedBytes (context : Context) (start : Mark) (fuel : Nat) (s : Cursor) :
    Except Fault (List UInt8 × Cursor) :=
  match fuel with
  | 0 => .ok ([], s)
  | fuel + 1 =>
    if s.head == '%' then
      let s := s.next
      match (List.range 2).find? fun n => !isHexDigit (s.peek n) with
      | some n => failAt (escapeContext context) start (.notAddressEscape (s.peek n)) s
      | none => do
        let b := UInt8.ofNat (hexNumber (s.rest.take 2))
        let (bs, s) ← escapedBytes context start fuel (s.forward 2)
        .ok (b :: bs, s)
    else .ok ([], s)

def isAddressChar (c : Char) : Bool := c.isAlphanum || "-;/?:@&=+$,_.!~*'()[]".toList.contains c

def addressParts (context : Context) (start : Mark) (fuel : Nat) (s : Cursor) :
    Except Fault (List Char × Bool × Cursor) := do
  let (cs, s) := s.span isAddressChar
  match fuel with
  | 0 => .ok (cs, !cs.isEmpty, s)
  | fuel + 1 =>
    if s.head == '%' then
      let (bytes, after) ← escapedBytes context start (s.rest.length + 1) s
      match Text.decode ⟨bytes.toArray⟩ with
      | .error f => failAt (escapeContext context) start (.undecodableAddress f.message) s
      | .ok text =>
        let (more, _, s) ← addressParts context start fuel after
        .ok (cs ++ text.toList ++ more, true, s)
    else .ok (cs, !cs.isEmpty, s)

/-- Reads an address; it must not be empty. -/
def readAddress (context : Context) (start : Mark) (s : Cursor) :
    Except Fault (String × Cursor) := do
  let (cs, some?, s) ← addressParts context start (s.rest.length + 1) s
  if some? then .ok (String.ofList cs, s) else failAt context start (.notAddress s.head) s

/-- Reads the handle of a tag: an exclamation mark, or a name between two of them. -/
def readHandle (context : Context) (start : Mark) (s : Cursor) : Except Fault (String × Cursor) :=
  if s.head != '!' then failAt context start (.notExclamation s.head) s
  else if s.peek 1 == ' ' then .ok ("!", s.next)
  else
    let (name, after) := s.next.span isNameChar
    if after.head == '!' then .ok (String.ofList ('!' :: name ++ ['!']), after.next)
    else failAt context start (.notExclamation after.head) after

/-- Reads a tag: its handle, unless it is an address, and its suffix. -/
def readTag (s : Cursor) : Except Fault (Option String × String × Cursor) := do
  let start := s.mark
  let c := s.peek 1
  let (handle, suffix, s) ←
    if c == '<' then do
      let (suffix, s) ← readAddress .tagAddress start (s.forward 2)
      if s.head == '>' then pure (none, suffix, s.next)
      else failAt .tagAddress start (.notAngle s.head) s
    else if isSpaceEnd c then pure (none, "!", s.next)
    else do
      let word := s.next.rest.takeWhile (!isBlankEnd ·)
      let (handle, s) ← if word.contains '!' then readHandle .tag start s else pure ("!", s.next)
      let (suffix, s) ← readAddress .tagAddress start s
      pure (some handle, suffix, s)
  if isBlankEnd s.head then .ok (handle, suffix, s)
  else failAt .tag start (.notBlank s.head) s

def versionNumber (start : Mark) (s : Cursor) : Except Fault (Nat × Cursor) :=
  let (ds, after) := s.span Char.isDigit
  if ds.isEmpty then failAt .directive start (.notDigit s.head) s
  else .ok (ds.foldl (fun n c => n * 10 + (c.toNat - 0x30)) 0, after)

def directiveContent (name : List Char) (start : Mark) (s : Cursor) :
    Except Fault (TokenKind × Cursor) := do
  if name == ['Y', 'A', 'M', 'L'] then
    let (major, s) ← versionNumber start (s.skip (· == ' '))
    if s.head != '.' then failAt .directive start (.notDigitOrPoint s.head) s
    else
      let (minor, s) ← versionNumber start s.next
      if isBlankEnd s.head then .ok (.version major minor, s)
      else failAt .directive start (.notDigitOrBlank s.head) s
  else if name == ['T', 'A', 'G'] then
    let (handle, s) ← readHandle .directive start (s.skip (· == ' '))
    if s.head != ' ' then failAt .directive start (.notBlank s.head) s
    else
      let (address, s) ← readAddress .directiveAddress start (s.skip (· == ' '))
      if isBlankEnd s.head then .ok (.tagHandle handle address, s)
      else failAt .directive start (.notBlank s.head) s
  else .ok (.otherDirective, s.skip (!isLineEnd ·))

def readDirective (s : Cursor) : Except Fault (Token × Cursor) := do
  let start := s.mark
  let (name, s) := s.next.span isNameChar
  if name.isEmpty || !isBlankEnd s.head then failAt .directive start (.notName s.head) s
  else
    let (kind, s) ← directiveContent name start s
    let stop := s.mark
    let s ← skipRestOfLine .directive start s
    .ok (⟨kind, start, stop⟩, s)

end ReleasePackaging.Yaml
