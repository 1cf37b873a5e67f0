import ReleasePackaging.Yaml.Fault

/-!
# Reading characters

A cursor stands in a text between two characters and knows its place. Past the end of the text it
shows the null character, which no document holds.
-/
namespace ReleasePackaging.Yaml

/-- A cursor: the characters that are left and the place. -/
structure Cursor where
  rest : List Char
  mark : Mark

def isBreak (c : Char) : Bool :=
  c == '\n' || c == '\r' || c == '\x85' || c == '\u2028' || c == '\u2029'

def isLineEnd (c : Char) : Bool := c == '\x00' || isBreak c

def isBlankEnd (c : Char) : Bool := c == ' ' || isLineEnd c

/-- Whether a character is a blank or a tab or ends a line or the text. -/
def isSpaceEnd (c : Char) : Bool := c == '\t' || isBlankEnd c

def isNameChar (c : Char) : Bool := c.isAlphanum || c == '-' || c == '_'

namespace Cursor

def peek (s : Cursor) (ahead : Nat) : Char := s.rest[ahead]?.getD '\x00'

def head (s : Cursor) : Char := s.rest.headD '\x00'

/-- The cursor after the next character. A byte order mark takes no column. -/
def next (s : Cursor) : Cursor :=
  match s.rest with
  | [] => { s with mark := { s.mark with index := s.mark.index + 1, column := s.mark.column + 1 } }
  | c :: rest =>
    if isBreak c then ⟨rest, ⟨s.mark.index + 1, s.mark.line + 1, 0⟩⟩
    else
      let column := if c == '\uFEFF' then s.mark.column else s.mark.column + 1
      ⟨rest, ⟨s.mark.index + 1, s.mark.line, column⟩⟩

def forward (s : Cursor) : Nat → Cursor
  | 0 => s
  | count + 1 => s.next.forward count

/-- The next characters that satisfy a test, and the cursor after them. -/
def span (s : Cursor) (test : Char → Bool) : List Char × Cursor :=
  let cs := s.rest.takeWhile test
  (cs, s.forward cs.length)

def skip (s : Cursor) (test : Char → Bool) : Cursor := (s.span test).2

/-- The cursor after a line break, and the break as it counts in a scalar: none if there is none
here. The separators of lines and paragraphs stay as they are. -/
def lineBreak (s : Cursor) : List Char × Cursor :=
  let c := s.head
  if c == '\n' || c == '\r' || c == '\x85' then (['\n'], s.next)
  else if c == '\u2028' || c == '\u2029' then ([c], s.next)
  else ([], s)

/-- Whether the mark between documents or after a document stands here. -/
def atSeparator (s : Cursor) : Bool :=
  let three := s.rest.take 3
  (three == ['-', '-', '-'] || three == ['.', '.', '.']) && isSpaceEnd (s.peek 3)

end Cursor

def failAt (context : Context) (start : Mark) (problem : Problem) (s : Cursor) :
    Except Fault α :=
  .error ⟨some (context, some start), problem, s.mark⟩

end ReleasePackaging.Yaml
