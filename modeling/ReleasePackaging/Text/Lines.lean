import ReleasePackaging.Text.Utf8

/-!
# Lines

A text that comes from outside may end its lines with a line feed, a carriage return or both; it
is read with every line end as one line feed, that of a file from the bytes that encode it. Its lines
are then the parts that line feeds end, and a last part that none ends.
-/
namespace ReleasePackaging.Text

/-- Replaces each pair of carriage return and line feed, and each other carriage return, by a line
feed. -/
def unifyLineEnds : List Char → List Char
  | [] => []
  | '\r' :: '\n' :: rest => '\n' :: unifyLineEnds rest
  | c :: rest => (if c = '\r' then '\n' else c) :: unifyLineEnds rest

def fileText (content : ByteArray) : Except DecodeFault (List Char) :=
  (decode content).map fun text => unifyLineEnds text.toList

/-- The lines of a text without their line feeds, `line` being the reversed beginning of the
current one. -/
def linesFrom (line : List Char) : List Char → List (List Char)
  | [] => if line.isEmpty then [] else [line.reverse]
  | '\n' :: rest => line.reverse :: linesFrom [] rest
  | c :: rest => linesFrom (c :: line) rest

/-- The lines of a text without their line feeds; an empty text has none. -/
def lines (cs : List Char) : List String := (linesFrom [] cs).map String.ofList

end ReleasePackaging.Text
