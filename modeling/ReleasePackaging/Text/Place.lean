/-!
# Places in a text

A place in a text is counted in characters from its beginning, and in lines and columns from one.
-/
namespace ReleasePackaging.Text

/-- A place in a text: characters before it, its line and its column, both from one. -/
structure Place where
  offset : Nat
  line : Nat
  column : Nat
  deriving DecidableEq, Repr

def placeAfter (before : List Char) : Place where
  offset := before.length
  line := before.count '\n' + 1
  column := (before.reverse.takeWhile (· != '\n')).length + 1

def placeBefore (cs : List Char) (remaining : Nat) : Place :=
  placeAfter (cs.take (cs.length - remaining))

end ReleasePackaging.Text
