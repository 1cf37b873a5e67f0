import ReleasePackaging.Text.Lines
import ReleasePackaging.Text.Quoted
import ReleasePackaging.Text.Utf8

/-!
# Text that arrives in pieces

The text of a document is taken from a stream piece by piece, each piece as soon as a character of it
is needed. A piece is looked through when it arrives; one with bytes that encode no text, or with a
character that no document may hold, cannot be read, and nor can what follows. So a fault of the
document in an earlier piece is found first.
-/
namespace ReleasePackaging.Yaml

/-- Why a piece of a text cannot be read: bytes that encode no text, or a character that no document
may hold, with the number of characters before it. -/
inductive SourceFault where
  | undecodable (f : Text.DecodeFault)
  | unprintable (c : Char) (position : Nat)
  deriving DecidableEq, Repr

def SourceFault.message (name : String) : SourceFault → String
  | .undecodable f => f.message
  | .unprintable c position =>
    s!"unacceptable character #x{String.ofList (Text.hexPadded 4 c.toNat)}: special characters " ++
      s!"are not allowed\n  in \"{name}\", position {position}"

/-- The characters that can be read, and why those after them cannot, if there are any. -/
structure Source where
  chars : List Char
  fault : Option SourceFault

def isAllowed (c : Char) : Bool :=
  let n := c.toNat
  c == '\t' || c == '\n' || c == '\r' || (0x20 ≤ n && n ≤ 0x7E) || n == 0x85 ||
    (0xA0 ≤ n && n ≤ 0xD7FF) || (0xE000 ≤ n && n ≤ 0xFFFD) || 0x10000 ≤ n

namespace Source

/-- The number of characters in a piece. The first two pieces arrive together. -/
def pieceSize : Nat := 4096

/-- The number of characters before the piece with the character at a position. -/
def pieceStart (position : Nat) : Nat :=
  let start := position / pieceSize * pieceSize
  if start ≤ pieceSize then 0 else start

/-- The first character that no document may hold, and its position. -/
def firstForbidden? (cs : List Char) : Option (Char × Nat) :=
  match cs.dropWhile isAllowed with
  | [] => none
  | c :: rest => some (c, cs.length - (rest.length + 1))

/-- The source of a text. A text that ends in bytes that encode none is given up to them. -/
def ofText (cs : List Char) (fault : Option Text.DecodeFault) : Source :=
  let undecodable := fault.map fun f => (pieceStart cs.length, SourceFault.undecodable f)
  let unprintable := (firstForbidden? cs).map fun (c, position) =>
    (pieceStart position, SourceFault.unprintable c position)
  match unprintable, undecodable with
  | none, none => ⟨cs, none⟩
  | some (readable, f), none | none, some (readable, f) => ⟨cs.take readable, some f⟩
  | some (first, f), some (second, g) =>
    if first < second then ⟨cs.take first, some f⟩ else ⟨cs.take second, some g⟩

/-- The source of the text that some bytes encode. A carriage return is kept back until it is known
whether a line feed follows. -/
def ofBytes (content : ByteArray) : Source :=
  let text := Text.decodeStream content
  let known := if text.fault.isSome && text.chars.getLast? == some '\r' then text.chars.dropLast
    else text.chars
  ofText (Text.unifyLineEnds known) text.fault

end Source

end ReleasePackaging.Yaml
