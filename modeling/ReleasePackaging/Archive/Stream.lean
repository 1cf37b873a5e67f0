import ReleasePackaging.Archive.Gzip

/-!
# Writing archives piece by piece

An archive is written while its content is read. The content comes in pieces; blocks are written as
soon as there are bytes for them, and what is left waits for the next piece. The last block and the
trailer are written when the archive is closed.
-/
namespace ReleasePackaging.Archive

/-- An archive that is being written: the bytes written so far, those that wait for their block, the
remainder of the checksum and the size of the content so far. -/
structure Stream where
  written : List UInt8
  waiting : List UInt8
  remainder : UInt32
  size : Nat

namespace Stream

def start : Stream := ⟨header, [], 0xFFFFFFFF, 0⟩

/-- Writes blocks as long as more bytes wait than a block can hold. -/
def drain (written waiting : List UInt8) : List UInt8 × List UInt8 :=
  if _h : waiting.length ≤ blockLimit then (written, waiting)
  else
    drain (written ++ storedBlock false (waiting.take blockLimit)) (waiting.drop blockLimit)
termination_by waiting.length
decreasing_by
  simp only [List.length_drop, blockLimit] at *
  omega

/-- Takes the next piece of the content. -/
def feed (s : Stream) (piece : List UInt8) : Stream :=
  let (written, waiting) := drain s.written (s.waiting ++ piece)
  ⟨written, waiting, piece.foldl checksumByte s.remainder, s.size + piece.length⟩

/-- The greatest number of bytes that are read at once. -/
def pieceLimit : Nat := 65536

/-- Takes content piece by piece, until no more can be read. -/
def copy (s : Stream) (content : List UInt8) : Stream :=
  if _h : content = [] then s
  else copy (s.feed (content.take pieceLimit)) (content.drop pieceLimit)
termination_by content.length
decreasing_by
  have := List.length_pos_iff.mpr _h
  simp only [List.length_drop, pieceLimit]
  omega

/-- The bytes of the archive once it is closed. -/
def finish (s : Stream) : List UInt8 :=
  s.written ++ storedBlock true s.waiting ++
    (littleEndian 4 (s.remainder ^^^ 0xFFFFFFFF).toNat ++ littleEndian 4 (s.size % 2 ^ 32))

end Stream

end ReleasePackaging.Archive
