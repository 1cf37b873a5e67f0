/-!
# Sets of characters as ranges

A property of characters is given by the closed ranges of code points that have it, in ascending
order. A long table of ranges is packed: its numbers are written as lines, in base 36 with blanks
between them.
-/
namespace ReleasePackaging.Text

/-- Whether a code point lies in one of the ranges. -/
def inRanges (ranges : List (Nat × Nat)) (n : Nat) : Bool :=
  ranges.any fun (low, high) => low ≤ n && n ≤ high

def packedDigit (c : Char) : Nat := if c.isDigit then c.toNat - 0x30 else c.toNat - 0x61 + 10

/-- The numbers of a packed table, `number` being the beginning of the current one. -/
def packedFrom (number : Nat) : List Char → List Nat
  | [] => [number]
  | ' ' :: rest => number :: packedFrom 0 rest
  | c :: rest => packedFrom (number * 36 + packedDigit c) rest

def packedNumbers (table : List String) : List Nat :=
  table.flatMap fun line => packedFrom 0 line.toList

/-- Closed ranges, each given by its distance from the one before it and its length. -/
def rangesFrom (after : Nat) : List Nat → List (Nat × Nat)
  | gap :: length :: rest =>
    (after + gap, after + gap + length) :: rangesFrom (after + gap + length) rest
  | _ => []

def packedRanges (table : List String) : List (Nat × Nat) := rangesFrom 0 (packedNumbers table)

end ReleasePackaging.Text
