import ReleasePackaging.Number.Power

/-!
# Deflated data

Deflated data are a sequence of blocks. A block holds bytes as they are, or literals and references
to earlier bytes in prefix codes, which are fixed or described at the beginning of the block. Data
are written in blocks of the first kind only, and read from blocks of every kind.
-/
namespace ReleasePackaging.Archive

/-- The bits that are left: bytes, and how many bits of the first one are used. -/
structure BitSource where
  bytes : List UInt8
  used : Nat

namespace BitSource

/-- The next bit, the lowest one of a byte first. -/
def bit? (s : BitSource) : Option (Nat × BitSource) :=
  match s.bytes with
  | [] => none
  | b :: rest =>
    let bit := b.toNat / 2 ^ s.used % 2
    some (bit, if s.used < 7 then ⟨b :: rest, s.used + 1⟩ else ⟨rest, 0⟩)

/-- The number of the next bits, the lowest one first. -/
def bits? (s : BitSource) : Nat → Option (Nat × BitSource)
  | 0 => some (0, s)
  | count + 1 => do
    let (low, s) ← s.bit?
    let (high, s) ← s.bits? count
    return (low + 2 * high, s)

def alignedBytes (s : BitSource) : List UInt8 := if s.used = 0 then s.bytes else s.bytes.drop 1

end BitSource

/-- A prefix code: for each length from one on, the symbols of that length in order. -/
abbrev PrefixCode := List (List Nat)

def longestWord : Nat := 15

/-- The code whose symbols have the given lengths; a length of zero leaves a symbol out. -/
def PrefixCode.ofLengths (lengths : List Nat) : PrefixCode :=
  (List.range longestWord).map fun n =>
    lengths.zipIdx.filterMap fun (length, symbol) => if length = n + 1 then some symbol else none

/-- The next symbol in a code. `code` is the number of the bits read so far and `first` that of the
first word of the current length. -/
def PrefixCode.decodeFrom (code first : Nat) (s : BitSource) :
    PrefixCode → Option (Nat × BitSource)
  | [] => none
  | symbols :: longer => do
    let (bit, s) ← s.bit?
    let code := 2 * code + bit
    let first := 2 * first
    match symbols[code - first]? with
    | some symbol => return (symbol, s)
    | none => PrefixCode.decodeFrom code (first + symbols.length) s longer

def PrefixCode.decode (code : PrefixCode) (s : BitSource) : Option (Nat × BitSource) :=
  PrefixCode.decodeFrom 0 0 s code

/-- The shortest length of a reference for each symbol from 257 on, and its number of extra bits. -/
def lengthCodes : List (Nat × Nat) :=
  [(3, 0), (4, 0), (5, 0), (6, 0), (7, 0), (8, 0), (9, 0), (10, 0), (11, 1), (13, 1), (15, 1),
   (17, 1), (19, 2), (23, 2), (27, 2), (31, 2), (35, 3), (43, 3), (51, 3), (59, 3), (67, 4),
   (83, 4), (99, 4), (115, 4), (131, 5), (163, 5), (195, 5), (227, 5), (258, 0)]

/-- The shortest distance of a reference for each symbol, and its number of extra bits. -/
def distanceCodes : List (Nat × Nat) :=
  [(1, 0), (2, 0), (3, 0), (4, 0), (5, 1), (7, 1), (9, 2), (13, 2), (17, 3), (25, 3), (33, 4),
   (49, 4), (65, 5), (97, 5), (129, 6), (193, 6), (257, 7), (385, 7), (513, 8), (769, 8),
   (1025, 9), (1537, 9), (2049, 10), (3073, 10), (4097, 11), (6145, 11), (8193, 12), (12289, 12),
   (16385, 13), (24577, 13)]

/-- The order in which the lengths of the code for lengths are given. -/
def lengthOrder : List Nat :=
  [16, 17, 18, 0, 8, 7, 9, 6, 10, 5, 11, 4, 12, 3, 13, 2, 14, 1, 15]

def fixedLengths : List Nat :=
  List.replicate 144 8 ++ List.replicate 112 9 ++ List.replicate 24 7 ++ List.replicate 8 8

/-- A base and extra bits as a number. -/
def extended (codes : List (Nat × Nat)) (symbol : Nat) (s : BitSource) :
    Option (Nat × BitSource) := do
  let (base, count) ← codes[symbol]?
  let (extra, s) ← s.bits? count
  return (base + extra, s)

/-- Appends bytes from a distance back to bytes in reverse order. -/
def copyBack (distance : Nat) : Nat → List UInt8 → Option (List UInt8)
  | 0, out => some out
  | count + 1, out => do
    let b ← out[distance - 1]?
    copyBack distance count (b :: out)

/-- Reads literals and references up to the end of a block; `out` is what has been read, in reverse
order. -/
def readSymbols (literals distances : PrefixCode) (fuel : Nat) (s : BitSource)
    (out : List UInt8) : Option (BitSource × List UInt8) :=
  match fuel with
  | 0 => none
  | fuel + 1 => do
    let (symbol, s) ← literals.decode s
    if symbol < 256 then readSymbols literals distances fuel s (UInt8.ofNat symbol :: out)
    else if symbol = 256 then return (s, out)
    else
      let (length, s) ← extended lengthCodes (symbol - 257) s
      let (symbol, s) ← distances.decode s
      let (distance, s) ← extended distanceCodes symbol s
      let out ← copyBack distance length out
      readSymbols literals distances fuel s out

/-- Reads a number of lengths in the code for lengths; `done` are those read, in reverse order. -/
def readLengths (code : PrefixCode) (count fuel : Nat) (s : BitSource) (done : List Nat) :
    Option (List Nat × BitSource) :=
  if done.length = count then some (done.reverse, s)
  else if count < done.length then none
  else
    match fuel with
    | 0 => none
    | fuel + 1 => do
      let (symbol, s) ← code.decode s
      if symbol < 16 then readLengths code count fuel s (symbol :: done)
      else if symbol = 16 then
        let last ← done.head?
        let (extra, s) ← s.bits? 2
        readLengths code count fuel s (List.replicate (3 + extra) last ++ done)
      else
        let (base, width) := if symbol = 17 then (3, 3) else (11, 7)
        let (extra, s) ← s.bits? width
        readLengths code count fuel s (List.replicate (base + extra) 0 ++ done)

def readCodes (s : BitSource) : Option (PrefixCode × PrefixCode × BitSource) := do
  let (literals, s) ← s.bits? 5
  let (distances, s) ← s.bits? 5
  let (count, s) ← s.bits? 4
  let (given, s) ← (List.range (count + 4)).foldlM (fun (given, s) _ => do
    let (length, s) ← s.bits? 3
    return (given ++ [length], s)) (([] : List Nat), s)
  let lengths := (List.range 19).map fun symbol =>
    ((lengthOrder.zip given).lookup symbol).getD 0
  let total := literals + 257 + (distances + 1)
  let (all, s) ← readLengths (PrefixCode.ofLengths lengths) total (total + 1) s []
  return (PrefixCode.ofLengths (all.take (literals + 257)),
    PrefixCode.ofLengths (all.drop (literals + 257)), s)

/-- Reads a block of bytes as they are: their number, its complement, and the bytes. -/
def readStored (bytes out : List UInt8) : Option (BitSource × List UInt8) :=
  match bytes with
  | a :: b :: c :: d :: rest =>
    let size := a.toNat + 256 * b.toNat
    if c.toNat + 256 * d.toNat = 65535 - size && size ≤ rest.length then
      some (⟨rest.drop size, 0⟩, (rest.take size).reverse ++ out)
    else none
  | _ => none

/-- Reads one block; `out` is what has been read before, in reverse order. -/
def readBlock (kind : Nat) (s : BitSource) (out : List UInt8) :
    Option (BitSource × List UInt8) :=
  match kind with
  | 0 => readStored s.alignedBytes out
  | 1 =>
    readSymbols (.ofLengths fixedLengths) (.ofLengths (List.replicate 30 5))
      (8 * s.bytes.length + 1) s out
  | 2 => do
    let (literals, distances, s) ← readCodes s
    readSymbols literals distances (8 * s.bytes.length + 1) s out
  | _ => none

def readBlocks (fuel : Nat) (s : BitSource) (out : List UInt8) : Option (List UInt8 × List UInt8) :=
  match fuel with
  | 0 => none
  | fuel + 1 => do
    let (last, s) ← s.bit?
    let (kind, s) ← s.bits? 2
    let (s, out) ← readBlock kind s out
    if last = 1 then return (out.reverse, s.alignedBytes) else readBlocks fuel s out

/-- The content of deflated data, and the bytes after them. -/
def inflate (bytes : List UInt8) : Option (List UInt8 × List UInt8) :=
  readBlocks (8 * bytes.length + 1) ⟨bytes, 0⟩ []

/-- The greatest number of bytes in a block of bytes as they are. -/
def blockLimit : Nat := 65535

def storedBlock (last : Bool) (bytes : List UInt8) : List UInt8 :=
  let size := bytes.length
  let complement := 65535 - size
  [if last then 1 else 0, UInt8.ofNat size, UInt8.ofNat (size / 256), UInt8.ofNat complement,
    UInt8.ofNat (complement / 256)] ++ bytes

def deflate (bytes : List UInt8) : List UInt8 :=
  if _h : bytes.length ≤ blockLimit then storedBlock true bytes
  else storedBlock false (bytes.take blockLimit) ++ deflate (bytes.drop blockLimit)
termination_by bytes.length
decreasing_by
  simp only [List.length_drop, blockLimit] at *
  omega

end ReleasePackaging.Archive
