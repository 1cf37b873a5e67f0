import ReleasePackaging.Archive.Inflate
import ReleasePackaging.Number.Power

/-!
# The format of archives

An archive is a header, deflated data and a trailer with the checksum and the size of the content.
The checksum is the cyclic redundancy check of 32 bits with the reversed polynomial `EDB88320`. An
archive that is read may consist of several such members and end with bytes of zero.
-/
namespace ReleasePackaging.Archive

def checksumBit (r : UInt32) : UInt32 :=
  if r &&& 1 = 1 then (r >>> 1) ^^^ 0xEDB88320 else r >>> 1

def checksumByte (r : UInt32) (b : UInt8) : UInt32 :=
  (List.range 8).foldl (fun r _ => checksumBit r) (r ^^^ b.toUInt32)

def checksum (bytes : List UInt8) : UInt32 :=
  bytes.foldl checksumByte 0xFFFFFFFF ^^^ 0xFFFFFFFF

/-- A number as bytes, the lowest one first. -/
def littleEndian : Nat → Nat → List UInt8
  | 0, _ => []
  | width + 1, n => UInt8.ofNat n :: littleEndian width (n / 256)

/-- The number of some bytes, the lowest one first. -/
def ofLittleEndian : List UInt8 → Nat
  | [] => 0
  | b :: rest => b.toNat + 256 * ofLittleEndian rest

/-- The header of an archive without name and time. -/
def header : List UInt8 := [0x1F, 0x8B, 8, 0, 0, 0, 0, 0, 0, 255]

def trailer (content : List UInt8) : List UInt8 :=
  littleEndian 4 (checksum content).toNat ++ littleEndian 4 (content.length % 2 ^ 32)

def compress (content : List UInt8) : List UInt8 := header ++ deflate content ++ trailer content

def skipText? (bytes : List UInt8) : Option (List UInt8) :=
  match bytes.dropWhile (· != 0) with
  | _ :: rest => some rest
  | [] => none

def skipExtra? (bytes : List UInt8) : Option (List UInt8) :=
  match bytes with
  | a :: b :: rest =>
    let size := ofLittleEndian [a, b]
    if size ≤ rest.length then some (rest.drop size) else none
  | _ => none

def hasFlag (flags : UInt8) (n : Nat) : Bool := flags.toNat / 2 ^ n % 2 = 1

def skipHeader? (bytes : List UInt8) : Option (List UInt8) :=
  match bytes with
  | 0x1F :: 0x8B :: 8 :: flags :: _ :: _ :: _ :: _ :: _ :: _ :: rest => do
    let rest ← if hasFlag flags 2 then skipExtra? rest else some rest
    let rest ← if hasFlag flags 3 then skipText? rest else some rest
    let rest ← if hasFlag flags 4 then skipText? rest else some rest
    if hasFlag flags 1 then
      if rest.length < 2 then none else some (rest.drop 2)
    else some rest
  | _ => none

def readMember (bytes : List UInt8) : Option (List UInt8 × List UInt8) := do
  let (content, rest) ← inflate (← skipHeader? bytes)
  if rest.take 8 = trailer content then some (content, rest.drop 8) else none

def readMembers (fuel : Nat) (bytes : List UInt8) : Option (List UInt8) :=
  match fuel with
  | 0 => none
  | fuel + 1 => do
    let (content, rest) ← readMember bytes
    match rest.dropWhile (· == 0) with
    | [] => return content
    | rest => return content ++ (← readMembers fuel rest)

/-- The content of an archive; none if the bytes are no archive. -/
def decompress (bytes : List UInt8) : Option (List UInt8) := readMembers bytes.length bytes

end ReleasePackaging.Archive
