import ReleasePackaging.Archive.Gzip

/-!
# Reading back what was compressed

The content of every archive that `compress` makes is the content that went into it. The data of an
archive are blocks of bytes as they are; each block is read back with the bytes after it untouched,
so the blocks follow one another, and the trailer agrees with the content that was read.
-/
namespace ReleasePackaging.Archive

/-- A size of two bytes is made again from its low byte and the rest of it. -/
theorem size_of_bytes (n : Nat) (h : n ≤ blockLimit) : n % 256 + 256 * (n / 256 % 256) = n := by
  have hn : n < 65536 := Nat.lt_succ_of_le h
  omega

/-- A block of bytes as they are is read back up to what follows it. -/
theorem readStored_block (bytes rest out : List UInt8) (h : bytes.length ≤ blockLimit) :
    readStored ([UInt8.ofNat bytes.length, UInt8.ofNat (bytes.length / 256),
        UInt8.ofNat (65535 - bytes.length), UInt8.ofNat ((65535 - bytes.length) / 256)] ++
        bytes ++ rest) out =
      some (⟨rest, 0⟩, bytes.reverse ++ out) := by
  have hsize := size_of_bytes bytes.length h
  have hcomplement := size_of_bytes (65535 - bytes.length) (Nat.sub_le _ _)
  simp [readStored, UInt8.toNat_ofNat', hsize, hcomplement]

/-- One round of reading takes a block off; the last block ends the data. -/
theorem readBlocks_block (last : Bool) (bytes rest out : List UInt8) (fuel : Nat)
    (h : bytes.length ≤ blockLimit) :
    readBlocks (fuel + 1) ⟨storedBlock last bytes ++ rest, 0⟩ out =
      if last then some ((bytes.reverse ++ out).reverse, rest)
      else readBlocks fuel ⟨rest, 0⟩ (bytes.reverse ++ out) := by
  have hread := readStored_block bytes rest out h
  simp only [List.cons_append, List.nil_append] at hread
  cases last <;>
    simp [readBlocks, storedBlock, BitSource.bit?, BitSource.bits?, BitSource.alignedBytes,
      readBlock, hread]

theorem length_storedBlock (last : Bool) (bytes : List UInt8) :
    (storedBlock last bytes).length = bytes.length + 5 := by
  simp only [storedBlock, List.length_append, List.length_cons, List.length_nil]
  omega

/-- Deflated bytes are read back, after what has been read before, with as much fuel as there are
data. -/
theorem readBlocks_deflate (bytes rest : List UInt8) :
    ∀ (fuel : Nat) (out : List UInt8), (deflate bytes).length ≤ fuel →
      readBlocks fuel ⟨deflate bytes ++ rest, 0⟩ out = some (out.reverse ++ bytes, rest) := by
  fun_induction deflate bytes with
  | case1 bytes h =>
    intro fuel out hfuel
    rw [length_storedBlock] at hfuel
    obtain ⟨fuel, rfl⟩ : ∃ n, fuel = n + 1 := ⟨fuel - 1, by omega⟩
    rw [readBlocks_block true bytes rest out fuel h]
    simp
  | case2 bytes h ih =>
    intro fuel out hfuel
    rw [List.length_append, length_storedBlock] at hfuel
    obtain ⟨fuel, rfl⟩ : ∃ n, fuel = n + 1 := ⟨fuel - 1, by omega⟩
    have htake : (bytes.take blockLimit).length ≤ blockLimit := List.length_take_le _ _
    rw [List.append_assoc, readBlocks_block false _ _ out fuel htake]
    have hnext := ih fuel ((bytes.take blockLimit).reverse ++ out) (by omega)
    have hall : bytes.take blockLimit ++ bytes.drop blockLimit = bytes := List.take_append_drop _ _
    simpa [hall] using hnext

theorem inflate_deflate (bytes rest : List UInt8) :
    inflate (deflate bytes ++ rest) = some (bytes, rest) := by
  have hfuel : (deflate bytes).length ≤ 8 * (deflate bytes ++ rest).length + 1 := by
    rw [List.length_append]
    omega
  have hread := readBlocks_deflate bytes rest _ [] hfuel
  simpa [inflate] using hread

@[simp] theorem length_littleEndian (width n : Nat) : (littleEndian width n).length = width := by
  induction width generalizing n <;> simp [littleEndian, *]

@[simp] theorem length_trailer (content : List UInt8) : (trailer content).length = 8 := by
  simp [trailer]

/-- A header without name and time is skipped. -/
theorem skipHeader?_header (rest : List UInt8) : skipHeader? (header ++ rest) = some rest := by
  simp [skipHeader?, header, hasFlag]

/-- One compressed member is read back with nothing left. -/
theorem readMember_compress (content : List UInt8) :
    readMember (compress content) = some (content, []) := by
  have htake : (trailer content).take 8 = trailer content :=
    List.take_of_length_le (Nat.le_of_eq (length_trailer content))
  have hdrop : (trailer content).drop 8 = [] :=
    List.drop_eq_nil_of_le (Nat.le_of_eq (length_trailer content))
  rw [readMember, compress, List.append_assoc, skipHeader?_header]
  simp [inflate_deflate, htake, hdrop]

/-- Every archive that is made decompresses to the content that went into it. -/
theorem decompress_compress (content : List UInt8) : decompress (compress content) = some content := by
  obtain ⟨fuel, hfuel⟩ : ∃ n, (compress content).length = n + 1 :=
    ⟨(header ++ deflate content).length + 7, by simp [compress]; omega⟩
  simp [decompress, hfuel, readMembers, readMember_compress]

end ReleasePackaging.Archive
