import ReleasePackaging.Archive.Stream

/-!
# Archives do not depend on pieces

A stream carries the content that it has taken: whatever content follows, the bytes written and those
that wait make the same archive as the whole content at once. Every piece is carried on, so copying
content piece by piece gives the archive of the content.
-/
namespace ReleasePackaging.Archive.Stream

variable {s : Stream} {content piece : List UInt8}

/-- A stream has taken some content: what has been written and what waits are the beginning of the
archive of this content, whatever follows. -/
structure Carries (s : Stream) (content : List UInt8) : Prop where
  data : ∀ rest, s.written ++ deflate (s.waiting ++ rest) = header ++ deflate (content ++ rest)
  waiting : s.waiting.length ≤ blockLimit
  remainder : s.remainder = content.foldl checksumByte 0xFFFFFFFF
  size : s.size = content.length

theorem start_carries : start.Carries [] :=
  ⟨fun _ => rfl, Nat.zero_le _, rfl, rfl⟩

theorem deflate_of_le (h : content.length ≤ blockLimit) : deflate content = storedBlock true content := by
  rw [deflate, dif_pos h]

/-- A full block is written first, whatever follows it. -/
theorem deflate_append (h : ¬content.length ≤ blockLimit) (rest : List UInt8) :
    deflate (content ++ rest) =
      storedBlock false (content.take blockLimit) ++ deflate (content.drop blockLimit ++ rest) := by
  have hfull : blockLimit ≤ content.length := Nat.le_of_not_le h
  have hlong : ¬(content ++ rest).length ≤ blockLimit := by
    rw [List.length_append]
    omega
  rw [deflate, dif_neg hlong, List.take_append_of_le_length hfull, List.drop_append_of_le_length hfull]

/-- Blocks that are written leave no more bytes than a block can hold, and the data stay the same. -/
theorem drain_spec (written waiting : List UInt8) :
    (drain written waiting).2.length ≤ blockLimit ∧
      ∀ rest, (drain written waiting).1 ++ deflate ((drain written waiting).2 ++ rest) =
        written ++ deflate (waiting ++ rest) := by
  fun_induction drain written waiting with
  | case1 written waiting h => exact ⟨h, fun _ => rfl⟩
  | case2 written waiting h ih =>
    refine ⟨ih.1, fun rest => ?_⟩
    rw [ih.2, deflate_append h, List.append_assoc]

/-- A piece is carried on after what has been taken before. -/
theorem Carries.feed (h : s.Carries content) (piece : List UInt8) :
    (s.feed piece).Carries (content ++ piece) := by
  obtain ⟨hwaiting, hdata⟩ := drain_spec s.written (s.waiting ++ piece)
  refine ⟨fun rest => ?_, hwaiting, ?_, ?_⟩
  · rw [Stream.feed, hdata, List.append_assoc, h.data, List.append_assoc]
  · rw [Stream.feed, h.remainder, List.foldl_append]
  · rw [Stream.feed, h.size, List.length_append]

/-- All pieces are carried on, however many there are. -/
theorem Carries.copy (h : s.Carries content) (rest : List UInt8) :
    (s.copy rest).Carries (content ++ rest) := by
  fun_induction Stream.copy s rest generalizing content with
  | case1 s => rwa [List.append_nil]
  | case2 s rest _ ih =>
    have hnext := ih (h.feed (rest.take pieceLimit))
    rwa [List.append_assoc, List.take_append_drop] at hnext

/-- A stream that is closed is the archive of what it has taken. -/
theorem Carries.finish (h : s.Carries content) : s.finish = compress content := by
  have hdata := h.data []
  rw [List.append_nil, List.append_nil, deflate_of_le h.waiting] at hdata
  rw [Stream.finish, hdata, h.remainder, h.size]
  rfl

/-- Content that is copied piece by piece gives its archive. -/
theorem finish_copy (content : List UInt8) : (start.copy content).finish = compress content :=
  (start_carries.copy content).finish

end ReleasePackaging.Archive.Stream
