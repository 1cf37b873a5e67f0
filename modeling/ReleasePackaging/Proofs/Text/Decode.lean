import ReleasePackaging.Proofs.Text.Lines

/-!
# Texts and the bytes that encode them

The bytes that encode a text are read as that text, and no other bytes are.
-/
namespace ReleasePackaging.Text

variable {content : ByteArray} {text : String}

theorem fromUTF8?_toUTF8 (text : String) : String.fromUTF8? text.toUTF8 = some text :=
  dif_pos text.isValidUTF8

/-- The only bytes that are read as a text are those that encode it. -/
theorem decode_eq_ok_iff : decode content = .ok text ↔ content = text.toUTF8 := by
  constructor
  · intro h
    unfold decode String.fromUTF8? at h
    split at h
    · next hread =>
      cases h
      split at hread
      · cases hread
        rfl
      · cases hread
    · cases h
  · rintro rfl
    rw [decode, fromUTF8?_toUTF8]

theorem decode_toUTF8 (text : String) : decode text.toUTF8 = .ok text := decode_eq_ok_iff.mpr rfl

/-- A text is read from a file with each line end as one line feed. -/
theorem fileText_toUTF8 (text : String) : fileText text.toUTF8 = .ok (unifyLineEnds text.toList) := by
  rw [fileText, decode_toUTF8, Except.map]

end ReleasePackaging.Text
