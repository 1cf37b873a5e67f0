/-!
# Reading UTF-8

Bytes are read as text strictly: the first byte sequence that is no UTF-8 is a fault, with the
bytes it spans and the reason. A fault spans the bytes that would still begin a character; when
the data end inside a character it spans the rest of the data.
-/
namespace ReleasePackaging.Text

/-- Why bytes are no UTF-8; a fault may also leave the reason open. -/
inductive DecodeReason where
  | startByte | continuationByte | endOfData | unspecified
  deriving DecidableEq, Repr

/-- A place where bytes are no UTF-8: its first byte, where it starts and how many bytes it spans. -/
structure DecodeFault where
  byte : UInt8
  start : Nat
  size : Nat
  reason : DecodeReason
  deriving DecidableEq, Repr

def DecodeReason.message : DecodeReason → String
  | .startByte => "invalid start byte"
  | .continuationByte => "invalid continuation byte"
  | .endOfData => "unexpected end of data"
  | .unspecified => "invalid utf-8"

/-- The wording of a fault: a single byte is shown, a longer span is given by its ends. -/
def DecodeFault.message (fault : DecodeFault) : String :=
  let place :=
    if fault.size ≤ 1 then
      let digits := String.ofList (Nat.toDigits 16 fault.byte.toNat)
      let padded := if digits.length < 2 then "0" ++ digits else digits
      s!"byte 0x{padded} in position {fault.start}"
    else s!"bytes in position {fault.start}-{fault.start + fault.size - 1}"
  s!"'utf-8' codec can't decode {place}: {fault.reason.message}"

/-- What stands at the beginning of some bytes. -/
inductive Lead where
  | nothing
  | character (c : Char) (rest : List UInt8)
  | incomplete
  | bad (size : Nat) (reason : DecodeReason)

def isContinuation (b : UInt8) : Bool := 0x80 ≤ b.toNat && b.toNat < 0xC0

/-- Whether a second byte may follow a first byte of a character of three or four bytes. -/
def mayFollow (first second : UInt8) : Bool :=
  isContinuation second &&
    match first.toNat with
    | 0xE0 => 0xA0 ≤ second.toNat
    | 0xED => second.toNat < 0xA0
    | 0xF0 => 0x90 ≤ second.toNat
    | 0xF4 => second.toNat < 0x90
    | _ => true

/-- The value of the low six bits of a continuation byte. -/
def low6 (b : UInt8) : Nat := b.toNat % 64

/-- The first character of some bytes, or why there is none. -/
def lead : List UInt8 → Lead
  | [] => .nothing
  | a :: rest =>
    let n := a.toNat
    if n < 0x80 then .character (Char.ofNat n) rest
    else if n < 0xC2 then .bad 1 .startByte
    else if n < 0xE0 then
      match rest with
      | [] => .incomplete
      | b :: rest =>
        if isContinuation b then .character (Char.ofNat ((n - 0xC0) * 64 + low6 b)) rest
        else .bad 1 .continuationByte
    else if n < 0xF0 then
      match rest with
      | [] => .incomplete
      | b :: rest =>
        if !mayFollow a b then .bad 1 .continuationByte
        else match rest with
          | [] => .incomplete
          | c :: rest =>
            if isContinuation c then
              .character (Char.ofNat (((n - 0xE0) * 64 + low6 b) * 64 + low6 c)) rest
            else .bad 2 .continuationByte
    else if n < 0xF5 then
      match rest with
      | [] => .incomplete
      | b :: rest =>
        if !mayFollow a b then .bad 1 .continuationByte
        else match rest with
          | [] => .incomplete
          | c :: rest =>
            if !isContinuation c then .bad 2 .continuationByte
            else match rest with
              | [] => .incomplete
              | d :: rest =>
                if isContinuation d then
                  .character
                    (Char.ofNat ((((n - 0xF0) * 64 + low6 b) * 64 + low6 c) * 64 + low6 d)) rest
                else .bad 3 .continuationByte
    else .bad 1 .startByte

/-- The rest after a leading character is shorter. -/
theorem lead_rest_length {bytes rest : List UInt8} {c : Char}
    (h : lead bytes = .character c rest) : rest.length < bytes.length := by
  unfold lead at h
  split at h
  · cases h
  · simp only at h
    repeat' split at h
    all_goals cases h
    all_goals simp_all <;> omega

/-- The characters of some bytes that begin at a position, after those already read, which are
kept in reverse. -/
def decodeFrom (read : List Char) (position : Nat) (bytes : List UInt8) :
    Except DecodeFault (List Char) :=
  match _h : lead bytes with
  | .nothing => .ok read.reverse
  | .character c rest => decodeFrom (c :: read) (position + (bytes.length - rest.length)) rest
  | .incomplete => .error ⟨bytes.headD 0, position, bytes.length, .endOfData⟩
  | .bad size reason => .error ⟨bytes.headD 0, position, size, reason⟩
termination_by bytes.length
decreasing_by exact lead_rest_length _h

/-- Where some bytes cease to be UTF-8. -/
def locateFault (bytes : List UInt8) : DecodeFault :=
  match decodeFrom [] 0 bytes with
  | .ok _ => ⟨0, 0, 0, .endOfData⟩
  | .error fault => fault

def decode (bytes : ByteArray) : Except DecodeFault String :=
  match String.fromUTF8? bytes with
  | some text => .ok text
  | none => .error (locateFault bytes.data.toList)

/-- Whether bytes are the first two of a surrogate, which is told from a character by its third byte
only where bytes may follow. -/
def isCutSurrogate : List UInt8 → Bool
  | [a, b] => a == 0xED && isContinuation b && !mayFollow a b
  | _ => false

/-- The characters of the complete characters at the beginning of some bytes, and the bytes of an
incomplete character at their end. -/
def decodeComplete (read : List Char) (position : Nat) (bytes : List UInt8) :
    Except DecodeFault (List Char × List UInt8) :=
  match _h : lead bytes with
  | .nothing => .ok (read.reverse, [])
  | .character c rest => decodeComplete (c :: read) (position + (bytes.length - rest.length)) rest
  | .incomplete => .ok (read.reverse, bytes)
  | .bad size reason =>
    if isCutSurrogate bytes then .ok (read.reverse, bytes)
    else .error ⟨bytes.headD 0, position, size, reason⟩
termination_by bytes.length
decreasing_by exact lead_rest_length _h

/-- The text that some bytes encode, every faulty span replaced by the replacement character. -/
def decodeReplacing (read : List Char) (bytes : List UInt8) : List Char :=
  match _h : lead bytes with
  | .nothing => read.reverse
  | .character c rest => decodeReplacing (c :: read) rest
  | .incomplete => ('\uFFFD' :: read).reverse
  | .bad size _ =>
    match bytes with
    | [] => read.reverse
    | _ :: rest => decodeReplacing ('\uFFFD' :: read) (rest.drop (size - 1))
termination_by bytes.length
decreasing_by
  · exact lead_rest_length _h
  · simp only [List.length_drop, List.length_cons]; omega

/-- What reading a byte stream in pieces gives: the characters up to the first fault, and the
fault, if there is one. A character that is split between two pieces is carried over, so that the
positions of a fault count from the first byte not yet read as a character. -/
structure StreamText where
  chars : List Char
  fault : Option DecodeFault

/-- Reads pieces one after the other, `carried` being an incomplete character before them. -/
def decodePieces (carried : List UInt8) : List (List UInt8) → StreamText
  | [] =>
    if carried.isEmpty then ⟨[], none⟩
    else ⟨[], some (locateFault carried)⟩
  | piece :: pieces =>
    match decodeComplete [] 0 (carried ++ piece) with
    | .error fault => ⟨[], some fault⟩
    | .ok (chars, left) =>
      let later := decodePieces left pieces
      ⟨chars ++ later.chars, later.fault⟩

/-- Cuts a list into pieces of a size, the last one possibly shorter. -/
def pieces (size : Nat) (h : 0 < size) (xs : List α) : List (List α) :=
  match _hx : xs with
  | [] => []
  | _ :: _ => xs.take size :: pieces size h (xs.drop size)
termination_by xs.length
decreasing_by simp [_hx]; omega

def decodeStream (bytes : ByteArray) : StreamText :=
  match String.fromUTF8? bytes with
  | some text => ⟨text.toList, none⟩
  | none => decodePieces [] (pieces 8192 (by decide) bytes.data.toList)

end ReleasePackaging.Text
