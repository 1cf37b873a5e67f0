import ReleasePackaging.Yaml.Cursor

/-!
# Scalars in the text

The three forms of a scalar: plain, between quotes, and as a block below an indicator. Lines of a
scalar are folded: a single line break counts as a blank, further ones count themselves. A block of
the literal form keeps its lines.
-/
namespace ReleasePackaging.Yaml

/-- The characters that a line break and the breaks after it leave in a folded scalar. -/
def foldedBreaks (first breaks : List Char) : List Char :=
  (if first != ['\n'] then first else if breaks.isEmpty then [' '] else []) ++ breaks

/-! ## Between quotes -/

def quotedBreaks (start : Mark) (fuel : Nat) (s : Cursor) : Except Fault (List Char × Cursor) :=
  if s.atSeparator then failAt .quoted start .documentSeparator s
  else
    let s := s.skip fun c => c == ' ' || c == '\t'
    match fuel with
    | 0 => .ok ([], s)
    | fuel + 1 =>
      if isBreak s.head then do
        let (first, s) := s.lineBreak
        let (more, s) ← quotedBreaks start fuel s
        .ok (first ++ more, s)
      else .ok ([], s)

/-- The character that a letter after a backslash stands for. -/
def escapedChar? : Char → Option Char
  | '0' => some '\x00'
  | 'a' => some '\x07'
  | 'b' => some '\x08'
  | 't' => some '\t'
  | '\t' => some '\t'
  | 'n' => some '\n'
  | 'v' => some '\x0b'
  | 'f' => some '\x0c'
  | 'r' => some '\r'
  | 'e' => some '\x1b'
  | ' ' => some ' '
  | '"' => some '"'
  | '\\' => some '\\'
  | '/' => some '/'
  | 'N' => some '\x85'
  | '_' => some '\xa0'
  | 'L' => some '\u2028'
  | 'P' => some '\u2029'
  | _ => none

/-- The number of hexadecimal digits after a letter that announces a code point. -/
def escapeWidth? : Char → Option Nat
  | 'x' => some 2
  | 'u' => some 4
  | 'U' => some 8
  | _ => none

def isHexDigit (c : Char) : Bool :=
  c.isDigit || ('a' ≤ c && c ≤ 'f') || ('A' ≤ c && c ≤ 'F')

def hexNumber (cs : List Char) : Nat :=
  cs.foldl (fun n c =>
    let d := c.toNat
    n * 16 + (if c.isDigit then d - 0x30 else if 0x61 ≤ d then d - 0x61 + 10 else d - 0x41 + 10)) 0

/-- The character of a code point; a surrogate is replaced. -/
def charOf (n : Nat) : Char := if Nat.isValidChar n then Char.ofNat n else '\uFFFD'

def readEscape (start : Mark) (s : Cursor) : Except Fault (List Char × Cursor) :=
  let c := s.head
  match escapedChar? c with
  | some x => .ok ([x], s.next)
  | none =>
    match escapeWidth? c with
    | some width =>
      let s := s.next
      match (List.range width).find? fun n => !isHexDigit (s.peek n) with
      | some n => failAt .doubleQuoted start (.notHexadecimal width (s.peek n)) s
      | none =>
        let n := hexNumber (s.rest.take width)
        if 0x10FFFF < n then failAt .doubleQuoted start (.notCodePoint n) s
        else .ok ([charOf n], s.forward width)
    | none =>
      if isBreak c then
        quotedBreaks start s.rest.length s.lineBreak.2
      else failAt .doubleQuoted start (.unknownEscape c) s

/-- The characters of a quoted scalar up to a blank, a line end or the closing quote. -/
def quotedWord (double : Bool) (start : Mark) (fuel : Nat) (s : Cursor) :
    Except Fault (List Char × Cursor) :=
  let (cs, s) := s.span fun c => !(c == '\'' || c == '"' || c == '\\' || isSpaceEnd c)
  match fuel with
  | 0 => .ok (cs, s)
  | fuel + 1 =>
    let c := s.head
    if !double && c == '\'' && s.peek 1 == '\'' then do
      let (more, s) ← quotedWord double start fuel (s.forward 2)
      .ok (cs ++ '\'' :: more, s)
    else if (double && c == '\'') || (!double && (c == '"' || c == '\\')) then do
      let (more, s) ← quotedWord double start fuel s.next
      .ok (cs ++ c :: more, s)
    else if double && c == '\\' then do
      let (xs, s) ← readEscape start s.next
      let (more, s) ← quotedWord double start fuel s
      .ok (cs ++ xs ++ more, s)
    else .ok (cs, s)

/-- The blanks of a quoted scalar, folded if a line ends among them. -/
def quotedSpaces (start : Mark) (s : Cursor) : Except Fault (List Char × Cursor) :=
  let (blanks, s) := s.span fun c => c == ' ' || c == '\t'
  if s.head == '\x00' then failAt .quoted start .endOfStream s
  else if isBreak s.head then do
    let (first, s) := s.lineBreak
    let (breaks, s) ← quotedBreaks start s.rest.length s
    .ok (foldedBreaks first breaks, s)
  else .ok (blanks, s)

def quotedRest (quote : Char) (start : Mark) (fuel : Nat) (s : Cursor) :
    Except Fault (List Char × Cursor) :=
  if s.head == quote then .ok ([], s.next)
  else
    match fuel with
    | 0 => failAt .quoted start .endOfStream s
    | fuel + 1 => do
      let (blanks, s) ← quotedSpaces start s
      let (word, s) ← quotedWord (quote == '"') start (s.rest.length + 1) s
      let (more, s) ← quotedRest quote start fuel s
      .ok (blanks ++ word ++ more, s)

def readQuoted (s : Cursor) : Except Fault (List Char × Cursor) := do
  let start := s.mark
  let quote := s.head
  let (word, s) ← quotedWord (quote == '"') start (s.rest.length + 1) s.next
  let (more, s) ← quotedRest quote start (s.rest.length + 1) s
  .ok (word ++ more, s)

/-! ## Plain -/

/-- The breaks of the empty lines that follow in a plain scalar; none if a document ends there. -/
def plainBreaks? (fuel : Nat) (s : Cursor) : Option (List Char) × Cursor :=
  match fuel with
  | 0 => (some [], s)
  | fuel + 1 =>
    if s.head == ' ' then plainBreaks? fuel s.next
    else if isBreak s.head then
      let (first, s) := s.lineBreak
      if s.atSeparator then (none, s)
      else
        let (more, s) := plainBreaks? fuel s
        (more.map (first ++ ·), s)
    else (some [], s)

/-- The blanks after a word of a plain scalar, folded if a line ends among them; whether a line has
ended; none if a document ends there. -/
def plainSpaces (s : Cursor) : Option (List Char) × Bool × Cursor :=
  let (blanks, s) := s.span (· == ' ')
  if isBreak s.head then
    let (first, s) := s.lineBreak
    if s.atSeparator then (none, true, s)
    else
      let (breaks, s) := plainBreaks? (s.rest.length + 1) s
      (breaks.map (foldedBreaks first), true, s)
  else (some blanks, false, s)

def isFlowIndicator (c : Char) : Bool :=
  c == ',' || c == '[' || c == ']' || c == '\x7b' || c == '\x7d'

def plainWord (inFlow : Bool) : List Char → List Char
  | [] => []
  | c :: rest =>
    let after := rest.headD '\x00'
    if isSpaceEnd c || (c == ':' && (isSpaceEnd after || (inFlow && isFlowIndicator after))) ||
        (inFlow && (c == '?' || isFlowIndicator c)) then []
    else c :: plainWord inFlow rest

/-- What reading a plain scalar gives: its text, its end, and whether a line has ended since its
last word. -/
structure PlainReading where
  text : List Char
  stop : Mark
  lineEnded : Bool

/-- Reads the words of a plain scalar after some blanks; `indent` is the least column of its further
lines outside flow collections. -/
def plainWords (inFlow : Bool) (indent : Int) (fuel : Nat) (done : PlainReading)
    (blanks : List Char) (s : Cursor) : PlainReading × Cursor :=
  if s.head == '#' then (done, s)
  else
    let word := plainWord inFlow s.rest
    if word.isEmpty then (done, s)
    else
      let s := s.forward word.length
      let text := done.text ++ blanks ++ word
      let (spaces, ended, next) := plainSpaces s
      let reading : PlainReading := ⟨text, s.mark, ended⟩
      match fuel, spaces with
      | 0, _ | _, none | _, some [] => (reading, next)
      | fuel + 1, some blanks =>
        if next.head == '#' || (!inFlow && next.mark.column < indent) then (reading, next)
        else plainWords inFlow indent fuel reading blanks next

def readPlain (inFlow : Bool) (indent : Int) (s : Cursor) : PlainReading × Cursor :=
  plainWords inFlow indent (s.rest.length + 1) ⟨[], s.mark, false⟩ [] s

/-! ## Blocks -/

/-- What becomes of the line breaks at the end of a block. -/
inductive Chomping where
  | strip | clip | keep
  deriving DecidableEq, Repr

def chompingOf? : Char → Option Chomping
  | '+' => some .keep
  | '-' => some .strip
  | _ => none

def readIndentation (start : Mark) (s : Cursor) : Except Fault (Option Nat × Cursor) :=
  let c := s.head
  if c.isDigit then
    if c == '0' then failAt .blockScalar start .zeroIndentation s
    else .ok (some (c.toNat - 0x30), s.next)
  else .ok (none, s)

/-- Reads the indicators of a block: its chomping and its indentation, in either order. -/
def readIndicators (start : Mark) (s : Cursor) :
    Except Fault (Chomping × Option Nat × Cursor) := do
  let (chomping, indentation, s) ← match chompingOf? s.head with
    | some chomping => do
      let (indentation, s) ← readIndentation start s.next
      pure (chomping, indentation, s)
    | none => do
      let (indentation, s) ← readIndentation start s
      match indentation, chompingOf? s.head with
      | some n, some chomping => pure (chomping, some n, s.next)
      | _, _ => pure (.clip, indentation, s)
  if isBlankEnd s.head then .ok (chomping, indentation, s)
  else failAt .blockScalar start (.notIndicator s.head) s

/-- The cursor after the rest of a line that holds blanks and a comment at most. -/
def skipRestOfLine (context : Context) (start : Mark) (s : Cursor) : Except Fault Cursor :=
  let s := s.skip (· == ' ')
  let s := if s.head == '#' then s.skip (!isLineEnd ·) else s
  if isLineEnd s.head then .ok s.lineBreak.2
  else failAt context start (.notLineEnd s.head) s

/-- The breaks before the first line of a block, the greatest column of blanks among them, and the
place after the last break. -/
def leadingBreaks (fuel : Nat) (breaks : List Char) (column : Nat) (stop : Mark) (s : Cursor) :
    List Char × Nat × Mark × Cursor :=
  match fuel with
  | 0 => (breaks, column, stop, s)
  | fuel + 1 =>
    if isBreak s.head then
      let (first, s) := s.lineBreak
      leadingBreaks fuel (breaks ++ first) column s.mark s
    else if s.head == ' ' then
      let s := s.next
      leadingBreaks fuel breaks (max column s.mark.column) stop s
    else (breaks, column, stop, s)

def skipToColumn (column : Nat) (s : Cursor) : Cursor :=
  s.forward (min ((s.rest.takeWhile (· == ' ')).length) (column - s.mark.column))

/-- The breaks of the empty lines that follow in a block, and the place after the last one. -/
def blockBreaks (indent fuel : Nat) (breaks : List Char) (stop : Mark) (s : Cursor) :
    List Char × Mark × Cursor :=
  let s := skipToColumn indent s
  match fuel with
  | 0 => (breaks, stop, s)
  | fuel + 1 =>
    if isBreak s.head then
      let (first, s) := s.lineBreak
      blockBreaks indent fuel (breaks ++ first) s.mark s
    else (breaks, stop, s)

/-- Reads the lines of a block after some breaks: its text, the last line break, the breaks after it
and the place of the end. -/
def blockLines (folded : Bool) (indent fuel : Nat) (text breaks last : List Char) (stop : Mark)
    (s : Cursor) : List Char × List Char × List Char × Mark × Cursor :=
  match fuel with
  | 0 => (text, last, breaks, stop, s)
  | fuel + 1 =>
    if s.mark.column = indent && s.head != '\x00' then
      let wordFirst := !(s.head == ' ' || s.head == '\t')
      let (line, s) := s.span (!isLineEnd ·)
      let text := text ++ breaks ++ line
      let (last, s) := s.lineBreak
      let (breaks, stop, s) := blockBreaks indent (s.rest.length + 1) [] s.mark s
      if s.mark.column = indent && s.head != '\x00' then
        let joined :=
          if folded && last == ['\n'] && wordFirst && !(s.head == ' ' || s.head == '\t') then
            if breaks.isEmpty then [' '] else []
          else last
        blockLines folded indent fuel (text ++ joined) breaks [] stop s
      else (text, last, breaks, stop, s)
    else (text, last, breaks, stop, s)

/-- Reads a block scalar in a block of the given indentation: its text and its end. -/
def readBlock (folded : Bool) (outer : Int) (s : Cursor) :
    Except Fault (List Char × Mark × Cursor) := do
  let start := s.mark
  let (chomping, indentation, s) ← readIndicators start s.next
  let s ← skipRestOfLine .blockScalar start s
  let least := (max (outer + 1) 1).toNat
  let (indent, breaks, stop, s) := match indentation with
    | none =>
      let (breaks, column, stop, s) := leadingBreaks (s.rest.length + 1) [] 0 s.mark s
      (max least column, breaks, stop, s)
    | some n =>
      let indent := least + n - 1
      let (breaks, stop, s) := blockBreaks indent (s.rest.length + 1) [] s.mark s
      (indent, breaks, stop, s)
  let (text, last, breaks, stop, s) :=
    blockLines folded indent (s.rest.length + 1) [] breaks [] stop s
  let tail := match chomping with
    | .strip => []
    | .clip => last
    | .keep => last ++ breaks
  .ok (text ++ tail, stop, s)

end ReleasePackaging.Yaml
