import ReleasePackaging.Yaml.Source
import ReleasePackaging.Yaml.Tag

/-!
# Finding tokens

Tokens are found one after another, no further than the reader of the document needs. A key without
an indicator is recognised only by the colon after it; until then the place where it may begin is
kept, and the token for the key is put there when the colon comes. Indentation makes the tokens that
begin and end blocks.
-/
namespace ReleasePackaging.Yaml

/-- A place where a key may begin: the number of its token, whether only a key may stand there, and
the place itself. -/
structure KeyPlace where
  token : Nat
  required : Bool
  mark : Mark
  deriving Repr

/-- The state of finding tokens: the cursor, the number of characters that can be read if not all can
be, whether the end has been reached, how many flow
collections are open, the tokens found and not yet taken, the number of those taken, the columns of
the open blocks, whether a key may begin here, and the places of keys for each level. -/
structure Scanner where
  cursor : Cursor
  limit : Option Nat
  ended : Bool
  flowLevel : Int
  tokens : List Token
  taken : Nat
  indent : Int
  outerIndents : List Int
  keyAllowed : Bool
  keyPlaces : List (Int × KeyPlace)

abbrev Scan := StateT Scanner (Except Fault)

namespace Scanner

def start (source : Source) : Scanner :=
  let limit := if source.fault.isSome then some source.chars.length else none
  ⟨⟨source.chars, ⟨0, 0, 0⟩⟩, limit, false, 0, [], 0, -1, [], true, []⟩

def inFlow (s : Scanner) : Bool := s.flowLevel != 0

def mark (s : Scanner) : Mark := s.cursor.mark

def add (s : Scanner) (kind : TokenKind) (start stop : Mark) : Scanner :=
  { s with tokens := s.tokens ++ [⟨kind, start, stop⟩] }

def insert (s : Scanner) (number : Nat) (token : Token) : Scanner :=
  let before := number - s.taken
  { s with tokens := s.tokens.take before ++ token :: s.tokens.drop before }

def addHere (s : Scanner) (kind : TokenKind) (length : Nat) : Scanner :=
  let next := s.cursor.forward length
  { s.add kind s.cursor.mark next.mark with cursor := next }

/-- Whether a place can hold no key any more: its line has ended or it is too far back. -/
def isStale (s : Scanner) (p : KeyPlace) : Bool :=
  p.mark.line != s.mark.line || p.mark.index + 1024 < s.mark.index

def missingColon (s : Scanner) (p : KeyPlace) : Except Fault α :=
  failAt .simpleKey p.mark .missingColon s.cursor

def dropStale (s : Scanner) : Except Fault Scanner :=
  match s.keyPlaces.find? fun (_, p) => s.isStale p && p.required with
  | some (_, p) => s.missingColon p
  | none => .ok { s with keyPlaces := s.keyPlaces.filter fun (_, p) => !s.isStale p }

def keyPlace? (s : Scanner) : Option KeyPlace := s.keyPlaces.lookup s.flowLevel

/-- The scanner without the place of a key at the current level. -/
def forgetKey (s : Scanner) : Scanner :=
  { s with keyPlaces := s.keyPlaces.filter fun (level, _) => level != s.flowLevel }

def dropKey (s : Scanner) : Except Fault Scanner :=
  match s.keyPlace? with
  | some p => if p.required then s.missingColon p else .ok s.forgetKey
  | none => .ok s

def keepKey (s : Scanner) : Except Fault Scanner :=
  if s.keyAllowed then do
    let required := !s.inFlow && s.indent == s.mark.column
    let s ← s.dropKey
    let place : KeyPlace := ⟨s.taken + s.tokens.length, required, s.mark⟩
    .ok { s with keyPlaces := s.keyPlaces ++ [(s.flowLevel, place)] }
  else .ok s

/-- Ends the blocks that are indented further than a column; `fuel` bounds their number. -/
def endBlocks (column : Int) (fuel : Nat) (s : Scanner) : Scanner :=
  match fuel with
  | 0 => s
  | fuel + 1 =>
    if column < s.indent then
      endBlocks column fuel
        { s.add .blockEnd s.mark s.mark with
          indent := s.outerIndents.headD (-1)
          outerIndents := s.outerIndents.drop 1 }
    else s

/-- Ends the blocks that are indented further than a column, unless a flow collection is open. -/
def unwind (s : Scanner) (column : Int) : Scanner :=
  if s.inFlow then s else endBlocks column (s.outerIndents.length + 1) s

/-- Begins a block at a column if the column is to the right of the current block. -/
def beginBlock? (s : Scanner) (column : Int) : Option Scanner :=
  if s.indent < column then
    some { s with indent := column, outerIndents := s.indent :: s.outerIndents }
  else none

/-- Begins a block of the given kind here if the indentation asks for it. -/
def beginBlockHere (s : Scanner) (kind : TokenKind) : Scanner :=
  match s.beginBlock? s.mark.column with
  | some s => s.add kind s.mark s.mark
  | none => s

/-- Skips blanks, comments and line ends. Outside flow collections a key may begin on a new line. -/
def skipToToken (fuel : Nat) (s : Scanner) : Scanner :=
  let c := s.cursor.skip (· == ' ')
  let c := if c.head == '#' then c.skip (!isLineEnd ·) else c
  match fuel with
  | 0 => { s with cursor := c }
  | fuel + 1 =>
    if isBreak c.head then
      skipToToken fuel
        { s with cursor := c.lineBreak.2, keyAllowed := if s.inFlow then s.keyAllowed else true }
    else { s with cursor := c }

def skipOrderMark (s : Scanner) : Scanner :=
  if s.mark.index = 0 && s.cursor.head == '\uFEFF' then { s with cursor := s.cursor.next } else s

/-- Ends all blocks before a directive, a separator or the end. -/
def closeBlocks (s : Scanner) : Except Fault Scanner := do
  let s ← (s.unwind (-1)).dropKey
  .ok { s with keyAllowed := false }

def findEnd (s : Scanner) : Except Fault Scanner := do
  let s ← s.closeBlocks
  .ok { s.add .streamEnd s.mark s.mark with keyPlaces := [], ended := true }

def findDirective (s : Scanner) : Except Fault Scanner := do
  let s ← s.closeBlocks
  let (token, cursor) ← readDirective s.cursor
  .ok { s with tokens := s.tokens ++ [token], cursor }

def findFlowStart (s : Scanner) (kind : TokenKind) : Except Fault Scanner := do
  let s ← s.keepKey
  .ok (Scanner.addHere { s with flowLevel := s.flowLevel + 1, keyAllowed := true } kind 1)

def findFlowEnd (s : Scanner) (kind : TokenKind) : Except Fault Scanner := do
  let s ← s.dropKey
  .ok (Scanner.addHere { s with flowLevel := s.flowLevel - 1, keyAllowed := false } kind 1)

def findFlowEntry (s : Scanner) : Except Fault Scanner := do
  let s ← Scanner.dropKey { s with keyAllowed := true }
  .ok (s.addHere .flowEntry 1)

def refuseHere (s : Scanner) (problem : Problem) : Except Fault α :=
  .error ⟨none, problem, s.mark⟩

def findBlockEntry (s : Scanner) : Except Fault Scanner := do
  if !s.inFlow && !s.keyAllowed then s.refuseHere .sequenceEntryHere
  else
    let s := if s.inFlow then s else s.beginBlockHere .blockSequenceStart
    let s ← Scanner.dropKey { s with keyAllowed := true }
    .ok (s.addHere .blockEntry 1)

def findKey (s : Scanner) : Except Fault Scanner := do
  if !s.inFlow && !s.keyAllowed then s.refuseHere .keyHere
  else
    let s := if s.inFlow then s else s.beginBlockHere .blockMappingStart
    let s ← Scanner.dropKey { s with keyAllowed := !s.inFlow }
    .ok (s.addHere .key 1)

/-- Finds the colon before a value. If a key may have begun at this level, its token is put there. -/
def findValue (s : Scanner) : Except Fault Scanner := do
  match s.keyPlace? with
  | some p =>
    let s := s.forgetKey.insert p.token ⟨.key, p.mark, p.mark⟩
    let s := if s.inFlow then s else
      match s.beginBlock? p.mark.column with
      | some s => s.insert p.token ⟨.blockMappingStart, p.mark, p.mark⟩
      | none => s
    .ok (Scanner.addHere { s with keyAllowed := false } .value 1)
  | none =>
    if !s.inFlow && !s.keyAllowed then s.refuseHere .valueHere
    else
      let s := if s.inFlow then s else s.beginBlockHere .blockMappingStart
      let s ← Scanner.dropKey { s with keyAllowed := !s.inFlow }
      .ok (s.addHere .value 1)

def findContent (s : Scanner) (read : Scanner → Except Fault (TokenKind × Mark × Bool × Cursor)) :
    Except Fault Scanner := do
  let s ← s.keepKey
  let (kind, stop, keyAllowed, cursor) ← read s
  .ok { s.add kind s.mark stop with cursor, keyAllowed }

def findBlock (s : Scanner) (folded : Bool) : Except Fault Scanner := do
  let s ← Scanner.dropKey { s with keyAllowed := true }
  let (text, stop, cursor) ← readBlock folded s.indent s.cursor
  .ok { s.add (.scalar (String.ofList text) false) s.mark stop with cursor }

def atPlain (s : Scanner) : Bool :=
  let c := s.cursor.head
  !(isSpaceEnd c || "-?:,[]#&*!|>'\"%@".toList.contains c || c == '\x7b' || c == '\x7d' ||
    c == '\x60') ||
  (!isSpaceEnd (s.cursor.peek 1) && (c == '-' || (!s.inFlow && (c == '?' || c == ':'))))

/-- Reads the content that begins with a character, where it is no indicator of another kind. -/
def findScalar (s : Scanner) (c : Char) : Except Fault Scanner :=
  if c == '*' then s.findContent fun s => do
    let (name, cursor) ← readName .alias s.cursor
    .ok (.alias name, cursor.mark, false, cursor)
  else if c == '&' then s.findContent fun s => do
    let (name, cursor) ← readName .anchor s.cursor
    .ok (.anchor name, cursor.mark, false, cursor)
  else if c == '!' then s.findContent fun s => do
    let (handle, suffix, cursor) ← readTag s.cursor
    .ok (.tag handle suffix, cursor.mark, false, cursor)
  else if c == '|' && !s.inFlow then s.findBlock false
  else if c == '>' && !s.inFlow then s.findBlock true
  else if c == '\'' || c == '"' then s.findContent fun s => do
    let (text, cursor) ← readQuoted s.cursor
    .ok (.scalar (String.ofList text) false, cursor.mark, false, cursor)
  else if s.atPlain then s.findContent fun s =>
    let (r, cursor) := readPlain s.inFlow (s.indent + 1) s.cursor
    .ok (.scalar (String.ofList r.text) true, r.stop, r.lineEnded, cursor)
  else .error ⟨some (.nextToken, none), .cannotStart c, s.mark⟩

def findNext (s : Scanner) : Except Fault Scanner := do
  let s := s.skipOrderMark
  let s ← (skipToToken (s.cursor.rest.length + 1) s).dropStale
  let s := s.unwind s.mark.column
  let c := s.cursor.head
  let atStart := s.mark.column = 0
  if c == '\x00' then s.findEnd
  else if c == '%' && atStart then s.findDirective
  else if atStart && (c == '-' || c == '.') && s.cursor.atSeparator then do
    let s ← s.closeBlocks
    .ok (s.addHere (if c == '-' then .documentStart else .documentEnd) 3)
  else if c == '[' then s.findFlowStart .flowSequenceStart
  else if c == '\x7b' then s.findFlowStart .flowMappingStart
  else if c == ']' then s.findFlowEnd .flowSequenceEnd
  else if c == '\x7d' then s.findFlowEnd .flowMappingEnd
  else if c == ',' then s.findFlowEntry
  else if c == '-' && isSpaceEnd (s.cursor.peek 1) then s.findBlockEntry
  else if c == '?' && (s.inFlow || isSpaceEnd (s.cursor.peek 1)) then s.findKey
  else if c == ':' && (s.inFlow || isSpaceEnd (s.cursor.peek 1)) then s.findValue
  else s.findScalar c

/-- Finds the next tokens unless the search comes to a place where the text cannot be read. -/
def findReadable (s : Scanner) : Except Fault Scanner :=
  let stuck (mark : Mark) : Bool := s.limit.any (· ≤ mark.index)
  match s.findNext with
  | .ok next => if stuck next.mark then .error ⟨none, .unreadable, next.mark⟩ else .ok next
  | .error f => .error (if stuck f.mark then ⟨none, .unreadable, f.mark⟩ else f)

/-- Whether the first token that is left may still turn out to be a key, after giving up the places
that can hold no key. -/
def firstIsOpen (s : Scanner) : Bool :=
  let numbers := s.keyPlaces.map fun (_, p) => p.token
  numbers.contains s.taken && numbers.all (s.taken ≤ ·)

/-- Finds tokens until the first one that is left is certain; `fuel` bounds the number of searches. -/
def settle (fuel : Nat) (s : Scanner) : Except Fault Scanner :=
  if s.ended then .ok s
  else
    match fuel, s.tokens with
    | 0, _ => .ok s
    | fuel + 1, [] => do settle fuel (← s.findReadable)
    | fuel + 1, _ => do
      let s ← s.dropStale
      if s.firstIsOpen then settle fuel (← s.findReadable) else .ok s

end Scanner

namespace Scan

def lastToken (s : Scanner) : Token := ⟨.streamEnd, s.mark, s.mark⟩

def peek : Scan Token := fun s => do
  let s ← Scanner.settle (2 * s.cursor.rest.length + 4) s
  .ok (s.tokens.headD (lastToken s), s)

def take : Scan Token := do
  let token ← peek
  modify fun s => { s with tokens := s.tokens.drop 1, taken := s.taken + 1 }
  return token

end Scan

end ReleasePackaging.Yaml
