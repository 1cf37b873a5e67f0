import ReleasePackaging.Text.NameChar
import ReleasePackaging.Text.Printable
import ReleasePackaging.VersionFile.Numeral
import ReleasePackaging.VersionFile.Text

/-!
# Lexemes of a version file

The text is cut into names, numerals, literal texts and signs, with the ends of lines and changes of
indentation between them. Inside brackets line ends do not count. Cutting goes on up to the first
place where no lexeme stands, which is a fault only if reading comes that far or fails before.
-/
namespace ReleasePackaging.VersionFile

inductive Form where
  | name (text : String)
  | numeral (v : Value)
  | text (m : Marks) (content : List Char)
  | sign (text : String)
  | lineEnd
  | indent
  | dedent
  | finish
  deriving DecidableEq, Repr, Inhabited

/-- A lexeme, the line it starts on, and whether it stands inside brackets. -/
structure Lexeme where
  form : Form
  line : Nat
  isInside : Bool
  deriving DecidableEq, Repr, Inhabited

/-- An opening bracket that has not been closed yet. -/
structure Opening where
  bracket : Char
  line : Nat
  deriving DecidableEq, Repr

def deepest : Nat := 200

/-- Where cutting stands: what is left, the line, the open brackets and the indentation, the
innermost first, whether a line is to start, and whether it has had a lexeme. -/
structure Cutter where
  rest : List Char
  line : Nat
  openings : List Opening
  indents : List Nat
  atStart : Bool
  isUsed : Bool

/-- Why cutting stops: a problem at a line, and the innermost bracket that is open there. -/
structure Halt where
  line : Nat
  problem : Problem
  opening : Option Opening
  deriving DecidableEq, Repr

/-- The lexemes of a text, and what stands after them if that is not its end. -/
structure Lexemes where
  lexemes : List Lexeme
  halt : Option Halt

/-- Whether a character stands in a word; outside ASCII every character does. -/
def inName (c : Char) : Bool := c.isAlphanum || c == '_' || 128 ≤ c.toNat

def strayInName? (word : List Char) : Option Char :=
  match word with
  | [] => none
  | c :: rest => if Text.beginsName c then rest.find? (!Text.goesOnWithName ·) else some c

def nameProblem? (word : List Char) : Option Problem :=
  (strayInName? word).map fun c =>
    if Text.isPrintable c then .strangeCharacter c else .unprintableCharacter c

/-- The marks that a word before a quote gives to a literal text. -/
def marks? (word : List Char) : Option Marks :=
  match (String.ofList word).toLower with
  | "" | "u" => some ⟨false, false, false⟩
  | "r" => some ⟨false, true, false⟩
  | "f" => some ⟨false, false, true⟩
  | "fr" | "rf" => some ⟨false, true, true⟩
  | "b" => some ⟨true, false, false⟩
  | "br" | "rb" => some ⟨true, true, false⟩
  | _ => none

/-- The content of a literal text up to its quotes, and what is left after them. -/
def untilQuotes (quotes : List Char) : List Char → Option (List Char × List Char)
  | [] => none
  | '\\' :: c :: rest => (untilQuotes quotes rest).map fun (cs, more) => ('\\' :: c :: cs, more)
  | c :: rest =>
    if quotes.isPrefixOf (c :: rest) then some ([], rest.drop (quotes.length - 1))
    else if quotes.length = 1 && c == '\n' then none
    else (untilQuotes quotes rest).map fun (cs, more) => (c :: cs, more)

/-- The line ends that are read before a literal text on one line turns out to be open. -/
def joinedLines : List Char → Nat
  | ['\\', '\n'] => 0
  | '\\' :: '\n' :: rest => joinedLines rest + 1
  | '\\' :: _ :: rest => joinedLines rest
  | '\n' :: _ | [] => 0
  | _ :: rest => joinedLines rest

/-- Signs of more than one character, the longer ones first. -/
def longSigns : List String :=
  ["**=", "...", "//=", "<<=", ">>=", "!=", "%=", "&=", "**", "*=", "+=", "-=", "->", "//", "/=",
   ":=", "<<", "<=", "<>", "==", ">=", ">>", "@=", "^=", "|="]

def signOf (cs : List Char) : String :=
  match longSigns.find? fun s => s.toList.isPrefixOf cs with
  | some s => s
  | none => String.ofList (cs.take 1)

/-- The column at which a line starts, and what is left. -/
def indentation (column : Nat) : List Char → Nat × List Char
  | ' ' :: rest => indentation (column + 1) rest
  | '\t' :: rest => indentation ((column / 8 + 1) * 8) rest
  | '\x0c' :: rest => indentation 0 rest
  | cs => (column, cs)

namespace Cutter

/-- A lexeme of a form, at the current line. -/
def lexeme (c : Cutter) (form : Form) : Lexeme := ⟨form, c.line, !c.openings.isEmpty⟩

def halt (c : Cutter) (line : Nat) (p : Problem) : Halt := ⟨line, p, c.openings.head?⟩

/-- Stops at the end of the text, which comes too early. -/
def haltAtEnd (c : Cutter) : Halt :=
  match c.openings with
  | o :: _ => c.halt o.line (.openBracket o.bracket)
  | [] => c.halt c.line .unexpectedEnd

/-- Cuts a literal text whose quotes come next. -/
def cutText (c : Cutter) (m : Marks) (cs : List Char) : Except Halt (Lexeme × Cutter) :=
  let quote := cs.take 1
  let quotes := if (quote ++ quote ++ quote).isPrefixOf cs then quote ++ quote ++ quote else quote
  let body := cs.drop quotes.length
  match untilQuotes quotes body with
  | some (content, rest) =>
    .ok (c.lexeme (.text m content), { c with rest := rest, line := c.line + content.count '\n' })
  | none =>
    let isLong := quotes.length = 3
    let last :=
      if isLong then c.line + body.count '\n' - (if body.getLast? = some '\n' then 1 else 0)
      else c.line + joinedLines body
    .error (c.halt c.line (.openText isLong last))

def cutSign (c : Cutter) (first : Char) : Except Halt (Lexeme × Cutter) :=
  if ['(', '[', '\x7b'].contains first then
    let opened := { c with rest := c.rest.drop 1, openings := ⟨first, c.line⟩ :: c.openings }
    if deepest < opened.openings.length then .error (c.halt c.line .tooDeep)
    else .ok (opened.lexeme (.sign (String.ofList [first])), opened)
  else if [')', ']', '\x7d'].contains first then
    match c.openings with
    | [] => .error (c.halt c.line (.strayBracket first))
    | o :: outer =>
      if [('(', ')'), ('[', ']'), ('\x7b', '\x7d')].contains (o.bracket, first) then
        let c := { c with rest := c.rest.drop 1, openings := outer }
        .ok (c.lexeme (.sign (String.ofList [first])), c)
      else
        let line := if o.line = c.line then none else some o.line
        .error (c.halt c.line (.wrongBracket first o.bracket line))
  else
    let sign := signOf c.rest
    .ok (c.lexeme (.sign sign), { c with rest := c.rest.drop sign.length })

def cutLexeme (c : Cutter) (first : Char) : Except Halt (Lexeme × Cutter) :=
  let next := (c.rest.drop 1).head?
  if first.isDigit || (first == '.' && next.any Char.isDigit) then
    match readNumeral c.rest with
    | .ok (v, rest) => .ok (c.lexeme (.numeral v), { c with rest := rest })
    | .error p => .error (c.halt c.line (.numeral p))
  else if first == '"' || first == '\'' then c.cutText ⟨false, false, false⟩ c.rest
  else if inName first then
    let word := c.rest.takeWhile inName
    let rest := c.rest.drop word.length
    match marks? word, rest.head? with
    | some m, some '"' | some m, some '\'' => c.cutText m rest
    | _, _ =>
      match nameProblem? word with
      | some p => .error (c.halt c.line p)
      | none => .ok (c.lexeme (.name (String.ofList word)), { c with rest := rest })
  else if first.toNat < 32 || first.toNat = 127 then
    .error (c.halt c.line (.unprintableCharacter first))
  else c.cutSign first

/-- The changes of indentation at a column, and the indentation after them. -/
def reindent (column : Nat) : List Nat → Option (List Form × List Nat)
  | [] => some (if column = 0 then ([], []) else ([.indent], [column]))
  | top :: outer =>
    if column = top then some ([], top :: outer)
    else if top < column then some ([.indent], column :: top :: outer)
    else
      match reindent column outer with
      | some ([.indent], _) | none => none
      | some (forms, indents) => some (.dedent :: forms, indents)

def cutAll (fuel : Nat) (c : Cutter) : Lexemes :=
  match fuel with
  | 0 => ⟨[], none⟩
  | fuel + 1 =>
    if c.atStart && c.openings.isEmpty then
      let (column, rest) := indentation 0 c.rest
      let c := { c with rest := rest, atStart := false }
      match rest with
      | '\n' :: _ | '#' :: _ | [] | '\\' :: _ => cutAll fuel c
      | _ =>
        match reindent column c.indents with
        | none => ⟨[], some (c.halt c.line .unevenIndent)⟩
        | some (forms, indents) =>
          let more := cutAll fuel { c with indents := indents }
          { more with lexemes := forms.map c.lexeme ++ more.lexemes }
    else
      match c.rest with
      | [] =>
        match c.openings with
        | [] => ⟨[c.lexeme .finish], none⟩
        | _ :: _ => ⟨[], some c.haltAtEnd⟩
      | ' ' :: rest | '\t' :: rest | '\x0c' :: rest => cutAll fuel { c with rest := rest }
      | '#' :: rest => cutAll fuel { c with rest := rest.dropWhile (· != '\n') }
      | '\\' :: '\n' :: rest =>
        if rest.isEmpty then ⟨[], some c.haltAtEnd⟩
        else cutAll fuel { c with rest := rest, line := c.line + 1 }
      | '\\' :: _ => ⟨[], some (c.halt c.line .joinedLine)⟩
      | '\n' :: rest =>
        let next := { c with rest := rest, line := c.line + 1, atStart := c.openings.isEmpty }
        if c.openings.isEmpty && c.isUsed then
          let more := cutAll fuel { next with isUsed := false }
          { more with lexemes := c.lexeme .lineEnd :: more.lexemes }
        else cutAll fuel next
      | first :: _ =>
        match c.cutLexeme first with
        | .error halt => ⟨[], some halt⟩
        | .ok (l, c) =>
          let more := cutAll fuel { c with isUsed := true }
          { more with lexemes := l :: more.lexemes }

end Cutter

/-- Cuts a text into lexemes. A last line that is not ended counts as ended. -/
def lexemes (cs : List Char) : Lexemes :=
  let cs := if cs.getLast?.any (· != '\n') then cs ++ ['\n'] else cs
  Cutter.cutAll (2 * cs.length + 2) ⟨cs, 1, [], [], true, false⟩

end ReleasePackaging.VersionFile
