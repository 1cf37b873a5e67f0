import ReleasePackaging.Value.Literal
import ReleasePackaging.VersionFile.Text

/-!
# Formatted texts

A formatted text holds fields between braces, each with an expression in it and perhaps a letter for
the way in which its value is shown. A brace that is written twice stands for itself. The text is taken
apart piece by piece; what an expression says is read elsewhere.
-/
namespace ReleasePackaging.VersionFile

/-- A part of a text: its characters, and what follows them. -/
abbrev PartOfText := Except FieldProblem (List Char × List Char)

def PartOfText.after (taken : List Char) (part : PartOfText) : PartOfText :=
  part.map fun (cs, rest) => (taken ++ cs, rest)

/-- The plain part at the beginning of a formatted text, and what follows it: a field from its opening
brace on, or, if the part ends in a brace, what stands behind that brace written twice. -/
def plainPart (fuel : Nat) (isRaw : Bool) (cs : List Char) : PartOfText :=
  match fuel, cs with
  | 0, _ | _, [] => .ok ([], [])
  | fuel + 1, '\\' :: 'N' :: '\x7b' :: rest =>
    if isRaw then .after ['\\', 'N'] (plainPart fuel isRaw ('\x7b' :: rest))
    else
      let taken := (rest.takeWhile (· != '\x7d')).length + 1
      .after ('\\' :: 'N' :: '\x7b' :: rest.take taken) (plainPart fuel isRaw (rest.drop taken))
  | fuel + 1, '\\' :: c :: rest =>
    if isRaw || c == '\x7b' || c == '\x7d' then .after ['\\'] (plainPart fuel isRaw (c :: rest))
    else .after ['\\', c] (plainPart fuel isRaw rest)
  | _, '\x7b' :: '\x7b' :: rest => .ok (['\x7b'], rest)
  | _, '\x7d' :: '\x7d' :: rest => .ok (['\x7d'], rest)
  | _, '\x7d' :: _ => .error .strayBrace
  | _, '\x7b' :: _ => .ok ([], cs)
  | fuel + 1, c :: rest => .after [c] (plainPart fuel isRaw rest)

def quotesOf (cs : List Char) : List Char :=
  let quote := cs.take 1
  let three := quote ++ quote ++ quote
  if three.isPrefixOf cs then three else quote

/-- The expression at the beginning of a field, and what follows it; `quotes` are those of a text that is
open, and `brackets` those that are open, the innermost first. -/
def expressionPart (fuel : Nat) (quotes brackets cs : List Char) : PartOfText :=
  match fuel, cs with
  | 0, _ | _, [] =>
    if !quotes.isEmpty then .error .openText
    else
      match brackets with
      | bracket :: _ => .error (.openBracket bracket)
      | [] => .error .openBrace
  | fuel + 1, c :: rest =>
    if c == '\\' then .error .backslash
    else if !quotes.isEmpty then
      if quotes.isPrefixOf cs then
        .after quotes (expressionPart fuel [] brackets (cs.drop quotes.length))
      else .after [c] (expressionPart fuel quotes brackets rest)
    else if c == '"' || c == '\'' then
      let quotes := quotesOf cs
      .after quotes (expressionPart fuel quotes brackets (cs.drop quotes.length))
    else if ['(', '[', '\x7b'].contains c then .after [c] (expressionPart fuel [] (c :: brackets) rest)
    else if c == '#' then .error .numberSign
    else if brackets.isEmpty && ['!', ':', '\x7d', '=', '<', '>'].contains c then
      if rest.head? == some '=' && c != ':' && c != '\x7d' then
        .after (cs.take 2) (expressionPart fuel [] [] (cs.drop 2))
      else if c == '<' || c == '>' then .after [c] (expressionPart fuel [] [] rest)
      else .ok ([], cs)
    else if [')', ']', '\x7d'].contains c then
      match brackets with
      | [] => .error (.strayBracket c)
      | bracket :: outer =>
        if [('(', ')'), ('[', ']'), ('\x7b', '\x7d')].contains (bracket, c) then
          .after [c] (expressionPart fuel [] outer rest)
        else .error (.wrongBracket c bracket)
    else .after [c] (expressionPart fuel [] brackets rest)

def isLeftOut (expression : List Char) : Bool := expression.all fun c => [' ', '\t', '\n', '\x0c'].contains c

def leftOutProblem (next : Option Char) : FieldProblem :=
  match next with
  | some '\x7d' | none => .noExpression none
  | some c => .noExpression (some c)

/-- The end of a field behind its expression: the letter for the way of showing, and what follows the
field. -/
def fieldEnd (cs : List Char) : Except FieldProblem (Option Char × List Char) := do
  let (shown, rest) ← match cs with
    | ['!'] => .error .openBrace
    | '!' :: c :: rest =>
      if ['s', 'r', 'a'].contains c then Except.ok (some c, rest) else .error .wrongLetter
    | _ => .ok (none, cs)
  let rest := match rest with
    | ':' :: form => form.dropWhile fun c => c != '\x7b' && c != '\x7d'
    | _ => rest
  match rest with
  | '\x7d' :: rest => return (shown, rest)
  | _ => .error .openBrace

def escapedText (text : String) : String :=
  String.ofList <| text.toList.flatMap fun c =>
    let n := c.toNat
    if n < 128 then [c]
    else if n < 256 then '\\' :: 'x' :: Text.hexPadded 2 n
    else if n < 65536 then '\\' :: 'u' :: Text.hexPadded 4 n
    else '\\' :: 'U' :: Text.hexPadded 8 n

def shownText (shown : Option Char) (v : Value) : String :=
  match shown with
  | some 'r' => v.literal
  | some 'a' => escapedText v.literal
  | _ => v.plain

end ReleasePackaging.VersionFile
