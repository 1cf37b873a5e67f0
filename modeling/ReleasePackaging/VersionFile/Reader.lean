import ReleasePackaging.Text.Compatibility
import ReleasePackaging.VersionFile.Formatted
import ReleasePackaging.VersionFile.Lexeme
import ReleasePackaging.VersionFile.Term

/-!
# Reading terms

Terms are read from lexemes: operations by the rank of their operators, displays item by item. Where no
term can be read, the fault is at the lexeme that does not fit, unless what stands there shows what
is wrong; a fault of cutting that lies further on comes before it.
-/
namespace ReleasePackaging.VersionFile

/-- Why reading stops: cutting has stopped there, or a problem at a line, with the last line that
reading has come to. -/
inductive Refusal where
  | cut
  | problem (line reached : Nat) (p : Problem)
  deriving DecidableEq, Repr

/-- Where reading stands: the lexemes that are left, the last line that it has come to, and whether it
looks for what is wrong with lexemes that do not fit. -/
structure Reading where
  rest : List Lexeme
  reached : Nat
  looksForCauses : Bool
  deriving Repr

abbrev Read (α : Type) := StateT Reading (Except Refusal) α

def reservedWords : List String :=
  ["False", "None", "True", "and", "as", "assert", "async", "await", "break", "class", "continue",
   "def", "del", "elif", "else", "except", "finally", "for", "from", "global", "if", "import", "in",
   "is", "lambda", "nonlocal", "not", "or", "pass", "raise", "return", "try", "while", "with",
   "yield"]

def softWords : List String := ["_", "case", "match"]

def Lexeme.isName (l : Lexeme) : Bool :=
  match l.form with
  | .name word => !reservedWords.contains word
  | _ => false

def Lexeme.isText (l : Lexeme) : Bool := l.form matches .text _ _

/-- Whether a problem shows that something else does not fit; such a one keeps nothing else from being
tried. -/
def Problem.isPlain : Problem → Bool
  | .grammar | .unexpectedIndent => true
  | _ => false

def Problem.isOfText : Problem → Bool
  | .escape _ | .mixedTexts | .notAscii | .field _ | .inField _ => true
  | _ => false

namespace Read

def peek : Read Lexeme := do
  match (← get).rest with
  | l :: _ => do
    modify fun r => { r with reached := max r.reached l.line }
    return l
  | [] => throw .cut

def lexemes : Read (List Lexeme) := do return (← get).rest

def advance : Read Unit := modify fun r => { r with rest := r.rest.drop 1 }

def goBack (ls : List Lexeme) : Read Unit := modify fun r => { r with rest := ls }

def complain (line : Nat) (p : Problem) : Read α := do
  let _ ← peek
  throw (.problem line (← get).reached p)

def refuse : Read α := do
  let l ← peek
  complain l.line (if l.form == .indent then .unexpectedIndent else .grammar)

def isNext (f : Form) : Read Bool := do return (← peek).form == f

/-- Goes on behind a lexeme of a form if it comes next. -/
def acceptForm (f : Form) : Read Bool := do
  let found ← isNext f
  if found then advance
  return found

/-- Goes on behind a sign if it comes next. -/
def accept (sign : String) : Read Bool := acceptForm (.sign sign)

/-- Goes on behind a word if it comes next. -/
def acceptWord (word : String) : Read Bool := acceptForm (.name word)

/-- Tries to read something. Lexemes are kept if it does not fit, with a problem of some kind. -/
def trial (isHarmless : Problem → Bool) (read : Read α) : Read (Option α) := fun r =>
  match read r with
  | .ok (a, r) => .ok (some a, r)
  | .error (.problem line reached p) =>
    if isHarmless p then .ok (none, { r with reached := max r.reached reached })
    else .error (.problem line reached p)
  | .error .cut => .error .cut

/-- Tries to read something that other problems than plain ones may be found in. -/
def probe (read : Read α) : Read (Option α) := trial Problem.isPlain read

/-- Tries to read something that no other problems than those of a text are looked for in. -/
def attempt (read : Read α) : Read (Option α) := do
  let looks := (← get).looksForCauses
  modify fun r => { r with looksForCauses := false }
  let found ← trial (fun p => !p.isOfText) read
  modify fun r => { r with looksForCauses := looks }
  return found

/-- Reads something that may be left out where no causes are looked for. -/
def orLeave (read : Read α) : Read (Option α) := do
  if (← get).looksForCauses then some <$> read else trial Problem.isPlain read

end Read

def constant? : String → Option Value
  | "None" => some .null
  | "True" => some (.bool true)
  | "False" => some (.bool false)
  | _ => none

/-- The fault that stopping makes, given why cutting has stopped. -/
def faultOf (halt : Option Halt) (r : Refusal) : Nat × Problem :=
  match r, halt with
  | .cut, none => (1, .grammar)
  | .cut, some h => (h.line, h.problem)
  | .problem line _ p, none | .problem line _ (p@.unexpectedIndent), _ => (line, p)
  | .problem line reached p, some h =>
    if !h.problem.isLate then (h.line, h.problem)
    else
      match h.opening with
      | some o => if o.line < reached then (o.line, .openBracket o.bracket) else (line, p)
      | none => (line, p)

/-- The term that a literal text is, which starts on a line. -/
def literalTerm (line : Nat) (m : Marks) (content : List Char) : Read Term := do
  let next ← Read.peek
  match literalText m content with
  | .ok v => return .literal v
  | .error .notAscii => Read.complain line .notAscii
  | .error p => Read.complain next.line p

def joinTerms (a b : Term) : Read Term := do
  match a, b with
  | .literal v, .literal w =>
    match joinTexts v w with
    | .ok v => return .literal v
    | .error p => Read.complain (← Read.peek).line p
  | .literal (.bytes _), _ | _, .literal (.bytes _) => Read.complain (← Read.peek).line .mixedTexts
  | .joined ts, .joined us => return .joined (ts ++ us)
  | .joined ts, _ => return .joined (ts ++ [b])
  | _, .joined ts => return .joined (a :: ts)
  | _, _ => return .joined [a, b]

def takeTexts : Read (List Lexeme) := do
  let ls := (← Read.lexemes).takeWhile (·.isText)
  for _ in ls do
    let _ ← Read.peek
    Read.advance
  let _ ← Read.peek
  return ls

/-- An operator between two terms: its rank, what it makes, and how many lexemes it takes. -/
structure Operator where
  rank : Nat
  making : Making
  length : Nat
  deriving DecidableEq, Repr

/-- The rank of the terms that an operator of negation stands before. -/
def negationRank : Nat := 3

/-- The lowest rank of operators that are neither of logic nor of comparison. -/
def arithmeticRank : Nat := 5

def signRank : Nat := 11

def rankOfSign? (sign : String) : Option Nat :=
  match sign with
  | "==" | "!=" | "<" | "<=" | ">" | ">=" => some 4
  | "|" => some 5
  | "^" => some 6
  | "&" => some 7
  | "<<" | ">>" => some 8
  | "+" | "-" => some 9
  | "*" | "/" | "//" | "%" | "@" => some 10
  | "**" => some 12
  | _ => none

def operator? (ls : List Lexeme) : Option Operator :=
  match (ls.take 2).map Lexeme.form with
  | .name "or" :: _ => some ⟨1, .disjunction, 1⟩
  | .name "and" :: _ => some ⟨2, .conjunction, 1⟩
  | .name "not" :: .name "in" :: _ | .name "is" :: .name "not" :: _ => some ⟨4, .comparison, 2⟩
  | .name "in" :: _ | .name "is" :: _ => some ⟨4, .comparison, 1⟩
  | .sign s :: _ =>
    (rankOfSign? s).map fun rank => ⟨rank, if rank = 4 then .comparison else .arithmetic, 1⟩
  | _ => none

/-- The rank from which on operators may stand in what follows an operator. -/
def Operator.nextRank (o : Operator) : Nat := if signRank < o.rank then signRank else o.rank + 1

/-- Whether the next lexeme ends a statement or a side of it. -/
def atBreak : Read Bool := do
  return match (← Read.peek).form with
    | .lineEnd | .finish | .sign ";" | .sign "=" | .sign ":" => true
    | _ => false

mutual

def readTerm (fuel : Nat) : Read Term := do
  match fuel with
  | 0 => Read.refuse
  | fuel + 1 =>
    let start ← Read.lexemes
    let line := (← Read.peek).line
    let t ← readOperation fuel 1
    match ← Read.orLeave (readChoice fuel line t) with
    | some (some choice) => return choice
    | _ => do
      if (← get).looksForCauses then checkNext fuel line start t
      return t

/-- Reads the condition behind a term that starts on a line, and the other term, if they follow. -/
def readChoice (fuel line : Nat) (t : Term) : Read (Option Term) := do
  match fuel with
  | 0 => return none
  | fuel + 1 =>
    if ← Read.acceptWord "if" then
      let c ← readOperation fuel 1
      if ← Read.acceptWord "else" then return some (.made .choice [c, t, ← readTerm fuel])
      else if ← Read.isNext (.sign ":") then Read.refuse
      else Read.complain line .elseMissing
    else return none

/-- Stops behind a term that another one follows for no reason, if it can be said what is wrong. -/
def checkNext (fuel line : Nat) (start : List Lexeme) (t : Term) : Read Unit := do
  match fuel with
  | 0 => return
  | fuel + 1 =>
    let _ ← Read.peek
    let ls ← Read.lexemes
    let word? := match start, t with
      | ⟨.name word, _, _⟩ :: _, .name _ => some word
      | _, _ => none
    let mayBeCalled := word?.any fun word => ["print", "exec"].contains word
    let isSpared := match start with
      | l :: next :: _ =>
        l.isName && (next.isText || softWords.any fun word => l.form == .name word)
      | _ => false
    if !isSpared then do
      let other ← Read.attempt (readTerm fuel)
      if other.isSome && !mayBeCalled then do
        let rest ← Read.lexemes
        let last := (ls.drop (ls.length - rest.length - 1)).head?
        if last.any (·.isInside) then Read.complain line .missingComma
      Read.goBack ls
    match word? with
    | none => return
    | some word => do
      if (← Read.probe (readTerms fuel)).isSome && mayBeCalled then
        Read.complain line (.callWithoutParentheses word)
      Read.goBack ls

def readOperation (fuel rank : Nat) : Read Term := do
  match fuel with
  | 0 => Read.refuse
  | fuel + 1 =>
    let sign? := match (← Read.peek).form with
      | .sign "-" => some '-'
      | .sign "+" => some '+'
      | .sign "~" => some '~'
      | _ => none
    match sign? with
    | some sign => do
      Read.advance
      readOperators fuel rank (.signed sign (← readOperation fuel signRank))
    | none =>
      if rank ≤ negationRank && (← Read.acceptWord "not") then
        readOperators fuel rank (.made .negation [← readOperation fuel negationRank])
      else readOperators fuel rank (← readPrimary fuel)

/-- Reads the operators from a rank on behind a term, with the terms that follow them. -/
def readOperators (fuel rank : Nat) (t : Term) : Read Term := do
  match fuel with
  | 0 => return t
  | fuel + 1 =>
    let _ ← Read.peek
    let operation : Read Term :=
      match operator? (← Read.lexemes) with
      | some o => do
        if o.rank < rank then return t
        for _ in List.range o.length do Read.advance
        readOperators fuel rank (.made o.making [t, ← readOperation fuel o.nextRank])
      | none => return t
    return (← Read.orLeave operation).getD t

/-- Reads a term that no operator is in, outside brackets. -/
def readPrimary (fuel : Nat) : Read Term := do
  match fuel with
  | 0 => Read.refuse
  | fuel + 1 => readTrailers fuel (← readAtom fuel)

/-- Reads the members, the calls and the items that are asked for behind a term. -/
def readTrailers (fuel : Nat) (t : Term) : Read Term := do
  match fuel with
  | 0 => return t
  | fuel + 1 =>
    if (← Read.isNext (.sign "\x7b")) && (← get).looksForCauses then do
      let ls ← Read.lexemes
      Read.advance
      let _ ← Read.probe (readItems fuel "\x7d")
      Read.goBack ls
    return (← Read.orLeave (readTrailer fuel t)).getD t

/-- Reads a member, a call or items behind a term, and what follows them. -/
def readTrailer (fuel : Nat) (t : Term) : Read Term := do
  match fuel with
  | 0 => return t
  | fuel + 1 =>
    if ← Read.accept "." then
      if (← Read.peek).isName then do
        Read.advance
        readTrailers fuel (.made .member [t])
      else Read.refuse
    else if ← Read.accept "(" then
      readTrailers fuel (.made .call (t :: (← readArguments fuel)))
    else if ← Read.accept "[" then
      readTrailers fuel (.made .item (t :: (← readPlaces fuel)))
    else return t

def readPlaces (fuel : Nat) : Read (List Term) := do
  match fuel with
  | 0 => Read.refuse
  | fuel + 1 =>
    let start ← Read.peek
    let first ← if start.form == .sign ":" then pure [] else (return [← readTerm fuel] : Read _)
    let more ← readBounds fuel
    if more.isEmpty && (← get).looksForCauses then
      for t in first do checkSign fuel start t
    let ts := first ++ more
    if ← Read.accept "]" then return ts
    else if !(← Read.accept ",") then Read.refuse
    else if ← Read.accept "]" then return ts
    else return ts ++ (← readPlaces fuel)

def readBounds (fuel : Nat) : Read (List Term) := do
  match fuel with
  | 0 => return []
  | fuel + 1 =>
    if ← Read.accept ":" then
      match (← Read.peek).form with
      | .sign ":" | .sign "," | .sign "]" => readBounds fuel
      | _ => do
        let t ← readTerm fuel
        return t :: (← readBounds fuel)
    else return []

def readArguments (fuel : Nat) : Read (List Term) := do
  match fuel with
  | 0 => Read.refuse
  | fuel + 1 =>
    if ← Read.accept ")" then return []
    else do
      let start ← Read.peek
      let first := (← Read.lexemes).take 2 |>.map (·.form)
      if start.isName && first.getLast? == some (.sign "=") then do
        Read.advance
        Read.advance
      let t ← readTerm fuel
      if ← Read.isNext (.sign "=") then
        match t with
        | .literal .null | .literal (.bool _) => Read.complain start.line (.noTarget t.kind false)
        | _ => Read.complain start.line .signInCall
      if ← Read.accept ")" then return [t]
      else if ← Read.accept "," then return t :: (← readArguments fuel)
      else Read.refuse

/-- Reads a term that is not made from others, or a display. -/
def readAtom (fuel : Nat) : Read Term := do
  match fuel with
  | 0 => Read.refuse
  | fuel + 1 =>
    match (← Read.peek).form with
    | .numeral v => do
      Read.advance
      return .literal v
    | .text _ _ => do
      match ← readTexts fuel none (← takeTexts) with
      | some t => return t
      | none => Read.refuse
    | .name word =>
      match constant? word with
      | some v => do
        Read.advance
        return .literal v
      | none =>
        if reservedWords.contains word then do
          if word == "lambda" then Read.advance
          Read.refuse
        else do
          Read.advance
          return .name (String.ofList (Text.compatibleForm word.toList))
    | .sign "[" => do
      Read.advance
      let (ts, _) ← readItems fuel "]"
      return .list ts
    | .sign "(" => do
      Read.advance
      match ← readItems fuel ")" with
      | ([t], false) => return t
      | (ts, _) => return .tuple ts
    | .sign "\x7b" => do
      Read.advance
      readBraces fuel
    | _ => Read.refuse

def readText (fuel line : Nat) (m : Marks) (content : List Char) : Read Term := do
  match fuel with
  | 0 => Read.refuse
  | fuel + 1 =>
    if m.isFormatted then return .joined (← readPieces fuel line m content)
    else literalTerm line m content

/-- Reads what texts say, side by side with what stands before them. -/
def readTexts (fuel : Nat) (before : Option Term) (ls : List Lexeme) : Read (Option Term) := do
  match fuel, ls with
  | fuel + 1, ⟨.text m content, line, _⟩ :: rest => do
    let t ← readText fuel line m content
    let t ← match before with
      | some b => joinTerms b t
      | none => pure t
    readTexts fuel (some t) rest
  | _, _ => return before

def readPieces (fuel line : Nat) (m : Marks) (cs : List Char) : Read (List Term) := do
  match fuel with
  | 0 => return []
  | fuel + 1 =>
    let next ← Read.peek
    let sound {α : Type} (r : Except FieldProblem α) : Read α :=
      match r with
      | .ok a => return a
      | .error p => Read.complain next.line (.field p)
    if cs.isEmpty then return []
    else do
      let (plain, rest) ← sound (plainPart cs.length m.isRaw cs)
      let before ← literalTerm line m plain
      match rest with
      | '\x7b' :: body => do
        if plain.length + rest.length < cs.length then
          return before :: (← readPieces fuel line m rest)
        else do
          let (expression, rest) ← sound (expressionPart (body.length + 1) [] [] body)
          if isLeftOut expression then sound (.error (leftOutProblem rest.head?))
          let t ← readField fuel next.line expression
          let (letter, rest) ← sound (fieldEnd rest)
          return before :: .shown letter t :: (← readPieces fuel line m rest)
      | rest => return before :: (← readPieces fuel line m rest)

def readField (fuel line : Nat) (expression : List Char) : Read Term := do
  match fuel with
  | 0 => Read.refuse
  | fuel + 1 =>
    let cut := lexemes ('(' :: expression ++ [')'])
    match (readTerm fuel).run ⟨cut.lexemes, 0, true⟩ with
    | .ok (t, ⟨⟨.lineEnd, _, _⟩ :: _, _, _⟩) => return t
    | .ok (_, _) => Read.complain line (.inField .grammar)
    | .error r => Read.complain line (.inField (faultOf cut.halt r).2)

/-- Stops behind a term in brackets that a sign of assignment follows, if it can be said what is
wrong. -/
def checkSign (fuel : Nat) (start : Lexeme) (t : Term) : Read Unit := do
  match fuel with
  | 0 => return
  | fuel + 1 =>
    let ls ← Read.lexemes
    let isName := start.isName && (t matches .name _)
    if ← Read.accept ":=" then do
      if (← Read.probe (readTerm fuel)).isSome && !isName then
        Read.complain start.line (.noNameTarget t.kind)
    else if t.mayBeCompared && (← Read.accept "=") then do
      let right ← Read.probe (readOperation fuel arithmeticRank)
      let goesOn := [Form.sign "=", Form.sign ":="].contains (← Read.peek).form
      if right.isSome && !goesOn then
        Read.complain start.line (if isName then .signInList else .noTarget t.kind true)
    Read.goBack ls

def readItem (fuel : Nat) : Read Term := do
  match fuel with
  | 0 => Read.refuse
  | fuel + 1 =>
    let start ← Read.peek
    let t ← readTerm fuel
    if (← get).looksForCauses then checkSign fuel start t
    return t

/-- Reads the items of a display up to its closing bracket; true if a comma stands behind the last
one. -/
def readItems (fuel : Nat) (closing : String) : Read (List Term × Bool) := do
  match fuel with
  | 0 => Read.refuse
  | fuel + 1 =>
    if ← Read.accept closing then return ([], true)
    else do
      let t ← readItem fuel
      if ← Read.accept closing then return ([t], false)
      else if ← Read.accept "," then do
        let (ts, isEnded) ← readItems fuel closing
        return (t :: ts, isEnded || !ts.isEmpty)
      else Read.refuse

def readBraces (fuel : Nat) : Read Term := do
  match fuel with
  | 0 => Read.refuse
  | fuel + 1 =>
    if ← Read.accept "\x7d" then return .map []
    else do
      let start ← Read.peek
      let t ← readTerm fuel
      if ← Read.isNext (.sign ":") then return .map (← readValue fuel t)
      else do
        checkSign fuel start t
        if ← Read.accept "\x7d" then return .set [t]
        else if ← Read.accept "," then do
          let (ts, _) ← readItems fuel "\x7d"
          return .set (t :: ts)
        else Read.refuse

/-- Reads the value of an entry of a mapping and the entries behind it. -/
def readValue (fuel : Nat) (key : Term) : Read (List (Term × Term)) := do
  match fuel with
  | 0 => Read.refuse
  | fuel + 1 =>
    let sign ← Read.peek
    Read.advance
    if [Form.sign "\x7d", Form.sign ","].contains (← Read.peek).form then
      Read.complain sign.line .valueMissing
    else do
      let v ← readTerm fuel
      if ← Read.accept "\x7d" then return [(key, v)]
      else if ← Read.accept "," then return (key, v) :: (← readEntries fuel)
      else Read.refuse

def readEntries (fuel : Nat) : Read (List (Term × Term)) := do
  match fuel with
  | 0 => Read.refuse
  | fuel + 1 =>
    if ← Read.accept "\x7d" then return []
    else do
      let start ← Read.peek
      let key ← readTerm fuel
      if ← Read.isNext (.sign ":") then readValue fuel key
      else if [Form.sign "\x7d", Form.sign ","].contains (← Read.peek).form then
        Read.complain start.line .keyAlone
      else Read.refuse

/-- Reads terms that commas part: one alone, or a tuple. -/
def readTerms (fuel : Nat) : Read Term := do
  match fuel with
  | 0 => Read.refuse
  | fuel + 1 =>
    let t ← readTerm fuel
    if ← Read.isNext (.sign ",") then return .tuple (t :: (← readMoreTerms fuel)) else return t

def readMoreTerms (fuel : Nat) : Read (List Term) := do
  match fuel with
  | 0 => return []
  | fuel + 1 =>
    if ← Read.accept "," then
      if ← atBreak then return []
      else return (← readTerm fuel) :: (← readMoreTerms fuel)
    else return []

end

def fuelFor (ls : List Lexeme) : Nat := 12 * ls.length + 24

end ReleasePackaging.VersionFile
