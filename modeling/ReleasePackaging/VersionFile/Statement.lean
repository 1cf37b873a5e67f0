import ReleasePackaging.VersionFile.Reader

/-!
# Statements of a version file

A statement assigns the value of a term to targets, or gives a term alone. Some statements can be read
but not stand in a version file. A statement that a block belongs to is one of these, and its block is
not looked for.
-/
namespace ReleasePackaging.VersionFile

/-- A statement: the targets that get the value of a term, a term that says what they are, and what
keeps the statement from standing in a version file, with its line. -/
structure Statement where
  targets : List Target
  kind : Option Term
  term : Option Term
  misfit : Option (Nat × Problem)
  deriving Repr

def Statement.assign (targets : List Target) (t : Term) : Statement := ⟨targets, none, some t, none⟩

/-- Names that nothing can be assigned to. -/
def fixedNames : List String := ["__debug__"]

def fixedName? (targets : List Target) : Option String :=
  fixedNames.find? fun name => targets.any (·.gives name)

/-- A statement that starts on a line, checked for fixed names. -/
def Statement.checked (line : Nat) (s : Statement) : Statement :=
  match fixedName? s.targets with
  | some name => { s with misfit := some (line, .fixedName name) }
  | none => s

/-- Stops at the terms that a statement starts with, if one of them is followed by a sign of assignment
and it can be said what is wrong. -/
def checkTerms (fuel : Nat) : Read Unit := do
  match fuel with
  | 0 => return
  | fuel + 1 =>
    let _ ← readItem fuel
    if ← Read.accept "," then
      if !(← atBreak) then checkTerms fuel

/-- Stops at a term that is assigned to but is no target, in a statement with some lexemes. -/
def refuseTarget (fuel : Nat) (statement : List Lexeme) (start : Lexeme) (t : Term) : Read α := do
  let ls ← Read.lexemes
  Read.goBack statement
  checkTerms fuel
  Read.goBack ls
  match t.obstacle? with
  | none => Read.refuse
  | some k => Read.complain start.line (.noTarget k false)

def readKind (fuel : Nat) (start : Lexeme) (t : Term) : Read Statement := do
  let kind ← readTerm fuel
  match t, t.target? with
  | .list _, _ | .tuple _, _ | _, none => Read.complain start.line (.noKindTarget t.kind)
  | _, some target => do
    let term ← if ← Read.accept "=" then (some <$> readTerms fuel : Read _) else pure none
    return ⟨[target], some kind, term, none⟩

/-- Signs that stand between a target and what its value is changed by. -/
def changeSigns : List String :=
  ["+=", "-=", "*=", "/=", "//=", "%=", "@=", "&=", "|=", "^=", "<<=", ">>=", "**="]

def readChange (fuel : Nat) (start : Lexeme) (t : Term) : Read Statement := do
  let right ← readTerms fuel
  match t, t.target? with
  | .list _, _ | .tuple _, _ | _, none => Read.complain start.line (.noChangeTarget t.kind)
  | _, some target => return .assign [target] (.made .arithmetic [t, right])

/-- Reads an assignment behind the targets that are read already, in a statement with some lexemes. -/
def readAssignment (fuel : Nat) (statement : List Lexeme) (targets : List Target) :
    Read Statement := do
  match fuel with
  | 0 => Read.refuse
  | fuel + 1 =>
    let start ← Read.peek
    if !targets.isEmpty && (← Read.acceptWord "yield") then do
      if !(← atBreak) then
        let _ ← readTerms (fuel + 1)
      return ⟨[], none, none, some (start.line, .misplaced "yield")⟩
    else do
      let t ← readTerms (fuel + 1)
      let next ← Read.peek
      match next.form with
      | .sign "=" =>
        match t.target? with
        | some target => do
          Read.advance
          readAssignment fuel statement (targets ++ [target])
        | none => refuseTarget (fuel + 1) statement start t
      | .sign sign =>
        if !targets.isEmpty then return .assign targets t
        else if sign == ":" then do
          Read.advance
          readKind fuel start t
        else if changeSigns.contains sign then do
          Read.advance
          readChange fuel start t
        else do
          checkSign fuel start t
          return .assign [] t
      | _ => return .assign targets t

def blockOwner (word : String) : String :=
  match word with
  | "class" => "class definition"
  | "def" => "function definition"
  | _ => s!"'{word}' statement"

def readName : Read Unit := do
  if (← Read.peek).isName then Read.advance else Read.refuse

/-- Reads what stands between the word that a block belongs to and the colon. -/
def readHead (fuel : Nat) (word : String) : Read Unit := do
  match word with
  | "if" | "while" => do
    let _ ← readItem fuel
  | "for" => do
    readName
    if !(← Read.acceptWord "in") then Read.refuse
    let _ ← readTerms fuel
  | "with" => do
    let _ ← readTerm fuel
    if ← Read.acceptWord "as" then readName
  | "class" => do
    readName
    if ← Read.accept "(" then
      let _ ← readArguments fuel
  | "def" => do
    readName
    let next ← Read.peek
    if !(← Read.accept "(") then Read.complain next.line (.signMissing '(')
    if !(← Read.accept ")") then do
      readName
      if !(← Read.accept ")") then Read.refuse
  | _ => return

def refuseBlock (fuel : Nat) (word : String) : Read α := do
  let start ← Read.peek
  Read.advance
  readHead fuel word
  let next ← Read.peek
  if !(← Read.accept ":") then
    if next.form == .lineEnd || ["for", "def", "try"].contains word then
      Read.complain next.line (.signMissing ':')
    else Read.refuse
  if ← Read.acceptForm .lineEnd then do
    let next ← Read.peek
    if next.form != .indent then
      let line := if next.form == .finish then next.line - 1 else next.line
      Read.complain line (.blockMissing (blockOwner word) start.line)
  Read.refuse

def blockWords : List String := ["if", "while", "for", "with", "try", "class", "def"]

def leavingWords : List String := ["break", "continue", "return", "yield"]

def readStatement (fuel : Nat) : Read Statement := do
  let start ← Read.peek
  match start.form with
  | .name "pass" => do
    Read.advance
    return ⟨[], none, none, none⟩
  | .name word =>
    if blockWords.contains word then refuseBlock fuel word
    else if leavingWords.contains word then do
      Read.advance
      if ["return", "yield"].contains word && !(← atBreak) then
        let _ ← readTerms fuel
      return ⟨[], none, none, some (start.line, .misplaced word)⟩
    else return (← readAssignment fuel (← Read.lexemes) []).checked start.line
  | _ => return (← readAssignment fuel (← Read.lexemes) []).checked start.line

def readStatements (fuel : Nat) : Read (List Statement) := do
  match fuel with
  | 0 => return []
  | fuel + 1 =>
    match (← Read.peek).form with
    | .finish => return []
    | _ => do
      let s ← readStatement (fuelFor (← Read.lexemes))
      let isParted ← Read.accept ";"
      if !(← Read.acceptForm .lineEnd) && !isParted then Read.refuse
      return s :: (← readStatements fuel)

def statements (cs : List Char) : Except Fault (List Statement) :=
  if cs.contains '\x00' then .error .nullCharacter
  else
    let cut := lexemes cs
    match (readStatements (cut.lexemes.length + 1)).run ⟨cut.lexemes, 0, true⟩ with
    | .ok (ss, _) =>
      match ss.findSome? (·.misfit) with
      | some (line, p) => .error (.unreadable line p)
      | none => .ok ss
    | .error r =>
      let (line, p) := faultOf cut.halt r
      .error (.unreadable line p)

end ReleasePackaging.VersionFile
