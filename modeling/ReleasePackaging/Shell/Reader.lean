import ReleasePackaging.Shell.Script

/-!
# Reading scripts

A script is read line by line: a line holds commands that are read as a whole before the first of
them is run, and goes on over line ends as long as a command is open. Reserved words and other names
for words are recognised where a command can begin. A document that a command reads stands after the
line of the command.
-/
namespace ReleasePackaging.Shell

inductive Token where
  | ending
  | newline
  | mark (text : String)
  | redirection (descriptor : Nat) (kind : RedirectKind)
  | document (descriptor : Nat) (strips : Bool)
  | word (pieces : Word)
  | reserved (text : String)

namespace Token

def shown : Token → String
  | .ending => "end of file"
  | .newline => "newline"
  | .mark text | .reserved text => s!"\"{text}\""
  | .redirection _ _ | .document _ _ => "redirection"
  | .word _ => "word"

def endsList : Token → Bool
  | .ending => true
  | .mark text => [")", ";;"].contains text
  | .reserved text => ["do", "done", "elif", "else", "esac", "fi", "then", "\x7d"].contains text
  | _ => false

def isMark (t : Token) (text : String) : Bool :=
  match t with
  | .mark s => s == text
  | _ => false

def isReserved (t : Token) (text : String) : Bool :=
  match t with
  | .reserved s => s == text
  | _ => false

end Token

/-- The words with a meaning of their own where a command can begin. -/
def reservedWords : List String :=
  ["!", "case", "do", "done", "elif", "else", "esac", "fi", "for", "if", "in", "then", "until",
   "while", "\x7b", "\x7d"]

/-- The commands that end the shell when they are misused; no function may have their names. -/
def specialCommands : List String :=
  [":", ".", "break", "continue", "eval", "exec", "exit", "export", "local", "readonly", "return",
   "set", "shift", "times", "trap", "unset"]

/-- A document that is still to be read: its number, whether tabs at the beginning of lines are taken
away, the line that ends it, and whether it is taken as it stands. -/
structure Pending where
  number : Nat
  strips : Bool
  stop : Octets
  isVerbatim : Bool

/-- What is left to read and the number of the line, with a token that was read ahead, the documents
that have been and have to be read, and the other names for words; a name is in use until its text
has been read. -/
structure Input where
  rest : List Char
  line : Nat
  ahead : Option Token
  pending : List Pending
  documents : List (Nat × Word)
  nextDocument : Nat
  aliases : List (Octets × Octets)
  inUse : List (Octets × Nat)

structure ScriptFault where
  line : Nat
  message : String

abbrev Read (α : Type) := StateT Input (Except ScriptFault) α

namespace Read

def refuse (message : String) : Read α := fun i => .error ⟨i.line, s!"Syntax error: {message}"⟩

def refuseToken (found : Token) (expected : Option String) : Read α :=
  match expected with
  | some e => refuse s!"{found.shown} unexpected (expecting {e})"
  | none => refuse s!"{found.shown} unexpected"

def rest : Read (List Char) := do return (← get).rest

/-- Goes on after a number of characters, counting lines. -/
def skip (n : Nat) : Read Unit := modify fun i =>
  { i with rest := i.rest.drop n, line := i.line + (i.rest.take n).count '\n' }

/-- Goes on after a character, which ends no line. -/
def pass : Read Unit := modify fun i => { i with rest := i.rest.drop 1 }

def joinLength : List Char → Nat
  | '\\' :: '\n' :: rest => joinLength rest + 2
  | _ => 0

/-- What is left to read after the marks that join lines. -/
def look : Read (List Char) := do
  skip (joinLength (← rest))
  rest

def putBack (t : Token) : Read Unit := modify fun i => { i with ahead := some t }

end Read

def endsWord (c : Char) : Bool := [' ', '\t', '\n', ';', '&', '|', '<', '>', '(', ')'].contains c

def isSpecialParameter (c : Char) : Bool := c.isDigit || "?$!#@*-".toList.contains c

/-- How the characters at some place of a word are taken. -/
inductive Quoting where
  | bare | double | single | sum
  deriving DecidableEq

/-- Where the reading of a word is: how characters are taken, whether quotation marks of the double
kind are around, how many parameters are open and how many of them in such marks, whether marks were
opened within a parameter, whether a parameter has begun it, and how many brackets are open. -/
structure Level where
  quoting : Quoting
  isDouble : Bool
  nests : Nat
  doubleNests : Nat
  isInner : Bool
  isOwn : Bool
  brackets : Nat

namespace Level

def word : Level := ⟨.bare, false, 0, 0, false, false, 0⟩

/-- The level of a document in which expansions are made. -/
def document : Level := ⟨.double, true, 0, 0, false, false, 0⟩

def sum : Level := ⟨.sum, true, 0, 0, false, false, 0⟩

/-- The level within a parameter whose argument is taken in some way; a level of its own begins if
that way is another one. -/
def enter (l : Level) (quoting : Quoting) : Level :=
  if quoting != l.quoting || l.isInner then
    let isDouble := quoting != .bare
    ⟨quoting, isDouble, 1, if isDouble then 1 else 0, false, true, 0⟩
  else
    { l with nests := l.nests + 1, doubleNests := l.doubleNests + (if l.isDouble then 1 else 0) }

/-- The level after the argument of a parameter, at the end of which another one was reached. -/
def leave (l ended : Level) : Level :=
  if ended.isOwn && ended.nests = 1 then l
  else { ended with nests := ended.nests - 1, doubleNests := ended.doubleNests - 1 }

def piece (l : Level) (c : Char) : Piece := if l.quoting = .bare then .plain c else .quoted c

end Level

/-- What text is read as: a word, the line that ends a document, or a document with its end. -/
inductive Source where
  | word
  | stopLine
  | document (p : Pending)

namespace Source

def isDocument : Source → Bool
  | .document _ => true
  | _ => false

def isStopLine : Source → Bool
  | .stopLine => true
  | _ => false

end Source

/-- The script between accents, and the number of characters it takes without the closing one. A
backslash before a dollar sign, an accent or a backslash is taken away, and before a quotation mark
within quotation marks. -/
def accentScript (isDouble : Bool) : List Char → Option (List Char × Nat)
  | [] => none
  | '\\' :: '\n' :: rest => (accentScript isDouble rest).map fun (s, n) => (s, n + 2)
  | '\\' :: c :: rest =>
    let isTaken := c = '\\' || c = '\x60' || c = '$' || (isDouble && c = '"')
    (accentScript isDouble rest).map fun (s, n) => (if isTaken then c :: s else '\\' :: c :: s, n + 2)
  | c :: rest =>
    if c = '\x60' then some ([], 0)
    else (accentScript isDouble rest).map fun (s, n) => (c :: s, n + 1)

def useOf? : Char → Option ParameterUse
  | '\x7d' => some .plain
  | '-' => some .default
  | '+' => some .alternative
  | '?' => some .required
  | '=' => some .assign
  | _ => none

/-- What a token may be taken for besides what it is: line ends are passed over, words are reserved
words, or words are other names for words. -/
structure Expecting where
  lines : Bool
  words : Bool
  aliases : Bool

namespace Expecting

/-- Nothing but tokens as they are. -/
def nothing : Expecting := ⟨false, false, false⟩

/-- A command, perhaps on another line. -/
def command : Expecting := ⟨true, true, true⟩

end Expecting

namespace Read

def takeName (fuel : Nat) (fits : Char → Bool) : Read Octets := do
  match fuel with
  | 0 => return []
  | fuel + 1 =>
    match ← look with
    | c :: _ =>
      if fits c then do
        skip 1
        return c :: (← takeName fuel fits)
      else return []
    | [] => return []

/-- Passes over the beginning of a line of a document; at the line that ends the document, what is left
after it is kept, and there is nothing more to read. -/
def beginLine (s : Source) : Read (Option (List Char × Nat)) := do
  match s with
  | .document p => do
    if p.strips then skip ((← rest).takeWhile (· == '\t')).length
    let cs ← rest
    let line := cs.takeWhile (· != '\n')
    if line == p.stop then do
      skip line.length
      let i ← get
      set { i with rest := [] }
      return some (i.rest.drop 1, i.line + 1)
    else return none
  | _ => return none

/-- The redirection that begins with a sign after the digit of a descriptor, if one is given. -/
def redirection (sign : Char) (digit : Option Char) : Read Token := do
  skip 1
  let next := (← look).head?
  let given := digit.map fun d => d.toNat - 0x30
  let take (n : Nat) (t : Token) : Read Token := do
    skip n
    return t
  if sign = '>' then
    let d := given.getD 1
    match next with
    | some '>' => take 1 (.redirection d .append)
    | some '|' => take 1 (.redirection d .overwrite)
    | some '&' => take 1 (.redirection d .copy)
    | _ => return .redirection d .write
  else
    let d := given.getD 0
    match next with
    | some '<' => do
      skip 1
      match ← look with
      | '-' :: _ => take 1 (.document d true)
      | _ => return .document d false
    | some '&' => take 1 (.redirection d .copy)
    | some '>' => take 1 (.redirection d .readWrite)
    | _ => return .redirection d .read

/-- Puts the text of another name for a word in front of what is left, if the word has one that is not
in use. -/
def expandAlias (word : Octets) : Read Bool := do
  let i ← get
  let inUse := i.inUse.filter fun (_, n) => n ≤ i.rest.length
  match i.aliases.lookup word with
  | some text =>
    if (inUse.lookup word).isSome then return false
    else do
      set { i with rest := text ++ i.rest, inUse := (word, i.rest.length) :: inUse }
      return true
  | none => return false

/-- Whether the text of another name that ends with a blank has just been read. -/
def afterAliasBlank (before after : Nat) : Read Bool := do
  let i ← get
  return i.inUse.any fun (name, n) =>
    n < before && after ≤ n && ((i.aliases.lookup name).bind List.getLast?).any fun c => c == ' ' || c == '\t'

end Read

mutual

/-- Reads pieces up to the end of a word, of the argument of a parameter or of an expression. -/
def readPieces (fuel : Nat) (s : Source) (l : Level) : Read (Word × Level) := do
  match fuel with
  | 0 => Read.refuse "end of file unexpected"
  | fuel + 1 =>
    let put (p : Piece) (l : Level) : Read (Word × Level) := do
      let (w, l) ← readPieces fuel s l
      return (p :: w, l)
    let marked (l : Level) : Read (Word × Level) := do
      let (w, l) ← readPieces fuel s l
      return (if s.isDocument then w else .quotation :: w, l)
    match ← if l.quoting = .single then Read.rest else Read.look with
    | [] =>
      if l.quoting = .sum then Read.refuse "Missing '))'"
      else if l.quoting != .bare && !s.isDocument then Read.refuse "Unterminated quoted string"
      else if l.nests != 0 then Read.refuse "Missing '\x7d'"
      else return ([], l)
    | c :: more =>
      if c = '\n' then
        if l.quoting = .bare && l.nests = 0 then return ([], l)
        else do
          Read.skip 1
          match ← Read.beginLine s with
          | none => put (l.piece c) l
          | some (left, line) => do
            let (w, l) ← put (l.piece c) l
            modify fun i => { i with rest := left, line := line }
            return (w, l)
      else if l.quoting = .single then
        Read.skip 1
        if c = '\'' && !s.isDocument then
          marked (if l.doubleNests = 0 then { l with quoting := .bare, isDouble := false } else l)
        else put (.quoted c) l
      else if c = '\\' then
        match more with
        | [] => do
          Read.skip 1
          put (.quoted '\\') l
        | d :: _ => do
          Read.skip 2
          let isKept := l.isDouble && d != '\\' && d != '\x60' && d != '$' &&
            (d != '"' || (s.isDocument && l.nests = 0)) && (d != '\x7d' || l.nests = 0)
          let (w, l) ← put (.quoted d) l
          return (if isKept then .quoted '\\' :: w else w, l)
      else if c = '$' then do
        Read.skip 1
        if s.isStopLine then put (l.piece c) l
        else do
          let p ← readDollar fuel s l
          put p.1 p.2
      else if c = '\x60' then do
        Read.skip 1
        if s.isStopLine then put (l.piece c) l
        else do
          let p ← readAccents fuel l
          put p l
      else if c = '\x7d' && !l.isInner && 0 < l.nests then do
        Read.skip 1
        return ([], l)
      else
        match l.quoting with
        | .bare =>
          if c = '\'' then do
            Read.skip 1
            marked { l with quoting := .single }
          else if c = '"' then do
            Read.skip 1
            marked { l with quoting := .double, isDouble := true, isInner := l.isInner != (0 < l.nests : Bool) }
          else if endsWord c && l.nests = 0 then return ([], l)
          else do
            Read.skip 1
            put (.plain c) l
        | .sum => do
          Read.skip 1
          if c = '(' then put (.quoted c) { l with brackets := l.brackets + 1 }
          else if c = ')' then
            if 0 < l.brackets then put (.quoted c) { l with brackets := l.brackets - 1 }
            else
              match ← Read.look with
              | ')' :: _ => do
                Read.skip 1
                return ([], l)
              | _ => put (.quoted c) l
          else put (.quoted c) l
        | _ => do
          Read.skip 1
          if c = '"' && !(s.isDocument && l.nests = 0) then
            let l := if l.doubleNests = 0 then { l with quoting := .bare, isDouble := false } else l
            marked { l with isInner := l.isInner != (0 < l.nests : Bool) }
          else put (.quoted c) l

/-- Reads what a dollar sign starts, and gives the level after it. -/
def readDollar (fuel : Nat) (s : Source) (l : Level) : Read (Piece × Level) := do
  match fuel with
  | 0 => Read.refuse "end of file unexpected"
  | fuel + 1 =>
    match ← Read.look with
    | '(' :: _ => do
      Read.skip 1
      match ← Read.look with
      | '(' :: _ => do
        Read.skip 1
        let (w, _) ← readPieces fuel s .sum
        return (.arithmetic w, l)
      | _ => do
        let outer := (← get).pending
        modify fun i => { i with pending := [] }
        let commands ← readList fuel false true
        let t ← readToken fuel .nothing
        if t.isMark ")" then do
          endDocuments
          modify fun i => { i with pending := outer }
          return (.output commands, l)
        else Read.refuseToken t (some "\")\"")
    | '\x7b' :: _ => do
      Read.skip 1
      readBraced fuel s l
    | c :: _ =>
      if startsName c then return (.parameter (← Read.takeName fuel inName) .plain true [], l)
      else if isSpecialParameter c then do
        Read.skip 1
        return (.parameter [c] .plain true [], l)
      else return (l.piece '$', l)
    | [] => return (l.piece '$', l)

/-- Reads a parameter between braces, after the opening one. -/
def readBraced (fuel : Nat) (s : Source) (l : Level) : Read (Piece × Level) := do
  match fuel with
  | 0 => Read.refuse "end of file unexpected"
  | fuel + 1 =>
    let (name, isLength, isBad) ← readParameterName fuel
    let l' := l.enter (if l.quoting = .sum then .double else l.quoting)
    let finish (use : ParameterUse) (emptyCounts : Bool) (inside : Level) : Read (Piece × Level) := do
      let (w, ended) ← readPieces fuel s inside
      return (.parameter name use emptyCounts w, l.leave ended)
    if isBad then finish .unknown true l'
    else if isLength then
      match ← Read.look with
      | '\x7d' :: _ => finish .length true l'
      | _ => finish .unknown true l'
    else do
      let first := (← Read.look).head?
      Read.pass
      match first with
      | some ':' => do
        let use := (← Read.look).head?.bind useOf?
        Read.pass
        finish (use.getD .unknown) false l'
      | some '%' => do
        let isLong := (← Read.look).head? == some '%'
        if isLong then Read.skip 1
        finish (if isLong then .withoutLongestEnd else .withoutShortestEnd) true (l.enter .bare)
      | some '#' => do
        let isLong := (← Read.look).head? == some '#'
        if isLong then Read.skip 1
        finish (if isLong then .withoutLongestStart else .withoutShortestStart) true (l.enter .bare)
      | some c =>
        match useOf? c with
        | some .plain => return (.parameter name .plain true [], l)
        | use => finish (use.getD .unknown) true l'
      | none => finish .unknown true l'

/-- Reads the name of a parameter between braces; tells whether its length is asked for and whether it
is no name. -/
def readParameterName (fuel : Nat) : Read (Octets × Bool × Bool) := do
  let name (isLength : Bool) : Read (Octets × Bool × Bool) := do
    match ← Read.look with
    | c :: _ =>
      if startsName c then return (← Read.takeName fuel inName, isLength, false)
      else return (← Read.takeName fuel Char.isDigit, isLength, false)
    | [] => return ([], isLength, true)
  match ← Read.look with
  | [] => return ([], false, true)
  | c :: _ =>
    if startsName c || c.isDigit then name false
    else if c = '\x7d' then return ([], false, true)
    else do
      Read.skip 1
      match ← Read.look with
      | d :: after =>
        if c = '#' then
          if d = '_' || d.isAlphanum then name true
          else if d != '\x7d' && after.head? == some '\x7d' then
            if isSpecialParameter d then do
              Read.skip 1
              return ([d], true, false)
            else do
              Read.skip 1
              return ([], false, true)
          else return (['#'], false, false)
        else if isSpecialParameter c then return ([c], false, false)
        else return ([], false, true)
      | [] => return ([c], false, !isSpecialParameter c)

/-- Reads a script between accents, after the opening one. -/
def readAccents (fuel : Nat) (l : Level) : Read Piece := do
  match fuel with
  | 0 => Read.refuse "end of file unexpected"
  | fuel + 1 =>
    let cs ← Read.rest
    match accentScript l.isDouble cs with
    | none => do
      Read.skip cs.length
      Read.refuse "EOF in backquote substitution"
    | some (script, n) => do
      Read.skip (n + 1)
      let outer ← get
      set ({ outer with rest := script, line := 1, ahead := none, pending := [] } : Input)
      let commands ← readList fuel false true
      endDocuments
      modify fun i => { i with
        rest := outer.rest, line := outer.line, ahead := none, pending := outer.pending }
      return .output commands

/-- Gives up the documents that have not been read: they are empty. -/
def endDocuments : Read Unit := modify fun i =>
  { i with pending := [], documents := i.documents ++ i.pending.map fun p => (p.number, []) }

def readDocuments (fuel : Nat) : Read Unit := do
  match fuel with
  | 0 => pure ()
  | fuel + 1 =>
    match (← get).pending with
    | [] => pure ()
    | p :: others => do
      modify fun i => { i with pending := others }
      let source := Source.document p
      let level : Level := if p.isVerbatim then { Level.document with quoting := .single } else .document
      let w ← match ← Read.beginLine source with
        | some (left, line) => do
          modify fun i => { i with rest := left, line := line }
          pure []
        | none => do
          let (w, _) ← readPieces fuel source level
          pure w
      modify fun i => { i with documents := i.documents ++ [(p.number, w)] }
      readDocuments fuel

def readPlainToken (fuel : Nat) (s : Source) : Read Token := do
  match fuel with
  | 0 => Read.refuse "end of file unexpected"
  | fuel + 1 =>
    let mark (text : String) : Read Token := do
      Read.skip text.length
      return .mark text
    let twice (c : Char) : Read Token := do
      Read.skip 1
      match ← Read.look with
      | d :: _ =>
        if d = c then do
          Read.skip 1
          return .mark (String.ofList [c, c])
        else return .mark (String.singleton c)
      | [] => return .mark (String.singleton c)
    match ← Read.look with
    | [] => return .ending
    | '\n' :: _ => do
      Read.skip 1
      return .newline
    | c :: more =>
      if c = ' ' || c = '\t' then do
        Read.skip 1
        readPlainToken fuel s
      else if c = '#' then do
        Read.skip (1 + (more.takeWhile (· != '\n')).length)
        readPlainToken fuel s
      else if c = '&' || c = '|' || c = ';' then twice c
      else if c = '(' || c = ')' then mark (String.singleton c)
      else do
        let (w, _) ← readPieces fuel s .word
        match (← Read.rest).head?, w with
        | some sign, [] => if sign = '<' || sign = '>' then Read.redirection sign none else return .word w
        | some sign, [.plain d] =>
          if (sign = '<' || sign = '>') && d.isDigit then Read.redirection sign (some d)
          else return .word w
        | _, _ => return .word w

def readToken (fuel : Nat) (e : Expecting) : Read Token := do
  match fuel with
  | 0 => Read.refuse "end of file unexpected"
  | fuel + 1 =>
    let i ← get
    let t ← match i.ahead with
      | some t => do
        set { i with ahead := none }
        pure t
      | none => readPlainToken fuel .word
    let e := { e with aliases := e.aliases || (← Read.afterAliasBlank i.rest.length (← Read.rest).length) }
    match t with
    | .newline =>
      if e.lines then do
        readDocuments fuel
        readToken fuel e
      else return t
    | .word w =>
      match Word.plainText? w with
      | some text =>
        if e.words && reservedWords.contains (textOf text) then return .reserved (textOf text)
        else if e.aliases then
          if ← Read.expandAlias text then readToken fuel e else return t
        else return t
      | none => return t
    | _ => return t

/-- Reads commands: those of a line, or those up to a token that ends a list. If such a token may come
first, the list may be empty. -/
def readList (fuel : Nat) (isLine mayEnd : Bool) : Read (List Command) := do
  match fuel with
  | 0 => Read.refuse "end of file unexpected"
  | fuel + 1 => do
    let t ← readToken fuel ⟨!isLine, true, true⟩
    match t with
    | .newline => do
      readDocuments fuel
      return []
    | .ending => do
      readDocuments fuel
      Read.putBack t
      return []
    | _ => do
      Read.putBack t
      if !isLine && mayEnd && t.endsList then return []
      else do
        let line := (← get).line
        let command ← readChain fuel (← readPipeline fuel ⟨false, false, false⟩)
        let t ← readToken fuel .nothing
        match t with
        | .mark "&" => return .background line command :: (← readList fuel isLine true)
        | .mark ";" => return command :: (← readList fuel isLine true)
        | .newline | .ending => do
          Read.putBack t
          return command :: (← readList fuel isLine true)
        | _ => do
          if isLine then Read.refuseToken t none
          Read.putBack t
          return [command]

def readChain (fuel : Nat) (first : Command) : Read Command := do
  match fuel with
  | 0 => return first
  | fuel + 1 => do
    let t ← readToken fuel .nothing
    match t with
    | .mark "&&" => readChain fuel (.andThen first (← readPipeline fuel .command))
    | .mark "||" => readChain fuel (.orElse first (← readPipeline fuel .command))
    | _ => do
      Read.putBack t
      return first

def readPipeline (fuel : Nat) (e : Expecting) : Read Command := do
  match fuel with
  | 0 => Read.refuse "end of file unexpected"
  | fuel + 1 => do
    let t ← readToken fuel e
    if t.isReserved "!" then return .negation (← readStages fuel ⟨false, true, true⟩)
    else do
      Read.putBack t
      readStages fuel .nothing

def readStages (fuel : Nat) (e : Expecting) : Read Command := do
  match fuel with
  | 0 => Read.refuse "end of file unexpected"
  | fuel + 1 => do
    let first ← readCommand fuel e
    match ← readMoreStages fuel with
    | [] => return first
    | more => return .pipeline (first :: more)

def readMoreStages (fuel : Nat) : Read (List Command) := do
  match fuel with
  | 0 => return []
  | fuel + 1 => do
    let t ← readToken fuel .nothing
    match t with
    | .mark "|" => do
      let next ← readCommand fuel .command
      return next :: (← readMoreStages fuel)
    | _ => do
      Read.putBack t
      return []

/-- Reads a reserved word or a mark, which has to come next. -/
def expectToken (fuel : Nat) (e : Expecting) (isIt : Token → Bool) (shown : String) : Read Unit := do
  match fuel with
  | 0 => pure ()
  | fuel + 1 =>
    let t ← readToken fuel e
    if isIt t then pure () else Read.refuseToken t (some shown)

def readCommand (fuel : Nat) (e : Expecting) : Read Command := do
  match fuel with
  | 0 => Read.refuse "end of file unexpected"
  | fuel + 1 => do
    let line := (← get).line
    let t ← readToken fuel e
    let word (text : String) : Read Unit :=
      expectToken fuel .nothing (·.isReserved text) s!"\"{text}\""
    let redirected (command : Command) : Read Command := do
      match ← readRedirects fuel ⟨false, true, true⟩ with
      | [] => return command
      | rs => return .group line [command] rs
    match t with
    | .reserved "if" => do
      let command ← readConditional fuel
      word "fi"
      redirected command
    | .reserved "while" | .reserved "until" => do
      let condition ← readList fuel false false
      word "do"
      let body ← readList fuel false false
      word "done"
      redirected (.loop (t.isReserved "until") condition body)
    | .reserved "for" => do
      let (name, words) ← readEach fuel
      expectToken fuel .command (·.isReserved "do") "\"do\""
      let body ← readList fuel false false
      word "done"
      redirected (.each line name words body)
    | .reserved "case" => do
      match ← readToken fuel .nothing with
      | .word w => do
        expectToken fuel .command (·.isReserved "in") "\"in\""
        let branches ← readBranches fuel
        redirected (.choice line w branches)
      | t => Read.refuseToken t (some "word")
    | .reserved "\x7b" => do
      let body ← readList fuel false false
      word "\x7d"
      return .group line body (← readRedirects fuel ⟨false, true, true⟩)
    | .mark "(" => do
      let body ← readList fuel false false
      expectToken fuel .nothing (·.isMark ")") "\")\""
      return .subshell line body (← readRedirects fuel ⟨false, true, true⟩)
    | .word _ | .redirection _ _ | .document _ _ => do
      Read.putBack t
      readSimple fuel (← get).line [] [] []
    | _ => Read.refuseToken t none

/-- Reads a conditional command after its first word, up to its last one. -/
def readConditional (fuel : Nat) : Read Command := do
  match fuel with
  | 0 => Read.refuse "end of file unexpected"
  | fuel + 1 => do
    let condition ← readList fuel false false
    expectToken fuel .nothing (·.isReserved "then") "\"then\""
    let thenPart ← readList fuel false false
    let t ← readToken fuel .nothing
    match t with
    | .reserved "elif" => return .conditional condition thenPart [← readConditional fuel]
    | .reserved "else" => return .conditional condition thenPart (← readList fuel false false)
    | _ => do
      Read.putBack t
      return .conditional condition thenPart []

def readEach (fuel : Nat) : Read (Octets × Option (List Word)) := do
  match fuel with
  | 0 => Read.refuse "end of file unexpected"
  | fuel + 1 =>
    let name := match ← readToken fuel .nothing with
      | .word w => (Word.plainText? w).filter isName
      | _ => none
    match name with
    | none => Read.refuse "Bad for loop variable"
    | some name => do
      let t ← readToken fuel .command
      match t with
      | .reserved "in" => return (name, some (← readWords fuel))
      | .mark ";" => return (name, none)
      | _ => do
        Read.putBack t
        return (name, none)

def readWords (fuel : Nat) : Read (List Word) := do
  match fuel with
  | 0 => return []
  | fuel + 1 => do
    let t ← readToken fuel .nothing
    match t with
    | .word w => return w :: (← readWords fuel)
    | .newline | .mark ";" => return []
    | _ => Read.refuseToken t none

def readBranches (fuel : Nat) : Read (List (List Word × List Command)) := do
  match fuel with
  | 0 => Read.refuse "end of file unexpected"
  | fuel + 1 => do
    let t ← readToken fuel ⟨true, true, false⟩
    if t.isReserved "esac" then return []
    else do
      let t ← if t.isMark "(" then readToken fuel .nothing else pure t
      let patterns ← readPatterns fuel t
      let body ← readList fuel false true
      let t ← readToken fuel ⟨true, true, false⟩
      if t.isReserved "esac" then return [(patterns, body)]
      else if t.isMark ";;" then return (patterns, body) :: (← readBranches fuel)
      else Read.refuseToken t (some "\";;\"")

/-- Reads patterns up to a closing bracket, the first of them being given. -/
def readPatterns (fuel : Nat) (first : Token) : Read (List Word) := do
  match fuel with
  | 0 => Read.refuse "end of file unexpected"
  | fuel + 1 => do
    let word : Word := match first with
      | .word w => w
      | .reserved text => text.toList.map .plain
      | _ => []
    let t ← readToken fuel .nothing
    match t with
    | .mark "|" => do
      let next ← readToken fuel .nothing
      return word :: (← readPatterns fuel next)
    | .mark ")" => return [word]
    | _ => Read.refuseToken t (some "\")\"")

def readRedirects (fuel : Nat) (e : Expecting) : Read (List Redirect) := do
  match fuel with
  | 0 => return []
  | fuel + 1 => do
    let t ← readToken fuel e
    match t with
    | .redirection _ _ | .document _ _ => do
      let r ← readTarget fuel t
      return r :: (← readRedirects fuel .nothing)
    | _ => do
      Read.putBack t
      return []

def readTarget (fuel : Nat) (t : Token) : Read Redirect := do
  match fuel with
  | 0 => Read.refuse "end of file unexpected"
  | fuel + 1 =>
    let source := match t with
      | .document _ _ => Source.stopLine
      | _ => .word
    match t, ← readPlainToken fuel source with
    | .redirection descriptor kind, .word w => return .named descriptor kind w
    | .document descriptor strips, .word w => do
      let number := (← get).nextDocument
      modify fun i => { i with
        nextDocument := number + 1
        pending := i.pending ++ [⟨number, strips, Word.characters w, Word.isQuoted w⟩] }
      return .document descriptor number
    | _, found => Read.refuseToken found none

/-- Reads the assignments, words and redirections of a simple command, or the definition of a
function. -/
def readSimple (fuel : Nat) (line : Nat) (assignments : List (Octets × Word)) (words : List Word)
    (redirects : List Redirect) : Read Command := do
  match fuel with
  | 0 => Read.refuse "end of file unexpected"
  | fuel + 1 => do
    let t ← readToken fuel ⟨false, false, words.isEmpty⟩
    match t with
    | .word w =>
      match if words.isEmpty then Word.assignment? w else none with
      | some a => readSimple fuel line (assignments ++ [a]) words redirects
      | none => readSimple fuel line assignments (words ++ [w]) redirects
    | .redirection _ _ | .document _ _ => do
      let r ← readTarget fuel t
      readSimple fuel line assignments words (redirects ++ [r])
    | .mark "(" =>
      match words with
      | [w] =>
        if assignments.isEmpty && redirects.isEmpty then do
          expectToken fuel .nothing (·.isMark ")") "\")\""
          match (Word.plainText? w).filter isName with
          | some name =>
            if specialCommands.contains (textOf name) then Read.refuse "Bad function name"
            else return .define name (← readCommand fuel .command)
          | none => Read.refuse "Bad function name"
        else endSimple t
      | _ => endSimple t
    | _ => endSimple t
where
  endSimple (t : Token) : Read Command := do
    Read.putBack t
    return .simple line assignments words redirects

end

def Input.ofScript (script : Octets) (nextDocument : Nat) (aliases : List (Octets × Octets)) : Input :=
  { rest := script, line := 1, ahead := none, pending := [], documents := []
    nextDocument := nextDocument, aliases := aliases, inUse := [] }

/-- The commands of the next line of a script, unless the script is at its end, and what is left after
the line. -/
def nextLine (i : Input) : Except ScriptFault (Option (List Command) × Input) := do
  let size := i.rest.length + (i.aliases.flatMap fun (_, text) => text).length
  let (commands, i) ← (readList (8 * size + 1000) true false).run
    { i with ahead := none, pending := [] }
  match commands, i.ahead with
  | [], some .ending => .ok (none, i)
  | _, _ => .ok (some commands, i)

end ReleasePackaging.Shell
