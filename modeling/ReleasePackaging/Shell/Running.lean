import ReleasePackaging.Shell.Arithmetic
import ReleasePackaging.Shell.Commands

/-!
# Running scripts

Commands are run one after another in a state. A command that is run apart, in a pipeline, between
round brackets, in the background or for its output, changes the file tree and the streams but nothing
else. The commands known are those that the shell has itself and a few programs that behave like them.
-/
namespace ReleasePackaging.Shell

/-- How a command is run: whether its status is asked about, so that it ends nothing, and whether nothing
is run after it. -/
structure Manner where
  isTested : Bool
  isLast : Bool

namespace Manner

/-- A command whose status is asked about. -/
def tested : Manner := ⟨true, false⟩

def notLast (m : Manner) : Manner := { m with isLast := false }

end Manner

/-- How a word is expanded: whether it is split into fields, whether it stands in quotation marks as a
whole, whether its plain text is split like what an expansion gave, and where a tilde stands for a home
directory: at the beginning, and after colons too. -/
structure Expansion where
  splits : Bool
  isQuoted : Bool
  breaksText : Bool
  tilde : Bool
  tildeAfterColons : Bool

namespace Expansion

def fields : Expansion := ⟨true, false, false, true, false⟩

def value : Expansion := ⟨false, false, false, true, true⟩

def text : Expansion := ⟨false, false, false, true, false⟩

def quoted : Expansion := ⟨false, true, false, false, false⟩

/-- The argument of a parameter, in quotation marks or not. -/
def argument (e : Expansion) (isQuoted : Bool) : Expansion :=
  { e with isQuoted := isQuoted, breaksText := !isQuoted, tilde := true }

end Expansion

namespace Run

def homeOf (s : State) (name : Octets) : Option Octets :=
  if name.isEmpty then s.valueOf? "HOME".toList
  else if name = "root".toList then some "/root".toList
  else none

/-- The name after a tilde and what follows it, if the tilde may stand for a home directory. -/
def tildeName? (stopsAtColon : Bool) : Word → Option (Octets × Word)
  | [] => some ([], [])
  | .plain c :: rest =>
    if c = '/' || (stopsAtColon && c = ':') then some ([], .plain c :: rest)
    else (tildeName? stopsAtColon rest).map fun (name, w) => (c :: name, w)
  | _ => none

/-- The arguments as one text, with what stands between them: null octets where they are to be split. -/
def joinedArguments (s : State) (e : Expansion) (isQuoted isStar : Bool) : Octets :=
  let first := (separators s).take 1
  let joiner : Octets :=
    if isQuoted && !isStar && e.splits then ['\x00']
    else if e.splits && !isQuoted then
      if (s.valueOf? "IFS".toList).isSome then ['\x00'] else [' ']
    else first
  joiner.intercalate s.arguments

def parameter? (s : State) (e : Expansion) (isQuoted : Bool) (name : Octets) : Option Octets :=
  match name with
  | ['?'] => some (toString s.status).toList
  | ['$'] => some (toString s.number).toList
  | ['#'] => some (toString s.arguments.length).toList
  | ['!'] => s.jobs.head?.map fun (n, _) => (toString n).toList
  | ['-'] => some s.optionLetters
  | ['@'] => some (joinedArguments s e isQuoted false)
  | ['*'] => some (joinedArguments s e isQuoted true)
  | _ =>
    if name.all Char.isDigit then
      if sizeOf 10 name = 0 then some s.name else s.arguments[sizeOf 10 name - 1]?
    else s.valueOf? name

/-- Output as a value: without null octets, and without the line ends at its end. -/
def asValue (cs : Octets) : Octets :=
  (cs.filter (· != '\x00')).reverse.dropWhile (· == '\n') |>.reverse

def cutOff (use : ParameterUse) (pattern : List Wildcard) (value : Octets) : Octets :=
  let places := List.range (value.length + 1)
  let found (order : List Nat) (part : Nat → Octets) :=
    order.find? fun n => Wildcard.accepts pattern (part n)
  match use with
  | .withoutShortestEnd => ((found places.reverse value.drop).map value.take).getD value
  | .withoutLongestEnd => ((found places value.drop).map value.take).getD value
  | .withoutShortestStart => ((found places value.take).map value.drop).getD value
  | .withoutLongestStart => ((found places.reverse value.take).map value.drop).getD value
  | _ => value

/-- Runs something apart, after which only the file tree and the streams keep its changes, and what
other shells have received. What is to be done when a shell exits is done at its end. -/
def apart (action : Run Unit) (atExit : Octets → Run Unit) : Run Unit := do
  let before ← get
  let kept := before.traps.filter fun (_, a) => a.isEmpty
  set { before with
    traps := kept, outerTraps := some (before.outerTraps.getD before.traps) }
  let outcome ← attempt do
    let r ← attempt action
    match r with
    | .error (.signal n) => throw (.signal n)
    | .error (.exit n) | .error (.back n) => setStatus n
    | _ => pure ()
    match State.under 0 (← get).traps with
    | some a => atExit a
    | none => pure ()
  let after ← get
  let status := match outcome with
    | .error (.exit n) | .error (.back n) => n
    | _ => after.status
  set { before with
    tree := { after.tree with workDir := before.tree.workDir }
    streams := after.streams, sources := after.sources, files := after.files
    documents := after.documents, nextDocument := after.nextDocument
    received := after.received, status := status % 256 }
  match outcome with
  | .error (.signal n) => throw (.signal n)
  | _ => pure ()

def newStream : Run Nat := do
  let s ← get
  let n := State.freshNumber s.streams
  set { s with streams := State.putUnder n .empty s.streams }
  return n

def newSource (cs : Octets) : Run Nat := do
  let s ← get
  let n := State.freshNumber s.sources
  set { s with sources := State.putUnder n cs s.sources }
  return n

/-- Lets a descriptor lead somewhere, or nowhere at all. -/
def connect (descriptor : Nat) (channel : Option Channel) : Run Unit := modify fun s =>
  let others := s.channels.filter fun (n, _) => n != descriptor
  { s with channels := match channel with
      | some c => (descriptor, c) :: others
      | none => others }

def connectFile (descriptor number : Nat) (appends : Bool) : Run Unit := do
  let s ← get
  let n := State.freshNumber s.files
  set { s with files := State.putUnder n ⟨number, 0, appends⟩ s.files }
  connect descriptor (some (.file n))

def openProblem (isMade : Bool) (fault : AccessFault) : String :=
  match fault with
  | .system .noEntry _ | .system .notDirectory _ =>
    if isMade then "Directory nonexistent" else "No such file"
  | .system cause _ => cause.text
  | .nullCharacter => "No such file"

/-- Opens a file for a descriptor to be written, or read and written. -/
def openToWrite (descriptor : Nat) (kind : RedirectKind) (path : Octets) : Run Unit := do
  let s ← get
  let name := textOf path
  let refuseMade (problem : String) : Run Unit :=
    refuse ("cannot create ".toList ++ path ++ s!": {problem}".toList)
  let isKept := kind = .append || kind = .readWrite
  if name = Condition.nullFile then connect descriptor (some .nowhere)
  else if name = "/dev/stdout" || name = "/dev/stderr" then
    connect descriptor (State.under (if name = "/dev/stdout" then 1 else 2) s.channels)
  else if kind = .write && s.isOn 'C' && s.tree.stands (fun | .file _ _ => true | _ => false) name then
    refuseMade "File exists"
  else
    match s.tree.openFor isKept name with
    | .ok (_, number, tree) => do
      set { s with tree := tree }
      connectFile descriptor number (kind = .append)
    | .error fault => refuseMade (openProblem true fault)

def openToRead (descriptor : Nat) (path : Octets) : Run Unit := do
  let s ← get
  let name := textOf path
  if name = Condition.nullFile then connect descriptor (some (.source (← newSource [])))
  else if name = "/dev/stdin" then connect descriptor (State.under 0 s.channels)
  else
    match s.tree.status true name with
    | .ok (_, .file number _) => connectFile descriptor number false
    | .ok _ => connect descriptor (some (.source (← newSource [])))
    | .error fault =>
      refuse ("cannot open ".toList ++ path ++ s!": {openProblem false fault}".toList)

/-- A redirection with its target expanded; a document is expanded only when it is to be read. -/
inductive Target where
  | file (descriptor : Nat) (kind : RedirectKind) (path : Octets)
  | copy (descriptor source : Nat)
  | close (descriptor : Nat)
  | document (descriptor : Nat) (w : Word)

/-- Runs something and puts the descriptors back afterwards, however it ends. -/
def keepingChannels (action : Run α) : Run α := do
  let channels := (← get).channels
  finally_ action (modify fun s => { s with channels := channels })

/-- Runs a command of the shell's own under its name. A fault of it ends only itself, unless it is a
special one; output that could not be written is complained about. -/
def runOwn (name : Octets) (isSpecial : Bool) (action : Run Nat) : Run Unit := do
  let outer := (← get).command
  modify fun s => { s with command := some name, failsToWrite := false }
  let r ← attempt do
    let status ← action
    if (← get).failsToWrite then do
      complain (name ++ ": I/O error".toList)
      setStatus (status ||| 1)
    else setStatus status
  modify fun s => { s with command := outer, failsToWrite := false }
  match r with
  | .error .fault => if isSpecial then throw .fault else pure ()
  | r => settle r

/-- Takes the options off a command that is to be run as no function, unless there are others than those
for running it. -/
def plainCommand? : List Octets → Option (List Octets)
  | ['-', '-'] :: rest => if rest.isEmpty then none else some rest
  | ('-' :: c :: cs) :: rest => if (c :: cs).all (· == 'p') then plainCommand? rest else none
  | [] => none
  | words => some words

mutual

/-- Expands the pieces of a word. `atStart` tells that a tilde may come, `inMarks` that quotation marks
are open. -/
def expandPieces (fuel : Nat) (e : Expansion) (atStart inMarks : Bool) (w : Word) :
    Run (List Segment) := do
  match fuel, w with
  | 0, _ | _, [] => return []
  | fuel + 1, .plain c :: rest => do
    let home? ← if c = '~' && atStart then
        match tildeName? e.tildeAfterColons rest with
        | some (name, left) => do pure ((homeOf (← get) name).map fun h => (h, left))
        | none => pure none
      else pure none
    match home? with
    | some (home, left) => do
      let more ← expandPieces fuel e false inMarks left
      return .whole (Glyph.all true home) :: more
    | none => do
      let run := Word.plainStart (.plain c :: rest)
      let run := if e.tildeAfterColons then
          let before := run.takeWhile (· != ':')
          run.take (before.length + 1)
        else run
      let splitting := if e.breaksText && !inMarks then .atSeparators else .never
      let more ← expandPieces fuel e (e.tildeAfterColons && run.getLast? == some ':') inMarks
        ((.plain c :: rest).drop run.length)
      return ⟨splitting, Glyph.all false run⟩ :: more
  | fuel + 1, .quoted c :: rest => do
    let more ← expandPieces fuel e false inMarks rest
    return .whole [.octet c true] :: more
  | fuel + 1, .quotation :: rest => do
    let all? : Option (Piece × Word) := match inMarks, rest with
      | false, .parameter ['@'] .plain b [] :: .quotation :: left =>
        some (.parameter ['@'] .plain b [], left)
      | _, _ => none
    match all? with
    | some (piece, left) => do
      let first ← expandPiece fuel e true piece
      return first ++ (← expandPieces fuel e false inMarks left)
    | none => do
      let more ← expandPieces fuel e false (!inMarks) rest
      return .whole [.quotation] :: more
  | fuel + 1, piece :: rest => do
    let first ← expandPiece fuel e (e.isQuoted || inMarks) piece
    return first ++ (← expandPieces fuel e false inMarks rest)

def expandPiece (fuel : Nat) (e : Expansion) (isQuoted : Bool) (piece : Piece) : Run (List Segment) := do
  match fuel with
  | 0 => return []
  | fuel + 1 =>
    let given (cs : Octets) : List Segment :=
      [⟨if isQuoted then .never else .atSeparators, Glyph.all isQuoted cs⟩]
    match piece with
    | .output script => do
      let n ← newStream
      apart (do
        connect 1 (some (.stream n))
        runList fuel ⟨false, true⟩ script) (runExit fuel)
      let cs := asValue (ofBytes ((← get).written n))
      modify fun s => { s with
        streams := s.streams.filter fun (m, _) => m != n, outputStatus := s.status }
      return given cs
    | .arithmetic expression => do
      let text := Segment.octetsOf (← expandPieces fuel .text false false expression)
      return given (toString (← Arithmetic.evaluate text)).toList
    | .parameter name use emptyCounts argument =>
      expandParameter fuel e isQuoted name use emptyCounts argument
    | _ => return []

def expandParameter (fuel : Nat) (e : Expansion) (isQuoted : Bool) (name : Octets)
    (use : ParameterUse) (emptyCounts : Bool) (argument : Word) : Run (List Segment) := do
  match fuel with
  | 0 => return []
  | fuel + 1 => do
    if use = .unknown then refuse "Bad substitution".toList
    let s ← get
    let value? := parameter? s e isQuoted name
    let isGiven := value?.any fun v => emptyCounts || !v.isEmpty
    let given (cs : Octets) : List Segment :=
      let splitting : Splitting :=
        if !isQuoted then .atSeparators
        else if name = ['@'] && !s.arguments.isEmpty then .atNulls else .never
      if cs.isEmpty && splitting = .never then [] else [⟨splitting, Glyph.all isQuoted cs⟩]
    let lacks (message : String) : Run (List Segment) := refuse (name ++ s!": {message}".toList)
    match use with
    | .default =>
      if isGiven then return given (value?.getD [])
      else expandPieces fuel (e.argument isQuoted) true false argument
    | .alternative =>
      if isGiven then expandPieces fuel (e.argument isQuoted) true false argument else return []
    | .assign =>
      if isGiven then return given (value?.getD [])
      else do
        let value := Segment.octetsOf (← expandPieces fuel .text true false argument)
        assignNamed name value
        return given value
    | .required =>
      if isGiven then return given (value?.getD [])
      else if argument.isEmpty then
        lacks (if emptyCounts then "parameter not set" else "parameter not set or null")
      else do
        let message := Segment.octetsOf (← expandPieces fuel .text true false argument)
        refuse (name ++ ": ".toList ++ message)
    | _ =>
      match value? with
      | none =>
        if s.isOn 'u' then lacks "parameter not set"
        else if use = .length then return given ['0'] else return []
      | some value =>
        match use with
        | .length => return given (toString value.length).toList
        | .plain => return given value
        | _ => do
          let gs := Segment.glyphsOf (← expandPieces fuel .text true false argument)
          return given (cutOff use (Wildcard.ofMarked (Glyph.marked gs)) value)

def expandText (fuel : Nat) (e : Expansion) (w : Word) : Run Octets := do
  match fuel with
  | 0 => return []
  | fuel + 1 => return Segment.octetsOf (← expandPieces fuel e e.tilde false w)

def expandWord (fuel : Nat) (w : Word) : Run (List Octets) := do
  match fuel with
  | 0 => return []
  | fuel + 1 => do
    let ss ← expandPieces fuel .fields true false w
    let s ← get
    let fields := Splitter.fieldsOf (separators s) none ss
    return if s.isOn 'f' then fields.map Glyph.octets else fields.flatMap (resolveField s.tree)

/-- Expands words into fields; words that assign are taken so if that is asked for. -/
def expandWords (fuel : Nat) (declares : Bool) (ws : List Word) : Run (List Octets) := do
  match fuel, ws with
  | 0, _ | _, [] => return []
  | fuel + 1, w :: rest => do
    let first ← match if declares then Word.assignment? w else none with
      | some (name, value) => do pure [name ++ '=' :: (← expandText fuel .value value)]
      | none => expandWord fuel w
    return first ++ (← expandWords fuel declares rest)

/-- Expands words up to the first one that gives fields, and gives the words after it. -/
def expandFirst (fuel : Nat) (ws : List Word) : Run (List Octets × List Word) := do
  match fuel, ws with
  | 0, _ | _, [] => return ([], [])
  | fuel + 1, w :: rest => do
    match ← expandWord fuel w with
    | [] => expandFirst fuel rest
    | fields => return (fields, rest)

def expandTargets (fuel : Nat) (rs : List Redirect) : Run (List Target) := do
  match fuel, rs with
  | 0, _ | _, [] => return []
  | fuel + 1, .named descriptor .copy w :: rest => do
    let target ← match ← expandWord fuel w with
      | ['-'] :: _ => pure (.close descriptor)
      | [d] :: _ => if d.isDigit then pure (.copy descriptor (sizeOf 10 [d])) else badNumber
      | _ => badNumber
    return target :: (← expandTargets fuel rest)
  | fuel + 1, .named descriptor kind w :: rest => do
    let path ← expandText fuel .text w
    return .file descriptor kind path :: (← expandTargets fuel rest)
  | fuel + 1, .document descriptor n :: rest => do
    let w := (State.under n (← get).documents).getD []
    return .document descriptor w :: (← expandTargets fuel rest)
where
  /-- Refuses a target that is no descriptor. -/
  badNumber : Run Target := refuse "Syntax error: Bad fd number".toList

def redirect (fuel : Nat) (targets : List Target) : Run Unit := do
  match fuel, targets with
  | 0, _ | _, [] => pure ()
  | fuel + 1, target :: rest => do
    match target with
    | .file descriptor .read path => openToRead descriptor path
    | .file descriptor kind path => openToWrite descriptor kind path
    | .copy descriptor source => do
      match State.under source (← get).channels with
      | some c => connect descriptor (some c)
      | none => refuse s!"{source}: Bad file descriptor".toList
    | .close descriptor => connect descriptor none
    | .document descriptor w => do
      let cs ← expandText fuel .quoted w
      connect descriptor (some (.source (← newSource cs)))
    redirect fuel rest

/-- Applies redirections in order; tells whether all of them could be. -/
def redirectAll (fuel : Nat) (targets : List Target) : Run Bool := do
  match fuel with
  | 0 => return true
  | fuel + 1 =>
    match ← attempt (redirect fuel targets) with
    | .ok _ => return true
    | .error .fault => return false
    | .error stop => throw stop

/-- Expands the values of assignments one after another, and makes each. -/
def assignAll (fuel : Nat) (make : Octets → Octets → Run Unit)
    (assignments : List (Octets × Word)) : Run (List Octets) := do
  match fuel, assignments with
  | 0, _ | _, [] => return []
  | fuel + 1, (name, w) :: rest => do
    let value ← expandText fuel .value w
    make name value
    return (name ++ '=' :: value) :: (← assignAll fuel make rest)

/-- Shows the words of a command before it is run, if that is asked for. -/
def trace (fuel : Nat) (channel : Option Channel) (words : List Octets) : Run Unit := do
  match fuel with
  | 0 => pure ()
  | fuel + 1 =>
    let s ← get
    if s.isOn 'x' then do
      let text := (s.valueOf? "PS4".toList).getD []
      let input := Input.ofScript text s.nextDocument s.aliases
      let before ← match (readPieces (8 * text.length + 100) (.document ⟨0, false, ['\n'], false⟩)
          .document).run input with
        | .ok ((w, _), _) => do
          modify fun s => { s with options := s.options.filter (· != 'x') }
          let cs ← expandText fuel .quoted w
          modify fun s => { s with options := 'x' :: s.options }
          pure cs
        | .error _ => pure text
      keepingChannels do
        connect 2 channel
        let _ ← write 2 (before ++ [' '].intercalate words ++ ['\n'])

def runText (fuel : Nat) (m : Manner) (i : Input) : Run Unit := do
  match fuel with
  | 0 => pure ()
  | fuel + 1 =>
    let s ← get
    match nextLine { i with aliases := s.aliases, documents := [], nextDocument := s.nextDocument } with
    | .error f => do
      modify fun s => { s with line := f.line }
      refuse f.message.toList
    | .ok (none, _) => pure ()
    | .ok (some commands, left) => do
      modify fun s => { s with
        documents := left.documents ++ s.documents, nextDocument := left.nextDocument }
      runList fuel { m with isLast := m.isLast && left.rest.isEmpty } commands
      runText fuel m left

/-- Runs what is to be done on a signal, after which the status is what it was before. -/
def runTrap (fuel : Nat) (action : Octets) : Run Unit := do
  match fuel with
  | 0 => pure ()
  | fuel + 1 => do
    let s ← get
    modify fun s => { s with trapStatus := some (s.trapStatus.getD s.status) }
    finally_ (runText fuel .tested (Input.ofScript action 0 []))
      (modify fun t => { t with trapStatus := s.trapStatus })
    setStatus s.status

def runReceived (fuel : Nat) : Run Unit := do
  match fuel with
  | 0 => pure ()
  | fuel + 1 =>
    let s ← get
    match s.outerTraps, s.received with
    | none, n :: rest => do
      set { s with received := rest }
      match State.under n s.traps with
      | some action => runTrap fuel action
      | none => pure ()
      runReceived fuel
    | _, _ => pure ()

/-- Runs what is to be done when a shell exits, and exits. -/
def runExit (fuel : Nat) (action : Octets) : Run Unit := do
  match fuel with
  | 0 => pure ()
  | fuel + 1 => do
    let status := (← get).status
    modify fun s => { s with
      traps := s.traps.filter fun (n, _) => n != 0, trapStatus := some status }
    match ← attempt (runText fuel ⟨false, false⟩ (Input.ofScript action 0 [])) with
    | .error (.exit n) => throw (.exit n)
    | .error (.signal n) => throw (.signal n)
    | .error .fault => throw (.exit 2)
    | _ => throw (.exit status)

def runRunning (fuel : Nat) (m : Manner) (name : String) (words : List Octets) : Run Nat := do
  match fuel with
  | 0 => return 0
  | fuel + 1 =>
    match name, words with
    | "eval", _ => do
      setStatus 0
      runText fuel { m with isLast := false } (Input.ofScript ([' '].intercalate words) 0 [])
      return (← get).status
    | ".", [] => return 0
    | ".", path :: _ => do
      setStatus 0
      if !path.contains '/' then refuse (path ++ ": not found".toList)
      match (← get).tree.read (textOf path) with
      | .ok content => do
        modify fun s => { s with command := some path }
        match ← attempt (runText fuel ⟨m.isTested, false⟩ (Input.ofScript (ofBytes content) 0 [])) with
        | .error (.back status) => return status
        | r => do
          settle r
          return (← get).status
      | .error (.system .isDirectory _) => return 0
      | .error fault =>
        refuse ("cannot open ".toList ++ path ++ s!": {openProblem false fault}".toList)
    | "exec", [] => return 0
    | "exec", program :: rest => do
      let s ← get
      let name := textOf program
      match program? fuel m name rest with
      | some action => do
        modify fun s => { s with traps := [], command := none }
        action
        throw (.exit (← get).status)
      | none => do
        let (problem, status) := unknownCommand s.tree name
        complain (program ++ s!": {problem}".toList)
        throw (.exit status)
    | "hash", _ => hash (fun name => isOwn name || (programPath? name).isSome) words
    | "kill", _ => runKill fuel words
    | "command", _ => do
      let (found, words) ← commandOptions ['p', 'v', 'V'] [] words
      match words with
      | word :: _ =>
        if found.any fun (c, _) => c != 'p' then describe (found.any fun (c, _) => c == 'V') word
        else return 0
      | [] => return 0
    | _, _ => describeAll fuel 0 words

def describeAll (fuel : Nat) (status : Nat) (words : List Octets) : Run Nat := do
  match fuel, words with
  | 0, _ | _, [] => return status
  | fuel + 1, w :: rest => do
    let n ← describe true w
    describeAll fuel (status ||| n) rest

def program? (fuel : Nat) (m : Manner) (name : String) (words : List Octets) : Option (Run Unit) :=
  match fuel with
  | 0 => none
  | fuel + 1 =>
    let base := ((name.splitOn "/").getLast?).getD ""
    if name != base && name != s!"/bin/{base}" && name != s!"/usr/bin/{base}" then none
    else
      match base with
      | "sh" | "dash" => some (runShell fuel m name.toList words)
      | "cat" => some (do setStatus (← cat words))
      | "sleep" => some (setStatus 0)
      | "echo" => some do
        put (plainEcho words)
        setStatus 0
      | "true" | "false" | "test" | "[" | "pwd" | "printf" =>
        (ownCommand? base).map fun action => runOwn base.toList false (action words)
      | _ => none

def runWords (fuel : Nat) (m : Manner) (isPlain : Bool) (isSpecial : Bool) (words : List Octets) :
    Run Unit := do
  match fuel, words with
  | 0, _ | _, [] => pure ()
  | fuel + 1, first :: rest => do
    let s ← get
    let name := textOf first
    match if isPlain then none else s.functions.lookup first with
    | some body => do
      modify fun s => { s with arguments := rest, loops := 0, optionPlace := (1, none) }
      let r ← attempt (runCommand fuel ⟨m.isTested, false⟩ body)
      modify fun t => { t with
        arguments := s.arguments, loops := s.loops, optionPlace := s.optionPlace }
      match r with
      | .error (.back status) => setStatus status
      | r => settle r
    | none =>
      if runningCommands.contains name then
        runOwn first isSpecial (runRunning fuel m name rest)
      else
        match ownCommand? name with
        | some action => runOwn first isSpecial (action rest)
        | none =>
          match (programPath? name).bind fun _ => program? fuel m name rest with
          | some action => action
          | none => do
            let (problem, status) := unknownCommand s.tree name
            complain (first ++ s!": {problem}".toList)
            setStatus status

/-- Sends a signal, which only the shell itself can get. -/
def runKill (fuel : Nat) (words : List Octets) : Run Nat := do
  match fuel with
  | 0 => return 0
  | fuel + 1 => do
    let usage : Run Nat := refuse
      "Usage: kill [-s sigspec | -signum | -sigspec] [pid | job]... or\nkill -l [exitstatus]".toList
    let direct := match words with
      | ('-' :: w) :: rest => (Signal.ofWord? 1 w).map fun n => (n, rest)
      | _ => none
    let (signal, lists, targets) ← match words, direct with
      | [], _ => do
        let _ ← usage
        pure (none, false, [])
      | _, some (n, rest) => pure (some n, false, rest)
      | _, none => do
        let (found, rest) ← if (words.headD []).head? == some '-' then commandOptions ['l'] ['s'] words
          else pure ([], words)
        let signal ← match found.find? (·.1 == 's') with
          | some (_, w) =>
            match Signal.ofWord? 1 w with
            | some n => pure (some n)
            | none => refuse ("invalid signal number or name: ".toList ++ w)
          | none => pure none
        pure (signal, found.any (·.1 == 'l'), rest)
    if lists then
      if signal.isSome then usage
      else
        match targets with
        | [] => do
          put ((['0', '\n']) ++ (Signal.names.drop 1).flatMap fun n => n.toList ++ ['\n'])
          return 0
        | w :: _ => do
          let n ← number w
          let n := if 128 < n then n - 128 else n
          match if n = 0 then none else Signal.name? n with
          | some name => do
            putLine name.toList
            return 0
          | none => refuse ("invalid signal number or exit status: ".toList ++ w)
    else if targets.isEmpty then usage
    else sendAll fuel (signal.getD 15) 0 targets

def sendAll (fuel : Nat) (signal status : Nat) (targets : List Octets) : Run Nat := do
  match fuel, targets with
  | 0, _ | _, [] => return status
  | fuel + 1, w :: rest => do
    if w.head? == some '%' then refuse ("No such job: ".toList ++ w)
    let n ← number (if w.head? == some '-' then w.drop 1 else w)
    let s ← get
    if n = s.number && w.head? != some '-' then do
      match State.under signal (s.outerTraps.getD s.traps) with
      | some action =>
        if signal = 9 || signal = 19 then throw (.signal signal)
        else if !action.isEmpty && signal != 0 then
          modify fun s => { s with received := s.received.filter (· != signal) ++ [signal] }
      | none => if !Signal.harmless.contains signal then throw (.signal signal)
      sendAll fuel signal status rest
    else if (State.under n s.jobs).isSome then sendAll fuel signal status rest
    else do
      complain "No such process\n".toList
      sendAll fuel signal 1 rest

/-- Runs another shell with the words it is given. A signal that ends it is told. -/
def runShell (fuel : Nat) (m : Manner) (name : Octets) (words : List Octets) : Run Unit := do
  match fuel with
  | 0 => pure ()
  | fuel + 1 => do
    let outer ← get
    let inner := apart (do
      modify fun s => { s with
        functions := [], aliases := [], status := 0, line := 0, arguments := [], scopes := []
        name := name, number := s.number + 1, outerTraps := none, trapStatus := none, jobs := []
        command := none, options := [], loops := 0, optionPlace := (1, none)
        bindings := State.startVariables (State.pathText s.tree.workDir)
          (s.bindings.filterMap fun (n, v) => if v.isExported then v.value.map fun x => (n, x) else none) }
      runScript fuel words) (runExit fuel)
    match ← attempt inner with
    | .error (.signal n) => do
      if m.isLast && outer.traps.isEmpty then throw (.signal n)
      modify fun s => { outer with
        tree := { s.tree with workDir := outer.tree.workDir }, streams := s.streams, sources := s.sources
        files := s.files, documents := s.documents, nextDocument := s.nextDocument
        status := 128 + n }
      if n != 2 && n != 13 then do
        let _ ← write 2 (octetsOf (Signal.ending n) ++ ['\n'])
    | r => settle r

/-- Runs the script that the words of a shell give: as an argument, from a file, or from its input. -/
def runScript (fuel : Nat) (words : List Octets) : Run Unit := do
  match fuel, words with
  | 0, _ => pure ()
  | fuel + 1, words => do
    let (takesScript, rest) ← switchStart (words.length + 1) words
    if takesScript then
      match rest with
      | [] => refuse "-c requires an argument".toList
      | script :: others => do
        match others with
        | name :: arguments => modify fun s => { s with name := name, arguments := arguments }
        | [] => pure ()
        runToEnd fuel script
    else
      match if (← get).isOn 's' then [] else rest with
      | [] => do
        modify fun s => { s with arguments := rest }
        let s ← get
        let cs := (s.left? 0).getD []
        set (s.advance 0 cs.length)
        runToEnd fuel cs
      | path :: arguments =>
        match (← get).tree.read (textOf path) with
        | .ok content => do
          modify fun s => { s with name := path, arguments := arguments }
          runToEnd fuel (ofBytes content)
        | .error fault =>
          refuse ("cannot open ".toList ++ path ++ s!": {openProblem false fault}".toList)

/-- Runs a script to its end, and then what is to be done when the shell exits. -/
def runToEnd (fuel : Nat) (script : Octets) : Run Unit := do
  match fuel with
  | 0 => pure ()
  | fuel + 1 => do
    match ← attempt (runText fuel ⟨false, true⟩ (Input.ofScript script 0 [])) with
    | .error (.exit status) | .error (.back status) => setStatus status
    | .error (.signal n) => throw (.signal n)
    | _ => pure ()
    match State.under 0 (← get).traps with
    | some action => runExit fuel action
    | none => throw (.exit (← get).status)

def runSimple (fuel : Nat) (m : Manner) (assignments : List (Octets × Word)) (words : List Word)
    (rs : List Redirect) : Run Unit := do
  match fuel with
  | 0 => pure ()
  | fuel + 1 => do
    modify fun s => { s with outputStatus := 0 }
    let (firsts, left) ← expandFirst fuel words
    let functions := (← get).functions
    let isFunction := (firsts.head?.bind fun w => functions.lookup w).isSome
    let name := textOf (firsts.headD [])
    let declares := !isFunction && ["export", "readonly", "local"].contains name
    let all := firsts ++ (← expandWords fuel declares left)
    let strips := name = "command" && !isFunction
    let plain? := if strips then plainCommand? (all.drop 1) else none
    let run := plain?.getD all
    let isSpecial := !isFunction && specialCommands.contains name
    let isExec := !isFunction && textOf (run.headD []) = "exec"
    let errors := State.under 2 (← get).channels
    let channels := (← get).channels
    let targets ← expandTargets fuel rs
    let body : Run Unit := do
      if ← redirectAll fuel targets then
        let make (n value : Octets) : Run Unit :=
          if all.isEmpty || isSpecial then do
            assign n value
            if isExec && 1 < run.length then declareWord (fun v => { v with isExported := true }) n
          else do
            guardChange n
            remember n
            assign n value
            declareWord (fun v => { v with isExported := true }) n
        let act : Run Unit := do
          let shown ← assignAll fuel make assignments
          trace fuel errors (shown ++ all)
          if all.isEmpty then setStatus (← get).outputStatus
          else runWords fuel m plain?.isSome isSpecial run
        if all.isEmpty || isSpecial then act else inScope act
      else do
        setStatus 2
        if isSpecial then throw .fault
    let keeps := isExec && run.length ≤ 1
    let r ← attempt body
    let isDone := match r with
      | .ok _ => true
      | .error _ => false
    if !(keeps && isDone) then modify fun s => { s with channels := channels }
    settle r

/-- Runs the commands of a pipeline, each with the output of the one before as its input. -/
def runStages (fuel : Nat) (m : Manner) (stages : List Command) : Run Unit := do
  match fuel, stages with
  | 0, _ | _, [] => pure ()
  | fuel + 1, [last] => apart (runCommand fuel ⟨m.isTested, true⟩ last) (runExit fuel)
  | fuel + 1, stage :: rest => do
    let n ← newStream
    apart (do
      connect 1 (some (.stream n))
      runCommand fuel ⟨m.isTested, true⟩ stage) (runExit fuel)
    let source ← newSource (ofBytes ((← get).written n))
    keepingChannels do
      connect 0 (some (.source source))
      runStages fuel m rest

/-- Runs a loop as long as its condition says. -/
def runLoop (fuel : Nat) (m : Manner) (stopsOn : Bool) (condition body : List Command)
    (status : Nat) : Run Unit := do
  match fuel with
  | 0 => pure ()
  | fuel + 1 => do
    let goesOn ← turn fuel .tested condition
    if !goesOn.1 then setStatus 0
    else if goesOn.2 then runLoop fuel m stopsOn condition body status
    else if ((← get).status == 0) == stopsOn then setStatus status
    else do
      let goesOn ← turn fuel m body
      if goesOn.1 then runLoop fuel m stopsOn condition body (← get).status

/-- Runs commands within a loop; tells whether the loop goes on, and whether it does so early. -/
def turn (fuel : Nat) (m : Manner) (body : List Command) : Run (Bool × Bool) := do
  match fuel with
  | 0 => return (false, false)
  | fuel + 1 =>
    let loops := (← get).loops
    modify fun s => { s with loops := loops + 1 }
    let r ← attempt (runList fuel m body)
    modify fun s => { s with loops := loops }
    match r with
    | .error (.leave n) => if n ≤ 1 then return (false, true) else throw (.leave (n - 1))
    | .error (.again n) => if n ≤ 1 then return (true, true) else throw (.again (n - 1))
    | r => do
      settle r
      return (true, false)

def runEach (fuel : Nat) (m : Manner) (name : Octets) (values : List Octets) (body : List Command) :
    Run Unit := do
  match fuel, values with
  | 0, _ | _, [] => pure ()
  | fuel + 1, value :: rest => do
    assign name value
    if (← turn fuel m body).1 then runEach fuel m name rest body

def runChoice (fuel : Nat) (m : Manner) (text : Octets) (branches : List (List Word × List Command)) :
    Run Unit := do
  match fuel, branches with
  | 0, _ | _, [] => setStatus 0
  | fuel + 1, (patterns, body) :: rest => do
    if ← anyAccepts fuel text patterns then
      if body.isEmpty then setStatus 0 else runList fuel m body
    else runChoice fuel m text rest

def anyAccepts (fuel : Nat) (text : Octets) (patterns : List Word) : Run Bool := do
  match fuel, patterns with
  | 0, _ | _, [] => return false
  | fuel + 1, p :: rest => do
    let gs := Segment.glyphsOf (← expandPieces fuel .text true false p)
    if Wildcard.accepts (Wildcard.ofMarked (Glyph.marked gs)) text then return true
    else anyAccepts fuel text rest

def runCommand (fuel : Nat) (m : Manner) (c : Command) : Run Unit := do
  match fuel with
  | 0 => pure ()
  | fuel + 1 => do
    if (← get).isOn 'n' then return
    let atLine (line : Nat) : Run Unit := modify fun s => { s with line := line }
    match c with
    | .simple line assignments words rs => do
      atLine line
      runSimple fuel m assignments words rs
      runReceived fuel
      stopOnFault m
    | .pipeline stages => do
      runStages fuel m stages
      runReceived fuel
      stopOnFault m
    | .negation c => do
      runCommand fuel .tested c
      setStatus (if (← get).status == 0 then 1 else 0)
    | .andThen first second => do
      runCommand fuel .tested first
      if (← get).status == 0 then runCommand fuel m second
    | .orElse first second => do
      runCommand fuel .tested first
      if (← get).status != 0 then runCommand fuel m second
    | .background line body => do
      atLine line
      apart (do
        connect 0 (some (.source (← newSource [])))
        runCommand fuel ⟨false, true⟩ body) (runExit fuel)
      let s ← get
      let n := s.number + 1 + s.jobs.length
      set { s with jobs := (n, s.status) :: s.jobs, status := 0 }
    | .group line body rs => do
      if rs.isEmpty then runList fuel m body
      else do
        atLine line
        let targets ← expandTargets fuel rs
        let isDone ← keepingChannels do
          let isDone ← redirectAll fuel targets
          if isDone then runList fuel m.notLast body else setStatus 2
          return isDone
        if !isDone then stopOnFault m
    | .subshell line body rs => do
      atLine line
      let targets ← expandTargets fuel rs
      apart (do
        redirect fuel targets
        runList fuel ⟨m.isTested, true⟩ body) (runExit fuel)
      runReceived fuel
      stopOnFault m
    | .conditional condition thenPart elsePart => do
      runList fuel .tested condition
      if (← get).status == 0 then runList fuel m thenPart
      else if elsePart.isEmpty then setStatus 0
      else runList fuel m elsePart
    | .loop stopsOn condition body => runLoop fuel m.notLast stopsOn condition body 0
    | .each line name words body => do
      atLine line
      let values ← match words with
        | some ws => expandWords fuel false ws
        | none => pure (← get).arguments
      if values.isEmpty then setStatus 0 else runEach fuel m.notLast name values body
    | .choice line word branches => do
      atLine line
      let text ← expandText fuel .text word
      runChoice fuel m text branches
    | .define name body =>
      modify fun s => { s with
        functions := (name, body) :: s.functions.filter fun (n, _) => n != name, status := 0 }

/-- Leaves the shell after a failed command, if it was told so. -/
def stopOnFault (m : Manner) : Run Unit := do
  let s ← get
  if s.isOn 'e' && !m.isTested && s.status != 0 then throw (.exit s.status)

def runList (fuel : Nat) (m : Manner) (cs : List Command) : Run Unit := do
  match fuel, cs with
  | 0, _ | _, [] => pure ()
  | fuel + 1, [c] => runCommand fuel m c
  | fuel + 1, c :: rest => do
    runCommand fuel m.notLast c
    runList fuel m rest

end

end Run

end ReleasePackaging.Shell
