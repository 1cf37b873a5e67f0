import ReleasePackaging.Shell.Condition
import ReleasePackaging.Shell.Field
import ReleasePackaging.Shell.Mask
import ReleasePackaging.Shell.Options
import ReleasePackaging.Shell.Output
import ReleasePackaging.Shell.Signal
import ReleasePackaging.Shell.Variables

/-!
# Commands of the shell's own

Each command takes words and gives a status. The commands here run no other commands; they write, read,
decide conditions, and change the variables, options and the working directory of the shell.
-/
namespace ReleasePackaging.Shell.Run

def separators (s : State) : Octets := (s.valueOf? "IFS".toList).getD [' ', '\t', '\n']

def printf (words : List Octets) : Run Nat := do
  let (_, words) ← commandOptions [] [] words
  match words with
  | [] => refuse "usage: printf format [arg ...]".toList
  | format :: arguments => do
    let p := formatted format arguments
    for c in p.complaints do complain c
    put p.octets
    if p.isFaulty then do
      setStatus 2
      throw .fault
    else return if p.complaints.isEmpty then 0 else 1

def test (words : List Octets) : Run Nat := do
  match Condition.holds (← get).tree words with
  | .ok value => return if value then 0 else 1
  | .error message => refuse message

/-- Decides a condition that a word with a bracket at its beginning ends. -/
def bracketTest (words : List Octets) : Run Nat :=
  match words.getLast? with
  | some (']' :: _) => test words.dropLast
  | _ => refuse "missing ]".toList

/-- A path reached by steps from another one, each step taken as it is written. -/
def pathAfter (start target : String) : String :=
  let isRooted := target.startsWith "/"
  let root := if target.startsWith "//" && !target.startsWith "///" then "//" else "/"
  let root := if isRooted then root else if start.startsWith "//" then "//" else "/"
  let steps (text : String) : List String := (Path.splitSlashes [] text.toList).filter (· != "")
  let all := (if isRooted then [] else steps start) ++ steps target
  let taken := all.foldl (fun (done : List String) step =>
    if step = "." then done else if step = ".." then done.dropLast else done ++ [step]) []
  root ++ "/".intercalate taken

/-- The path of a directory that is looked for below the places of a search path, which a target that
begins at the root or with a step of dots is not; tells whether the place has a name. -/
def searchPath (s : State) (target : Octets) : Octets × Bool :=
  let first := target.takeWhile (· != '/')
  let isDirect := target.head? == some '/' || first == ['.'] || first == ['.', '.']
  let target := if target.isEmpty then ['.'] else target
  let places : List Octets := match s.valueOf? "CDPATH".toList with
    | some path => if isDirect then [] else ((String.ofList path).splitOn ":").map String.toList
    | none => []
  let paths := places.map fun place =>
    if place.isEmpty then (target, false) else (place ++ '/' :: target, true)
  let isDirectory (path : Octets) : Bool :=
    s.tree.stands (fun | .directory => true | _ => false) (textOf path)
  (paths.find? fun (path, _) => isDirectory path).getD (target, false)

/-- Changes the working directory: to a path, to where it was before, or to the home directory. -/
def enter (words : List Octets) : Run Nat := do
  let (found, words) ← commandOptions ['L', 'P'] [] words
  let isPhysical := (found.getLast?.map (·.1)) == some 'P'
  let s ← get
  let goesBack := words.head? == some ['-']
  let target := match words with
    | ['-'] :: _ => (s.valueOf? "OLDPWD".toList).getD []
    | w :: _ => w
    | [] => (s.valueOf? "HOME".toList).getD []
  let (place, isNamed) := searchPath s target
  let path := textOf place
  let reached := if isPhysical then path else pathAfter s.directory path
  match s.tree.status true reached with
  | .ok (loc, .directory) => do
    let directory := if isPhysical then State.pathText loc else reached
    assign "OLDPWD".toList (octetsOf s.directory)
    assign "PWD".toList (octetsOf directory)
    for name in ["OLDPWD", "PWD"] do
      modify fun s => s.putVariable name.toList
        ((s.findVariable name.toList).map fun v => { v with isExported := true })
    modify fun s => { s with tree := { s.tree with workDir := loc }, directory := directory }
    if goesBack || isNamed then putLine (octetsOf directory)
    return 0
  | _ => refuse ("can't cd to ".toList ++ (if target.isEmpty then ['.'] else target))

def tellDirectory (words : List Octets) : Run Nat := do
  let (found, _) ← commandOptions ['L', 'P'] [] words
  let s ← get
  let isPhysical := (found.getLast?.map (·.1)) == some 'P'
  putLine (octetsOf (if isPhysical then State.pathText s.tree.workDir else s.directory))
  return 0

/-- Changes variables that words name, or lists those that have been changed so. -/
def declare (command : String) (change : Variable → Variable) (isListed : Variable → Bool)
    (words : List Octets) : Run Nat := do
  let (found, words) ← commandOptions ['p'] [] words
  if found.isEmpty && !words.isEmpty then
    for word in words do declareWord change word
  else listVariables (command.toList ++ [' ']) isListed
  return 0

/-- Forgets variables, or functions. -/
def forget (words : List Octets) : Run Nat := do
  let (found, words) ← commandOptions ['v', 'f'] [] words
  let isFunctions := (found.getLast?.map (·.1)) == some 'f'
  for word in words do
    if isFunctions then
      modify fun s => { s with functions := s.functions.filter fun (n, _) => n != word }
    else forgetVariable (word.takeWhile (· != '='))
  return 0

/-- Sets options and arguments, or lists all variables. -/
def setAll (words : List Octets) : Run Nat := do
  if words.isEmpty then listVariables [] fun v => v.value.isSome
  else
    match ← switchAll (words.length + 1) words with
    | some arguments => modify fun s => { s with arguments := arguments, optionPlace := (1, none) }
    | none => pure ()
  return 0

def shift (words : List Octets) : Run Nat := do
  let n ← match words with
    | [] => pure 1
    | w :: _ => number w
  if (← get).arguments.length < n then refuse "can't shift that many".toList
  modify fun s => { s with arguments := s.arguments.drop n, optionPlace := (1, none) }
  return 0

/-- Sets what is done on signals, or lists it. -/
def trap (words : List Octets) : Run Nat := do
  let (_, words) ← commandOptions [] [] words
  let isNumber (w : Octets) : Bool :=
    !w.isEmpty && w.all Char.isDigit && (Signal.ofWord? 0 w).isSome
  match words with
  | [] => do
    let traps := (← get).traps.mergeSort fun a b => a.1 ≤ b.1
    put (traps.flatMap fun (n, action) =>
      "trap -- ".toList ++ inApostrophes action ++ ' ' :: ((Signal.name? n).getD "").toList ++ ['\n'])
    return 0
  | first :: rest =>
    let takesBack := rest.isEmpty || isNumber first
    let action := if takesBack || first = ['-'] then none else some first
    setEach action (if takesBack then words else rest)
where
  /-- Sets what is done on each of some signals. -/
  setEach (action : Option Octets) : List Octets → Run Nat
    | [] => return 0
    | w :: rest =>
      match Signal.ofWord? 0 w with
      | some n => do
        modify fun s => { s with traps := match action with
            | some a => State.putUnder n a s.traps
            | none => s.traps.filter fun (m, _) => m != n }
        setEach action rest
      | none => do
        let _ ← write 2 ("trap: ".toList ++ w ++ ": bad trap\n".toList)
        return 1

/-- The segments of a line that is read up to its end, the number of octets it takes, and whether the end
was found. A backslash makes the next octet literal, or joins lines, unless lines are read as they are. -/
def lineSegments (isVerbatim : Bool) (part : List Glyph) : Octets → List Segment × Nat × Bool
  | [] => ([⟨.atSeparators, part.reverse⟩], 0, false)
  | '\n' :: _ => ([⟨.atSeparators, part.reverse⟩], 1, true)
  | '\x00' :: rest =>
    let (ss, n, hasEnd) := lineSegments isVerbatim part rest
    (ss, n + 1, hasEnd)
  | '\\' :: c :: rest =>
    if isVerbatim then
      let (ss, n, hasEnd) := lineSegments isVerbatim (.octet '\\' false :: part) (c :: rest)
      (ss, n + 1, hasEnd)
    else
      let (ss, n, hasEnd) := lineSegments isVerbatim [] rest
      let literal := if c = '\n' then [] else [Segment.whole [.octet c true]]
      (⟨.atSeparators, part.reverse⟩ :: literal ++ ss, n + 2, hasEnd)
  | c :: rest =>
    if c = '\\' && !isVerbatim then ([⟨.atSeparators, part.reverse⟩], 1, false)
    else
      let (ss, n, hasEnd) := lineSegments isVerbatim (.octet c false :: part) rest
      (ss, n + 1, hasEnd)

/-- Reads a line into variables; the last one gets what is left. -/
def readLine (words : List Octets) : Run Nat := do
  let (found, names) ← commandOptions ['r'] ['p'] words
  if names.isEmpty then refuse "arg count".toList
  let s ← get
  let (ss, n, hasEnd) := lineSegments (found.any (·.1 == 'r')) [] ((s.left? 0).getD [])
  set (s.advance 0 n)
  let fields := Splitter.fieldsOf (separators s) (some names.length) ss
  for (name, i) in names.zipIdx do
    assignNamed name (Glyph.octets (fields[i]?.getD []))
  return if hasEnd then 0 else 1

/-- Takes the next option from arguments. The variable for the option is a question mark when an option is
unknown or lacks its argument, and at the end. -/
def nextOption (words : List Octets) : Run Nat := do
  let (_, words) ← commandOptions [] [] words
  match words with
  | known :: name :: given => do
    let s ← get
    let all := if given.isEmpty then s.arguments else given
    let isQuiet := known.head? == some ':'
    let (place, inside) := s.optionPlace
    let current := if place ≤ 1 then [] else
      match inside with
      | some n => (all[place - 2]?.getD []).drop n
      | none => []
    let give (letter : Char) (place : Nat) (rest : Option Nat) (status : Nat) : Run Nat := do
      assign "OPTIND".toList (toString place).toList
      modify fun s => { s with optionPlace := (place, none) }
      assignNamed name [letter]
      modify fun s => { s with optionPlace := (place, rest) }
      return status
    let take (place : Nat) (word letters : Octets) : Run Nat := do
      let c := letters.headD '?'
      let more := letters.drop 1
      let offset := if more.isEmpty then none else some (word.length - more.length)
      let takesArgument? := optionKind known c
      match takesArgument? with
      | none => do
        if isQuiet then assign "OPTARG".toList [c]
        else do
          let _ ← write 2 ("Illegal option -".toList ++ [c, '\n'])
          forgetVariable "OPTARG".toList
        give '?' place offset 0
      | some false => do
        assign "OPTARG".toList []
        give c place offset 0
      | some true =>
        if !more.isEmpty then do
          assign "OPTARG".toList more
          give c place none 0
        else
          match all[place - 1]? with
          | some argument => do
            assign "OPTARG".toList argument
            give c (place + 1) none 0
          | none => do
            if isQuiet then do
              assign "OPTARG".toList [c]
              give ':' place none 0
            else do
              let _ ← write 2 ("No arg for -".toList ++ c :: " option\n".toList)
              forgetVariable "OPTARG".toList
              give '?' place none 0
    if !current.isEmpty then take place (all[place - 2]?.getD []) current
    else
      match all[place - 1]? with
      | some ['-', '-'] => give '?' (place + 1) none 1
      | some ('-' :: c :: cs) => take (place + 1) ('-' :: c :: cs) (c :: cs)
      | _ => give '?' place none 1
  | _ => refuse "Usage: getopts optstring var [arg...]".toList
where
  /-- Whether a letter is a known option, and takes an argument. -/
  optionKind (known : Octets) (c : Char) : Option Bool :=
    match known with
    | [] => none
    | d :: ':' :: rest => if d = c then some true else optionKind rest c
    | d :: rest => if d = c then some false else optionKind rest c

/-- Changes the mask of new files, or writes it. -/
def changeMask (words : List Octets) : Run Nat := do
  let (found, words) ← commandOptions ['S'] [] words
  let mask := (← get).mask
  match words with
  | [] => putLine (if found.isEmpty then Mask.octal mask else Mask.named mask)
  | word :: _ =>
    match Mask.ofWord mask word with
    | .ok mask => modify fun s => { s with mask := mask }
    | .error message => refuse message
  return 0

/-- Sets other names for words, or lists them. -/
def setAliases (words : List Octets) : Run Nat := do
  let shown (name text : Octets) : Octets := name ++ '=' :: inApostrophes text
  if words.isEmpty then do
    let all := (← get).aliases
    put (all.reverse.flatMap fun (name, text) => shown name text ++ ['\n'])
    return 0
  else setEach shown 0 words
where
  /-- Sets or lists each of some names. -/
  setEach (shown : Octets → Octets → Octets) (status : Nat) : List Octets → Run Nat
    | [] => return status
    | word :: rest => do
      let name := word.takeWhile (· != '=')
      let others := (← get).aliases.filter fun (n, _) => n != name
      if name.length < word.length && !name.isEmpty then do
        modify fun s => { s with aliases := (name, word.drop (name.length + 1)) :: others }
        setEach shown status rest
      else
        match (← get).aliases.lookup word with
        | some text => do
          putLine (shown word text)
          setEach shown status rest
        | none => do
          let _ ← write 2 ("alias: ".toList ++ word ++ " not found\n".toList)
          setEach shown 1 rest

def forgetAliases (words : List Octets) : Run Nat := do
  let (found, words) ← commandOptions ['a'] [] words
  if !found.isEmpty then do
    modify fun s => { s with aliases := [] }
    return 0
  else forgetEach 0 words
where
  /-- Forgets each of some names. -/
  forgetEach (status : Nat) : List Octets → Run Nat
    | [] => return status
    | name :: rest => do
      if ((← get).aliases.lookup name).isSome then do
        modify fun s => { s with aliases := s.aliases.filter fun (n, _) => n != name }
        forgetEach status rest
      else do
        let _ ← write 2 ("unalias: ".toList ++ name ++ " not found\n".toList)
        forgetEach 1 rest

/-- Waits for commands in the background, which have always ended already; gives the status of the last
one that a word names. -/
def wait (words : List Octets) : Run Nat := do
  let (_, words) ← commandOptions [] [] words
  match words with
  | [] => do
    modify fun s => { s with jobs := s.jobs.map fun (n, _) => (n, 0) }
    return 0
  | _ =>
    let mut status := 0
    for w in words do
      if w.head? == some '%' then refuse ("No such job: ".toList ++ w)
      let n ← number w
      status := (State.under n (← get).jobs).getD 127
    return status

/-- Leaves loops, as many as a word says; outside of loops it does nothing. -/
def leaveLoops (stop : Nat → Stop) (words : List Octets) : Run Nat := do
  let n ← match words with
    | [] => pure 1
    | w :: _ => do
      let n ← number w
      if n = 0 then refuseWord "Illegal number" w
      pure n
  let loops := min n (← get).loops
  if loops = 0 then return 0
  else do
    setStatus 0
    throw (stop loops)

/-- Leaves the shell with the status that a word gives, or the present one. -/
def exit (words : List Octets) : Run Nat := do
  match words with
  | [] => do
    let s ← get
    throw (.exit (s.trapStatus.getD s.status))
  | w :: _ => throw (.exit (← number w))

/-- Leaves a function with the status that a word gives, or the present one. -/
def return_ (words : List Octets) : Run Nat := do
  match words with
  | [] => throw (.back (← get).status)
  | w :: _ => throw (.back (← number w))

def hash (isKnown : String → Bool) (words : List Octets) : Run Nat := do
  let (_, words) ← commandOptions ['r'] [] words
  let mut status := 0
  for w in words do
    if !isKnown (textOf w) then do
      complain (w ++ ": not found".toList)
      status := 1
  return status

/-- Writes the content of files one after another, or of the input. -/
def cat (words : List Octets) : Run Nat := do
  let mut status := 0
  for p in if words.isEmpty then [['-']] else words do
    let s ← get
    if p = ['-'] then do
      let cs := (s.left? 0).getD []
      set (s.advance 0 cs.length)
      put cs
    else
      match s.tree.read (textOf p) with
      | .ok content => put (ofBytes content)
      | .error (.system cause _) => do
        if textOf p != Condition.nullFile then do
          let _ ← write 2 ("cat: ".toList ++ p ++ s!": {cause.text}\n".toList)
          status := 1
      | .error .nullCharacter => status := 1
  return status

/-- Nothing but a status. -/
def done (status : Nat) (_ : List Octets) : Run Nat := return status

/-- The processor times of the shell and of other programs, which take none. -/
def times (_ : List Octets) : Run Nat := do
  putLine "0m0.000000s 0m0.000000s".toList
  putLine "0m0.000000s 0m0.000000s".toList
  return 0

/-- The limits of the shell; there are none. -/
def limits (words : List Octets) : Run Nat := do
  if words.isEmpty then putLine "unlimited".toList
  return 0

/-- The commands of the shell's own that run no other commands. -/
def ownCommand? (name : String) : Option (List Octets → Run Nat) :=
  match name with
  | ":" | "true" => some (done 0)
  | "false" => some (done 1)
  | "jobs" => some (done 0)
  | "fg" | "bg" => some fun _ => refuse "No current job".toList
  | "ulimit" => some limits
  | "times" => some times
  | "echo" => some fun words => do
    put (echo words)
    return 0
  | "printf" => some printf
  | "test" => some test
  | "[" => some bracketTest
  | "cd" | "chdir" => some enter
  | "pwd" => some tellDirectory
  | "exit" => some exit
  | "return" => some return_
  | "break" => some (leaveLoops .leave)
  | "continue" => some (leaveLoops .again)
  | "export" => some (declare "export" (fun v => { v with isExported := true }) (·.isExported))
  | "readonly" => some (declare "readonly" (fun v => { v with isFixed := true }) (·.isFixed))
  | "local" => some declareLocal
  | "unset" => some forget
  | "shift" => some shift
  | "set" => some setAll
  | "trap" => some trap
  | "read" => some readLine
  | "getopts" => some nextOption
  | "umask" => some changeMask
  | "alias" => some setAliases
  | "unalias" => some forgetAliases
  | "wait" => some wait
  | _ => none

def runningCommands : List String := [".", "command", "eval", "exec", "hash", "kill", "type"]

def isOwn (name : String) : Bool := (ownCommand? name).isSome || runningCommands.contains name

/-- The programs that can be found, besides those that do what a command of the shell's own does. -/
def programs : List String := ["cat", "dash", "sh", "sleep"]

def programPath? (name : String) : Option String :=
  if programs.contains name then some s!"/usr/bin/{name}"
  else if (programs.map fun p => s!"/usr/bin/{p}").contains name ||
    (programs.map fun p => s!"/bin/{p}").contains name then some name
  else none

/-- The complaint about a command that cannot be found or run, and its status. -/
def unknownCommand (t : FileTree) (name : String) : String × Nat :=
  if name.toList.contains '/' then
    match t.status true name with
    | .ok _ => ("Permission denied", 126)
    | .error _ => ("not found", 127)
  else if name = "" then ("Permission denied", 127)
  else ("not found", 127)

/-- Says what kind of command a word names, in a sentence or in short. -/
def describe (isLong : Bool) (word : Octets) : Run Nat := do
  let s ← get
  let name := textOf word
  let tell (sentence : String) (short : Octets) : Run Nat := do
    putLine (if isLong then word ++ sentence.toList else short)
    return 0
  if reservedWords.contains name then tell " is a shell keyword" word
  else
    match s.aliases.lookup word with
    | some text =>
      if isLong then putLine (word ++ " is an alias for ".toList ++ text)
      else putLine ("alias ".toList ++ word ++ '=' :: inApostrophes text)
      return 0
    | none =>
      if (s.functions.lookup word).isSome then tell " is a shell function" word
      else if isOwn name then
        tell (if specialCommands.contains name then " is a special shell builtin"
          else " is a shell builtin") word
      else
        match programPath? name with
        | some path => tell s!" is {path}" path.toList
        | none => do
          if isLong then putLine (word ++ ": not found".toList)
          return 127

end ReleasePackaging.Shell.Run
