import ReleasePackaging.Shell.State

/-!
# Options of the command shell

Options are switched on and off by their letters or their names. The letters of commands that stand
before their words are read in the same way by all of them.
-/
namespace ReleasePackaging.Shell

def shellOptions : List (String × Option Char) :=
  [("errexit", some 'e'), ("noglob", some 'f'), ("ignoreeof", some 'I'), ("interactive", some 'i'),
   ("monitor", some 'm'), ("noexec", some 'n'), ("stdin", some 's'), ("xtrace", some 'x'),
   ("verbose", some 'v'), ("vi", some 'V'), ("emacs", some 'E'), ("noclobber", some 'C'),
   ("allexport", some 'a'), ("notify", some 'b'), ("nounset", some 'u'), ("privileged", some 'p'),
   ("nolog", none), ("debug", none)]

/-- The letters of the options that are switched on, the last ones first. -/
def State.optionLetters (s : State) : Octets :=
  (shellOptions.filterMap (·.2)).reverse.filter s.isOn

namespace Run

def switchLetter (isOn : Bool) (letter : Char) : Run Unit := do
  if shellOptions.any fun (_, c) => c == some letter then
    modify fun s =>
      let others := s.options.filter (· != letter)
      { s with options := if isOn then letter :: others else others }
  else refuse ("Illegal option -".toList ++ [letter])

def switchName (isOn : Bool) (name : Octets) : Run Unit := do
  match shellOptions.find? fun (n, _) => n.toList == name with
  | some (_, some letter) => switchLetter isOn letter
  | some (_, none) => pure ()
  | none => refuse ("Illegal option -o ".toList ++ name)

/-- The list of the options, as they are or as commands that switch them. -/
def optionList (s : State) (isPlain : Bool) : Octets :=
  let on (letter : Option Char) : Bool := letter.any s.isOn
  if isPlain then
    "Current option settings\n".toList ++ shellOptions.flatMap fun (name, letter) =>
      name.toList ++ List.replicate (16 - name.length) ' ' ++
        (if on letter then "on".toList else "off".toList) ++ ['\n']
  else
    shellOptions.flatMap fun (name, letter) =>
      (if on letter then "set -o ".toList else "set +o ".toList) ++ name.toList ++ ['\n']

/-- Switches the options that letters name; the names of some are taken from the words after them. The
options are listed where a name lacks, after what there is to complain of. -/
def switchLetters (isOn : Bool) (letters : List Char) (words : List Octets) : Run (List Octets) := do
  match letters with
  | [] => return words
  | 'o' :: more =>
    match words with
    | [] => do
      let list := optionList (← get) isOn
      finally_ (switchLetters isOn more []) (put list)
    | name :: rest => do
      switchName isOn name
      switchLetters isOn more rest
  | c :: more => do
    switchLetter isOn c
    switchLetters isOn more words

/-- Switches the options at the beginning of some words, and gives the words after them: nothing if no
words are given, which is something else than no words after a mark that ends the options. -/
def switchAll (fuel : Nat) (words : List Octets) : Run (Option (List Octets)) := do
  match fuel, words with
  | 0, _ | _, [] => return none
  | _, ['-'] :: rest => do
    switchLetter false 'x'
    switchLetter false 'v'
    return if rest.isEmpty then none else some rest
  | _, ['-', '-'] :: rest => return some rest
  | fuel + 1, ('-' :: letters) :: rest => do
    let rest ← switchLetters true letters rest
    switchAll fuel rest
  | fuel + 1, ('+' :: letters) :: rest => do
    let rest ← switchLetters false letters rest
    switchAll fuel rest
  | _, _ => return some words

/-- Switches the options at the beginning of the words of a shell; tells whether the script is to be the
first of the words after them, and gives those words. -/
def switchStart (fuel : Nat) (words : List Octets) : Run (Bool × List Octets) := do
  match fuel, words with
  | 0, _ | _, [] => return (false, [])
  | _, ['-'] :: rest | _, ['-', '-'] :: rest => return (false, rest)
  | fuel + 1, (sign :: letters) :: rest => do
    if sign = '-' || sign = '+' then do
      let rest ← switchLetters (sign = '-') (letters.filter fun c => c != 'c' && c != 'l') rest
      let (isScript, rest) ← switchStart fuel rest
      return (letters.contains 'c' || isScript, rest)
    else return (false, words)
  | _, _ => return (false, words)

/-- The options that stand at the beginning of the words of a command, each with its argument if it
takes one, and the words after them. -/
def commandOptions (plain withArgument : List Char) (words : List Octets) :
    Run (List (Char × Octets) × List Octets) :=
  go (words.length + words.flatten.length + 1) [] words
where
  /-- Reads letters and then words. -/
  go (fuel : Nat) (letters : List Char) (words : List Octets) :
      Run (List (Char × Octets) × List Octets) := do
    match fuel, letters, words with
    | 0, _, _ => return ([], words)
    | fuel + 1, c :: more, words => do
      if plain.contains c then do
        let (found, rest) ← go fuel more words
        return ((c, []) :: found, rest)
      else if withArgument.contains c then
        match more, words with
        | [], [] => refuse ("No arg for -".toList ++ c :: " option".toList)
        | [], w :: rest => do
          let (found, rest) ← go fuel [] rest
          return ((c, w) :: found, rest)
        | _, _ => do
          let (found, rest) ← go fuel [] words
          return ((c, more) :: found, rest)
      else refuse ("Illegal option -".toList ++ [c])
    | _, [], ['-', '-'] :: rest => return ([], rest)
    | fuel + 1, [], ('-' :: c :: more) :: rest => go fuel (c :: more) rest
    | _, [], words => return ([], words)

end Run

end ReleasePackaging.Shell
