import ReleasePackaging.Shell.State

/-!
# Variables of the command shell

Variables are set, given to other programs, kept from changes, forgotten and listed. Within a function
a variable can be a local one: what it was before comes back when the function ends.
-/
namespace ReleasePackaging.Shell

/-- Text between apostrophes, so that it can be read again; apostrophes in it stand between quotation
marks. -/
def apostrophed (fuel : Nat) (cs : Octets) : Octets :=
  match fuel with
  | 0 => []
  | fuel + 1 =>
    let plain := cs.takeWhile (· != '\'')
    let rest := cs.drop plain.length
    let marks := rest.takeWhile (· == '\'')
    let rest := rest.drop marks.length
    '\'' :: plain ++ ['\''] ++
      (if marks.isEmpty then [] else '"' :: marks ++ ['"']) ++
      (if rest.isEmpty then [] else apostrophed fuel rest)

def inApostrophes (cs : Octets) : Octets := apostrophed (cs.length + 1) cs

namespace Run

def guardChange (name : Octets) : Run Unit := do
  if ((← get).findVariable name).any (·.isFixed) then refuse (name ++ ": is read only".toList)

/-- Sets a variable that has a proper name. The place of options starts anew when its variable is set. -/
def assign (name value : Octets) : Run Unit := do
  guardChange name
  let s ← get
  let old := (s.findVariable name).getD ⟨none, false, false⟩
  set (s.putVariable name
    (some { old with value := some value, isExported := old.isExported || s.isOn 'a' }))
  if name = "OPTIND".toList then do
    let n ← number value
    modify fun s => { s with optionPlace := (max n 1, none) }

def guardName (word : Octets) : Run Unit := do
  if !isName word then refuse (word ++ ": bad variable name".toList)

/-- Sets a variable that a word names; the name ends at an equals sign. -/
def assignNamed (word value : Octets) : Run Unit := do
  let name := word.takeWhile (· != '=')
  guardName name
  assign name value

def forgetVariable (name : Octets) : Run Unit := do
  guardName name
  guardChange name
  modify fun s => s.putVariable name none

/-- Lets something come back at the end of the innermost scope. -/
def willRestore (former : Former) : Run Unit := modify fun s =>
  match s.scopes with
  | scope :: outer => { s with scopes := (former :: scope) :: outer }
  | [] => s

/-- Lets what a variable was come back at the end of the innermost scope. -/
def remember (name : Octets) : Run Unit := do
  willRestore (.ofVariable name ((← get).findVariable name))

/-- Changes a variable that a word names, and sets it if the word has a value for it. -/
def declareWord (change : Variable → Variable) (word : Octets) : Run Unit := do
  let name := word.takeWhile (· != '=')
  guardName name
  if name.length < word.length then assign name (word.drop (name.length + 1))
  modify fun s => s.putVariable name (some (change ((s.findVariable name).getD ⟨none, false, false⟩)))

/-- Lets something be what it was. A variable that was not there is forgotten, which only one with a
proper name can be. -/
def restore (former : Former) : Run Unit := do
  match former with
  | .ofOptions letters => modify fun s => { s with options := letters }
  | .ofVariable name old =>
    if old.isNone then guardName name
    modify fun s => s.putVariable name old

/-- Runs something in a scope of its own, after which variables are what they were before. -/
def inScope (action : Run α) : Run α := do
  modify fun s => { s with scopes := [] :: s.scopes }
  finally_ action do
    match (← get).scopes with
    | scope :: outer => do
      modify fun s => { s with scopes := outer }
      scope.forM restore
    | [] => pure ()

/-- Makes variables local ones, and the options for a word that is a hyphen. -/
def declareLocal (words : List Octets) : Run Nat := do
  if (← get).scopes.isEmpty then refuse "not in a function".toList
  for word in words do
    let name := word.takeWhile (· != '=')
    if word = ['-'] then willRestore (.ofOptions (← get).options)
    else if name.length < word.length then do
      remember name
      assign name (word.drop (name.length + 1))
    else do
      guardName name
      remember name
      modify fun s => s.putVariable name (some ((s.findVariable name).getD ⟨none, false, false⟩))
  return 0

/-- Lists some variables by name, each after a word. -/
def listVariables (before : Octets) (isListed : Variable → Bool) : Run Unit := do
  let listed := (← get).bindings.filter fun (_, v) => isListed v
  let sorted := listed.mergeSort fun a b => isInOrder a.1 b.1
  put (sorted.flatMap fun (name, v) =>
    let value := match v.value with
      | some value => '=' :: inApostrophes value
      | none => []
    before ++ name ++ value ++ ['\n'])

end Run

end ReleasePackaging.Shell
