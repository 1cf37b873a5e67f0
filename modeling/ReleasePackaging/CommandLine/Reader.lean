import ReleasePackaging.CommandLine.Switch
import ReleasePackaging.Text.Digit
import ReleasePackaging.Text.Split

/-!
# Reading the command line

Words are first told apart: options, operands, and what looks like an option but is none. A long
option may be shortened as long as only one fits; what it takes may be attached with an equals sign
or follow as the next word, which must be an operand. After a double dash all words are operands.
There is no use for operands, so that any that are left over are an error, as unknown options are.
-/
namespace ReleasePackaging.CommandLine

/-- What is wrong with what an option was given. -/
inductive IntakeProblem where
  | missing
  | noChoice (given : String) (words : List String)
  | superfluous (given : String)
  deriving DecidableEq, Repr

inductive UsageFault where
  | unrecognized (words : List String)
  | ambiguous (given : String) (spellings : List String)
  | intake (s : Switch) (p : IntakeProblem)
  deriving DecidableEq, Repr

def IntakeProblem.message : IntakeProblem → String
  | .missing => "expected one argument"
  | .noChoice given words =>
    let shown := ", ".intercalate (words.map Text.quote)
    s!"invalid choice: {Text.quote given} (choose from {shown})"
  | .superfluous given => s!"ignored explicit argument {Text.quote given}"

def UsageFault.message : UsageFault → String
  | .unrecognized words => "unrecognized arguments: " ++ " ".intercalate words
  | .ambiguous given spellings =>
    s!"ambiguous option: {given} could match " ++ ", ".intercalate spellings
  | .intake s p => s!"argument {s.label}: {p.message}"

inductive Request where
  | help
  | run (a : Arguments)
  deriving DecidableEq, Repr

/-- Text that is attached to an option in the same word, the option being spelled by one letter or
not. -/
structure Attached where
  afterLetter : Bool
  text : String
  deriving DecidableEq, Repr

inductive Word where
  | operand (text : String)
  | option (s : Switch) (attached : Option Attached)
  | unknown (text : String)
  deriving DecidableEq, Repr

/-- Whether a text consists of decimal digits; a line end after them does not matter. -/
def isDigits (cs : List Char) : Bool :=
  let isDecimal (c : Char) : Bool := (Text.decimalValue? c).isSome
  match cs.dropWhile isDecimal with
  | [] | ['\n'] => cs.head?.any isDecimal
  | _ => false

def isNegativeNumber (cs : List Char) : Bool :=
  match cs with
  | '-' :: rest =>
    isDigits rest ||
      match rest.dropWhile fun c => (Text.decimalValue? c).isSome with
      | '.' :: places => isDigits places
      | _ => false
  | _ => false

def cutAtSign (word : String) : String × Option Attached :=
  let (before, after) := Text.cut '=' word
  (before, after.map fun text => ⟨before.length = 2, text⟩)

/-- The options that a word may stand for by a shortened spelling, each with its full spelling and
what is attached. -/
def candidates (word : String) : List (String × Switch × Option Attached) :=
  match word.toList with
  | '-' :: '-' :: _ =>
    let (start, attached) := cutAtSign word
    (Switch.table.filter fun (spelling, _) => start.toList.isPrefixOf spelling.toList).map
      fun (spelling, s) => (spelling, s, attached)
  | '-' :: c :: rest =>
    (Switch.table.filter fun (spelling, _) => spelling.toList == ['-', c]).map
      fun (spelling, s) => (spelling, s, some ⟨true, String.ofList rest⟩)
  | _ => []

def classify (word : String) : Except UsageFault Word :=
  let (start, attached) := cutAtSign word
  match word.toList with
  | '-' :: _ :: _ =>
    match Switch.ofSpelling? word, attached.bind fun _ => Switch.ofSpelling? start with
    | some s, _ => .ok (.option s none)
    | none, some s => .ok (.option s attached)
    | none, none =>
      match candidates word with
      | [(_, s, attached)] => .ok (.option s attached)
      | [] =>
        if isNegativeNumber word.toList || word.toList.contains ' ' then .ok (.operand word)
        else .ok (.unknown word)
      | several => .error (.ambiguous word (several.map fun (spelling, _) => spelling))
  | _ => .ok (.operand word)

def classifyAll : List String → Except UsageFault (List Word)
  | [] => .ok []
  | "--" :: rest => .ok (.unknown "--" :: rest.map Word.operand)
  | word :: rest => do
    let w ← classify word
    return w :: (← classifyAll rest)

/-- Reads what follows the letter for help in the same word: more letters, each an option of its own.
Only the letter for help is one. -/
def readLetters : List Char → Except UsageFault Request
  | ['h'] => .ok .help
  | 'h' :: rest => readLetters rest
  | cs => .error (.intake .help (.superfluous (String.ofList cs)))

def accept (a : Arguments) (s : Switch) (text : String) : Except UsageFault Arguments :=
  match s.intake with
  | .choice words =>
    if words.contains text then .ok (a.take s text) else .error (.intake s (.noChoice text words))
  | .text _ => .ok (a.take s text)
  | .nothing => .error (.intake s (.superfluous text))

/-- Reads words, given the arguments so far and the words that are of no use. -/
def readWords (a : Arguments) (unused : List String) : List Word → Except UsageFault Request
  | [] => if unused.isEmpty then .ok (.run a) else .error (.unrecognized unused)
  | .operand text :: rest | .unknown text :: rest => readWords a (unused ++ [text]) rest
  | .option .help none :: _ => .ok .help
  | .option .help (some t) :: _ =>
    if t.afterLetter then readLetters t.text.toList
    else .error (.intake .help (.superfluous t.text))
  | .option .dev none :: rest => readWords { a with isDev := true } unused rest
  | .option s (some t) :: rest => do readWords (← accept a s t.text) unused rest
  | .option s none :: .operand text :: rest => do readWords (← accept a s text) unused rest
  | .option s none :: _ => .error (.intake s .missing)

def read (words : List String) : Except UsageFault Request := do
  readWords .empty [] (← classifyAll words)

end ReleasePackaging.CommandLine
