import ReleasePackaging.Value.Basic

/-!
# Version files

A version file holds assignments of literals to names, among comments. Reading it can fail at a line;
then nothing of it counts. Going through its assignments can fail at a name that has no value, or at
a literal that cannot be made.
-/
namespace ReleasePackaging.VersionFile

/-- Why a numeral is none. -/
inductive NumeralProblem where
  | malformed (kind : String)
  | badDigit (c : Char) (kind : String)
  | leadingZeros
  | tooLong (digits : Nat)
  deriving DecidableEq, Repr

/-- Why an escape in a literal text is none. -/
inductive EscapeProblem where
  | text (start stop : Nat) (reason : String)
  | bytes (position : Nat)
  deriving DecidableEq, Repr

/-- What is wrong with the fields of a formatted text. -/
inductive FieldProblem where
  | openBrace | strayBrace | openText | backslash | numberSign | wrongLetter
  | noExpression (next : Option Char)
  | openBracket (c : Char)
  | strayBracket (c : Char)
  | wrongBracket (closing opening : Char)
  deriving DecidableEq, Repr

inductive TermKind where
  | literal | name | list | tuple | mapping | set | formatted
  | expression | comparison | choice | call | member | item
  | constant (word : String)
  deriving DecidableEq, Repr

/-- What keeps a version file from being read. -/
inductive Problem where
  | grammar
  | missingComma
  | signInList
  | noTarget (k : TermKind) (mayCompare : Bool)
  | noNameTarget (k : TermKind)
  | noChangeTarget (k : TermKind)
  | noKindTarget (k : TermKind)
  | fixedName (name : String)
  | signInCall
  | keyAlone
  | valueMissing
  | callWithoutParentheses (name : String)
  | elseMissing
  | signMissing (sign : Char)
  | blockMissing (owner : String) (line : Nat)
  | misplaced (word : String)
  | unexpectedIndent
  | unevenIndent
  | openText (isLong : Bool) (line : Nat)
  | openBracket (c : Char)
  | strayBracket (c : Char)
  | wrongBracket (closing opening : Char) (line : Option Nat)
  | tooDeep
  | joinedLine
  | unexpectedEnd
  | numeral (p : NumeralProblem)
  | strangeCharacter (c : Char)
  | unprintableCharacter (c : Char)
  | escape (p : EscapeProblem)
  | mixedTexts
  | notAscii
  | field (p : FieldProblem)
  | inField (p : Problem)
  deriving DecidableEq, Repr

def Problem.isIndentation : Problem → Bool
  | .unexpectedIndent | .unevenIndent | .blockMissing _ _ => true
  | _ => false

/-- Whether a problem of cutting counts only where reading comes that far. -/
def Problem.isLate : Problem → Bool
  | .unevenIndent | .joinedLine | .unexpectedEnd | .openBracket _ => true
  | _ => false

inductive Fault where
  | nullCharacter
  | unreadable (line : Nat) (p : Problem)
  | undefinedName (name : String)
  | noKey (kind : String)
  | noOperand (sign : Char) (kind : String)
  | noParts (kind : String)
  | tooFewParts (expected given : Nat)
  | tooManyParts (expected : Nat)
  | computed
  deriving DecidableEq, Repr

def NumeralProblem.message : NumeralProblem → String
  | .malformed kind => s!"invalid {kind} literal"
  | .badDigit c kind => s!"invalid digit '{c}' in {kind} literal"
  | .leadingZeros =>
    "leading zeros in decimal integer literals are not permitted; " ++
      "use an 0o prefix for octal integers"
  | .tooLong digits =>
    s!"Exceeds the limit (4300 digits) for integer string conversion: value has {digits} digits; " ++
      "use sys.set_int_max_str_digits() to increase the limit - " ++
      "Consider hexadecimal for huge integer literals to avoid decimal conversion limits."

def EscapeProblem.message : EscapeProblem → String
  | .text start stop reason =>
    let place :=
      if stop = start + 1 then s!"byte 0x5c in position {start}"
      else s!"bytes in position {start}-{stop - 1}"
    "(unicode error) 'unicodeescape' codec can't decode " ++ s!"{place}: {reason}"
  | .bytes position => "(value error) invalid \\x escape at position " ++ toString position

def FieldProblem.message : FieldProblem → String
  | .openBrace => "f-string: expecting '\x7d'"
  | .strayBrace => "f-string: single '\x7d' is not allowed"
  | .openText => "f-string: unterminated string"
  | .backslash => "f-string expression part cannot include a backslash"
  | .numberSign => "f-string expression part cannot include '#'"
  | .wrongLetter => "f-string: invalid conversion character: expected 's', 'r', or 'a'"
  | .noExpression none => "f-string: empty expression not allowed"
  | .noExpression (some c) => s!"f-string: expression required before '{c}'"
  | .openBracket c | .strayBracket c => s!"f-string: unmatched '{c}'"
  | .wrongBracket closing opening =>
    s!"f-string: closing parenthesis '{closing}' does not match opening parenthesis '{opening}'"

def TermKind.words : TermKind → String
  | .literal => "literal"
  | .name => "name"
  | .list => "list"
  | .tuple => "tuple"
  | .mapping => "dict literal"
  | .set => "set display"
  | .formatted => "f-string expression"
  | .expression => "expression"
  | .comparison => "comparison"
  | .choice => "conditional expression"
  | .call => "function call"
  | .member => "attribute"
  | .item => "subscript"
  | .constant word => word

def codeOf (c : Char) : String :=
  let digits := Nat.toDigits 16 c.toNat
  (String.ofList (List.replicate (4 - digits.length) '0' ++ digits)).toUpper

def Problem.message : Problem → String
  | .grammar => "invalid syntax"
  | .missingComma => "invalid syntax. Perhaps you forgot a comma?"
  | .signInList => "invalid syntax. Maybe you meant '==' or ':=' instead of '='?"
  | .noTarget k false => s!"cannot assign to {k.words}"
  | .noTarget k true => s!"cannot assign to {k.words} here. Maybe you meant '==' instead of '='?"
  | .noNameTarget k => s!"cannot use assignment expressions with {k.words}"
  | .noChangeTarget k => s!"'{k.words}' is an illegal expression for augmented assignment"
  | .noKindTarget k =>
    if [TermKind.list, .tuple].contains k then
      s!"only single target (not {k.words}) can be annotated"
    else "illegal target for annotation"
  | .fixedName name => s!"cannot assign to {name}"
  | .signInCall => "expression cannot contain assignment, perhaps you meant \"==\"?"
  | .keyAlone => "':' expected after dictionary key"
  | .valueMissing => "expression expected after dictionary key and ':'"
  | .callWithoutParentheses name =>
    s!"Missing parentheses in call to '{name}'. Did you mean {name}(...)?"
  | .elseMissing => "expected 'else' after 'if' expression"
  | .signMissing sign => s!"expected '{sign}'"
  | .blockMissing owner line => s!"expected an indented block after {owner} on line {line}"
  | .misplaced word =>
    match word with
    | "break" => "'break' outside loop"
    | "continue" => "'continue' not properly in loop"
    | _ => s!"'{word}' outside function"
  | .unexpectedIndent => "unexpected indent"
  | .unevenIndent => "unindent does not match any outer indentation level"
  | .openText false line => s!"unterminated string literal (detected at line {line})"
  | .openText true line => s!"unterminated triple-quoted string literal (detected at line {line})"
  | .openBracket c => s!"'{c}' was never closed"
  | .strayBracket c => s!"unmatched '{c}'"
  | .wrongBracket closing opening line =>
    let place := match line with
      | some n => s!" on line {n}"
      | none => ""
    s!"closing parenthesis '{closing}' does not match opening parenthesis '{opening}'{place}"
  | .tooDeep => "too many nested parentheses"
  | .joinedLine => "unexpected character after line continuation character"
  | .unexpectedEnd => "unexpected EOF while parsing"
  | .numeral p => p.message
  | .strangeCharacter c => s!"invalid character '{c}' (U+{codeOf c})"
  | .unprintableCharacter c => s!"invalid non-printable character U+{codeOf c}"
  | .escape p => p.message
  | .mixedTexts => "cannot mix bytes and nonbytes literals"
  | .notAscii => "bytes can only contain ASCII literal characters"
  | .field p => p.message
  | .inField p => "f-string: " ++ p.message

def Fault.message : Fault → String
  | .nullCharacter => "source code string cannot contain null bytes"
  | .unreadable line p => s!"{p.message} (<string>, line {line})"
  | .noParts kind => s!"cannot unpack non-iterable {kind} object"
  | .tooFewParts expected given =>
    s!"not enough values to unpack (expected {expected}, got {given})"
  | .tooManyParts expected => s!"too many values to unpack (expected {expected})"
  | .undefinedName name => s!"name '{name}' is not defined"
  | .noKey kind => s!"unhashable type: '{kind}'"
  | .noOperand sign kind => s!"bad operand type for unary {sign}: '{kind}'"
  | .computed => "only literals can be given"

end ReleasePackaging.VersionFile
