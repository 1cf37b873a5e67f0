import ReleasePackaging.Number.Power
import ReleasePackaging.Text.Quoted

/-!
# Faults of YAML documents

A fault says what was being read and from where on, what the problem is and where it stands. The
place of what was being read is left out of the wording if it is the place of the problem.
-/
namespace ReleasePackaging.Yaml

/-- A place in a text: characters before it, lines before it and characters before it on its line. -/
structure Mark where
  index : Nat
  line : Nat
  column : Nat
  deriving DecidableEq, Repr, Inhabited

/-- What was being read when a problem was found. -/
inductive Context where
  | nextToken | simpleKey | directive | anchor | alias | tag | tagAddress | directiveAddress
  | blockScalar | doubleQuoted | quoted | node | blockNode | flowNode | blockSequence
  | blockMapping | flowSequence | flowMapping | firstAnchor (name : String) | singleDocument
  | mapping | orderedMap | pairs
  deriving DecidableEq, Repr

def Context.text : Context → String
  | .nextToken => "while scanning for the next token"
  | .simpleKey => "while scanning a simple key"
  | .directive => "while scanning a directive"
  | .anchor => "while scanning an anchor"
  | .alias => "while scanning an alias"
  | .tag => "while scanning a tag"
  | .tagAddress => "while parsing a tag"
  | .directiveAddress => "while parsing a directive"
  | .blockScalar => "while scanning a block scalar"
  | .doubleQuoted => "while scanning a double-quoted scalar"
  | .quoted => "while scanning a quoted scalar"
  | .node => "while parsing a node"
  | .blockNode => "while parsing a block node"
  | .flowNode => "while parsing a flow node"
  | .blockSequence => "while parsing a block collection"
  | .blockMapping => "while parsing a block mapping"
  | .flowSequence => "while parsing a flow sequence"
  | .flowMapping => "while parsing a flow mapping"
  | .firstAnchor name => s!"found duplicate anchor {Text.quote name}; first occurrence"
  | .singleDocument => "expected a single document in the stream"
  | .mapping => "while constructing a mapping"
  | .orderedMap => "while constructing an ordered map"
  | .pairs => "while constructing pairs"

/-- What is wrong. Characters and tokens that were found instead of others are named. -/
inductive Problem where
  | cannotStart (c : Char) | missingColon | sequenceEntryHere | keyHere | valueHere
  | notName (c : Char) | notDigitOrPoint (c : Char) | notDigitOrBlank (c : Char)
  | notDigit (c : Char) | notBlank (c : Char) | notLineEnd (c : Char) | notExclamation (c : Char)
  | notAddress (c : Char) | notAngle (c : Char) | notAddressEscape (c : Char)
  | undecodableAddress (cause : String) | zeroIndentation | notIndicator (c : Char)
  | unknownEscape (c : Char) | notHexadecimal (count : Nat) (c : Char) | notCodePoint (n : Nat)
  | endOfStream
  | documentSeparator | expectedDocument (token : String) | duplicateVersion
  | incompatibleVersion | duplicateHandle (handle : String) | undefinedHandle (handle : String)
  | expectedContent (token : String) | expectedBlockEnd (token : String)
  | expectedInSequence (token : String) | expectedInMapping (token : String)
  | undefinedAlias (name : String) | secondAnchor | anotherDocument | unreadable
  | unknownTag (tag : String) | expectedScalar (kind : String) | expectedSequence (kind : String)
  | expectedMapping (kind : String) | unhashableKey | notMergeable (kind : String)
  | notMapping (kind : String) | notSequence (kind : String) | notSingleMapping (kind : String)
  | severalItems (count : Nat) | notAscii (cause : String) | notBase64 (cause : String)
  deriving DecidableEq, Repr

def quoteChar (c : Char) : String := Text.quote (String.singleton c)

def Problem.text : Problem → String
  | .cannotStart c => s!"found character {quoteChar c} that cannot start any token"
  | .missingColon => "could not find expected ':'"
  | .sequenceEntryHere => "sequence entries are not allowed here"
  | .keyHere => "mapping keys are not allowed here"
  | .valueHere => "mapping values are not allowed here"
  | .notName c => s!"expected alphabetic or numeric character, but found {quoteChar c}"
  | .notDigitOrPoint c => s!"expected a digit or '.', but found {quoteChar c}"
  | .notDigitOrBlank c => s!"expected a digit or ' ', but found {quoteChar c}"
  | .notDigit c => s!"expected a digit, but found {quoteChar c}"
  | .notBlank c => s!"expected ' ', but found {quoteChar c}"
  | .notLineEnd c => s!"expected a comment or a line break, but found {quoteChar c}"
  | .notExclamation c => s!"expected '!', but found {quoteChar c}"
  | .notAddress c => s!"expected URI, but found {quoteChar c}"
  | .notAngle c => s!"expected '>', but found {quoteChar c}"
  | .notAddressEscape c =>
    s!"expected URI escape sequence of 2 hexadecimal numbers, but found {quoteChar c}"
  | .undecodableAddress cause => cause
  | .zeroIndentation => "expected indentation indicator in the range 1-9, but found 0"
  | .notIndicator c => s!"expected chomping or indentation indicators, but found {quoteChar c}"
  | .unknownEscape c => s!"found unknown escape character {quoteChar c}"
  | .notHexadecimal count c =>
    s!"expected escape sequence of {count} hexadecimal numbers, but found {quoteChar c}"
  | .notCodePoint n =>
    if n < 2 ^ 31 then "chr() arg not in range(0x110000)"
    else "Python int too large to convert to C int"
  | .endOfStream => "found unexpected end of stream"
  | .documentSeparator => "found unexpected document separator"
  | .expectedDocument token => s!"expected '<document start>', but found {Text.quote token}"
  | .duplicateVersion => "found duplicate YAML directive"
  | .incompatibleVersion => "found incompatible YAML document (version 1.* is required)"
  | .duplicateHandle handle => s!"duplicate tag handle {Text.quote handle}"
  | .undefinedHandle handle => s!"found undefined tag handle {Text.quote handle}"
  | .expectedContent token => s!"expected the node content, but found {Text.quote token}"
  | .expectedBlockEnd token => s!"expected <block end>, but found {Text.quote token}"
  | .expectedInSequence token => s!"expected ',' or ']', but got {Text.quote token}"
  | .expectedInMapping token => "expected ',' or '\x7d', but got " ++ Text.quote token
  | .undefinedAlias name => s!"found undefined alias {Text.quote name}"
  | .secondAnchor => "second occurrence"
  | .anotherDocument => "but found another document"
  | .unreadable => "cannot read on"
  | .unknownTag tag => s!"could not determine a constructor for the tag {Text.quote tag}"
  | .expectedScalar kind => s!"expected a scalar node, but found {kind}"
  | .expectedSequence kind => s!"expected a sequence node, but found {kind}"
  | .expectedMapping kind => s!"expected a mapping node, but found {kind}"
  | .unhashableKey => "found unhashable key"
  | .notMergeable kind => s!"expected a mapping or list of mappings for merging, but found {kind}"
  | .notMapping kind => s!"expected a mapping for merging, but found {kind}"
  | .notSequence kind => s!"expected a sequence, but found {kind}"
  | .notSingleMapping kind => s!"expected a mapping of length 1, but found {kind}"
  | .severalItems count => s!"expected a single mapping item, but found {count} items"
  | .notAscii cause => s!"failed to convert base64 data into ascii: {cause}"
  | .notBase64 cause => s!"failed to decode base64 data: {cause}"

/-- A fault of a document: the context, with the place where it begins if it has one, the problem
and its place. -/
structure Fault where
  context : Option (Context × Option Mark)
  problem : Problem
  mark : Mark
  deriving DecidableEq, Repr

/-- A place in the named text, spelled out. -/
def Mark.text (name : String) (m : Mark) : String :=
  s!"  in \"{name}\", line {m.line + 1}, column {m.column + 1}"

def Fault.message (name : String) (f : Fault) : String :=
  let context := match f.context with
    | none => []
    | some (c, none) => [c.text]
    | some (c, some m) =>
      if m.line = f.mark.line && m.column = f.mark.column then [c.text] else [c.text, m.text name]
  "\n".intercalate (context ++ [f.problem.text, f.mark.text name])

end ReleasePackaging.Yaml
