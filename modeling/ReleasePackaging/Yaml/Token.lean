import ReleasePackaging.Yaml.Fault

/-!
# Tokens

The tokens of a document with the places where they begin and end. Besides those that stand in the
text there are tokens for the beginning and the end of blocks, which indentation makes.
-/
namespace ReleasePackaging.Yaml

inductive TokenKind where
  | streamEnd
  | version (major : Nat) (minor : Nat)
  | tagHandle (handle address : String)
  | otherDirective
  | documentStart | documentEnd | blockSequenceStart | blockMappingStart | blockEnd
  | flowSequenceStart | flowMappingStart | flowSequenceEnd | flowMappingEnd
  | key | value | blockEntry | flowEntry
  | alias (name : String)
  | anchor (name : String)
  | tag (handle : Option String) (suffix : String)
  | scalar (text : String) (plain : Bool)
  deriving DecidableEq, Repr, Inhabited

/-- A token with its beginning and its end. -/
structure Token where
  kind : TokenKind
  start : Mark
  stop : Mark
  deriving DecidableEq, Repr, Inhabited

def TokenKind.label : TokenKind → String
  | .streamEnd => "<stream end>"
  | .version _ _ | .tagHandle _ _ | .otherDirective => "<directive>"
  | .documentStart => "<document start>"
  | .documentEnd => "<document end>"
  | .blockSequenceStart => "<block sequence start>"
  | .blockMappingStart => "<block mapping start>"
  | .blockEnd => "<block end>"
  | .flowSequenceStart => "["
  | .flowMappingStart => "\x7b"
  | .flowSequenceEnd => "]"
  | .flowMappingEnd => "\x7d"
  | .key => "?"
  | .value => ":"
  | .blockEntry => "-"
  | .flowEntry => ","
  | .alias _ => "<alias>"
  | .anchor _ => "<anchor>"
  | .tag _ _ => "<tag>"
  | .scalar _ _ => "<scalar>"

def TokenKind.isDirective : TokenKind → Bool
  | .version _ _ | .tagHandle _ _ | .otherDirective => true
  | _ => false

end ReleasePackaging.Yaml
