import ReleasePackaging.Yaml.Scanner
import ReleasePackaging.Yaml.Resolution

/-!
# Nodes

A document is a node: a scalar, a sequence of nodes or a mapping between nodes, each with a tag and
the place where it begins. An alias stands for the node that has been given its name, which may be
one that the alias stands in; so nodes are known by number. The nodes are read from the tokens of the
text; a stream holds one document or none.
-/
namespace ReleasePackaging.Yaml

/-- What a node holds: a text, or other nodes by their numbers. -/
inductive Content where
  | scalar (text : String)
  | sequence (items : List Nat)
  | mapping (pairs : List (Nat × Nat))
  deriving DecidableEq, Repr, Inhabited

/-- A node of a document, with its tag and the place where it begins. -/
structure Node where
  tag : String
  content : Content
  mark : Mark
  deriving DecidableEq, Repr, Inhabited

/-- The nodes of a document, each known by its number. A collection may hold itself. -/
abbrev Nodes := Array Node

namespace Node

def kind (node : Node) : String :=
  match node.content with
  | .scalar _ => "scalar"
  | .sequence _ => "sequence"
  | .mapping _ => "mapping"

end Node

/-- The state of reading nodes: the scanner, the addresses of the tag handles, the nodes read so far
and the numbers of the named ones. -/
structure NodeReader where
  scanner : Scanner
  handles : List (String × String)
  nodes : Nodes
  anchors : List (String × Nat)

abbrev ReadNode := StateT NodeReader (Except Fault)

namespace ReadNode

def scan (action : Scan α) : ReadNode α := fun r => do
  let (a, scanner) ← action r.scanner
  .ok (a, { r with scanner })

def peek : ReadNode Token := scan Scan.peek

def take : ReadNode Token := scan Scan.take

def at? (test : TokenKind → Bool) : ReadNode Bool := return test (← peek).kind

def fail (context : Option (Context × Option Mark)) (problem : Problem) (mark : Mark) :
    ReadNode α :=
  throw ⟨context, problem, mark⟩

def commonHandles : List (String × String) := [("!", "!"), ("!!", commonAddress)]

/-- What stands before the content of a node: its name and its tag, each with its place, and the
place where they begin. -/
structure Properties where
  anchor : Option String
  tag : Option (Option String × String × Mark)
  start : Option Mark

/-- Reads a name or a tag that stands here into the properties, one of each at most. -/
def readProperties (fuel : Nat) (p : Properties) : ReadNode Properties := do
  match fuel with
  | 0 => return p
  | fuel + 1 =>
    let token ← peek
    let start := p.start.getD token.start
    match token.kind with
    | .anchor name =>
      if p.anchor.isSome then return p
      else
        let _ ← take
        readProperties fuel { p with anchor := some name, start }
    | .tag handle suffix =>
      if p.tag.isSome then return p
      else
        let _ ← take
        readProperties fuel { p with tag := some (handle, suffix, token.start), start }
    | _ => return p

def resolveTag (p : Properties) : ReadNode (Option String) := do
  match p.tag with
  | none => return none
  | some (none, suffix, _) => return some suffix
  | some (some handle, suffix, mark) =>
    match (← get).handles.lookup handle with
    | some address => return some (address ++ suffix)
    | none => fail (some (.node, p.start)) (.undefinedHandle handle) mark

def addNode (tag : String) (content : Content) (mark : Mark) : ReadNode Nat := do
  let number := (← get).nodes.size
  modify fun r => { r with nodes := r.nodes.push ⟨tag, content, mark⟩ }
  return number

/-- Begins a node that may be given a name; what a collection holds follows. -/
def beginNode (anchor : Option String) (tag : String) (content : Content) (mark : Mark) :
    ReadNode Nat := do
  match anchor with
  | none => addNode tag content mark
  | some name =>
    let r ← get
    match r.anchors.lookup name with
    | some first =>
      fail (some (.firstAnchor name, some (r.nodes[first]?.getD default).mark)) .secondAnchor mark
    | none =>
      let number ← addNode tag content mark
      modify fun r => { r with anchors := (name, number) :: r.anchors }
      return number

def fillNode (number : Nat) (content : Content) : ReadNode Nat := do
  modify fun r => { r with nodes := r.nodes.modify number fun node => { node with content } }
  return number

def namedNode (name : String) (mark : Mark) : ReadNode Nat := do
  match (← get).anchors.lookup name with
  | some number => return number
  | none => fail none (.undefinedAlias name) mark

/-- A node without content. -/
def emptyNode (mark : Mark) : ReadNode Nat := addNode (resolvePlain "") (.scalar "") mark

def collectionTag (given : Option String) (default : String) : String :=
  match given with
  | none | some "!" => default
  | some tag => tag

def scalarTag (given : Option String) (plain : Bool) (text : String) : String :=
  match given with
  | some "!" => resolvePlain text
  | some tag => tag
  | none => if plain then resolvePlain text else textTag

/-- Where a node stands: whether block collections may begin here, and whether a sequence may stand
here without being indented. -/
structure Site where
  block : Bool
  unindented : Bool

def flowSite : Site := ⟨false, false⟩

def blockSite : Site := ⟨true, false⟩

def mappingSite : Site := ⟨true, true⟩

def refuseContent (site : Site) (start : Mark) : ReadNode α := do
  let token ← peek
  fail (some (if site.block then .blockNode else .flowNode, some start))
    (.expectedContent token.kind.label) token.start

/-- Whether a token ends an entry of a block without content. -/
def endsEntry (kind : TokenKind) : Bool := kind == .blockEntry || kind == .blockEnd

/-- Whether a token ends an entry of a sequence that is not indented. -/
def endsUnindented (kind : TokenKind) : Bool :=
  kind == .blockEntry || kind == .key || kind == .value || kind == .blockEnd

/-- Whether a token ends a key or a value of a block mapping without content. -/
def endsPart (kind : TokenKind) : Bool := kind == .key || kind == .value || kind == .blockEnd

def endsFlow (stop kind : TokenKind) : Bool := kind == .flowEntry || kind == stop

mutual

def readNode (fuel : Nat) (site : Site) : ReadNode Nat := do
  match fuel with
  | 0 => refuseContent site (← peek).start
  | fuel + 1 =>
    let token ← peek
    match token.kind with
    | .alias name =>
      let _ ← take
      namedNode name token.start
    | _ =>
      let p ← readProperties 2 ⟨none, none, none⟩
      let tag ← resolveTag p
      readContent fuel site p tag

def readContent (fuel : Nat) (site : Site) (p : Properties) (tag : Option String) :
    ReadNode Nat := do
  match fuel with
  | 0 => refuseContent site (← peek).start
  | fuel + 1 =>
    let token ← peek
    let start := p.start.getD token.start
    let sequence (items : ReadNode (List Nat)) : ReadNode Nat := do
      let number ← beginNode p.anchor (collectionTag tag sequenceTag) (.sequence []) start
      fillNode number (.sequence (← items))
    let mapping (pairs : ReadNode (List (Nat × Nat))) : ReadNode Nat := do
      let number ← beginNode p.anchor (collectionTag tag mappingTag) (.mapping []) start
      fillNode number (.mapping (← pairs))
    match token.kind with
    | .scalar text plain =>
      let _ ← take
      beginNode p.anchor (scalarTag tag plain text) (.scalar text) start
    | .flowSequenceStart => sequence do
      let _ ← take
      readFlowSequence fuel token.start true
    | .flowMappingStart => mapping do
      let _ ← take
      readFlowMapping fuel token.start true
    | kind =>
      if site.unindented && kind == .blockEntry then sequence (readUnindented fuel)
      else if site.block && kind == .blockSequenceStart then sequence do
        let _ ← take
        readBlockSequence fuel token.start
      else if site.block && kind == .blockMappingStart then mapping do
        let _ ← take
        readBlockMapping fuel token.start
      else if p.anchor.isSome || tag.isSome then
        beginNode p.anchor (scalarTag tag true "") (.scalar "") start
      else refuseContent site start

/-- Reads the entries of a block sequence that began at a place, up to its end. -/
def readBlockSequence (fuel : Nat) (start : Mark) : ReadNode (List Nat) := do
  match fuel with
  | 0 => return []
  | fuel + 1 =>
    let token ← peek
    match token.kind with
    | .blockEntry =>
      let _ ← take
      let item ← if ← at? endsEntry then emptyNode token.stop else readNode fuel blockSite
      return item :: (← readBlockSequence fuel start)
    | .blockEnd =>
      let _ ← take
      return []
    | kind => fail (some (.blockSequence, some start)) (.expectedBlockEnd kind.label) token.start

/-- Reads the entries of a sequence that is not indented. -/
def readUnindented (fuel : Nat) : ReadNode (List Nat) := do
  match fuel with
  | 0 => return []
  | fuel + 1 =>
    let token ← peek
    match token.kind with
    | .blockEntry =>
      let _ ← take
      let item ← if ← at? endsUnindented then emptyNode token.stop
        else readNode fuel blockSite
      return item :: (← readUnindented fuel)
    | _ => return []

/-- Reads a key or a value of a mapping after its indicator, which may be missing. -/
def readPart (fuel : Nat) (indicator : TokenKind) (ends : TokenKind → Bool) (site : Site) :
    ReadNode Nat := do
  match fuel with
  | 0 => refuseContent site (← peek).start
  | fuel + 1 =>
    let token ← peek
    if token.kind == indicator then
      let _ ← take
      if ← at? ends then emptyNode token.stop else readNode fuel site
    else emptyNode token.start

/-- Reads the entries of a block mapping that began at a place, up to its end. -/
def readBlockMapping (fuel : Nat) (start : Mark) : ReadNode (List (Nat × Nat)) := do
  match fuel with
  | 0 => return []
  | fuel + 1 =>
    let token ← peek
    match token.kind with
    | .key =>
      let key ← readPart fuel .key endsPart mappingSite
      let value ← readPart fuel .value endsPart mappingSite
      return (key, value) :: (← readBlockMapping fuel start)
    | .blockEnd =>
      let _ ← take
      return []
    | kind => fail (some (.blockMapping, some start)) (.expectedBlockEnd kind.label) token.start

/-- Takes the comma before an entry of a flow collection, unless the entry is the first one. -/
def separate (first : Bool) (context : Context) (start : Mark) (problem : String → Problem) :
    ReadNode Unit := do
  if !first then
    let token ← peek
    if token.kind == .flowEntry then
      let _ ← take
    else fail (some (context, some start)) (problem token.kind.label) token.start

/-- Reads the entries of a flow sequence that began at a place, up to its end. An entry with a key is
a mapping of one entry. -/
def readFlowSequence (fuel : Nat) (start : Mark) (first : Bool) : ReadNode (List Nat) := do
  match fuel with
  | 0 => return []
  | fuel + 1 =>
    if ← at? (· == .flowSequenceEnd) then
      let _ ← take
      return []
    else
      separate first .flowSequence start .expectedInSequence
      let token ← peek
      match token.kind with
      | .flowSequenceEnd =>
        let _ ← take
        return []
      | .key =>
        let ends := endsFlow .flowSequenceEnd
        let key ← readPart fuel .key (fun k => k == .value || ends k) flowSite
        let value ← readPart fuel .value ends flowSite
        let item ← addNode mappingTag (.mapping [(key, value)]) token.start
        return item :: (← readFlowSequence fuel start false)
      | _ =>
        let item ← readNode fuel flowSite
        return item :: (← readFlowSequence fuel start false)

/-- Reads the entries of a flow mapping that began at a place, up to its end. An entry without a key
token has no value. -/
def readFlowMapping (fuel : Nat) (start : Mark) (first : Bool) : ReadNode (List (Nat × Nat)) := do
  match fuel with
  | 0 => return []
  | fuel + 1 =>
    if ← at? (· == .flowMappingEnd) then
      let _ ← take
      return []
    else
      separate first .flowMapping start .expectedInMapping
      let token ← peek
      match token.kind with
      | .flowMappingEnd =>
        let _ ← take
        return []
      | .key =>
        let ends := endsFlow .flowMappingEnd
        let key ← readPart fuel .key (fun k => k == .value || ends k) flowSite
        let value ← readPart fuel .value ends flowSite
        return (key, value) :: (← readFlowMapping fuel start false)
      | _ =>
        let key ← readNode fuel flowSite
        let value ← emptyNode (← peek).start
        return (key, value) :: (← readFlowMapping fuel start false)

end

/-- Reads the directives of a document; `version` tells whether its version has been given. -/
def readDirectives (fuel : Nat) (version : Bool) : ReadNode Unit := do
  match fuel with
  | 0 => return
  | fuel + 1 =>
    let token ← peek
    match token.kind with
    | .version major _ =>
      let _ ← take
      if version then fail none .duplicateVersion token.start
      else if major != 1 then fail none .incompatibleVersion token.start
      else readDirectives fuel true
    | .tagHandle handle address =>
      let _ ← take
      if ((← get).handles.lookup handle).isSome then fail none (.duplicateHandle handle) token.start
      else
        modify fun r => { r with handles := (handle, address) :: r.handles }
        readDirectives fuel version
    | .otherDirective =>
      let _ ← take
      readDirectives fuel version
    | _ => return

def skipDocumentEnds (fuel : Nat) : ReadNode Unit := do
  match fuel with
  | 0 => return
  | fuel + 1 =>
    if ← at? (· == .documentEnd) then
      let _ ← take
      skipDocumentEnds fuel

/-- Begins a further or a marked document; the place where it begins, or none at the end. -/
def beginDocument (fuel : Nat) : ReadNode (Option Mark) := do
  skipDocumentEnds fuel
  let token ← peek
  if token.kind == .streamEnd then return none
  else
    modify fun r => { r with handles := [] }
    readDirectives fuel false
    modify fun r => { r with
      handles := r.handles ++ commonHandles.filter fun (h, _) => (r.handles.lookup h).isNone }
    let next ← peek
    if next.kind == .documentStart then
      let _ ← take
      return some token.start
    else fail none (.expectedDocument next.kind.label) next.start

/-- Whether a token stands where the content of a marked document would begin without being part of
it. -/
def endsDocument (kind : TokenKind) : Bool :=
  kind.isDirective || kind == .documentStart || kind == .documentEnd || kind == .streamEnd

def readFirst (fuel : Nat) : ReadNode (Option Nat) := do
  let token ← peek
  if token.kind.isDirective || token.kind == .documentStart || token.kind == .streamEnd then
    match ← beginDocument fuel with
    | none => return none
    | some _ =>
      if ← at? endsDocument then return some (← emptyNode (← peek).start)
      else return some (← readNode fuel blockSite)
  else return some (← readNode fuel blockSite)

/-- Reads the only document of a stream. -/
def readOnly (fuel : Nat) : ReadNode (Option Nat) := do
  match ← readFirst fuel with
  | none => return none
  | some node =>
    match ← beginDocument fuel with
    | none => return some node
    | some mark =>
      let start := ((← get).nodes[node]?.getD default).mark
      fail (some (.singleDocument, some start)) .anotherDocument mark

end ReadNode

/-- The nodes of the only document of a text and the number of its root, or no root if the text is
empty. -/
def readDocument (source : Source) : Except Fault (Nodes × Option Nat) := do
  let fuel := 8 * source.chars.length + 16
  let (root, r) ← ReadNode.readOnly fuel ⟨Scanner.start source, ReadNode.commonHandles, #[], []⟩
  return (r.nodes, root)

end ReleasePackaging.Yaml
