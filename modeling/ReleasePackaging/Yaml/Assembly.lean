import ReleasePackaging.Yaml.Literal
import ReleasePackaging.Yaml.Node

/-!
# Assembling a document

The nodes of a document become a value from the root on. A scalar becomes its value at once. A
collection is opened first and filled later, all those opened before it being filled before it; so a
collection may hold one that holds it, and of several faults the one nearest to the root is met
first. A node is opened once, whatever stands for it. Before a mapping is filled the mappings that it
asks for are merged into it, which all that stand for it see from then on.

Values are finite: a collection that holds itself stands for its unfolding, down to a depth below
that of all settings.
-/
namespace ReleasePackaging.Yaml

inductive Collection where
  | sequence | mapping | set | orderedMap | pairs
  deriving DecidableEq, Repr

/-- What an opened node is: a scalar; what is no number, told apart by the node that says so, except
where its own mark says so; or a collection, by the number of its node. -/
inductive Item where
  | scalar (v : Value)
  | notNumber (origin : Option Nat)
  | collection (number : Nat)
  deriving Repr, Inhabited

/-- Whether two items are one key of a mapping. What is no number equals nothing but itself. -/
def Item.sameKey : Item → Item → Bool
  | .scalar v, .scalar w => v.same w
  | .notNumber a, .notNumber b => a == b
  | _, _ => false

/-- A filled collection. -/
inductive Cell where
  | list (items : List Item)
  | tuples (pairs : List (Item × Item))
  | set (members : List Item)
  | map (entries : List (Item × Item))
  deriving Repr, Inhabited

/-- The state of assembling: the nodes; what the opened ones are; the collections that are still to
be filled, the last one first; and the filled ones. -/
structure Assembly where
  nodes : Nodes
  items : Array (Option Item)
  waiting : List (Nat × Collection)
  cells : Array (Option Cell)

abbrev Assemble := StateT Assembly (Except ReadFault)

namespace Assemble

def fail (context : Option (Context × Option Mark)) (problem : Problem) (mark : Mark) : Assemble α :=
  throw (.document ⟨context, problem, mark⟩)

def node (number : Nat) : Assemble Node := return (← get).nodes[number]?.getD default

/-! ## Opening -/

/-- The text of a scalar; that of a mapping is the text of its default value. The number of steps to
a default value is bounded by `fuel`. -/
def textOf (fuel : Nat) (number : Nat) : Assemble String := do
  match fuel with
  | 0 => throw .endless
  | fuel + 1 =>
    let here ← node number
    match here.content with
    | .scalar text => return text
    | .sequence _ => fail none (.expectedScalar here.kind) here.mark
    | .mapping pairs =>
      let nodes := (← get).nodes
      match pairs.find? fun (key, _) => (nodes[key]?.getD default).tag == valueTag with
      | some (_, value) => textOf fuel value
      | none => fail none (.expectedScalar here.kind) here.mark

def floatItem (number : Nat) (text : String) : Except ReadFault Item := do
  let x ← readFloat text
  if x.isNaN then .ok (.notNumber (if isNotNumberMark text then none else some number))
  else .ok (.scalar (.float x))

/-- The date or moment of a node with a text. Only a scalar writes one. -/
def timeOf (node : Node) (text : String) : Except ReadFault Value :=
  match node.content with
  | .scalar _ => readTime text
  | _ => .error .timeOfMapping

/-- How a scalar is read under a tag, if the tag is one of a scalar. -/
def scalarReader? (number : Nat) (node : Node) : Option (String → Except ReadFault Item) :=
  let plain (read : String → Except ReadFault Value) : Option (String → Except ReadFault Item) :=
    some fun text => (read text).map .scalar
  let tag := node.tag
  if tag = textTag then plain fun s => .ok (.str s)
  else if tag = commonAddress ++ "null" then plain fun _ => .ok .null
  else if tag = commonAddress ++ "bool" then plain fun s => return .bool (← readFlag s)
  else if tag = commonAddress ++ "int" then plain fun s => return .int (← readInteger s)
  else if tag = commonAddress ++ "float" then some (floatItem number)
  else if tag = commonAddress ++ "timestamp" then plain (timeOf node)
  else if tag = commonAddress ++ "binary" then plain fun s => return .bytes (← readBytes s node.mark)
  else none

def collectionOf? (tag : String) : Option Collection :=
  if tag = sequenceTag then some .sequence
  else if tag = mappingTag then some .mapping
  else if tag = commonAddress ++ "set" then some .set
  else if tag = commonAddress ++ "omap" then some .orderedMap
  else if tag = commonAddress ++ "pairs" then some .pairs
  else none

/-- Opens a node; a node that has been opened is what it was then. -/
def openNode (number : Nat) : Assemble Item := do
  let state ← get
  match state.items[number]?.join with
  | some item => return item
  | none =>
    let here ← node number
    let item ← match scalarReader? number here with
      | some read => do
        let text ← textOf (state.nodes.size + 1) number
        liftM (read text)
      | none =>
        match collectionOf? here.tag with
        | some kind => do
          modify fun s => { s with waiting := (number, kind) :: s.waiting }
          pure (Item.collection number)
        | none => fail none (.unknownTag here.tag) here.mark
    modify fun s => { s with items := s.items.setIfInBounds number (some item) }
    return item

/-! ## Merging -/

def pairsOf (node : Node) : List (Nat × Nat) :=
  match node.content with
  | .mapping pairs => pairs
  | _ => []

def setPairs (number : Nat) (pairs : List (Nat × Nat)) : Assemble Unit :=
  modify fun s => { s with
    nodes := s.nodes.modify number fun node => { node with content := .mapping pairs } }

/-- Makes a key under which a default value stands an ordinary key. -/
def makePlain (key : Nat) : Assemble Unit :=
  modify fun s => { s with
    nodes := s.nodes.modify key fun node =>
      if node.tag = valueTag then { node with tag := textTag } else node }

/-- The entries to merge, into a mapping at a place, from a mapping or a list of mappings; into each
of these are merged first those that it asks for. -/
def mergeSource (mergeInto : Nat → Assemble Unit) (mark : Mark) (source : Nat) :
    Assemble (List (Nat × Nat)) := do
  let here ← node source
  match here.content with
  | .mapping _ =>
    mergeInto source
    return pairsOf (← node source)
  | .sequence items =>
    let parts ← items.mapM fun item => do
      let part ← node item
      match part.content with
      | .mapping _ =>
        mergeInto item
        return pairsOf (← node item)
      | _ => fail (some (.mapping, some mark)) (.notMapping part.kind) part.mark
    return parts.reverse.flatten
  | .scalar _ => fail (some (.mapping, some mark)) (.notMergeable here.kind) here.mark

/-- Puts the entries that a mapping asks for before its own ones. Each step takes away a request, so
`fuel` is the number of requests in the document and one more. -/
def merge (fuel : Nat) (number : Nat) : Assemble Unit := do
  match fuel with
  | 0 => return
  | fuel + 1 =>
    let pairs := pairsOf (← node number)
    let nodes := (← get).nodes
    match pairs.span fun (key, _) => (nodes[key]?.getD default).tag != mergeTag with
    | (_, []) => for (key, _) in pairs do makePlain key
    | (before, (_, source) :: after) =>
      setPairs number (before ++ after)
      let merged ← mergeSource (merge fuel) (← node number).mark source
      merge fuel number
      setPairs number (merged ++ pairsOf (← node number))

/-! ## Filling -/

/-- The entries with an item put under a key; the first spelling of a key is kept. -/
def putItem (key value : Item) : List (Item × Item) → List (Item × Item)
  | [] => [(key, value)]
  | (k, v) :: rest =>
    if k.sameKey key then (k, value) :: rest else (k, v) :: putItem key value rest

def entriesOf (number : Nat) : Assemble (List (Item × Item)) := do
  let here ← node number
  match here.content with
  | .mapping _ =>
    let requests := (← get).nodes.foldl (fun n node => n + (pairsOf node).length) 0
    merge (requests + 1) number
    (pairsOf (← node number)).foldlM (fun entries (key, value) => do
      let k ← openNode key
      match k with
      | .collection _ =>
        fail (some (.mapping, some here.mark)) .unhashableKey (← node key).mark
      | _ => return putItem k (← openNode value) entries) []
  | _ => fail none (.expectedMapping here.kind) here.mark

/-- The pairs of a node that lists mappings of one entry each. -/
def tuplesOf (context : Context) (number : Nat) : Assemble (List (Item × Item)) := do
  let here ← node number
  let place := some (context, some here.mark)
  match here.content with
  | .sequence items => items.mapM fun item => do
    let part ← node item
    match part.content with
    | .mapping [(key, value)] =>
      let k ← openNode key
      return (k, ← openNode value)
    | .mapping pairs => fail place (.severalItems pairs.length) part.mark
    | _ => fail place (.notSingleMapping part.kind) part.mark
  | _ => fail place (.notSequence here.kind) here.mark

def cellOf (number : Nat) (kind : Collection) : Assemble Cell := do
  match kind with
  | .sequence =>
    let here ← node number
    match here.content with
    | .sequence items => return .list (← items.mapM openNode)
    | _ => fail none (.expectedSequence here.kind) here.mark
  | .mapping => return .map (← entriesOf number)
  | .set => return .set ((← entriesOf number).map (·.1))
  | .orderedMap => return .tuples (← tuplesOf .orderedMap number)
  | .pairs => return .tuples (← tuplesOf .pairs number)

/-- Fills the waiting collections, and then those that this opens; `fuel` bounds the number of
rounds. -/
def fillAll (fuel : Nat) : Assemble Unit := do
  match fuel with
  | 0 => return
  | fuel + 1 =>
    match (← get).waiting.reverse with
    | [] => return
    | round =>
      modify fun s => { s with waiting := [] }
      for (number, kind) in round do
        let cell ← cellOf number kind
        modify fun s => { s with cells := s.cells.setIfInBounds number (some cell) }
      fillAll fuel

end Assemble

def Cell.emptied : Cell → Value
  | .list _ | .tuples _ => .list []
  | .set _ => .set []
  | .map _ => .map []

/-- How often the way into a value may come back to collections that it has passed. No setting stands
that deep. -/
def returnLimit : Nat := 4

/-- The value of an item among filled collections, inside those with the numbers on `path`. A
collection that holds itself is unfolded until the way into it has come back `returns` times, and is
empty from there on. So a path has a bounded length, for which `fuel` is enough. -/
def Item.value (cells : Array (Option Cell)) (fuel : Nat) (path : List Nat) (returns : Nat)
    (item : Item) : Value :=
  match item, fuel with
  | .scalar v, _ => v
  | .notNumber _, _ => .float .nan
  | .collection number, 0 => (cells[number]?.join.getD default).emptied
  | .collection number, fuel + 1 =>
    let cell := cells[number]?.join.getD default
    let isReturn := path.contains number
    if isReturn && returns == 0 then cell.emptied
    else
      let inside := Item.value cells fuel (number :: path) (returns - isReturn.toNat)
      match cell with
      | .list items => .list (items.map inside)
      | .tuples pairs => .list (pairs.map fun pair => .tuple [inside pair.1, inside pair.2])
      | .set members => .set (members.map inside)
      | .map entries => .map (entries.map fun entry => (inside entry.1, inside entry.2))

def Nodes.value (nodes : Nodes) (root : Nat) : Except ReadFault Value := do
  let size := nodes.size
  let empty : Assembly := ⟨nodes, Array.replicate size none, [], Array.replicate size none⟩
  let assembled : Assemble Item := do
    let item ← Assemble.openNode root
    Assemble.fillAll (size + 1)
    return item
  let (item, state) ← assembled.run empty
  return item.value state.cells (size + returnLimit + 1) [] returnLimit

end ReleasePackaging.Yaml
