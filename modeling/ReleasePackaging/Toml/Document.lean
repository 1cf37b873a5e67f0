import ReleasePackaging.Toml.Lexeme

/-!
# Reading TOML documents

A document is a sequence of statements, one a line: a key with its value, or the header of a table
or of an element of an array of tables, below which the following keys are put. A table may be
declared once; what an inline table or an array holds cannot be changed later.
-/
namespace ReleasePackaging.Toml

/-- Changes the table at a path below a table; missing tables are made. With `throughArrays` the
path leads through the last element of an array. Nothing results where the path meets a value of
another kind. -/
def changeAt (throughArrays : Bool) (change : Table → Option Table) :
    List String → Table → Option Table
  | [], t => change t
  | key :: path, t =>
    match t.lookup key with
    | none => (changeAt throughArrays change path []).map fun inner =>
        Table.put key (.table inner) t
    | some (.table inner) => (changeAt throughArrays change path inner).map fun inner =>
        Table.put key (.table inner) t
    | some (.array items) =>
      if throughArrays then
        match items.getLast? with
        | some (.table inner) => (changeAt throughArrays change path inner).map fun inner =>
            Table.put key (.array (items.dropLast ++ [.table inner])) t
        | _ => none
      else none
    | some _ => none

def insertNew (key : String) (item : Item) (t : Table) : Option Table :=
  if (t.lookup key).isSome then none else some (Table.put key item t)

def appendTable (key : String) (t : Table) : Option Table :=
  match t.lookup key with
  | none => some (Table.put key (.array [.table []]) t)
  | some (.array items) => some (Table.put key (.array (items ++ [.table []])) t)
  | some _ => none

def isWithin (paths : List (List String)) (path : List String) : Bool :=
  !path.isEmpty && paths.any fun p => p.isPrefixOf path

mutual

def readItem (fuel : Nat) (cs : List Char) : Except Stop (Item × List Char) :=
  match fuel, cs with
  | 0, _ => stopAt .invalidValue cs
  | fuel + 1, '[' :: rest => do
    let rest ← skipSpaces (rest.length + 1) rest
    match rest with
    | ']' :: rest => .ok (.array [], rest)
    | _ => do
      let (items, rest) ← readElements fuel rest
      .ok (.array items, rest)
  | fuel + 1, '\x7b' :: rest =>
    match skipBlanks rest with
    | '\x7d' :: rest => .ok (.table [], rest)
    | rest => (readMembers fuel [] [] rest).map fun (entries, rest) => (.table entries, rest)
  | _, _ => readScalar cs

def readElements (fuel : Nat) (cs : List Char) : Except Stop (List Item × List Char) :=
  match fuel with
  | 0 => stopAt .unclosedArray cs
  | fuel + 1 => do
    let (item, rest) ← readItem fuel cs
    let rest ← skipSpaces (rest.length + 1) rest
    match rest with
    | ']' :: rest => .ok ([item], rest)
    | ',' :: rest => do
      let rest ← skipSpaces (rest.length + 1) rest
      match rest with
      | ']' :: rest => .ok ([item], rest)
      | _ => do
        let (items, rest) ← readElements fuel rest
        .ok (item :: items, rest)
    | _ => stopAt .unclosedArray rest

def readPair (fuel : Nat) (cs : List Char) : Except Stop (List String × Item × List Char) :=
  match fuel with
  | 0 => stopAt .invalidKey cs
  | fuel + 1 => do
    let (key, rest) ← readKey cs.length cs
    match rest with
    | '=' :: rest => do
      let (item, rest) ← readItem fuel (skipBlanks rest)
      .ok (key, item, rest)
    | _ => stopAt .expectedEquals rest

/-- Reads the members of an inline table up to its closing brace, after those already read; the
collections among these are frozen. -/
def readMembers (fuel : Nat) (done : Table) (frozen : List (List String)) (cs : List Char) :
    Except Stop (Table × List Char) :=
  match fuel with
  | 0 => stopAt .unclosedTable cs
  | fuel + 1 => do
    let (key, item, rest) ← readPair fuel cs
    if isWithin frozen key then stopAt (.immutableNamespace key) rest
    else
      let stem := key.getLastD ""
      match changeAt false some key.dropLast done with
      | none => stopAt .overwritten rest
      | some _ =>
        match changeAt false (insertNew stem item) key.dropLast done with
        | none => stopAt (.duplicateKey stem) rest
        | some entries =>
          match skipBlanks rest with
          | '\x7d' :: rest => .ok (entries, rest)
          | ',' :: rest =>
            let frozen := if item.isCollection then key :: frozen else frozen
            readMembers fuel entries frozen (skipBlanks rest)
          | rest => stopAt .unclosedTable rest

end

/-- A document while it is read: the table so far, the header that is in force, the paths of tables
that must not be declared again, those that must not be declared once the next header has come, and
the paths below which nothing may be changed. -/
structure Draft where
  root : Table
  header : List String
  declared : List (List String)
  pending : List (List String)
  frozen : List (List String)

namespace Draft

/-- Begins a table; `rest` is what follows the key. -/
def beginTable (d : Draft) (key : List String) (rest : List Char) : Except Stop Draft :=
  if d.declared.contains key || isWithin d.frozen key then stopAt (.declaredTwice key) rest
  else
    match changeAt true some key d.root with
    | none => stopAt .overwritten rest
    | some root => .ok { d with root, header := key, declared := key :: d.declared }

/-- Begins an element of an array of tables; what was declared below the array counts no more. -/
def beginElement (d : Draft) (key : List String) (rest : List Char) : Except Stop Draft :=
  if isWithin d.frozen key then stopAt (.immutableNamespace key) rest
  else
    match changeAt true (appendTable (key.getLastD "")) key.dropLast d.root with
    | none => stopAt .overwritten rest
    | some root =>
      .ok { d with
        root
        header := key
        declared := key :: d.declared.filter fun p => !key.isPrefixOf p
        frozen := d.frozen.filter fun p => !key.isPrefixOf p }

/-- The tables that a key with several parts passes through below the header. -/
def passed (d : Draft) (key : List String) : List (List String) :=
  (List.range (key.length - 1)).map fun n => d.header ++ key.take (n + 1)

def addPair (d : Draft) (key : List String) (item : Item) (rest : List Char) :
    Except Stop Draft :=
  match (d.passed key).find? d.declared.contains with
  | some path => stopAt (.redefinedNamespace path) rest
  | none =>
    let place := d.header ++ key.dropLast
    if isWithin d.frozen place then stopAt (.immutableNamespace place) rest
    else
      match changeAt true (insertNew (key.getLastD "") item) place d.root with
      | none => stopAt .overwritten rest
      | some root =>
        .ok { d with
          root
          pending := d.pending ++ d.passed key
          frozen := if item.isCollection then (d.header ++ key) :: d.frozen else d.frozen }

/-- The draft when a header comes: the tables that were passed through count as declared. -/
def settle (d : Draft) : Draft := { d with declared := d.pending ++ d.declared, pending := [] }

end Draft

/-- Reads a statement, if there is one on the line. -/
def readStatement (d : Draft) (cs : List Char) : Except Stop (Draft × List Char) :=
  match cs with
  | '[' :: '[' :: rest => do
    let (key, rest) ← readKey rest.length (skipBlanks rest)
    let d ← d.settle.beginElement key rest
    match rest with
    | ']' :: ']' :: rest => .ok (d, rest)
    | _ => stopAt .expectedArrayTableEnd rest
  | '[' :: rest => do
    let (key, rest) ← readKey rest.length (skipBlanks rest)
    let d ← d.settle.beginTable key rest
    match rest with
    | ']' :: rest => .ok (d, rest)
    | _ => stopAt .expectedTableEnd rest
  | '#' :: _ => .ok (d, cs)
  | c :: _ =>
    if isKeyChar c || c == '"' || c == '\'' then do
      let (key, item, rest) ← readPair (2 * cs.length + 2) cs
      let d ← d.addPair key item rest
      .ok (d, rest)
    else stopAt .invalidStatement cs
  | [] => .ok (d, [])

/-- Reads the statements of a document, one a line. -/
def readStatements (fuel : Nat) (d : Draft) (cs : List Char) : Except Stop Draft :=
  match fuel, skipBlanks cs with
  | 0, _ | _, [] => .ok d
  | fuel + 1, '\n' :: rest => readStatements fuel d rest
  | fuel + 1, cs => do
    let (d, rest) ← readStatement d cs
    match ← skipComment (skipBlanks rest) with
    | [] => .ok d
    | '\n' :: rest => readStatements fuel d rest
    | rest => stopAt .expectedLineEnd rest

/-- The characters with each pair of carriage return and line feed as one line feed. -/
def joinLineEnds : List Char → List Char
  | '\r' :: '\n' :: rest => '\n' :: joinLineEnds rest
  | c :: rest => c :: joinLineEnds rest
  | [] => []

def read (cs : List Char) : Except Fault Table :=
  let cs := joinLineEnds cs
  match readStatements (cs.length + 1) ⟨[], [], [], [], []⟩ cs with
  | .ok d => .ok d.root
  | .error (.grammar reason 0) => .error (.grammar reason none)
  | .error (.grammar reason remaining) =>
    .error (.grammar reason (some (Text.placeBefore cs remaining)))
  | .error (.integer f) => .error (.integer f)

end ReleasePackaging.Toml
