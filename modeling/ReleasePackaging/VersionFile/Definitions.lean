import ReleasePackaging.VersionFile.Statement

/-!
# Definitions of a version file

The statements of a version file are gone through in order; each gives a value to its targets, and
later statements may use the names. The last value of a name counts.
-/
namespace ReleasePackaging.VersionFile

/-- Names with their values, the last one given first. -/
abbrev Definitions := List (String × Value)

/-- The kind of a value that cannot be a key or a member of a set, if it is one. -/
def noKeyKind? : Value → Option String
  | .list _ => some "list"
  | .set _ => some "set"
  | .map _ => some "dict"
  | .tuple xs => first xs
  | _ => none
where
  /-- The first that there is among the items of a tuple. -/
  first : List Value → Option String
    | [] => none
    | v :: rest => (noKeyKind? v).orElse fun _ => first rest

def asKey (v : Value) : Except Fault Value :=
  match noKeyKind? v with
  | some kind => .error (.noKey kind)
  | none => .ok v

def setOf (vs : List Value) : Value :=
  .set (vs.foldl (fun members v => if members.any v.same then members else members ++ [v]) [])

def signedValue (sign : Char) (v : Value) : Except Fault Value :=
  match sign, v, v.integer? with
  | '-', _, some n => .ok (.int (-n))
  | '+', _, some n => .ok (.int n)
  | '~', _, some n => .ok (.int (-n - 1))
  | '-', .float x, none => .ok (.float x.neg)
  | '+', .float x, none => .ok (.float x)
  | _, _, _ => .error (.noOperand sign v.kind)

def valueOf (ds : Definitions) (name : String) : Except Fault Value :=
  match ds.lookup name with
  | some v => .ok v
  | none => .error (.undefinedName name)

mutual

def evaluate (ds : Definitions) : Term → Except Fault Value
  | .literal v => .ok v
  | .name text => valueOf ds text
  | .signed sign t => do signedValue sign (← evaluate ds t)
  | .list ts => do return .list (← evaluateAll ds ts)
  | .tuple ts => do return .tuple (← evaluateAll ds ts)
  | .set ts => do return setOf (← (← evaluateAll ds ts).mapM asKey)
  | .map entries => do
    let entries ← evaluateEntries ds entries
    return .map (Entries.ofList (← entries.mapM fun (k, v) => do return (← asKey k, v)))
  | .joined ts => do return .str (String.join ((← evaluateAll ds ts).map (·.plain)))
  | .shown letter t => do return .str (shownText letter (← evaluate ds t))
  | .made .negation [t] => do return .bool !(← evaluate ds t).isTruthy
  | .made .conjunction [a, b] => do
    let v ← evaluate ds a
    if v.isTruthy then evaluate ds b else return v
  | .made .disjunction [a, b] => do
    let v ← evaluate ds a
    if v.isTruthy then return v else evaluate ds b
  | .made .choice [c, a, b] => do
    if (← evaluate ds c).isTruthy then evaluate ds a else evaluate ds b
  | .made _ ts => do
    let _ ← evaluateAll ds ts
    throw .computed

def evaluateAll (ds : Definitions) : List Term → Except Fault (List Value)
  | [] => .ok []
  | t :: rest => do return (← evaluate ds t) :: (← evaluateAll ds rest)

def evaluateEntries (ds : Definitions) : List (Term × Term) → Except Fault (List (Value × Value))
  | [] => .ok []
  | (k, v) :: rest => do
    let k ← evaluate ds k
    let v ← evaluate ds v
    return (k, v) :: (← evaluateEntries ds rest)

end

/-- Names of kinds, which may stand after a colon. -/
def kindNames : List String :=
  ["bool", "bytes", "complex", "dict", "float", "frozenset", "int", "list", "object", "set", "str",
   "tuple", "type"]

def checkKind (ds : Definitions) : Option Term → Except Fault Unit
  | none => .ok ()
  | some (.name text) =>
    if kindNames.contains text then .ok () else (valueOf ds text).map fun _ => ()
  | some t => (evaluate ds t).map fun _ => ()

/-- The items of a value, if it has any. -/
def items? : Value → Option (List Value)
  | .str s => some (s.toList.map fun c => .str (String.ofList [c]))
  | .bytes bs => some (bs.map fun b => .int b.toNat)
  | .list xs | .tuple xs | .set xs => some xs
  | .map entries => some (entries.map fun (k, _) => k)
  | _ => none

mutual

def assign (ds : Definitions) (v : Value) : Target → Except Fault Definitions
  | .name text => .ok ((text, v) :: ds)
  | .parts ts =>
    match items? v with
    | none => .error (.noParts v.kind)
    | some vs =>
      if vs.length < ts.length then .error (.tooFewParts ts.length vs.length)
      else if ts.length < vs.length then .error (.tooManyParts ts.length)
      else assignAll ds vs ts
  | .place ts => do
    let _ ← evaluateAll ds ts
    throw .computed

def assignAll (ds : Definitions) : List Value → List Target → Except Fault Definitions
  | v :: vs, t :: ts => do assignAll (← assign ds v t) vs ts
  | _, _ => .ok ds

end

def define (ds : Definitions) (s : Statement) : Except Fault Definitions := do
  let ds ← match s.term with
    | none => pure ds
    | some t => do
      let v ← evaluate ds t
      s.targets.foldlM (fun ds target => assign ds v target) ds
  checkKind ds s.kind
  return ds

def definitions (cs : List Char) : Except Fault Definitions := do
  (← statements cs).foldlM define []

end ReleasePackaging.VersionFile
