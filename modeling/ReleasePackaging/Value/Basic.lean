import ReleasePackaging.Calendar.Moment
import ReleasePackaging.Number.Binary64
import ReleasePackaging.Path.Basic
import ReleasePackaging.Platform.Host

/-!
# Values of settings

What a settings document, an environment or a caller can give for a setting. A mapping keeps its
entries in the order in which their keys were first given; the truth values count as the integers
zero and one when keys are compared, and a number with a fraction of zero as that integer.
-/
namespace ReleasePackaging

open Number (Binary64)

inductive Value where
  | null
  | bool (b : Bool)
  | int (n : Int)
  | float (x : Binary64)
  | str (s : String)
  | bytes (bs : List UInt8)
  | date (d : Date)
  | moment (t : Moment)
  | path (p : Path)
  | platform (p : Platform)
  | list (xs : List Value)
  | tuple (xs : List Value)
  | set (xs : List Value)
  | map (entries : List (Value × Value))
  deriving Repr, Inhabited

namespace Value

mutual

/-- Whether two values are written alike, kind by kind. -/
def equals : Value → Value → Bool
  | .null, .null => true
  | .bool a, .bool b => a == b
  | .int n, .int m => n == m
  | .float x, .float y => x == y
  | .str s, .str t => s == t
  | .bytes xs, .bytes ys => xs == ys
  | .date a, .date b => a == b
  | .moment a, .moment b => a == b
  | .path p, .path q => p == q
  | .platform p, .platform q => p == q
  | .list xs, .list ys | .tuple xs, .tuple ys | .set xs, .set ys => equalAll xs ys
  | .map xs, .map ys => equalEntries xs ys
  | _, _ => false

def equalAll : List Value → List Value → Bool
  | [], [] => true
  | x :: xs, y :: ys => equals x y && equalAll xs ys
  | _, _ => false

def equalEntries : List (Value × Value) → List (Value × Value) → Bool
  | [], [] => true
  | (k, v) :: xs, (l, w) :: ys => equals k l && equals v w && equalEntries xs ys
  | _, _ => false

end

mutual

theorem equals_iff : ∀ a b : Value, equals a b = true ↔ a = b
  | .list xs => by
    intro b
    cases b <;> simp [equals, equalAll_iff xs]
  | .tuple xs => by
    intro b
    cases b <;> simp [equals, equalAll_iff xs]
  | .set xs => by
    intro b
    cases b <;> simp [equals, equalAll_iff xs]
  | .map xs => by
    intro b
    cases b <;> simp [equals, equalEntries_iff xs]
  | .null | .bool _ | .int _ | .float _ | .str _ | .bytes _ | .date _ | .moment _ | .path _
  | .platform _ => by
    intro b
    cases b <;> simp [equals]

theorem equalAll_iff : ∀ xs ys : List Value, equalAll xs ys = true ↔ xs = ys
  | [] => by
    intro ys
    cases ys <;> simp [equalAll]
  | x :: xs => by
    intro ys
    cases ys with
    | nil => simp [equalAll]
    | cons y ys => simp [equalAll, equals_iff x, equalAll_iff xs]

theorem equalEntries_iff : ∀ xs ys : List (Value × Value), equalEntries xs ys = true ↔ xs = ys
  | [] => by
    intro ys
    cases ys <;> simp [equalEntries]
  | (k, v) :: xs => by
    intro ys
    cases ys with
    | nil => simp [equalEntries]
    | cons y ys =>
      obtain ⟨l, w⟩ := y
      simp [equalEntries, equals_iff k, equals_iff v, equalEntries_iff xs]

end

instance : DecidableEq Value := fun a b => decidable_of_iff _ (equals_iff a b)

def kind : Value → String
  | .null => "NoneType"
  | .bool _ => "bool"
  | .int _ => "int"
  | .float _ => "float"
  | .str _ => "str"
  | .bytes _ => "bytes"
  | .date _ => "date"
  | .moment _ => "datetime"
  | .path _ => "PosixPath"
  | .platform _ => "HostPlatform"
  | .list _ => "list"
  | .tuple _ => "tuple"
  | .set _ => "set"
  | .map _ => "dict"

/-- The full name of a value's kind: dates and moments are named within the calendar. -/
def fullKind : Value → String
  | .date _ => "datetime.date"
  | .moment _ => "datetime.datetime"
  | v => v.kind

/-- A value counts as true unless it is null, false, zero or empty. -/
def isTruthy : Value → Bool
  | .null => false
  | .bool b => b
  | .int n => n != 0
  | .float x => !x.isZero
  | .str s => s != ""
  | .bytes bs => !bs.isEmpty
  | .list xs | .tuple xs | .set xs => !xs.isEmpty
  | .map entries => !entries.isEmpty
  | .date _ | .moment _ | .path _ | .platform _ => true

def integer? : Value → Option Int
  | .bool b => some (if b then 1 else 0)
  | .int n => some n
  | _ => none

def text? : Value → Option String
  | .str s => some s
  | .platform p => some p.name
  | _ => none

/-- Whether two scalars are equal as keys and as members of a set. -/
def sameScalar (a b : Value) : Bool :=
  match a.integer?, b.integer? with
  | some n, some m => n == m
  | some n, none => match b with
    | .float y => y.eqvInt n
    | _ => false
  | none, some m => match a with
    | .float x => x.eqvInt m
    | _ => false
  | none, none =>
    match a.text?, b.text? with
    | some s, some t => s == t
    | none, none => match a, b with
      | .null, .null => true
      | .float x, .float y => x.eqv y
      | .bytes x, .bytes y => x == y
      | .date x, .date y => x == y
      | .moment x, .moment y => x.same y
      | .path x, .path y => x == y
      | _, _ => false
    | _, _ => false

mutual

/-- Whether two values are equal: as scalars, or element by element; the order of the entries of a
mapping and of the members of a set does not count. -/
def same : Value → Value → Bool
  | .list xs, .list ys => sameAll xs ys
  | .tuple xs, .tuple ys => sameAll xs ys
  | .set xs, .set ys => xs.length == ys.length && xs.all fun x => ys.any fun y => sameScalar x y
  | .map xs, .map ys => xs.length == ys.length && sameEntries xs ys
  | a, b => sameScalar a b

def sameAll : List Value → List Value → Bool
  | [], [] => true
  | x :: xs, y :: ys => same x y && sameAll xs ys
  | _, _ => false

/-- Whether each entry of one mapping has an equal value under its key in another. -/
def sameEntries : List (Value × Value) → List (Value × Value) → Bool
  | [], _ => true
  | (k, v) :: rest, ys =>
    (match ys.find? fun (key, _) => sameScalar k key with
      | some (_, w) => same v w
      | none => false) && sameEntries rest ys

end

def isMap : Value → Bool
  | .map _ => true
  | _ => false

end Value

abbrev Entries := List (Value × Value)

namespace Entries

def get? (key : Value) : Entries → Option Value
  | [] => none
  | (k, v) :: rest => if k.same key then some v else get? key rest

/-- The entries with a value put under a key: in place of the old one, or at the end. The first
spelling of a key is kept. -/
def put (key value : Value) : Entries → Entries
  | [] => [(key, value)]
  | (k, v) :: rest => if k.same key then (k, value) :: rest else (k, v) :: put key value rest

/-- The entries without a key. -/
def drop (key : Value) (entries : Entries) : Entries := entries.filter fun (k, _) => !k.same key

/-- The entries that a list of keys and values gives, a later value replacing an earlier one. -/
def ofList (pairs : List (Value × Value)) : Entries :=
  pairs.foldl (fun entries (k, v) => entries.put k v) []

def field? (name : String) (entries : Entries) : Option Value := entries.get? (.str name)

end Entries

end ReleasePackaging
