import ReleasePackaging.Number.Integer
import ReleasePackaging.Number.Shortest
import ReleasePackaging.Text.Utf8
import ReleasePackaging.Value.Basic

/-!
# Values for export

A value is exported as plain data: null, truth values, integers, finite numbers, texts, lists and
mappings with texts as keys. Dates, moments, paths and platforms become texts, byte strings the
text they encode, and numbers that are not finite become null. A byte string that encodes no text
cannot be exported, nor can a mapping with an integer of too many digits as a key.
-/
namespace ReleasePackaging.Value

inductive ExportFault where
  | decoding (f : Text.DecodeFault)
  | integer (f : Number.IntegerFault)
  deriving DecidableEq, Repr

/-- The text that a byte string encodes. -/
def exportBytes (bs : List UInt8) : Except ExportFault String :=
  match Text.decode ⟨bs.toArray⟩ with
  | .ok s => .ok s
  | .error fault => .error (.decoding { fault with size := 1, reason := .unspecified })

mutual

/-- The text of a key of a mapping. The parts of a key of several values are joined by commas. -/
def exportKey : Value → Except ExportFault String
  | .null => .ok "None"
  | .bool b => .ok (if b then "true" else "false")
  | .int n => if Number.isOverlong n then .error (.integer .unwritable) else .ok s!"{n}"
  | .float x => .ok x.text
  | .str s => .ok s
  | .bytes bs => exportBytes bs
  | .date d => .ok d.text
  | .moment t => .ok t.zuluText
  | .path p => .ok p.toString
  | .platform p => .ok p.name
  | .tuple xs | .list xs | .set xs => return ",".intercalate (← exportKeys xs)
  | .map _ => .ok ""

def exportKeys : List Value → Except ExportFault (List String)
  | [] => .ok []
  | x :: xs => return (← exportKey x) :: (← exportKeys xs)

end

mutual

def exported : Value → Except ExportFault Value
  | .null => .ok .null
  | .bool b => .ok (.bool b)
  | .int n => .ok (.int n)
  | .float x => .ok (if x.isFinite then .float x else .null)
  | .str s => .ok (.str s)
  | .bytes bs => return .str (← exportBytes bs)
  | .date d => .ok (.str d.text)
  | .moment t => .ok (.str t.zuluText)
  | .path p => .ok (.str p.toString)
  | .platform p => .ok (.str p.name)
  | .list xs | .tuple xs | .set xs => return .list (← exportedAll xs)
  | .map entries => return .map (← exportedEntries [] entries)

def exportedAll : List Value → Except ExportFault (List Value)
  | [] => .ok []
  | x :: xs => return (← x.exported) :: (← exportedAll xs)

/-- The entries of a mapping as plain data, after those already done; where two keys have one text
the later value stays. -/
def exportedEntries (done : Entries) : List (Value × Value) → Except ExportFault Entries
  | [] => .ok done
  | (k, v) :: rest => do
    let key ← exportKey k
    let value ← v.exported
    exportedEntries (done.put (.str key) value) rest

end

end ReleasePackaging.Value
