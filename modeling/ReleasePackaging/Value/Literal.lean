import ReleasePackaging.Number.Integer
import ReleasePackaging.Number.Shortest
import ReleasePackaging.Text.Quoted
import ReleasePackaging.Value.Basic

/-!
# Values spelled out

Each value has a literal form, in which texts are quoted, and a plain form, in which a text stands
for itself. A collection shows the literal forms of its elements. A value that holds an integer of too
many digits cannot be spelled out.
-/
namespace ReleasePackaging.Value

def platformLiteral (p : Platform) : String :=
  s!"<HostPlatform.{String.ofList (p.name.toList.map Char.toUpper)}: {Text.quote p.name}>"

mutual

def literal : Value → String
  | .null => "None"
  | .bool true => "True"
  | .bool false => "False"
  | .int n => s!"{n}"
  | .float x => x.text
  | .str s => Text.quote s
  | .bytes bs => Text.quoteBytes bs
  | .date d => d.literal
  | .moment t => t.literal
  | .path p => s!"PosixPath({Text.quote p.toString})"
  | .platform p => platformLiteral p
  | .list xs => "[" ++ ", ".intercalate (literals xs) ++ "]"
  | .tuple [x] => "(" ++ x.literal ++ ",)"
  | .tuple xs => "(" ++ ", ".intercalate (literals xs) ++ ")"
  | .set [] => "set()"
  | .set xs => "\x7b" ++ ", ".intercalate (literals xs) ++ "\x7d"
  | .map entries => "\x7b" ++ ", ".intercalate (entryLiterals entries) ++ "\x7d"

def literals : List Value → List String
  | [] => []
  | x :: xs => x.literal :: literals xs

def entryLiterals : List (Value × Value) → List String
  | [] => []
  | (k, v) :: rest => (k.literal ++ ": " ++ v.literal) :: entryLiterals rest

end

def plain : Value → String
  | .str s => s
  | .date d => d.text
  | .moment t => t.textWith " "
  | .path p => p.toString
  | .platform p => s!"HostPlatform.{String.ofList (p.name.toList.map Char.toUpper)}"
  | v => v.literal

mutual

/-- Whether a value holds an integer that has too many digits to be written. -/
def isOverlong : Value → Bool
  | .int n => Number.isOverlong n
  | .list xs | .tuple xs | .set xs => anyOverlong xs
  | .map entries => anyOverlongEntry entries
  | _ => false

def anyOverlong : List Value → Bool
  | [] => false
  | x :: xs => x.isOverlong || anyOverlong xs

def anyOverlongEntry : List (Value × Value) → Bool
  | [] => false
  | (k, v) :: rest => k.isOverlong || v.isOverlong || anyOverlongEntry rest

end

/-- The literal form of a value if it can be spelled out. -/
def literalText (v : Value) : Except Number.IntegerFault String :=
  if v.isOverlong then .error .unwritable else .ok v.literal

/-- The plain form of a value if it can be spelled out. -/
def plainText (v : Value) : Except Number.IntegerFault String :=
  if v.isOverlong then .error .unwritable else .ok v.plain

/-- The literal form of a value in a report, which names the kind of what cannot be spelled out. -/
def shown (v : Value) : String := if v.isOverlong then s!"<unprintable {v.kind} object>" else v.literal

end ReleasePackaging.Value
