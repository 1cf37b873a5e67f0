import ReleasePackaging.Yaml.Assembly

/-!
# Reading YAML

The bytes of a file become the value of the only document in them.
-/
namespace ReleasePackaging.Yaml

/-- The fault of a source whose nodes cannot be read. -/
def nodeFault (source : Source) (f : Fault) : ReadFault :=
  match f.problem, source.fault with
  | .notCodePoint n, _ => .codePoint n
  | .unreadable, some g => .source g
  | _, _ => .document f

/-- Reads the only document of a source; an empty text is null. -/
def read (source : Source) : Except ReadFault Value := do
  let (nodes, root) ← (readDocument source).mapError (nodeFault source)
  match root with
  | none => .ok .null
  | some root => nodes.value root

end ReleasePackaging.Yaml
