import ReleasePackaging.Value.Basic

/-!
# Layers of settings

Settings come in layers. A layer is put over another one key by key: where both have a mapping the
mappings are layered in turn, and everywhere else the upper value replaces the lower one. Keys keep
the places they have in the lower layer; new keys follow in the order of the upper one.
-/
namespace ReleasePackaging.Config

mutual

/-- A value of an upper layer over what the lower layer has under the same key. -/
def layered (lower : Option Value) : Value → Value
  | .map upper =>
    match lower with
    | some (.map entries) => .map (merge entries upper)
    | _ => .map upper
  | v => v

def merge (lower : Entries) : List (Value × Value) → Entries
  | [] => lower
  | (k, v) :: rest => merge (lower.put k (layered (lower.get? k) v)) rest

end

end ReleasePackaging.Config
