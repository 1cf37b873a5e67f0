import Mathlib.Data.List.TakeWhile
import ReleasePackaging.Proofs.Text.Lines
import ReleasePackaging.Yaml.Reader

/-!
# Documents given as texts

A text that may stand in a document is its own source, so that it is read as the value of the nodes that
are found in it.
-/
namespace ReleasePackaging.Yaml

/-- The source of a text that may stand in a document is that text. -/
theorem ofBytes_toUTF8 {text : String} (hreturn : '\r' ∉ text.toList)
    (hallowed : text.toList.all isAllowed = true) :
    Source.ofBytes text.toUTF8 = ⟨text.toList, none⟩ := by
  have hread : String.fromUTF8? text.toUTF8 = some text := dif_pos text.isValidUTF8
  have hnone : Source.firstForbidden? text.toList = none := by
    rw [Source.firstForbidden?, List.dropWhile_eq_nil_iff.mpr (List.all_eq_true.mp hallowed)]
  rw [Source.ofBytes, Text.decodeStream, hread]
  simp only [Option.isSome_none, Bool.false_and, Bool.false_eq_true, if_false]
  rw [Text.unifyLineEnds_eq_self hreturn, Source.ofText, hnone]
  rfl

/-- A text is read as the value of the nodes of its document. -/
theorem read_of_nodes {text : String} {nodes : Nodes} {v : Value}
    (hreturn : '\r' ∉ text.toList) (hallowed : text.toList.all isAllowed = true)
    (hnodes : (readDocument ⟨text.toList, none⟩).toOption = some (nodes, some 0))
    (hvalue : nodes.value 0 = .ok v) : read (.ofBytes text.toUTF8) = .ok v := by
  have hdocument : readDocument ⟨text.toList, none⟩ = .ok (nodes, some 0) := by
    cases hread : readDocument ⟨text.toList, none⟩ with
    | error fault =>
      rw [hread] at hnodes
      cases hnodes
    | ok document =>
      rw [hread] at hnodes
      exact congrArg Except.ok (Option.some.inj hnodes)
  rw [ofBytes_toUTF8 hreturn hallowed, read, hdocument]
  exact hvalue

/-- A mapping that holds itself has a value. -/
example : (Nodes.value #[⟨"tag:yaml.org,2002:map", .mapping [(1, 0)], ⟨0, 0, 0⟩⟩,
    ⟨"tag:yaml.org,2002:str", .scalar "self", ⟨4, 0, 4⟩⟩] 0).isOk = true := rfl

end ReleasePackaging.Yaml
