import ReleasePackaging.Proofs.Config.TextKeys
import ReleasePackaging.Proofs.FileTree.Walk

/-!
# How loading a configuration fails

A defect of the configuration is reported as a failure of it. Loading also ends with the bare faults
of what it relies on, and only with these: a file whose bytes make no text or that holds a scalar
that is not read, settings of a file that stand under other keys than texts, and variables that are
false numerals.
-/
namespace ReleasePackaging.Config

variable {ε α β : Type} {t : FileTree} {path : Path} {content : ByteArray} {entries : Entries}

def IsConfiguration : Fault → Prop
  | .failure f => ∃ key message, f = .configuration key message
  | _ => False

/-- Whether a result is one, or a failure of the configuration. -/
def IsReported (x : Except Fault α) : Prop := ∀ fault, x = .error fault → IsConfiguration fault

theorem isReported_ok (a : α) : IsReported (.ok a) := by
  rintro _ ⟨⟩

theorem isReported_error_iff {fault : Fault} :
    IsReported (.error fault : Except Fault α) ↔ IsConfiguration fault := by
  constructor
  · exact fun h => h fault rfl
  · rintro h _ ⟨⟩
    exact h

theorem isReported_bind_iff {x : Except Fault α} {f : α → Except Fault β} :
    IsReported (x >>= f) ↔ IsReported x ∧ ∀ a, x = .ok a → IsReported (f a) := by
  cases x with
  | error fault => simp [isReported_error_iff]
  | ok a => simp [isReported_ok]

theorem isReported_map_iff {x : Except Fault α} {f : α → β} :
    IsReported (x.map f) ↔ IsReported x := by
  cases x <;> simp [Except.map, isReported_ok, isReported_error_iff]

theorem isReported_mapError_iff {x : Except ε α} {f : ε → Fault} :
    IsReported (x.mapError f) ↔ ∀ fault, x = .error fault → IsConfiguration (f fault) := by
  cases x <;> simp [isReported_ok, isReported_error_iff]

/-! ## Files -/

/-- Whether a fault of a YAML document is reported: only where the text is no document. -/
def IsReportedYaml : Yaml.ReadFault → Prop
  | .source (.unprintable _ _) | .document _ => True
  | _ => False

theorem isConfiguration_fileProblem (problem : FileProblem) :
    IsConfiguration (problem.fault path) := ⟨_, _, rfl⟩

theorem isConfiguration_jsonFault_iff {fault : Json.Fault} :
    IsConfiguration (jsonFault path fault) ↔ ∀ f, fault ≠ .integer f := by
  cases fault with
  | grammar reason place => exact iff_of_true (isConfiguration_fileProblem _) nofun
  | integer f => exact iff_of_false id fun h => h f rfl

theorem isConfiguration_yamlFault_iff {fault : Yaml.ReadFault} :
    IsConfiguration (yamlFault path fault) ↔ IsReportedYaml fault := by
  cases fault with
  | source f =>
    cases f with
    | unprintable c place => exact iff_of_true (isConfiguration_fileProblem _) trivial
    | undecodable f => exact Iff.rfl
  | document f => exact iff_of_true (isConfiguration_fileProblem _) trivial
  | _ => exact Iff.rfl

/-- Whether the content of a file makes a text and, as a document, holds no scalar that is not
read. -/
def IsReadable (path : Path) (content : ByteArray) : Prop :=
  if isJson path then
    ∃ cs, Text.fileText content = .ok cs ∧ ∀ f, Json.read cs ≠ .error (.integer f)
  else ∀ fault, Yaml.read (.ofBytes content) = .error fault → IsReportedYaml fault

theorem isReported_documentIn_iff :
    IsReported (documentIn path content) ↔ IsReadable path content := by
  unfold documentIn IsReadable
  split
  · cases hcs : Text.fileText content with
    | error fault => exact iff_of_false (fun h => isReported_error_iff.mp h) nofun
    | ok cs =>
      simp only [Result.mapError_ok, Result.ok_bind, Except.ok.injEq, exists_eq_left',
        isReported_mapError_iff, isConfiguration_jsonFault_iff]
      exact ⟨fun h f hf => h _ hf f rfl, fun h fault hfault f heq => h f (heq ▸ hfault)⟩
  · simp only [isReported_mapError_iff, isConfiguration_yamlFault_iff]

/-- Whether the access to a file is granted and its content is readable. A file that does not exist
is not asked for more. -/
def FileIsReadable (t : FileTree) (path : Path) : Prop :=
  ∃ isFile, t.isFile path = .ok isFile ∧
    (isFile = true → ∀ content, t.read path.toString = .ok content → IsReadable path content)

theorem isReported_settingsAt_iff : IsReported (settingsAt t path) ↔ FileIsReadable t path := by
  unfold settingsAt FileIsReadable
  cases hfile : t.isFile path with
  | error fault => exact iff_of_false (fun h => isReported_error_iff.mp h) nofun
  | ok isFile =>
    simp only [Except.ok.injEq, exists_eq_left']
    cases isFile with
    | false =>
      refine iff_of_true (isReported_error_iff.mpr (isConfiguration_fileProblem .missing)) ?_
      rintro ⟨⟩
    | true =>
      obtain ⟨loc, number, content, hstatus⟩ := FileTree.exists_status_of_isFile hfile
      simp only [FileTree.read_of_status hstatus, Result.mapError_ok, Result.ok_bind,
        Bool.not_true, Bool.false_eq_true, if_false, Except.ok.injEq, forall_eq', true_implies,
        isReported_bind_iff, isReported_documentIn_iff]
      refine and_iff_left fun v _ => ?_
      split
      · exact isReported_ok _
      · exact isReported_ok _
      · exact isReported_error_iff.mpr (isConfiguration_fileProblem .notMapping)

/-! ## All sources -/

theorem isReported_ofEntries_iff : IsReported (ofEntries entries) ↔ allTextKeys entries = true := by
  unfold ofEntries
  split
  · next hkeys =>
    refine iff_of_true ?_ hkeys
    split
    · exact isReported_ok _
    · exact isReported_error_iff.mpr ⟨_, _, rfl⟩
  · next hkeys => exact iff_of_false (fun h => isReported_error_iff.mp h) hkeys

/-- Whether a variable of an environment reaches a setting and gives no value for it. -/
def HoldsFalseNumeral (environment : List (String × String)) : Prop :=
  ∃ given ∈ environment, ∃ keys, pathOf? variableStart given.1 = some keys ∧ IsRead keys ∧
    IsFalseNumeral given.2

end ReleasePackaging.Config
