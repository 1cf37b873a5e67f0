import ReleasePackaging.Manifest
import ReleasePackaging.Proofs.Action.Result
import ReleasePackaging.Proofs.FileTree.Walk
import ReleasePackaging.Proofs.Text.Decode
import ReleasePackaging.Proofs.Text.LowerCase

/-!
# What a manifest gives

A manifest gives a version exactly if it is a document of its format that holds a version fit for the
names of archives. Where it gives none, that is a failure of the configuration at the setting of the
manifest, with two exceptions: a path that cannot even be asked about, and a document that is well
formed but has something else in the place of the mapping that should hold the version.
-/
namespace ReleasePackaging.Manifest

open Text (unifyLineEnds)

/-! ## Documents -/

/-- The document in a manifest, of one format or the other. -/
inductive Document where
  | toml (table : Toml.Table)
  | json (v : Value)

/-- Whether the name of a manifest has the suffix of TOML, in any letter case. -/
def NamesToml (path : Path) : Prop := path.suffix.toLower = ".toml"

/-- Whether the content of the manifest at a path is the text of a document, in the format that the
name of the manifest tells. Line ends of JSON are read as line feeds. -/
inductive IsDocument (path : Path) (content : ByteArray) : Document → Prop where
  | toml {text : String} {table : Toml.Table} (hname : NamesToml path)
      (htext : content = text.toUTF8) (hread : Toml.read text.toList = .ok table) :
      IsDocument path content (.toml table)
  | json {text : String} {v : Value} (hname : ¬ NamesToml path)
      (htext : content = text.toUTF8) (hread : Json.read (unifyLineEnds text.toList) = .ok v) :
      IsDocument path content (.json v)

/-- Whether the content of the manifest at a path is no document, and what makes it none. -/
inductive IsMalformed (path : Path) (content : ByteArray) : String → Prop where
  | undecodable {f : Text.DecodeFault} (hdecode : Text.decode content = .error f) :
      IsMalformed path content f.message
  | toml {text : String} {f : Toml.Fault} (hname : NamesToml path)
      (htext : content = text.toUTF8) (hread : Toml.read text.toList = .error f) :
      IsMalformed path content f.message
  | json {text : String} {f : Json.Fault} (hname : ¬ NamesToml path)
      (htext : content = text.toUTF8) (hread : Json.read (unifyLineEnds text.toList) = .error f) :
      IsMalformed path content f.message

namespace Document

def Holds (version : String) : Document → Prop
  | .toml table => ∃ package : Toml.Table, table.lookup "package" = some (.table package) ∧
      package.lookup "version" = some (.text version)
  | .json v => ∃ entries : Entries, v = .map entries ∧
      entries.field? "version" = some (.str version)

/-- Whether a document has something of a certain kind in the place of the mapping that should hold
its version. -/
def IsMisshapen (kind : String) : Document → Prop
  | .toml table => ∃ item, table.lookup "package" = some item ∧
      (∀ package, item ≠ .table package) ∧ item.kind = kind
  | .json v => v.isMap = false ∧ v.fullKind = kind

/-- The version that a document gives, if it gives a text. -/
def version : Document → Except Fault (Option String)
  | .toml table => tomlVersion table
  | .json v => jsonVersion v

/-- A document gives a text exactly if it holds that as its version. -/
theorem version_eq_some_iff {d : Document} {version : String} :
    d.version = .ok (some version) ↔ d.Holds version := by
  cases d with
  | toml table =>
    simp only [Document.version, tomlVersion, Holds]
    split
    · next hnone => simp [hnone]
    · next package hpackage =>
      simp only [hpackage, Option.some.injEq, Toml.Item.table.injEq, exists_eq_left']
      split
      · next found hfound => simp [hfound]
      · next hother => simpa using hother version
    · next item hother hitem =>
      simp only [hitem, Option.some.injEq, reduceCtorEq, false_iff]
      rintro ⟨package, rfl, _⟩
      exact hother package rfl
  | json v =>
    cases v with
    | map entries =>
      simp only [Document.version, jsonVersion, Holds, Value.map.injEq, exists_eq_left']
      split
      · next found hfound => simp [hfound]
      · next hother => simpa using hother version
    | _ => simp [Document.version, jsonVersion, Holds]

/-- A document is at fault exactly if it is misshapen. -/
theorem version_eq_error_iff {d : Document} {fault : Fault} :
    d.version = .error fault ↔ ∃ kind, d.IsMisshapen kind ∧ shapeFault kind = fault := by
  cases d with
  | toml table =>
    simp only [Document.version, tomlVersion, IsMisshapen]
    split
    · next hnone => simp [hnone]
    · next package hpackage =>
      split <;> simp [hpackage]
    · next item hother hitem =>
      have hshape : ∀ package, item ≠ .table package := fun package heq => hother package heq
      simp [hitem, hshape]
  | json v =>
    cases v with
    | map entries =>
      simp only [Document.version, jsonVersion, IsMisshapen]
      split <;> simp [Value.isMap]
    | _ => simp [Document.version, jsonVersion, IsMisshapen, Value.isMap]

end Document

variable {t : FileTree} {path : Path} {content : ByteArray} {d : Document} {cause v : String}
  {fault : Fault}

theorem isToml_iff : isToml path = true ↔ NamesToml path := by
  rw [isToml, beq_iff_eq]
  exact Text.lower_eq_iff (by simp [Text.IsOwnSmall])

theorem versionIn_of_document (h : IsDocument path content d) :
    versionIn path content = d.version := by
  cases h with
  | toml hname htext hread =>
    rw [versionIn, if_pos (isToml_iff.mpr hname), Text.decode_eq_ok_iff.mpr htext]
    simp only [hread]
    rfl
  | json hname htext hread =>
    rw [versionIn, if_neg (mt isToml_iff.mp hname), htext, Text.fileText_toUTF8]
    simp only [hread]
    rfl

theorem versionIn_of_malformed (h : IsMalformed path content cause) :
    versionIn path content = .error ((Problem.unreadable cause).fault path) := by
  cases h with
  | undecodable hdecode =>
    rw [versionIn, Text.fileText, hdecode]
    exact ite_self _
  | toml hname htext hread =>
    rw [versionIn, if_pos (isToml_iff.mpr hname), Text.decode_eq_ok_iff.mpr htext]
    simp only [hread]
  | json hname htext hread =>
    rw [versionIn, if_neg (mt isToml_iff.mp hname), htext, Text.fileText_toUTF8]
    simp only [hread]

/-- Every content is a document or malformed. -/
theorem document_or_malformed (path : Path) (content : ByteArray) :
    (∃ d, IsDocument path content d) ∨ ∃ cause, IsMalformed path content cause := by
  cases hdecode : Text.decode content with
  | error f => exact .inr ⟨_, .undecodable hdecode⟩
  | ok text =>
    have htext := Text.decode_eq_ok_iff.mp hdecode
    by_cases hname : NamesToml path
    · cases hread : Toml.read text.toList with
      | ok table => exact .inl ⟨_, .toml hname htext hread⟩
      | error f => exact .inr ⟨_, .toml hname htext hread⟩
    · cases hread : Json.read (unifyLineEnds text.toList) with
      | ok v => exact .inl ⟨_, .json hname htext hread⟩
      | error f => exact .inr ⟨_, .json hname htext hread⟩

/-! ## Manifests -/

/-- Whether a regular file with a certain content stands at a path, links followed. -/
def HasContent (t : FileTree) (path : Path) (content : ByteArray) : Prop :=
  ∃ loc number, t.status true path.toString = .ok (loc, .file number content)

def IsManifest (t : FileTree) (path : Path) (d : Document) : Prop :=
  ∃ content, HasContent t path content ∧ IsDocument path content d

/-- How it ends to ask the manifest at a path for a version that it does not give. -/
inductive Fails (t : FileTree) (path : Path) : Fault → Prop where
  | unasked {f : AccessFault} (hfile : t.isFile path = .error f) : Fails t path (.access f)
  | missing (hfile : t.isFile path = .ok false) : Fails t path (Problem.missing.fault path)
  | malformed {content : ByteArray} {cause : String} (hfile : HasContent t path content)
      (hcause : IsMalformed path content cause) :
      Fails t path ((Problem.unreadable cause).fault path)
  | misshapen {d : Document} {kind : String} (hdocument : IsManifest t path d)
      (hshape : d.IsMisshapen kind) : Fails t path (shapeFault kind)
  | noVersion {d : Document} (hdocument : IsManifest t path d)
      (hshape : ∀ kind, ¬ d.IsMisshapen kind) (hempty : ∀ v, d.Holds v → v = "") :
      Fails t path (Problem.noVersion.fault path)
  | delimiter {d : Document} {v : String} (hdocument : IsManifest t path d) (hholds : d.Holds v)
      (hdelimiter : '_' ∈ v.toList) : Fails t path ((Problem.delimiterInVersion v).fault path)

theorem HasContent.isFile (h : HasContent t path content) : t.isFile path = .ok true := by
  obtain ⟨loc, number, hstatus⟩ := h
  rw [FileTree.isFile, FileTree.ask, hstatus]

/-- Of a file with some content the version is what that content gives, if it is fit. -/
theorem version_of_content (h : HasContent t path content) :
    version t path = versionIn path content >>= accept path := by
  have hisFile := h.isFile
  obtain ⟨loc, number, hstatus⟩ := h
  rw [version, hisFile]
  simp only [Result.mapError_ok, bind, Except.bind, FileTree.read_of_status hstatus]
  rfl

theorem version_of_document (h : IsManifest t path d) :
    version t path = d.version >>= accept path := by
  obtain ⟨content, hcontent, hdocument⟩ := h
  rw [version_of_content hcontent, versionIn_of_document hdocument]

theorem accept_some (hsome : v ≠ "") : accept path (some v) =
    if '_' ∈ v.toList then .error ((Problem.delimiterInVersion v).fault path) else .ok v := by
  unfold accept
  split
  · next hnone => cases hnone
  · next hempty => exact absurd (Option.some.inj hempty) hsome
  · next version _ heq =>
    cases heq
    simp only [List.contains_iff_mem]
    rfl

/-- A version that is held by the document of a manifest and fit is given. -/
theorem version_of_holds (hdocument : IsManifest t path d) (hholds : d.Holds v)
    (hsome : v ≠ "") (hdelimiter : '_' ∉ v.toList) : version t path = .ok v := by
  rw [version_of_document hdocument, Document.version_eq_some_iff.mpr hholds]
  exact (accept_some hsome).trans (if_neg hdelimiter)

theorem Fails.version_eq (h : Fails t path fault) : version t path = .error fault := by
  cases h with
  | unasked hfile => rw [version, hfile]; rfl
  | missing hfile => rw [version, hfile]; rfl
  | malformed hfile hcause =>
    rw [version_of_content hfile, versionIn_of_malformed hcause]
    rfl
  | misshapen hdocument hshape =>
    rw [version_of_document hdocument, Document.version_eq_error_iff.mpr ⟨_, hshape, rfl⟩]
    rfl
  | @noVersion d hdocument hshape hempty =>
    rw [version_of_document hdocument]
    cases hversion : d.version with
    | error fault =>
      obtain ⟨kind, hkind, _⟩ := Document.version_eq_error_iff.mp hversion
      exact absurd hkind (hshape kind)
    | ok found =>
      cases found with
      | none => rfl
      | some v =>
        cases hempty v (Document.version_eq_some_iff.mp hversion)
        rfl
  | @delimiter d v hdocument hholds hdelimiter =>
    have hsome : v ≠ "" := fun heq => by simp [heq] at hdelimiter
    rw [version_of_document hdocument, Document.version_eq_some_iff.mpr hholds]
    exact (accept_some hsome).trans (if_pos hdelimiter)

/-- Asking a document for a version gives a fit one that it holds, or fails. -/
theorem holds_or_fails_of_document (h : IsManifest t path d) :
    (∃ v, d.Holds v ∧ v ≠ "" ∧ '_' ∉ v.toList) ∨ ∃ fault, Fails t path fault := by
  by_cases hshape : ∃ kind, d.IsMisshapen kind
  · obtain ⟨kind, hshape⟩ := hshape
    exact .inr ⟨_, .misshapen h hshape⟩
  by_cases hholds : ∃ v, d.Holds v ∧ v ≠ ""
  · obtain ⟨v, hholds, hsome⟩ := hholds
    by_cases hdelimiter : '_' ∈ v.toList
    · exact .inr ⟨_, .delimiter h hholds hdelimiter⟩
    · exact .inl ⟨v, hholds, hsome, hdelimiter⟩
  · refine .inr ⟨_, .noVersion h (fun kind hkind => hshape ⟨kind, hkind⟩) fun v hv => ?_⟩
    exact Decidable.byContradiction fun hsome => hholds ⟨v, hv, hsome⟩

theorem holds_or_fails (t : FileTree) (path : Path) :
    (∃ v, (∃ d, IsManifest t path d ∧ d.Holds v) ∧ v ≠ "" ∧ '_' ∉ v.toList) ∨
      ∃ fault, Fails t path fault := by
  cases hfile : t.isFile path with
  | error f => exact .inr ⟨_, .unasked hfile⟩
  | ok present =>
    cases present with
    | false => exact .inr ⟨_, .missing hfile⟩
    | true =>
      obtain ⟨loc, number, content, hstatus⟩ := FileTree.exists_status_of_isFile hfile
      have hcontent : HasContent t path content := ⟨loc, number, hstatus⟩
      rcases document_or_malformed path content with ⟨d, hdocument⟩ | ⟨cause, hcause⟩
      · have hmanifest : IsManifest t path d := ⟨content, hcontent, hdocument⟩
        rcases holds_or_fails_of_document hmanifest with ⟨v, hholds, hfit⟩ | hfails
        · exact .inl ⟨v, ⟨d, hmanifest, hholds⟩, hfit⟩
        · exact .inr hfails
      · exact .inr ⟨_, .malformed hcontent hcause⟩

/-- A version that is given is held by the document of the manifest and fit. -/
theorem holds_of_version (h : version t path = .ok v) :
    (∃ d, IsManifest t path d ∧ d.Holds v) ∧ v ≠ "" ∧ '_' ∉ v.toList := by
  rcases holds_or_fails t path with ⟨w, ⟨d, hdocument, hholds⟩, hsome, hdelimiter⟩ | ⟨fault, hfails⟩
  · have hw := version_of_holds hdocument hholds hsome hdelimiter
    cases h.symm.trans hw
    exact ⟨⟨d, hdocument, hholds⟩, hsome, hdelimiter⟩
  · cases h.symm.trans hfails.version_eq

/-- Whether reading a version ends with one or with a failure of the configuration at the setting of
the manifest. -/
def IsReported (outcome : Except Fault String) : Prop :=
  (∃ v, outcome = .ok v) ∨
    ∃ message, outcome = .error (.failure (.configuration (some "manifest_path") message))

theorem isReported_fault (problem : Problem) : IsReported (.error (problem.fault path)) :=
  .inr ⟨problem.message path, rfl⟩

/-- Reading a version is reported exactly if the path can be asked about and the document, if there is
one, is not misshapen. -/
theorem isReported_version_iff (t : FileTree) (path : Path) :
    IsReported (version t path) ↔ (∃ present, t.isFile path = .ok present) ∧
      ∀ d kind, IsManifest t path d → ¬ d.IsMisshapen kind := by
  constructor
  · intro hreported
    have hbare {fault : Fault} (hfails : Fails t path fault)
        (hother : ∀ message, fault ≠ .failure (.configuration (some "manifest_path") message)) :
        False := by
      rw [hfails.version_eq] at hreported
      rcases hreported with ⟨v, hv⟩ | ⟨message, hmessage⟩
      · cases hv
      · exact hother message (Except.error.inj hmessage)
    refine ⟨?_, fun d kind hdocument hshape => hbare (.misshapen hdocument hshape) nofun⟩
    cases hfile : t.isFile path with
    | ok present => exact ⟨present, rfl⟩
    | error f => exact (hbare (.unasked hfile) nofun).elim
  · rintro ⟨⟨present, hpresent⟩, hshape⟩
    rcases holds_or_fails t path with ⟨v, ⟨d, hdocument, hholds⟩, hsome, hdelimiter⟩ | ⟨fault, hfails⟩
    · exact .inl ⟨v, version_of_holds hdocument hholds hsome hdelimiter⟩
    · rw [hfails.version_eq]
      cases hfails with
      | unasked hfile => cases hfile.symm.trans hpresent
      | misshapen hdocument hmisshapen => exact absurd hmisshapen (hshape _ _ hdocument)
      | missing | malformed | noVersion | delimiter => exact isReported_fault _

/-- A manifest gives a version exactly if it is a document that holds it and it is fit for the names
of archives. Otherwise it is told how asking it fails, which is a failure of the configuration unless
the path cannot be asked about or the document is misshapen. -/
theorem version_end (t : FileTree) (path : Path) :
    (∀ v, version t path = .ok v ↔
      (∃ d, IsManifest t path d ∧ d.Holds v) ∧ v ≠ "" ∧ '_' ∉ v.toList) ∧
    (∀ fault, version t path = .error fault ↔ Fails t path fault) ∧
    (IsReported (version t path) ↔ (∃ present, t.isFile path = .ok present) ∧
      ∀ d kind, IsManifest t path d → ¬ d.IsMisshapen kind) := by
  -- Each end that is told determines the result, and one of them always applies.
  refine ⟨fun v => ⟨holds_of_version, ?_⟩, fun fault => ⟨fun hversion => ?_, Fails.version_eq⟩,
    isReported_version_iff t path⟩
  · rintro ⟨⟨d, hdocument, hholds⟩, hsome, hdelimiter⟩
    exact version_of_holds hdocument hholds hsome hdelimiter
  · rcases holds_or_fails t path with ⟨w, ⟨d, hdocument, hholds⟩, hsome, hdelimiter⟩ | ⟨other, hfails⟩
    · cases hversion.symm.trans (version_of_holds hdocument hholds hsome hdelimiter)
    · cases hversion.symm.trans hfails.version_eq
      exact hfails

/-- A tree with a manifest whose document is a list. -/
def listed : FileTree where
  nodes := [(["package.json"], .file 0 "[]".toUTF8)]
  workDir := []
  nextNumber := 1

/-- A list in the place of a mapping is no failure of the configuration. -/
theorem version_listed :
    version listed (Path.ofString "package.json") = .error (.misuse (.noAttribute "list" "get")) := by
  have htext : (Path.ofString "package.json").toString = "package.json" := by decide
  have hlocate : listed.locate true (Path.ofString "package.json").toString = .ok ["package.json"] := by
    rw [htext]
    exact FileTree.locate_entry rfl ⟨by decide, by decide, by decide⟩ (by decide) (by decide)
      fun _ heq => by cases heq
  have hcontent : HasContent listed (Path.ofString "package.json") "[]".toUTF8 :=
    ⟨_, _, FileTree.status_eq_ok_iff.mpr ⟨hlocate, rfl⟩⟩
  have hname : ¬ NamesToml (Path.ofString "package.json") := mt isToml_iff.mpr (by decide)
  have hread : Json.read (unifyLineEnds "[]".toList) = .ok (.list []) := rfl
  have hdocument : IsManifest listed (Path.ofString "package.json") (.json (.list [])) :=
    ⟨_, hcontent, .json hname rfl hread⟩
  exact (Fails.misshapen hdocument ⟨rfl, rfl⟩).version_eq

end ReleasePackaging.Manifest
