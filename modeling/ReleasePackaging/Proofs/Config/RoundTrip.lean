import ReleasePackaging.Config.File
import ReleasePackaging.Proofs.Action.Result
import ReleasePackaging.Proofs.Action.Run
import ReleasePackaging.Proofs.Config.Acceptance
import ReleasePackaging.Proofs.Config.Plain
import ReleasePackaging.Proofs.FileTree.Change
import ReleasePackaging.Proofs.Json.Document
import ReleasePackaging.Proofs.Path.Text

/-!
# Configurations written and read back

The settings of an accepted configuration pass every check again and give that configuration, taken
as they are or from a file to which they were saved. Only the logging section has to be plain data:
everything else is spelled by texts that are read as what they stand for.
-/
namespace ReleasePackaging.Config

variable {c : Config} {location : List String}

/-! ## Checks of plain settings -/

theorem checkOptionalText_optional (text : Option String) :
    checkOptionalText location ((text.map Value.str).getD .null) = .valid text := by
  cases text <;> rfl

theorem checkPath_toString (p : Path) : checkPath location (.str p.toString) = .valid p := by
  rw [checkPath, Path.ofString_toString]

theorem text?_texts (words : List String) :
    (words.map Value.str).map Value.text? = words.map some := by
  rw [List.map_map]
  rfl

/-- Texts are accepted as words as they are. -/
theorem checkWords_texts {items : List Value} {words : List String}
    (h : items.map Value.text? = words.map some) : checkWords location items = .valid words := by
  have hlength : items.length = words.length := by simpa using congrArg List.length h
  refine Checked.all_eq_valid_iff.mpr (List.ext_getElem (by simpa using hlength) fun n hn hn' => ?_)
  simp only [List.getElem_map, List.getElem_zipIdx]
  refine checkText_of_text? ?_
  have hword := congrArg (·[n]?) h
  simp only [List.getElem?_map] at hword
  simp only [List.length_map] at hn'
  rw [List.getElem?_eq_getElem (hlength ▸ hn'), List.getElem?_eq_getElem hn'] at hword
  exact Option.some.inj hword

/-- A command that has been cut into words is accepted as it is if it has any. -/
theorem checkCommand_texts {items : List Value} {words result : List String}
    (h : items.map Value.text? = words.map some) :
    checkCommand location (.list items) = .valid result ↔ words ≠ [] ∧ words = result := by
  have hnil : items = [] ↔ words = [] := by
    have hlength : items.length = words.length := by simpa using congrArg List.length h
    rw [← List.length_eq_zero_iff, hlength, List.length_eq_zero_iff]
  rw [checkCommand]
  by_cases hwords : words = []
  · simp [hnil.mpr hwords, hwords, Value.isTruthy, refuse]
  · simp [Value.isTruthy, mt hnil.mp hwords, hwords, checkWords_texts h]

theorem checkMapping_map {entries : Entries} (hkeys : entries.HasTextKeys) :
    checkMapping location (.map entries) = .valid entries := by
  refine Checked.map_eq_valid_iff.mpr ⟨entries, Checked.all_eq_valid_iff.mpr ?_,
    Entries.ofList_self hkeys⟩
  refine List.map_congr_left fun entry hentry => ?_
  obtain ⟨names, _, heq⟩ := hkeys
  have hkey : entry.1 ∈ names.map Value.str := heq ▸ List.mem_map_of_mem hentry
  obtain ⟨key, v⟩ := entry
  obtain ⟨name, _, rfl⟩ := List.mem_map.mp hkey
  rfl

/-- The settings of a sound configuration pass their checks and give that configuration. -/
theorem passes_plainEntries (hsound : IsSound c) : Passes c.plainEntries c := by
  have hgiven {α : Type} {name : String} {v : Value} {check : List String → Value → Checked α}
      {default a : α} (hmem : (.str name, v) ∈ c.plainEntries) (hcheck : check [name] v = .valid a) :
      checkSetting c.plainEntries name check default = .valid a := by
    rw [checkSetting, Entries.field?_of_mem (hasTextKeys_plainEntries c) hmem]
    exact hcheck
  exact {
    library := hgiven (v := .str c.library) (by simp [plainEntries])
      ((checkLibrary_eq_valid_iff rfl).mpr ⟨hsound.library, rfl⟩)
    product := hgiven (v := .str c.product) (by simp [plainEntries])
      ((checkProduct_eq_valid_iff rfl).mpr ⟨hsound.product, rfl⟩)
    version := hgiven (by simp [plainEntries])
      ((checkVersion_eq_valid_iff (checkOptionalText_optional c.version)).mpr ⟨hsound.version, rfl⟩)
    manifest := hgiven (by simp [plainEntries]) (checkPath_toString c.manifest)
    projectDir := hgiven (by simp [plainEntries]) (checkPath_toString c.projectDir)
    buildRoot := hgiven (by simp [plainEntries]) (checkPath_toString c.buildRoot)
    outputDir := hgiven (by simp [plainEntries]) (checkPath_toString c.outputDir)
    devMode := hgiven (v := .bool c.devMode) (by simp [plainEntries]) rfl
    host := hgiven (by simp [plainEntries]) (checkOptionalText_optional c.host)
    updateCommand := hgiven (by simp [plainEntries])
      ((checkCommand_texts (text?_texts c.updateCommand)).mpr ⟨hsound.updateCommand, rfl⟩)
    buildCommand := hgiven (by simp [plainEntries])
      ((checkCommand_texts (text?_texts c.buildCommand)).mpr ⟨hsound.buildCommand, rfl⟩)
    postBuildHook := hgiven (by simp [plainEntries]) (checkOptionalText_optional c.postBuildHook)
    logging := hgiven (by simp [plainEntries]) (checkMapping_map hsound.logging) }

theorem ofEntries_plainEntries (hsound : IsSound c) : ofEntries c.plainEntries = .ok c :=
  ofEntries_eq_ok_iff.mpr ⟨rfl, passes_plainEntries hsound⟩

/-! ## Files -/

variable {t t' : FileTree} {p : Path}

/-- A configuration of plain data is saved as the document of its settings. -/
theorem save_ok {loc : Location} {number : Nat} (hplain : (Value.map c.logging).IsPlain)
    (hopen : t.openFor false p.toString = .ok (loc, number, t')) :
    (c.save p.toString).run.run t =
      (.ok (), t'.setContent number (Json.valueText Json.fileLayout 0 (.map c.plainEntries)).toUTF8) := by
  have hopened : ((TreeAction.openFor false p.toString).adapt Fault.access).run.run t =
      (.ok number, t') := by
    rw [Action.run_adapt, TreeAction.openFor, Action.run_mk, hopen]
    rfl
  have hknown := Json.isKnown_of_isPlain _ (isPlain_plainEntries hplain)
  rw [save, Action.run_bind_ok hopened, toEntries_of_isPlain hplain]
  simp only [Json.write_of_isKnown Json.fileLayout hknown]
  rfl

/-- The settings of a file are those of the document in it. -/
theorem settingsAt_of_documentIn {loc : Location} {number : Nat} {entries : Entries}
    {content : ByteArray}
    (hfile : t.status true p.toString = .ok (loc, .file number content))
    (hdocument : documentIn p content = .ok (.map entries)) : settingsAt t p = .ok entries := by
  have hisFile : t.isFile p = .ok true := by rw [FileTree.isFile, FileTree.ask, hfile]
  rw [settingsAt, hisFile, FileTree.read_of_status hfile]
  simp only [Result.mapError_ok, bind, Except.bind, hdocument]
  rfl

/-- The document of some settings in a JSON file gives these settings. -/
theorem documentIn_write {entries : Entries} (hplain : (Value.map entries).IsPlain)
    (hjson : isJson p = true) :
    documentIn p (Json.valueText Json.fileLayout 0 (.map entries)).toUTF8 = .ok (.map entries) := by
  rw [documentIn, if_pos hjson, Json.fileText_write hplain]
  simp only [Result.mapError_ok, bind, Except.bind, Json.read_write hplain]

theorem settingsAt_eq_ok {loc : Location} {number : Nat} {entries : Entries}
    (hplain : (Value.map entries).IsPlain) (hjson : isJson p = true)
    (hfile : t.status true p.toString =
      .ok (loc, .file number (Json.valueText Json.fileLayout 0 (.map entries)).toUTF8)) :
    settingsAt t p = .ok entries :=
  settingsAt_of_documentIn hfile (documentIn_write hplain hjson)

/-- The empty directory takes a new file. -/
theorem exists_openFor_entry {name : String} (hentry : FileTree.IsEntry name)
    (hsteps : FileTree.stepsOf name = [name]) (hplain : name ≠ "" ∧ '\x00' ∉ name.toList) :
    ∃ opened, (FileTree.emptyAt []).openFor false name = .ok opened := by
  have hlocate : (FileTree.emptyAt []).locate true name = .ok [name] :=
    FileTree.locate_entry rfl hentry hsteps hplain fun _ heq => by cases heq
  unfold FileTree.openFor
  rw [hlocate]
  exact ⟨_, rfl⟩

theorem exists_openFor_emptyAt : ∃ opened,
    (FileTree.emptyAt []).openFor false (Path.ofString "release.JSON").toString = .ok opened := by
  have htext : (Path.ofString "release.JSON").toString = "release.JSON" := by decide
  rw [htext]
  exact exists_openFor_entry ⟨by decide, by decide, by decide⟩ (by decide) (by decide)

/-- A configuration that settings were accepted as is given by its own settings and, after it has been
saved to a JSON file, by that file. -/
theorem accepted_roundTrip {settings : Entries} (haccepted : ofEntries settings = .ok c)
    (hplain : (Value.map c.logging).IsPlain) :
    (∃ entries, c.toEntries = .ok entries ∧ ofEntries entries = .ok c) ∧
      ∀ (t : FileTree) (p : Path), isJson p = true →
        (∃ opened, t.openFor false p.toString = .ok opened) →
          ∃ t', (c.save p.toString).run.run t = (.ok (), t') ∧ ofFile t' p = .ok c := by
  have hagain := ofEntries_plainEntries (isSound_of_ofEntries haccepted)
  refine ⟨⟨c.plainEntries, toEntries_of_isPlain hplain, hagain⟩, ?_⟩
  rintro t p hjson ⟨⟨loc, number, t'⟩, hopen⟩
  have hfile := FileTree.status_setContent_of_openFor hopen
    (Json.valueText Json.fileLayout 0 (.map c.plainEntries)).toUTF8
  refine ⟨_, save_ok hplain hopen, ?_⟩
  rw [ofFile, settingsAt_eq_ok (isPlain_plainEntries hplain) hjson hfile]
  exact hagain

theorem accepted_roundTrip_standard :
    ofEntries [] = .ok standard ∧ isJson (Path.ofString "release.JSON") = true ∧
      ∃ t', (standard.save (Path.ofString "release.JSON").toString).run.run (.emptyAt []) =
          (.ok (), t') ∧ ofFile t' (Path.ofString "release.JSON") = .ok standard := by
  have haccepted : ofEntries [] = .ok standard := rfl
  have hjson : isJson (Path.ofString "release.JSON") = true := by decide
  exact ⟨haccepted, hjson,
    (accepted_roundTrip haccepted isPlain_standard).2 _ _ hjson exists_openFor_emptyAt⟩

end ReleasePackaging.Config
