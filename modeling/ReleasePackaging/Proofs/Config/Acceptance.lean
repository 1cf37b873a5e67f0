import ReleasePackaging.Config.Settings
import ReleasePackaging.Proofs.Value.Fields

/-!
# What accepted settings give

A configuration is accepted if each of its settings passes its own check. What the checks let through
is told for the configuration as a whole: its commands have words, the parts of archive names can
stand in them, and the keys of its logging section are distinct texts.
-/
namespace ReleasePackaging.Config

namespace Checked

variable {α β : Type} {f : Checked (α → β)} {x : Checked α} {b : β}

theorem map_eq_valid_iff {g : α → β} : (g <$> x) = .valid b ↔ ∃ a, x = .valid a ∧ g a = b := by
  change x.map g = .valid b ↔ _
  cases x <;> simp [map]

theorem seq_eq_valid_iff : (f <*> x) = .valid b ↔ ∃ g a, f = .valid g ∧ x = .valid a ∧ g a = b := by
  change apply f x = .valid b ↔ _
  cases f <;> cases x <;> simp [apply, map]

theorem andThen_eq_valid_iff {check : α → Checked β} :
    x.andThen check = .valid b ↔ ∃ a, x = .valid a ∧ check a = .valid b := by
  cases x <;> simp [andThen]

theorem all_eq_valid_iff {xs : List (Checked α)} {as : List α} :
    all xs = .valid as ↔ xs = as.map .valid := by
  induction xs generalizing as with
  | nil => cases as <;> simp [all]
  | cons x xs ih =>
    rw [all, seq_eq_valid_iff]
    constructor
    · rintro ⟨g, rest, hhead, hrest, rfl⟩
      obtain ⟨a, rfl, rfl⟩ := map_eq_valid_iff.mp hhead
      rw [ih.mp hrest, List.map_cons]
    · intro h
      cases as with
      | nil => cases h
      | cons a as =>
        obtain ⟨rfl, rfl⟩ := List.cons.inj h
        exact ⟨List.cons a, as, rfl, ih.mpr rfl, rfl⟩

end Checked

/-- Each setting passes its check and gives its part of a configuration. -/
structure Passes (entries : Entries) (c : Config) : Prop where
  library :
    checkSetting entries "library_identifier" checkLibrary standard.library = .valid c.library
  product : checkSetting entries "product_prefix" checkProduct standard.product = .valid c.product
  version : checkSetting entries "version" checkVersion standard.version = .valid c.version
  manifest : checkSetting entries "manifest_path" checkPath standard.manifest = .valid c.manifest
  projectDir :
    checkSetting entries "project_dir" checkPath standard.projectDir = .valid c.projectDir
  buildRoot : checkSetting entries "build_root" checkPath standard.buildRoot = .valid c.buildRoot
  outputDir : checkSetting entries "output_dir" checkPath standard.outputDir = .valid c.outputDir
  devMode : checkSetting entries "dev_mode" checkFlag standard.devMode = .valid c.devMode
  host : checkSetting entries "host_os" checkOptionalText standard.host = .valid c.host
  updateCommand :
    checkSetting entries "update_command" checkCommand standard.updateCommand = .valid c.updateCommand
  buildCommand :
    checkSetting entries "build_command" checkCommand standard.buildCommand = .valid c.buildCommand
  postBuildHook :
    checkSetting entries "post_build_hook" checkOptionalText standard.postBuildHook =
      .valid c.postBuildHook
  logging : checkSetting entries "logging" checkMapping standard.logging = .valid c.logging

/-- A configuration is accepted exactly if every setting passes its check. -/
theorem ofSettings_eq_valid_iff {entries : Entries} {c : Config} :
    ofSettings entries = .valid c ↔ Passes entries c := by
  constructor
  · intro h
    simp only [ofSettings, Checked.seq_eq_valid_iff, Checked.map_eq_valid_iff] at h
    obtain ⟨_, _, ⟨_, _, ⟨_, _, ⟨_, _, ⟨_, _, ⟨_, _, ⟨_, _, ⟨_, _, ⟨_, _, ⟨_, _, ⟨_, _, ⟨_, _,
      ⟨_, hlibrary, rfl⟩, hproduct, rfl⟩, hversion, rfl⟩, hmanifest, rfl⟩, hproject, rfl⟩,
      hroot, rfl⟩, houtput, rfl⟩, hmode, rfl⟩, hhost, rfl⟩, hupdate, rfl⟩, hbuild, rfl⟩,
      hhook, rfl⟩, hlogging, rfl⟩ := h
    exact ⟨hlibrary, hproduct, hversion, hmanifest, hproject, hroot, houtput, hmode, hhost, hupdate,
      hbuild, hhook, hlogging⟩
  · intro h
    simp only [ofSettings, h.library, h.product, h.version, h.manifest, h.projectDir, h.buildRoot,
      h.outputDir, h.devMode, h.host, h.updateCommand, h.buildCommand, h.postBuildHook, h.logging]
    rfl

theorem ofEntries_eq_ok_iff {entries : Entries} {c : Config} :
    ofEntries entries = .ok c ↔ allTextKeys entries = true ∧ Passes entries c := by
  rw [← ofSettings_eq_valid_iff]
  unfold ofEntries
  split
  · next hkeys =>
    split
    · next c' hvalid => simp [hkeys, hvalid]
    · next defects hvalid => simp [hvalid]
  · next hkeys => simp [hkeys]

/-! ## What the checks let through -/

theorem length_of_checkWords {location : List String} {words : List Value} {texts : List String}
    (h : checkWords location words = .valid texts) : texts.length = words.length := by
  have hlength := congrArg List.length (Checked.all_eq_valid_iff.mp h)
  simpa using hlength.symm

/-- A command that passes its check has a word. -/
theorem checkCommand_ne_nil {location : List String} {v : Value} {command : List String}
    (h : checkCommand location v = .valid command) : command ≠ [] := by
  have hwords {words : List Value} (hlength : checkWords location words = .valid [])
      (hsome : words ≠ []) : False :=
    hsome (List.eq_nil_of_length_eq_zero (length_of_checkWords hlength).symm)
  unfold checkCommand at h
  extract_lets given at h
  clear_value given
  rintro rfl
  split at h
  · cases h
  · next htruthy =>
    cases given with
    | list words =>
      exact hwords h fun hnone => htruthy (by simp [hnone, Value.isTruthy])
    | tuple words => exact hwords h fun hnone => htruthy (by simp [hnone, Value.isTruthy])
    | set words => exact hwords h fun hnone => htruthy (by simp [hnone, Value.isTruthy])
    | _ => cases h

theorem checkRule_eq_valid_iff {location : List String} {input : Value} {holds : String → Bool}
    {message : String → String} {text result : String} :
    checkRule location input holds message text = .valid result ↔
      holds text = true ∧ text = result := by
  unfold checkRule
  split
  · next hholds => simp [hholds]
  · next hfails => simp [hfails, refuse]

theorem isSegment_iff {text : String} :
    isSegment text = true ↔ text ≠ "" ∧ ArchiveName.delimiter ∉ text.toList := by
  simp [isSegment]

theorem checkText_of_text? {location : List String} {v : Value} {text : String}
    (h : v.text? = some text) : checkText location v = .valid text := by
  cases v <;> cases h <;> rfl

/-- A text is accepted as the name of a library if it obeys the rule for one. -/
theorem checkLibrary_eq_valid_iff {location : List String} {v : Value} {text result : String}
    (h : checkText location v = .valid text) :
    checkLibrary location v = .valid result ↔
      (text != "" && !holdsPlaceholder text.toList) = true ∧ text = result := by
  rw [checkLibrary, h, Checked.andThen]
  exact checkRule_eq_valid_iff

theorem checkProduct_eq_valid_iff {location : List String} {v : Value} {text result : String}
    (h : checkText location v = .valid text) :
    checkProduct location v = .valid result ↔ isSegment text = true ∧ text = result := by
  rw [checkProduct, h, Checked.andThen]
  exact checkRule_eq_valid_iff

/-- A version is accepted if there is none or it is a segment. -/
theorem checkVersion_eq_valid_iff {location : List String} {v : Value}
    {version result : Option String} (h : checkOptionalText location v = .valid version) :
    checkVersion location v = .valid result ↔
      (∀ text ∈ version, isSegment text = true) ∧ version = result := by
  rw [checkVersion, h, Checked.andThen]
  cases version with
  | none => simp
  | some text =>
    simp only [Checked.map_eq_valid_iff, checkRule_eq_valid_iff, and_assoc, exists_and_left,
      exists_eq_left', Option.mem_def, Option.some.injEq, forall_eq']

theorem checkLibrary_rule {location : List String} {v : Value} {text : String}
    (h : checkLibrary location v = .valid text) :
    (text != "" && !holdsPlaceholder text.toList) = true := by
  obtain ⟨given, hgiven, _⟩ := Checked.andThen_eq_valid_iff.mp h
  obtain ⟨hholds, rfl⟩ := (checkLibrary_eq_valid_iff hgiven).mp h
  exact hholds

theorem checkProduct_rule {location : List String} {v : Value} {text : String}
    (h : checkProduct location v = .valid text) : isSegment text = true := by
  obtain ⟨given, hgiven, _⟩ := Checked.andThen_eq_valid_iff.mp h
  obtain ⟨hholds, rfl⟩ := (checkProduct_eq_valid_iff hgiven).mp h
  exact hholds

theorem checkVersion_rule {location : List String} {v : Value} {version : Option String}
    (h : checkVersion location v = .valid version) :
    ∀ text, version = some text → isSegment text = true := by
  obtain ⟨given, hgiven, _⟩ := Checked.andThen_eq_valid_iff.mp h
  obtain ⟨hholds, rfl⟩ := (checkVersion_eq_valid_iff hgiven).mp h
  exact hholds

/-- The keys of a mapping that passes its check are texts, all of them different. -/
theorem checkMapping_hasTextKeys {location : List String} {v : Value} {entries : Entries}
    (h : checkMapping location v = .valid entries) : entries.HasTextKeys := by
  cases v with
  | map given =>
    obtain ⟨pairs, hpairs, rfl⟩ := Checked.map_eq_valid_iff.mp h
    refine Entries.hasTextKeys_ofList fun pair hpair => ?_
    have hchecked : Checked.valid pair ∈ pairs.map Checked.valid := List.mem_map_of_mem hpair
    rw [← Checked.all_eq_valid_iff.mp hpairs] at hchecked
    obtain ⟨entry, _, hentry⟩ := List.mem_map.mp hchecked
    obtain ⟨text, _, rfl⟩ := Checked.map_eq_valid_iff.mp hentry
    exact ⟨text, rfl⟩
  | _ => cases h

/-- What holds of every configuration that is accepted. -/
structure IsSound (c : Config) : Prop where
  library : (c.library != "" && !holdsPlaceholder c.library.toList) = true
  product : isSegment c.product = true
  version : ∀ text, c.version = some text → isSegment text = true
  updateCommand : c.updateCommand ≠ []
  buildCommand : c.buildCommand ≠ []
  logging : c.logging.HasTextKeys

/-- What holds of each result of a check and of the default holds of the setting. -/
theorem checkSetting_property {α : Type} {P : α → Prop} {entries : Entries} {name : String}
    {check : List String → Value → Checked α} {default a : α} (hdefault : P default)
    (hcheck : ∀ location v a, check location v = .valid a → P a)
    (h : checkSetting entries name check default = .valid a) : P a := by
  unfold checkSetting at h
  split at h
  · exact hcheck _ _ _ h
  · cases h
    exact hdefault

theorem isSound_standard : IsSound standard := by
  refine ⟨by decide, by decide, nofun, by decide, by decide, ?_⟩
  exact ⟨["level", "format", "console", "file"], by decide, rfl⟩

theorem Passes.isSound {entries : Entries} {c : Config} (h : Passes entries c) : IsSound c where
  library := checkSetting_property (P := fun s => (s != "" && !holdsPlaceholder s.toList) = true)
    isSound_standard.library (fun _ _ _ => checkLibrary_rule) h.library
  product := checkSetting_property (P := fun s => isSegment s = true)
    isSound_standard.product (fun _ _ _ => checkProduct_rule) h.product
  version := checkSetting_property (P := fun v => ∀ text, v = some text → isSegment text = true)
    isSound_standard.version (fun _ _ _ => checkVersion_rule) h.version
  updateCommand := checkSetting_property (P := fun command => command ≠ [])
    isSound_standard.updateCommand (fun _ _ _ => checkCommand_ne_nil) h.updateCommand
  buildCommand := checkSetting_property (P := fun command => command ≠ [])
    isSound_standard.buildCommand (fun _ _ _ => checkCommand_ne_nil) h.buildCommand
  logging := checkSetting_property (P := Entries.HasTextKeys)
    isSound_standard.logging (fun _ _ _ => checkMapping_hasTextKeys) h.logging

/-- A configuration that is accepted is sound. -/
theorem isSound_of_ofEntries {entries : Entries} {c : Config} (h : ofEntries entries = .ok c) :
    IsSound c :=
  (ofEntries_eq_ok_iff.mp h).2.isSound

end ReleasePackaging.Config
