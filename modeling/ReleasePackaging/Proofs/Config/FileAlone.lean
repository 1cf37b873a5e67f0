import ReleasePackaging.Proofs.Config.LoggingSection
import ReleasePackaging.Proofs.Config.Precedence
import ReleasePackaging.Proofs.Yaml.Source

/-!
# A file on its own

The settings of a file give a configuration directly, with a default for each setting that is
missing, or as the only layer over the defaults. Both accept the same files and differ in the
logging section at most, and that only in what has no effect.
-/
namespace ReleasePackaging.Config

open Logging.Manager (SameEffect SetsUpAlike)

variable {t : FileTree} {path : Path} {settings other lower upper : Entries} {c c' : Config}
  {name : String}

/-- Without anything given, a run is configured by a file over the defaults and the environment over
both. -/
theorem load_file_environment {environment : List (String × String)}
    (hfile : settingsAt t path = .ok settings)
    (hother : fromEnvironment variableStart environment = .ok other) :
    load t (some path) environment [] = ofEntries (merge (merge standardEntries settings) other) := by
  have hread : (some path).mapM (settingsAt t) = .ok (some settings) :=
    congrArg (Functor.map some) hfile
  rw [load, hread, hother]
  rfl

/-- Without an environment and anything given, a file is the only layer over the defaults. -/
theorem load_file (hfile : settingsAt t path = .ok settings) :
    load t (some path) [] [] = ofEntries (merge standardEntries settings) := by
  have hnone : fromEnvironment variableStart [] = .ok [] := rfl
  exact load_file_environment hfile hnone

/-! ## Settings over the defaults -/

theorem passes_standardEntries : Passes standardEntries standard :=
  standardEntries_eq ▸ passes_plainEntries isSound_standard

theorem field?_standardEntries_logging :
    standardEntries.field? "logging" = some (.map defaultLogging) := by
  rw [standardEntries_eq]
  rfl

/-- No setting but the logging section has a mapping as its default. -/
theorem isMap_of_field?_standardEntries {default : Value} (hname : name ≠ "logging")
    (h : standardEntries.field? name = some default) : default.isMap = false := by
  have hall : ∀ entry ∈ standard.plainEntries, entry.1 ≠ .str "logging" →
      entry.2.isMap = false := by decide
  obtain ⟨key, hsame, hmem⟩ := Entries.mem_of_get?_eq_some h
  refine hall _ (standardEntries_eq ▸ hmem) fun hkey => hname ?_
  cases hkey
  exact (Option.some.inj (same_str_iff.mp hsame)).symm

/-- A setting put over its default passes its check as it does with the default to fall back on. -/
theorem checkSetting_merge {α : Type} {check : List String → Value → Checked α} {default : α}
    (hsettings : (Value.map settings).IsKeyed) (hname : name ≠ "logging")
    (hdefault : checkSetting standardEntries name check default = .valid default) :
    checkSetting (merge standardEntries settings) name check default =
      checkSetting settings name check default := by
  obtain ⟨hkeys, hdistinct, _⟩ := Value.isKeyed_map.mp hsettings
  have hlower := (Value.isKeyed_map.mp isKeyed_standardEntries).1
  unfold checkSetting Entries.field? at hdefault ⊢
  rw [get?_merge hlower hkeys hdistinct]
  cases settings.get? (.str name) with
  | none => exact hdefault
  | some v =>
    cases hold : standardEntries.get? (.str name) with
    | none => simp only [layered_none]
    | some old =>
      simp only [layered_over_not_map (isMap_of_field?_standardEntries hname hold)]

/-- Settings that check alike, the logging section apart, give configurations that differ at most in
that. -/
theorem Passes.congr {entries : Entries} (h : Passes settings c)
    (hsame : ∀ {α : Type} {name : String} {check : List String → Value → Checked α} {default : α},
      name ≠ "logging" → checkSetting standardEntries name check default = .valid default →
        checkSetting other name check default = checkSetting settings name check default)
    (hlogging : checkSetting other "logging" checkMapping standard.logging = .valid entries) :
    Passes other { c with logging := entries } := by
  have hdefault := passes_standardEntries
  exact {
    library := (hsame (by decide) hdefault.library).trans h.library
    product := (hsame (by decide) hdefault.product).trans h.product
    version := (hsame (by decide) hdefault.version).trans h.version
    manifest := (hsame (by decide) hdefault.manifest).trans h.manifest
    projectDir := (hsame (by decide) hdefault.projectDir).trans h.projectDir
    buildRoot := (hsame (by decide) hdefault.buildRoot).trans h.buildRoot
    outputDir := (hsame (by decide) hdefault.outputDir).trans h.outputDir
    devMode := (hsame (by decide) hdefault.devMode).trans h.devMode
    host := (hsame (by decide) hdefault.host).trans h.host
    updateCommand := (hsame (by decide) hdefault.updateCommand).trans h.updateCommand
    buildCommand := (hsame (by decide) hdefault.buildCommand).trans h.buildCommand
    postBuildHook := (hsame (by decide) hdefault.postBuildHook).trans h.postBuildHook
    logging := hlogging }

/-! ## The logging section -/

theorem allRead_merge : AllRead (merge lower upper) ↔ AllRead lower ∧ AllRead upper := by
  rw [AllRead, all_keys_merge (P := fun key => (reading? key).isSome)
    fun _ _ h => congrArg Option.isSome (reading?_of_same h), Bool.and_eq_true, AllRead, AllRead]

theorem allRead_defaultLogging : AllRead defaultLogging := rfl

/-- What the logging section is as a setting put over the defaults. -/
theorem field?_merge_logging (hsettings : (Value.map settings).IsKeyed) :
    Entries.field? "logging" (merge standardEntries settings) =
      match settings.field? "logging" with
      | some v => some (layered (some (.map defaultLogging)) v)
      | none => some (.map defaultLogging) := by
  obtain ⟨hkeys, hdistinct, _⟩ := Value.isKeyed_map.mp hsettings
  have hlower := (Value.isKeyed_map.mp isKeyed_standardEntries).1
  have hdefault := field?_standardEntries_logging
  have hmerged := get?_merge hlower hkeys hdistinct (.str "logging")
  unfold Entries.field? at hdefault ⊢
  rw [hdefault] at hmerged
  exact hmerged

/-- The logging section over the defaults passes its check exactly if it does so alone. -/
theorem exists_checkLogging_iff (hsettings : (Value.map settings).IsKeyed) :
    (∃ checked, checkSetting settings "logging" checkMapping standard.logging = .valid checked) ↔
      ∃ full, checkSetting (merge standardEntries settings) "logging" checkMapping
        standard.logging = .valid full := by
  unfold checkSetting
  rw [field?_merge_logging hsettings]
  cases settings.field? "logging" with
  | none => exact iff_of_true ⟨_, rfl⟩ ⟨_, checkMapping_map isSound_standard.logging⟩
  | some v =>
    cases hmap : v.isMap with
    | false => simp only [layered_of_not_map hmap]
    | true =>
      obtain ⟨entries, rfl⟩ := Value.exists_entries hmap
      change (∃ checked, checkMapping _ (.map entries) = .valid checked) ↔
        ∃ full, checkMapping _ (.map (merge defaultLogging entries)) = .valid full
      simp only [checkMapping_eq_valid_iff, allRead_merge, allRead_defaultLogging, true_and,
        exists_and_left, exists_eq', and_true]

/-- Whether in the logging section of some settings no key that is read as the name of a setting
comes before that name itself. -/
def NamesFirst (settings : Entries) : Prop :=
  ∀ entries, settings.field? "logging" = some (.map entries) →
    ∀ name ∈ loggingNames, IsFirst name entries

/-- The logging section over the defaults has the same effect as alone. -/
theorem sameEffect_checkLogging {checked full : Entries} (hsettings : (Value.map settings).IsKeyed)
    (hfirst : NamesFirst settings)
    (h : checkSetting settings "logging" checkMapping standard.logging = .valid checked)
    (hfull : checkSetting (merge standardEntries settings) "logging" checkMapping
      standard.logging = .valid full) : SameEffect checked full := by
  unfold checkSetting at h hfull
  rw [field?_merge_logging hsettings] at hfull
  cases hv : settings.field? "logging" with
  | none =>
    have hsame : checkMapping ["logging"] (.map defaultLogging) = .valid defaultLogging :=
      checkMapping_map isSound_standard.logging
    rw [hv] at h hfull
    cases h
    cases hsame.symm.trans hfull
    exact .refl _
  | some v =>
    rw [hv] at h hfull
    cases hmap : v.isMap with
    | false =>
      simp only [layered_of_not_map hmap] at hfull
      cases h.symm.trans hfull
      exact .refl _
    | true =>
      obtain ⟨entries, rfl⟩ := Value.exists_entries hmap
      exact (suppliesDefaults_of_checkMapping (hsettings.get? hv) (hfirst entries hv) h
        hfull).sameEffect

instance (name : String) (settings : Entries) : Decidable (IsFirst name settings) :=
  inferInstanceAs (Decidable (List.Pairwise _ _))

/-! ## Files -/

theorem ofEntries_merge (hsettings : (Value.map settings).IsKeyed)
    (hc : ofEntries settings = .ok c) {full : Entries}
    (hfull : checkSetting (merge standardEntries settings) "logging" checkMapping
      standard.logging = .valid full) :
    ofEntries (merge standardEntries settings) = .ok { c with logging := full } := by
  obtain ⟨hkeys, hpasses⟩ := ofEntries_eq_ok_iff.mp hc
  refine ofEntries_eq_ok_iff.mpr ⟨?_, hpasses.congr (checkSetting_merge hsettings) hfull⟩
  rw [allTextKeys_merge, allTextKeys_standardEntries, hkeys, Bool.and_self]

/-- Settings are accepted alone exactly if they are over the defaults. -/
theorem exists_ofEntries_iff (hsettings : (Value.map settings).IsKeyed) :
    (∃ c, ofEntries settings = .ok c) ↔
      ∃ c, ofEntries (merge standardEntries settings) = .ok c := by
  constructor
  · rintro ⟨c, hc⟩
    obtain ⟨full, hfull⟩ := (exists_checkLogging_iff hsettings).mp
      ⟨_, (ofEntries_eq_ok_iff.mp hc).2.logging⟩
    exact ⟨_, ofEntries_merge hsettings hc hfull⟩
  · rintro ⟨c, hc⟩
    obtain ⟨hkeys, hpasses⟩ := ofEntries_eq_ok_iff.mp hc
    obtain ⟨checked, hchecked⟩ := (exists_checkLogging_iff hsettings).mpr ⟨_, hpasses.logging⟩
    rw [allTextKeys_merge, Bool.and_eq_true] at hkeys
    exact ⟨_, ofEntries_eq_ok_iff.mpr ⟨hkeys.2, hpasses.congr
      (fun hname hdefault => (checkSetting_merge hsettings hname hdefault).symm) hchecked⟩⟩

/-- A file in the empty directory gives the settings of its document. -/
theorem exists_settingsAt {content : ByteArray}
    (hopen : ∃ opened, (FileTree.emptyAt []).openFor false path.toString = .ok opened)
    (hdocument : documentIn path content = .ok (.map settings)) :
    ∃ t, settingsAt t path = .ok settings := by
  obtain ⟨⟨loc, number, t⟩, hopened⟩ := hopen
  exact ⟨_, settingsAt_of_documentIn (FileTree.status_setContent_of_openFor hopened content)
    hdocument⟩

/-- Settings with a logging section that leaves some of its parts to the defaults. -/
def partialSettings : Entries :=
  [(.str "product_prefix", .str "demo"),
   (.str "logging", .map [(.str "level", .str "DEBUG"),
     (.str "file", .map [(.str "enabled", .bool true)])])]

/-- The settings of a file are accepted exactly if the file is when it is loaded without an
environment and anything given. Both give the same configuration apart from the logging section, and
with the names of its settings first that section has the same effect and sets up logging alike. So
does any section put over the defaults, whatever its keys. -/
theorem load_file_agrees (hfile : settingsAt t path = .ok settings) :
    ((∃ c, ofEntries settings = .ok c) ↔ ∃ c', load t (some path) [] [] = .ok c') ∧
      (∀ c c', ofEntries settings = .ok c → load t (some path) [] [] = .ok c' →
        { c with logging := c'.logging } = c' ∧
          (NamesFirst settings →
            SameEffect c.logging c'.logging ∧ SetsUpAlike c.logging c'.logging)) ∧
      ∀ entries, (Value.map entries).IsKeyed →
        SameEffect entries (merge defaultLogging entries) ∧
          SetsUpAlike entries (merge defaultLogging entries) := by
  have hsettings := isKeyed_of_settingsAt hfile
  rw [load_file hfile]
  refine ⟨exists_ofEntries_iff hsettings, fun c c' hc hc' => ?_, fun entries hentries => ?_⟩
  · have hlogging := (ofEntries_eq_ok_iff.mp hc).2.logging
    have hfull := (ofEntries_eq_ok_iff.mp hc').2.logging
    have hsame := ofEntries_merge hsettings hc hfull
    refine ⟨Except.ok.inj (hsame.symm.trans hc'), fun hfirst => ?_⟩
    have heffect := sameEffect_checkLogging hsettings hfirst hlogging hfull
    exact ⟨heffect, heffect.setsUpAlike⟩
  · have heffect := (suppliesDefaults_merge hentries).sameEffect
    exact ⟨heffect, heffect.setsUpAlike⟩

theorem load_file_agrees_partial : ∃ (t : FileTree) (c c' : Config),
    settingsAt t (Path.ofString "release.JSON") = .ok partialSettings ∧
      NamesFirst partialSettings ∧ ofEntries partialSettings = .ok c ∧
      load t (some (Path.ofString "release.JSON")) [] [] = .ok c' ∧
      { c with logging := c'.logging } = c' ∧ SameEffect c.logging c'.logging := by
  have hplain : (Value.map partialSettings).IsPlain :=
    ⟨⟨["product_prefix", "logging"], by decide, rfl⟩, trivial,
      ⟨⟨["level", "file"], by decide, rfl⟩, trivial,
        ⟨⟨["enabled"], by decide, rfl⟩, trivial, trivial⟩, trivial⟩, trivial⟩
  have hfirst : NamesFirst partialSettings := by
    intro entries hentries
    cases hentries
    decide
  obtain ⟨t, hfile⟩ := exists_settingsAt exists_openFor_emptyAt
    (documentIn_write hplain (by decide))
  obtain ⟨haccepted, hagree, _⟩ := load_file_agrees hfile
  obtain ⟨c, hc⟩ : ∃ c, ofEntries partialSettings = .ok c := ⟨_, rfl⟩
  obtain ⟨c', hc'⟩ := haccepted.mp ⟨c, hc⟩
  obtain ⟨hsame, heffect⟩ := hagree c c' hc hc'
  exact ⟨t, c, c', hfile, hfirst, hc, hc', hsame, (heffect hfirst).1⟩

/-! ## Keys that are read as the same text -/

/-- A document whose logging section holds a level under the bytes of its name and, after that,
under the name. -/
def twinText : String := "logging: \x7b!!binary bGV2ZWw=: debug, level: error\x7d"

/-- The logging section of that document. -/
def twinSection : Entries := [(bytesOf "level", .str "debug"), (.str "level", .str "error")]

def twinNodes : Yaml.Nodes := #[
  ⟨"tag:yaml.org,2002:map", .mapping [(1, 2)], ⟨0, 0, 0⟩⟩,
  ⟨"tag:yaml.org,2002:str", .scalar "logging", ⟨0, 0, 0⟩⟩,
  ⟨"tag:yaml.org,2002:map", .mapping [(3, 4), (5, 6)], ⟨9, 0, 9⟩⟩,
  ⟨"tag:yaml.org,2002:binary", .scalar "bGV2ZWw=", ⟨10, 0, 10⟩⟩,
  ⟨"tag:yaml.org,2002:str", .scalar "debug", ⟨29, 0, 29⟩⟩,
  ⟨"tag:yaml.org,2002:str", .scalar "level", ⟨36, 0, 36⟩⟩,
  ⟨"tag:yaml.org,2002:str", .scalar "error", ⟨43, 0, 43⟩⟩]

/-- A YAML file in the empty directory gives the settings of its text. -/
theorem exists_settingsAt_yaml {text : String}
    (hread : Yaml.read (.ofBytes text.toUTF8) = .ok (.map settings)) :
    ∃ t, settingsAt t (Path.ofString "release.yaml") = .ok settings := by
  have hopen : ∃ opened,
      (FileTree.emptyAt []).openFor false (Path.ofString "release.yaml").toString = .ok opened := by
    have htext : (Path.ofString "release.yaml").toString = "release.yaml" := by decide
    rw [htext]
    exact exists_openFor_entry ⟨by decide, by decide, by decide⟩ (by decide) (by decide)
  have hdocument : documentIn (Path.ofString "release.yaml") text.toUTF8 = .ok (.map settings) := by
    rw [documentIn, if_neg (by decide), hread]
    rfl
  exact exists_settingsAt hopen hdocument

theorem read_twinText :
    Yaml.read (.ofBytes twinText.toUTF8) = .ok (.map [(.str "logging", .map twinSection)]) :=
  Yaml.read_of_nodes (by decide) (by decide)
    (by decide +kernel : (Yaml.readDocument ⟨twinText.toList, none⟩).toOption =
      some (twinNodes, some 0)) (by decide +kernel)

/-- Settings that hold a logging section and nothing else. -/
theorem ofEntries_logging {entries checked : Entries}
    (h : checkMapping ["logging"] (.map entries) = .valid checked) :
    ofEntries [(.str "logging", .map entries)] = .ok { standard with logging := checked } := by
  have hempty : ofEntries [] = .ok standard := rfl
  have hpasses := (ofEntries_eq_ok_iff.mp hempty).2
  refine ofEntries_eq_ok_iff.mpr ⟨rfl, hpasses.congr (fun {_ name _ _} hname _ => ?_) h⟩
  have hother : Entries.field? name [(.str "logging", .map entries)] = none :=
    Entries.get?_eq_none fun entry hentry => Bool.eq_false_iff.mpr fun hsame => by
      cases List.mem_singleton.mp hentry
      exact hname (Option.some.inj (same_str_iff.mp hsame)).symm
  rw [checkSetting, checkSetting, hother]
  rfl

/-- Where the bytes of a name come before that name, the later of both decides alone, but over the
defaults the bytes do: the name keeps the place of its default. -/
theorem load_file_twinKeys : ∃ (t : FileTree) (c c' : Config),
    settingsAt t (Path.ofString "release.yaml") = .ok [(.str "logging", .map twinSection)] ∧
      ofEntries [(.str "logging", .map twinSection)] = .ok c ∧
      load t (some (Path.ofString "release.yaml")) [] [] = .ok c' ∧
      (Logging.Manager.ofEntries c.logging).level = .ok .error ∧
      (Logging.Manager.ofEntries c'.logging).level = .ok .debug := by
  obtain ⟨t, hfile⟩ := exists_settingsAt_yaml read_twinText
  have hkeyed := isKeyed_of_settingsAt hfile
  have halone : checkMapping ["logging"] (.map twinSection) =
      .valid [(.str "level", .str "error")] := checkMapping_eq_valid_iff.mpr ⟨rfl, rfl⟩
  have hover : checkMapping ["logging"] (.map (merge defaultLogging twinSection)) =
      .valid (defaultLogging.put (.str "level") (.str "debug")) :=
    checkMapping_eq_valid_iff.mpr ⟨rfl, rfl⟩
  have hc := ofEntries_logging halone
  have hfull : checkSetting (merge standardEntries [(.str "logging", .map twinSection)]) "logging"
      checkMapping standard.logging =
        .valid (defaultLogging.put (.str "level") (.str "debug")) := by
    rw [checkSetting, field?_merge_logging hkeyed]
    exact hover
  have hc' := ofEntries_merge hkeyed hc hfull
  exact ⟨t, _, _, hfile, hc, (load_file hfile).trans hc', by decide, by decide⟩

end ReleasePackaging.Config
