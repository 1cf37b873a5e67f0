import ReleasePackaging.Proofs.Config.LoggingSection
import ReleasePackaging.Proofs.Config.RoundTrip
import ReleasePackaging.Proofs.Text.Words

/-!
# Settings of the declared types

Each setting has a type of values that can be given for it. Settings of these types are accepted exactly
if what is given obeys the rules for names, versions and commands. What is accepted is then stored as it
is given: paths by what they spell, a command by its words, and for everything else its default. Names
that are no settings do not count, and neither does it whether a command is cut into words or not.
-/
namespace ReleasePackaging.Config

open Text (IsWord runs)

/-! ## What is given -/

def IsText (v : Value) (text : String) : Prop := v.text? = some text

/-- Whether a value is a certain text, or null for none. -/
def IsOptionalText (v : Value) : Option String → Prop
  | none => v = .null
  | some text => IsText v text

/-- Whether a value is a certain path or a text that spells it. -/
def IsPath (v : Value) (p : Path) : Prop := v = .path p ∨ ∃ text, IsText v text ∧ Path.ofString text = p

/-- Whether a value is a command of certain words: a list of them, or a text in which they are the
maximal runs of characters that are not blank. -/
def IsCommand (v : Value) (words : List String) : Prop :=
  (∃ text, IsText v text ∧ (runs text.toList).map String.ofList = words) ∨
    ∃ items, v = .list items ∧ items.map Value.text? = words.map some

/-- Whether a value is a mapping with certain values under certain texts. -/
def IsSection (v : Value) (entries : Entries) : Prop :=
  entries.HasTextKeys ∧ ∃ own : Entries, v = .map own ∧
    own.map (fun (key, value) => (key.text?, value)) =
      entries.map (fun (key, value) => (key.text?, value))

/-- What is given for each setting, or nothing. -/
structure Declared where
  library : Option String := none
  product : Option String := none
  version : Option (Option String) := none
  manifest : Option Path := none
  projectDir : Option Path := none
  buildRoot : Option Path := none
  outputDir : Option Path := none
  devMode : Option Bool := none
  host : Option (Option String) := none
  updateCommand : Option (List String) := none
  buildCommand : Option (List String) := none
  postBuildHook : Option (Option String) := none
  logging : Option Entries := none

/-- Whether settings under texts give what is declared, by values of the declared types. -/
structure Declares (entries : Entries) (d : Declared) : Prop where
  keys : allTextKeys entries = true
  library : Option.Rel IsText (entries.field? "library_identifier") d.library
  product : Option.Rel IsText (entries.field? "product_prefix") d.product
  version : Option.Rel IsOptionalText (entries.field? "version") d.version
  manifest : Option.Rel IsPath (entries.field? "manifest_path") d.manifest
  projectDir : Option.Rel IsPath (entries.field? "project_dir") d.projectDir
  buildRoot : Option.Rel IsPath (entries.field? "build_root") d.buildRoot
  outputDir : Option.Rel IsPath (entries.field? "output_dir") d.outputDir
  devMode : Option.Rel (fun v flag => v = .bool flag) (entries.field? "dev_mode") d.devMode
  host : Option.Rel IsOptionalText (entries.field? "host_os") d.host
  updateCommand : Option.Rel IsCommand (entries.field? "update_command") d.updateCommand
  buildCommand : Option.Rel IsCommand (entries.field? "build_command") d.buildCommand
  postBuildHook : Option.Rel IsOptionalText (entries.field? "post_build_hook") d.postBuildHook
  logging : Option.Rel IsSection (entries.field? "logging") d.logging

namespace Declared

/-- The rules for what is given. -/
structure IsValid (d : Declared) : Prop where
  library : ∀ text ∈ d.library, text ≠ "" ∧ ¬ ['\x7b', '\x7d'] <:+: text.toList
  product : ∀ text ∈ d.product, text ≠ "" ∧ '_' ∉ text.toList
  version : ∀ version ∈ d.version, ∀ text ∈ version, text ≠ "" ∧ '_' ∉ text.toList
  updateCommand : ∀ words ∈ d.updateCommand, words ≠ []
  buildCommand : ∀ words ∈ d.buildCommand, words ≠ []

/-- The configuration of what is given, with the defaults for everything else. -/
def config (d : Declared) : Config where
  library := d.library.getD standard.library
  product := d.product.getD standard.product
  version := d.version.getD standard.version
  manifest := d.manifest.getD standard.manifest
  projectDir := d.projectDir.getD standard.projectDir
  buildRoot := d.buildRoot.getD standard.buildRoot
  outputDir := d.outputDir.getD standard.outputDir
  devMode := d.devMode.getD standard.devMode
  host := d.host.getD standard.host
  updateCommand := d.updateCommand.getD standard.updateCommand
  buildCommand := d.buildCommand.getD standard.buildCommand
  postBuildHook := d.postBuildHook.getD standard.postBuildHook
  logging := d.logging.getD standard.logging

end Declared

variable {entries others own : Entries} {d : Declared} {c : Config} {v : Value} {text name : String}
  {version : Option String} {words ws : List String} {location : List String} {cs : List Char}

/-! ## Checks of the declared types -/

theorem checkOptionalText_of_isOptionalText (h : IsOptionalText v version) :
    checkOptionalText location v = .valid version := by
  cases version with
  | none =>
    cases h
    rfl
  | some text =>
    have htext : checkText location v = .valid text := checkText_of_text? h
    rw [checkOptionalText.eq_def]
    split
    · cases h
    · rw [htext, Checked.map]

theorem checkPath_of_isPath {p : Path} (h : IsPath v p) : checkPath location v = .valid p := by
  rcases h with rfl | ⟨text, htext, rfl⟩
  · rfl
  · cases v <;> cases htext <;> rfl

theorem holdsPlaceholder_iff : holdsPlaceholder cs = true ↔ ['\x7b', '\x7d'] <:+: cs := by
  fun_induction holdsPlaceholder cs with
  | case1 rest => exact iff_of_true rfl ⟨[], rest, rfl⟩
  | case2 c rest hother ih =>
    rw [ih, List.infix_cons_iff]
    refine (or_iff_right ?_).symm
    rintro ⟨tail, htail⟩
    cases htail
    exact hother _ rfl rfl
  | case3 => simp

theorem libraryRule_iff :
    (text != "" && !holdsPlaceholder text.toList) = true ↔
      text ≠ "" ∧ ¬ ['\x7b', '\x7d'] <:+: text.toList := by
  rw [← holdsPlaceholder_iff]
  simp

/-- A command is accepted if it has words, and is stored as these. -/
theorem checkCommand_eq_valid_iff {result : List String} (h : IsCommand v words) :
    checkCommand location v = .valid result ↔ words ≠ [] ∧ words = result := by
  rcases h with ⟨text, htext, rfl⟩ | ⟨items, rfl, hitems⟩
  · rw [← Text.words_eq_runs]
    -- A text is checked as the list of its words; only a defect would show the text itself.
    have hlisted : checkCommand location (.list ((Text.words text).map .str)) = .valid result ↔
        Text.words text ≠ [] ∧ Text.words text = result := checkCommand_texts (text?_texts _)
    rw [← hlisted]
    cases v with
    | str | platform =>
      cases htext
      simp only [checkCommand]
      split <;> simp [refuse]
    | _ => cases htext
  · exact checkCommand_texts hitems

/-- Values under texts are read as they are. -/
theorem readings_eq (hkeys : ∀ key ∈ entries.map Prod.fst, ∃ name, key = .str name)
    (h : own.map (fun (key, value) => (key.text?, value)) =
      entries.map (fun (key, value) => (key.text?, value))) :
    AllRead own ∧ readings own = entries := by
  induction own generalizing entries with
  | nil =>
    rw [List.map_nil, eq_comm, List.map_eq_nil_iff] at h
    subst h
    exact ⟨rfl, rfl⟩
  | cons entry rest ih =>
    obtain ⟨key, value⟩ := entry
    obtain ⟨⟨stored, w⟩, later, rfl, hhead, hlater⟩ := List.map_eq_cons_iff.mp h.symm
    obtain ⟨⟨name, rfl⟩, htexts⟩ := List.forall_mem_cons.mp hkeys
    obtain ⟨hall, hrest⟩ := ih htexts hlater.symm
    obtain ⟨hkey, rfl⟩ := Prod.mk.inj hhead
    have hread : reading? key = some name := reading?_eq_some_iff.mpr (.inl hkey.symm)
    rw [allRead_cons, readings_cons hread, hrest]
    exact ⟨⟨Option.isSome_of_eq_some hread, hall⟩, rfl⟩

/-- A mapping is stored as its values under texts. -/
theorem checkMapping_of_isSection (h : IsSection v entries) :
    checkMapping location v = .valid entries := by
  obtain ⟨hkeys, own, rfl, hown⟩ := h
  have htexts : ∀ key ∈ entries.map Prod.fst, ∃ name, key = .str name := by
    obtain ⟨names, _, heq⟩ := hkeys
    intro key hkey
    obtain ⟨name, _, rfl⟩ := List.mem_map.mp (heq ▸ hkey)
    exact ⟨name, rfl⟩
  obtain ⟨hall, hread⟩ := readings_eq htexts hown
  rw [checkMapping_eq_valid_iff, hread]
  exact ⟨hall, Entries.ofList_self hkeys⟩

/-! ## Settings -/

section

variable {α : Type} {reads : Value → α → Prop} {rule : α → Prop} {given : Option α}
  {check : List String → Value → Checked α} {default result : α}

/-- A setting that is checked by a rule for what it reads is accepted if what is given obeys the rule. -/
theorem checkSetting_eq_valid_iff (h : Option.Rel reads (entries.field? name) given)
    (hcheck : ∀ v a, reads v a → (check [name] v = .valid result ↔ rule a ∧ a = result)) :
    checkSetting entries name check default = .valid result ↔
      (∀ a ∈ given, rule a) ∧ given.getD default = result := by
  unfold checkSetting
  generalize entries.field? name = found at h
  cases h with
  | none => simp
  | some hv => simpa using hcheck _ _ hv

/-- A setting of which only the type is checked is stored as it is given. -/
theorem checkSetting_of_reads (h : Option.Rel reads (entries.field? name) given)
    (hcheck : ∀ v a, reads v a → check [name] v = .valid a) :
    checkSetting entries name check default = .valid (given.getD default) := by
  unfold checkSetting
  generalize entries.field? name = found at h
  cases h with
  | none => rfl
  | some hv => exact hcheck _ _ hv

end

theorem checkLibrary_declared (h : Declares entries d) :
    checkSetting entries "library_identifier" checkLibrary standard.library = .valid c.library ↔
      (∀ text ∈ d.library, text ≠ "" ∧ ¬ ['\x7b', '\x7d'] <:+: text.toList) ∧
        d.config.library = c.library :=
  checkSetting_eq_valid_iff h.library fun _ _ htext => by
    rw [checkLibrary_eq_valid_iff (checkText_of_text? htext), libraryRule_iff]

theorem checkProduct_declared (h : Declares entries d) :
    checkSetting entries "product_prefix" checkProduct standard.product = .valid c.product ↔
      (∀ text ∈ d.product, text ≠ "" ∧ '_' ∉ text.toList) ∧ d.config.product = c.product :=
  checkSetting_eq_valid_iff h.product fun _ _ htext => by
    rw [checkProduct_eq_valid_iff (checkText_of_text? htext), isSegment_iff]
    rfl

theorem checkVersion_declared (h : Declares entries d) :
    checkSetting entries "version" checkVersion standard.version = .valid c.version ↔
      (∀ version ∈ d.version, ∀ text ∈ version, text ≠ "" ∧ '_' ∉ text.toList) ∧
        d.config.version = c.version :=
  checkSetting_eq_valid_iff h.version fun _ _ htext => by
    rw [checkVersion_eq_valid_iff (checkOptionalText_of_isOptionalText htext)]
    simp only [isSegment_iff]
    rfl

theorem checkCommand_declared {given : Option (List String)} {default result : List String}
    (h : Option.Rel IsCommand (entries.field? name) given) :
    checkSetting entries name checkCommand default = .valid result ↔
      (∀ words ∈ given, words ≠ []) ∧ given.getD default = result :=
  checkSetting_eq_valid_iff h fun _ _ hwords => checkCommand_eq_valid_iff hwords

/-- Settings that pass their checks obey the rules for what is given. -/
theorem isValid_of_passes (h : Declares entries d) (hpasses : Passes entries c) : d.IsValid where
  library := ((checkLibrary_declared h).mp hpasses.library).1
  product := ((checkProduct_declared h).mp hpasses.product).1
  version := ((checkVersion_declared h).mp hpasses.version).1
  updateCommand := ((checkCommand_declared h.updateCommand).mp hpasses.updateCommand).1
  buildCommand := ((checkCommand_declared h.buildCommand).mp hpasses.buildCommand).1

/-- Where what is given obeys the rules every setting passes its check. -/
theorem passes_config (h : Declares entries d) (hvalid : d.IsValid) : Passes entries d.config where
  library := (checkLibrary_declared h).mpr ⟨hvalid.library, rfl⟩
  product := (checkProduct_declared h).mpr ⟨hvalid.product, rfl⟩
  version := (checkVersion_declared h).mpr ⟨hvalid.version, rfl⟩
  manifest := checkSetting_of_reads h.manifest fun _ _ => checkPath_of_isPath
  projectDir := checkSetting_of_reads h.projectDir fun _ _ => checkPath_of_isPath
  buildRoot := checkSetting_of_reads h.buildRoot fun _ _ => checkPath_of_isPath
  outputDir := checkSetting_of_reads h.outputDir fun _ _ => checkPath_of_isPath
  devMode := checkSetting_of_reads h.devMode fun _ _ hflag => hflag ▸ rfl
  host := checkSetting_of_reads h.host fun _ _ => checkOptionalText_of_isOptionalText
  updateCommand := (checkCommand_declared h.updateCommand).mpr ⟨hvalid.updateCommand, rfl⟩
  buildCommand := (checkCommand_declared h.buildCommand).mpr ⟨hvalid.buildCommand, rfl⟩
  postBuildHook :=
    checkSetting_of_reads h.postBuildHook fun _ _ => checkOptionalText_of_isOptionalText
  logging := checkSetting_of_reads h.logging fun _ _ => checkMapping_of_isSection

/-! ## Configurations -/

def IsRefused (outcome : Except Fault Config) : Prop :=
  ∃ message, outcome = .error (.failure (.configuration none message))

/-- Settings under texts that are not accepted are refused. -/
theorem isRefused_of_not_passes (hkeys : allTextKeys entries = true)
    (h : ∀ c, ¬ Passes entries c) : IsRefused (ofEntries entries) := by
  rw [ofEntries, if_pos hkeys]
  cases hsettings : ofSettings entries with
  | valid c => exact absurd (ofSettings_eq_valid_iff.mp hsettings) (h c)
  | defective defects => exact ⟨_, rfl⟩

def commandNames : List String := ["update_command", "build_command"]

/-- Settings that differ in nothing but how their commands are given, or in names that are no settings,
come to the same. -/
theorem ofEntries_congr (hentries : allTextKeys entries = true) (hothers : allTextKeys others = true)
    (hsetting : ∀ name ∈ settingNames, name ∉ commandNames →
      others.field? name = entries.field? name)
    (hcommand : ∀ name ∈ commandNames, ∀ default,
      checkSetting others name checkCommand default = checkSetting entries name checkCommand default) :
    ofEntries others = ofEntries entries := by
  have hsame {α : Type} {name : String} {check : List String → Value → Checked α} {default : α}
      (hname : name ∈ settingNames) (hother : name ∉ commandNames) :
      checkSetting others name check default = checkSetting entries name check default := by
    rw [checkSetting, hsetting name hname hother, checkSetting]
  have hsettings : ofSettings others = ofSettings entries := by
    simp (disch := decide) only [ofSettings, hsame, hcommand]
  rw [ofEntries, ofEntries, if_pos hentries, if_pos hothers, hsettings]

/-- A command given as its words, or as the text of them joined by spaces. -/
theorem isCommand_given (hws : ∀ w ∈ ws, IsWord w) :
    IsCommand (.list (ws.map .str)) ws ∧ IsCommand (.str (" ".intercalate ws)) ws := by
  refine ⟨.inr ⟨_, rfl, text?_texts ws⟩, .inl ⟨_, rfl, ?_⟩⟩
  rw [← Text.words_eq_runs, Text.words_intercalate hws]

/-- It does not matter which of two values of the same words is given for a command. -/
theorem ofEntries_command {v w : Value} (hkeys : allTextKeys entries = true)
    (hname : name ∈ commandNames) (hv : IsCommand v ws) (hw : IsCommand w ws) (hws : ws ≠ []) :
    ofEntries (entries.put (.str name) v) = ofEntries (entries.put (.str name) w) := by
  have hfield := (haveKeys_of_allTextKeys hkeys).field?_put name
  refine ofEntries_congr (allTextKeys_put hkeys name w) (allTextKeys_put hkeys name v)
    (fun other _ hother => ?_) fun other _ default => ?_
  · have hne : name ≠ other := fun heq => hother (heq ▸ hname)
    rw [hfield, hfield, if_neg hne, if_neg hne]
  · have hcheck {u : Value} (hu : IsCommand u ws) : checkCommand [other] u = .valid ws :=
      (checkCommand_eq_valid_iff hu).mpr ⟨hws, rfl⟩
    unfold checkSetting
    rw [hfield, hfield]
    by_cases heq : name = other
    · rw [if_pos heq, if_pos heq]
      exact (hcheck hv).trans (hcheck hw).symm
    · rw [if_neg heq, if_neg heq]

/-- A command without words is refused, however it is given. -/
theorem isRefused_command (hkeys : allTextKeys entries = true) (hname : name ∈ commandNames)
    (hv : IsCommand v []) : IsRefused (ofEntries (entries.put (.str name) v)) := by
  refine isRefused_of_not_passes (allTextKeys_put hkeys name v) fun c hpasses => ?_
  have hfield := (haveKeys_of_allTextKeys hkeys).field?_put name v name
  rw [if_pos rfl] at hfield
  have hfails {default result : List String} :
      checkSetting (entries.put (.str name) v) name checkCommand default ≠ .valid result := by
    rw [checkSetting, hfield]
    exact fun hvalid => ((checkCommand_eq_valid_iff hv).mp hvalid).1 rfl
  rcases List.mem_pair.mp hname with rfl | rfl
  · exact hfails hpasses.updateCommand
  · exact hfails hpasses.buildCommand

/-- Settings of the declared types are accepted and stored as they are given if these obey the rules,
and refused otherwise. Names that are no settings do not count, and a command can be given as its words
or as the text of them joined by spaces. -/
theorem ofEntries_declared (h : Declares entries d) :
    (d.IsValid ∧ ofEntries entries = .ok d.config ∨ ¬ d.IsValid ∧ IsRefused (ofEntries entries)) ∧
      (∀ others, allTextKeys others = true →
        (∀ name ∈ settingNames, others.field? name = entries.field? name) →
          ofEntries others = ofEntries entries) ∧
      ∀ name ∈ commandNames, ∀ ws, (∀ w ∈ ws, IsWord w) →
        let joined := ofEntries (entries.put (.str name) (.str (" ".intercalate ws)))
        let listed := ofEntries (entries.put (.str name) (.list (ws.map .str)))
        ws ≠ [] ∧ joined = listed ∨ ws = [] ∧ IsRefused joined ∧ IsRefused listed := by
  refine ⟨?_, fun others hothers hsame => ?_, fun name hname ws hws => ?_⟩
  · by_cases hvalid : d.IsValid
    · exact .inl ⟨hvalid, ofEntries_eq_ok_iff.mpr ⟨h.keys, passes_config h hvalid⟩⟩
    · have hfails (c : Config) : ¬ Passes entries c := fun hpasses =>
        hvalid (isValid_of_passes h hpasses)
      exact .inr ⟨hvalid, isRefused_of_not_passes h.keys hfails⟩
  · have hcommands : commandNames ⊆ settingNames := by decide
    refine ofEntries_congr h.keys hothers (fun name hname _ => hsame name hname) ?_
    intro name hname default
    rw [checkSetting, hsame name (hcommands hname), checkSetting]
  · obtain ⟨hlisted, hjoined⟩ := isCommand_given hws
    by_cases hsome : ws = []
    · subst hsome
      exact .inr ⟨rfl, isRefused_command h.keys hname hjoined,
        isRefused_command h.keys hname hlisted⟩
    · exact .inl ⟨hsome, ofEntries_command h.keys hname hjoined hlisted hsome⟩

/-- Settings with a command in one piece and a name that is none of a setting. -/
def nicknamed : Entries :=
  [(.str "library_identifier", .str "sound"), (.str "nickname", .int 3),
   (.str "build_command", .str "make\t -j ")]

/-- What these settings give. -/
def givenByNicknamed : Declared := { library := some "sound", buildCommand := some ["make", "-j"] }

theorem ofEntries_declared_nicknamed : Declares nicknamed givenByNicknamed ∧
    givenByNicknamed.IsValid ∧ ofEntries nicknamed = .ok givenByNicknamed.config := by
  have hgiven : Declares nicknamed givenByNicknamed :=
    ⟨rfl, .some rfl, .none, .none, .none, .none, .none, .none, .none, .none, .none,
      .some (.inl ⟨_, rfl, by decide⟩), .none, .none⟩
  have hvalid : givenByNicknamed.IsValid :=
    ⟨fun text htext => by cases htext; decide, nofun, nofun, nofun,
      fun words hwords => by cases hwords; decide⟩
  refine ⟨hgiven, hvalid, ?_⟩
  rcases (ofEntries_declared hgiven).1 with haccepted | hrefused
  · exact haccepted.2
  · exact absurd hvalid hrefused.1

end ReleasePackaging.Config
