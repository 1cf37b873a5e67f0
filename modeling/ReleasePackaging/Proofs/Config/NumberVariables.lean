import ReleasePackaging.Proofs.Config.Assignments
import ReleasePackaging.Proofs.Config.FileAlone
import ReleasePackaging.Proofs.Config.Grouping
import ReleasePackaging.Proofs.Number.Decimal
import ReleasePackaging.Proofs.Text.LowerCase

/-!
# Numbers from the environment

The decimal text of an integer in a variable gives a value that is that integer. One and zero give
truth values on the way, which are the same integers. So three variables that ask for a log file with
a limit and a number of backups get it, whatever a file of settings says about them. The exception is
a file that holds a file section under the bytes of its name: it is told apart from the section that
the variables give until the settings are checked, and then replaces it.
-/
namespace ReleasePackaging.Config

open Logging.Manager (LogsWith fileSettings isEnabled logsWith_of_file)
open Value (LeafAt leafAt_cons leafAt_nil valueAt?)

variable {t : FileTree} {path : Path} {environment : List (String × String)}
  {file settings upper : Entries} {n limit backups : Int} {c : Config} {keys : List String}
  {leaf : Value} {name text : String}

/-! ## Texts of variables -/

/-- An integer has no more digits than are read. -/
def HasFewDigits (n : Int) : Prop := (Nat.toDigits 10 n.natAbs).length ≤ Number.digitLimit

instance (n : Int) : Decidable (HasFewDigits n) := inferInstanceAs (Decidable (_ ≤ _))

theorem readInteger_of_hasFewDigits (hn : HasFewDigits n) :
    Number.readInteger 10 (toString n) = .ok n :=
  Number.readInteger_toString ((Nat.length_toDigits_le_iff (by decide) (by decide)).mp hn)

theorem looksNumeric_toString (n : Int) : looksNumeric (toString n).toList = true := by
  refine looksNumeric_iff.mpr ⟨n < 0, Nat.toDigits 10 n.natAbs, ?_, ?_, fun c hc => ?_⟩
  · rw [Number.toList_toString]
    simp [Number.signed]
  · exact Nat.toDigits_ne_nil
  · exact Number.isDigit_of_isDigit (Number.isDigit_of_mem_toDigits hc)

/-- An integer is the value that its own text gives. -/
theorem readVariable_toString (hn : HasFewDigits n) :
    ∃ v, readVariable (toString n) = .ok v ∧ v.asInteger = .ok n := by
  have hnumeric := looksNumeric_toString n
  have hread := readInteger_of_hasFewDigits hn
  have htrue : ∀ word ∈ ["true", "yes", "1", "on"], looksNumeric word.toList = true →
      (Number.readInteger 10 word).toOption = some 1 := by decide
  have hfalse : ∀ word ∈ ["false", "no", "0", "off"], looksNumeric word.toList = true →
      (Number.readInteger 10 word).toOption = some 0 := by decide
  rw [readVariable_eq, lower_eq_self_of_looksNumeric hnumeric, if_pos hnumeric]
  split
  · next hword =>
    have hone := htrue _ hword hnumeric
    rw [hread] at hone
    cases hone
    exact ⟨.bool true, rfl, rfl⟩
  · split
    · next hword =>
      have hzero := hfalse _ hword hnumeric
      rw [hread] at hzero
      cases hzero
      exact ⟨.bool false, rfl, rfl⟩
    · rw [hread]
      exact ⟨.int n, rfl, rfl⟩

/-- A text is kept if it is no word for a truth value in any letter case and is not made of digits,
with a minus sign before them or without. -/
theorem readVariable_eq_text (hwords : ∀ word ∈ flagWords, text.toLower ≠ word)
    (hdigits : ¬∃ negative digits, text.toList = Number.signed negative digits ∧ digits ≠ [] ∧
      ∀ c ∈ digits, Text.isDigit c = true) : readVariable text = .ok (.str text) := by
  have hsmall : ∀ word ∈ flagWords, ∀ c ∈ word.toList, Text.IsOwnSmall c := by
    simp [flagWords, Text.IsOwnSmall]
  have hlower : Text.lower text ∉ flagWords := fun hmem =>
    hwords _ hmem ((Text.lower_eq_iff (hsmall _ hmem)).mp rfl)
  have hnumeric : ¬looksNumeric text.toList = true := fun h => hdigits (looksNumeric_iff.mp h)
  rw [readVariable_eq, if_neg fun htrue => hlower (List.mem_append_left _ htrue),
    if_neg fun hfalse => hlower (List.mem_append_right ["true", "yes", "1", "on"] hfalse),
    if_neg hnumeric]

/-! ## The settings that the variables give -/

def ownVariables (environment : List (String × String)) : List (String × String) :=
  environment.filter fun given => variableStart.toList.isPrefixOf given.1.toList

def logFileVariables (limit backups : Int) : List (String × String) :=
  [("TONPACK_LOGGING_FILE_ENABLED", "true"), ("TONPACK_LOGGING_FILE_MAX_BYTES", toString limit),
    ("TONPACK_LOGGING_FILE_BACKUP_COUNT", toString backups)]

/-- Other variables do not matter. -/
theorem fromEnvironment_ownVariables (environment : List (String × String)) :
    fromEnvironment variableStart (ownVariables environment) =
      fromEnvironment variableStart environment := by
  rw [fromEnvironment_eq, fromEnvironment_eq, ownVariables, List.foldlM_filter]
  congr 1
  funext entries given
  split
  · rfl
  · next hother =>
    rw [pathOf?, if_neg hother]
    rfl

theorem reaches_enabled :
    Reaches variableStart "TONPACK_LOGGING_FILE_ENABLED" ["logging", "file", "enabled"] :=
  pathOf?_eq_some_iff.mp (by decide +kernel)

theorem reaches_maxBytes :
    Reaches variableStart "TONPACK_LOGGING_FILE_MAX_BYTES" ["logging", "file", "max_bytes"] :=
  pathOf?_eq_some_iff.mp (by decide +kernel)

theorem reaches_backupCount :
    Reaches variableStart "TONPACK_LOGGING_FILE_BACKUP_COUNT" ["logging", "file", "backup_count"] :=
  pathOf?_eq_some_iff.mp (by decide +kernel)

/-- The variables reach three keys of the file section, each its own. -/
theorem reaches_logFileVariables {given : String × String}
    (hgiven : given ∈ logFileVariables limit backups) (hkeys : Reaches variableStart given.1 keys) :
    ∃ key, keys = ["logging", "file", key] := by
  simp only [logFileVariables, List.mem_cons, List.not_mem_nil, or_false] at hgiven
  rcases hgiven with rfl | rfl | rfl
  · exact ⟨_, hkeys.unique reaches_enabled⟩
  · exact ⟨_, hkeys.unique reaches_maxBytes⟩
  · exact ⟨_, hkeys.unique reaches_backupCount⟩

theorem keepsApart_logFileVariables :
    KeepsApart variableStart (logFileVariables limit backups) := by
  have hapart {name other : String} {keys others : List String}
      (hname : Reaches variableStart name keys) (hother : Reaches variableStart other others) (hkeys : Apart keys others) :
      ∀ keys others, Reaches variableStart name keys → Reaches variableStart other others →
        Apart keys others := by
    intro own later hown hlater
    rwa [hown.unique hname, hlater.unique hother]
  simp only [KeepsApart, logFileVariables, List.pairwise_cons, List.forall_mem_cons]
  refine ⟨⟨?_, ?_, nofun⟩, ⟨?_, nofun⟩, nofun, List.Pairwise.nil⟩
  · exact hapart reaches_enabled reaches_maxBytes (by simp [apart_cons_cons])
  · exact hapart reaches_enabled reaches_backupCount (by simp [apart_cons_cons])
  · exact hapart reaches_maxBytes reaches_backupCount (by simp [apart_cons_cons])

/-- Settings that hold nothing but a logging section, which asks for a log file with a limit and a
number of backups. -/
structure AsksForLog (settings upper : Entries) (limit backups : Int) : Prop where
  tree : (Value.map settings).IsTree
  logging : settings.field? "logging" = some (.map upper)
  only : ∀ name, name ≠ "logging" → settings.field? name = none
  enabled : LeafAt ["file", "enabled"] (.bool true) (.map upper)
  maxBytes : ∃ v, LeafAt ["file", "max_bytes"] v (.map upper) ∧ v.asInteger = .ok limit
  backupCount : ∃ v, LeafAt ["file", "backup_count"] v (.map upper) ∧ v.asInteger = .ok backups

/-- What a path of several keys leads to is in a mapping under the first one. -/
theorem exists_inner_of_leafAt {next : String} {entries : Entries}
    (h : LeafAt (name :: next :: keys) leaf (.map entries)) :
    ∃ inner : Entries, entries.field? name = some (.map inner) := by
  obtain ⟨v, hv, hleaf⟩ := leafAt_cons.mp h
  cases hmap : v.isMap with
  | true =>
    obtain ⟨inner, rfl⟩ := Value.exists_entries hmap
    exact ⟨inner, hv⟩
  | false => cases ((Value.leafAt_of_not_map hmap).mp hleaf).1

theorem leafAt_inner {entries inner : Entries} (hinner : entries.field? name = some (.map inner))
    (h : LeafAt (name :: keys) leaf (.map entries)) : LeafAt keys leaf (.map inner) := by
  obtain ⟨v, hv, hleaf⟩ := leafAt_cons.mp h
  cases hinner.symm.trans hv
  exact hleaf

theorem field?_of_leafAt {entries : Entries} (h : LeafAt [name] leaf (.map entries)) :
    entries.field? name = some leaf := by
  obtain ⟨v, hv, hleaf⟩ := leafAt_cons.mp h
  cases (leafAt_nil.mp hleaf).1
  exact hv

/-- Without other variables of its own, an environment gives settings with the leaves that these
variables assign and no others. -/
theorem exists_leaves (hlimit : HasFewDigits limit) (hbackups : HasFewDigits backups)
    (henvironment : (ownVariables environment).Perm (logFileVariables limit backups)) :
    ∃ settings, fromEnvironment variableStart environment = .ok settings ∧ ∀ keys v,
      LeafAt keys v (.map settings) ↔
        ∃ given ∈ logFileVariables limit backups, Assigns variableStart given keys v := by
  have hread : ∀ given ∈ ownVariables environment, ∀ keys, Reaches variableStart given.1 keys →
      IsRead keys → ∃ v, readVariable given.2 = .ok v := by
    intro given hgiven _ _ _
    have hmem := henvironment.mem_iff.mp hgiven
    simp only [logFileVariables, List.mem_cons, List.not_mem_nil, or_false] at hmem
    rcases hmem with rfl | rfl | rfl
    · exact ⟨.bool true, by decide⟩
    · exact (readVariable_toString hlimit).imp fun _ h => h.1
    · exact (readVariable_toString hbackups).imp fun _ h => h.1
  obtain ⟨settings, hsettings⟩ := exists_fromEnvironment hread
  refine ⟨settings, (fromEnvironment_ownVariables environment).symm.trans hsettings, fun keys v => ?_⟩
  rw [leafAt_iff_lastAt hsettings, (keepsApart_logFileVariables.perm henvironment).lastAt_iff]
  simp only [henvironment.mem_iff]

/-- Settings with no leaves but those that these variables assign hold the logging section alone: a
tree leads from every key to a leaf. -/
theorem field?_eq_none_of_leaves (htree : (Value.map settings).IsTree)
    (hleaves : ∀ keys v, LeafAt keys v (.map settings) →
      ∃ given ∈ logFileVariables limit backups, Assigns variableStart given keys v)
    (hname : name ≠ "logging") : settings.field? name = none := by
  refine Option.eq_none_iff_forall_ne_some.mpr fun v hv => ?_
  obtain ⟨keys, leaf, hkeys⟩ := (htree.get? hv).exists_leafAt (htree.ne_nil hv)
  obtain ⟨given, hgiven, hassigns⟩ := hleaves (name :: keys) leaf (leafAt_cons.mpr ⟨v, hv, hkeys⟩)
  obtain ⟨key, hpath⟩ := reaches_logFileVariables hgiven hassigns.reaches
  exact hname (List.cons.inj hpath).1

/-- An environment without other variables of its own gives the settings that the variables ask for. -/
theorem exists_settings (hlimit : HasFewDigits limit) (hbackups : HasFewDigits backups)
    (henvironment : (ownVariables environment).Perm (logFileVariables limit backups)) :
    ∃ settings upper, fromEnvironment variableStart environment = .ok settings ∧
      AsksForLog settings upper limit backups := by
  obtain ⟨limitValue, hlimitRead, hlimitValue⟩ := readVariable_toString hlimit
  obtain ⟨backupsValue, hbackupsRead, hbackupsValue⟩ := readVariable_toString hbackups
  obtain ⟨settings, hsettings, hleaves⟩ := exists_leaves hlimit hbackups henvironment
  have htree := isTree_of_fromEnvironment hsettings
  have hassigned {name text key : String} {v : Value}
      (hmem : (name, text) ∈ logFileVariables limit backups)
      (hreaches : Reaches variableStart name ["logging", "file", key])
      (hv : readVariable text = .ok v) : LeafAt ["logging", "file", key] v (.map settings) :=
    (hleaves _ _).mpr ⟨_, hmem, assigns_iff.mpr ⟨hreaches, hv⟩⟩
  have henabled := hassigned (by simp [logFileVariables]) reaches_enabled
    (by decide : readVariable "true" = .ok (.bool true))
  have hmaxBytes := hassigned (by simp [logFileVariables]) reaches_maxBytes hlimitRead
  have hbackupCount := hassigned (by simp [logFileVariables]) reaches_backupCount hbackupsRead
  obtain ⟨upper, hupper⟩ := exists_inner_of_leafAt henabled
  exact ⟨settings, upper, hsettings, htree, hupper,
    fun name => field?_eq_none_of_leaves htree fun keys v => (hleaves keys v).mp,
    leafAt_inner hupper henabled, ⟨_, leafAt_inner hupper hmaxBytes, hlimitValue⟩,
    _, leafAt_inner hupper hbackupCount, hbackupsValue⟩

/-! ## These settings over a file -/

/-- What the logging section of a file is over the defaults; nothing if it is no mapping. -/
def fileSection (file : Entries) : Entries :=
  match file.field? "logging" with
  | some (.map entries) => merge defaultLogging entries
  | some _ => []
  | none => defaultLogging

theorem isKeyed_base (hfile : (Value.map file).IsKeyed) :
    (Value.map (merge standardEntries file)).IsKeyed := by
  obtain ⟨hkeys, _, hvalues⟩ := Value.isKeyed_map.mp hfile
  exact isKeyed_merge standardEntries file isKeyed_standardEntries hkeys hvalues

theorem isKeyed_fileSection (hfile : (Value.map file).IsKeyed) :
    (Value.map (fileSection file)).IsKeyed := by
  unfold fileSection
  split
  · next entries hentries =>
    obtain ⟨hkeys, _, hvalues⟩ := Value.isKeyed_map.mp (hfile.get? hentries)
    exact isKeyed_merge defaultLogging entries isKeyed_defaultLogging hkeys hvalues
  · exact Value.isKeyed_nil
  · exact isKeyed_defaultLogging

/-- A section of the environment is put over that of the file and the defaults. -/
theorem field?_logging_over (hfile : (Value.map file).IsKeyed)
    (hsettings : (Value.map settings).IsKeyed)
    (hupper : settings.field? "logging" = some (.map upper)) (htexts : upper.HasTextKeys) :
    Entries.field? "logging" (merge (merge standardEntries file) settings) =
      some (.map (merge (fileSection file) upper)) := by
  obtain ⟨hkeys, hdistinct, _⟩ := Value.isKeyed_map.mp hsettings
  have hbase := field?_merge_logging hfile
  have hover := get?_merge (Value.isKeyed_map.mp (isKeyed_base hfile)).1 hkeys hdistinct
    (.str "logging")
  unfold Entries.field? at hbase hupper ⊢
  rw [hupper, hbase] at hover
  rw [hover, fileSection, Entries.field?]
  cases file.get? (.str "logging") with
  | none => simp only [layered_map_map]
  | some v =>
    cases v with
    | map entries => simp only [layered_map_map]
    | _ =>
      rw [merge_nil_left htexts]
      exact congrArg some (layered_over_other (fun lower heq => by cases heq) _)

/-- The name of the file section comes first in the section that is made. -/
theorem isFirst_over (htexts : upper.HasTextKeys) :
    IsFirst "file" (merge (fileSection file) upper) := by
  have hname : ∃ own ∈ defaultLogging.map Prod.fst, own.text? = some "file" :=
    ⟨.str "file", by decide, rfl⟩
  have hfirst := isFirst_defaultLogging "file"
  unfold fileSection
  split
  · next entries _ =>
    exact isFirst_merge (exists_text_merge hname entries) (isFirst_merge hname hfirst entries) upper
  · rw [merge_nil_left htexts]
    exact isFirst_of_hasTextKeys htexts "file"
  · exact isFirst_merge hname hfirst upper

/-- Only the file holds something under the bytes of a name. -/
theorem get?_bytesOf_over (hfile : (Value.map file).IsKeyed) (htexts : upper.HasTextKeys)
    (name : String) :
    Entries.get? (bytesOf name) (merge (fileSection file) upper) =
      valueAt? [.str "logging", bytesOf name] (.map file) := by
  have hdefault : defaultLogging.get? (bytesOf name) = none :=
    get?_bytesOf_of_hasTextKeys isSound_standard.logging name
  have hdefaultKeys := (Value.isKeyed_map.mp isKeyed_defaultLogging).1
  rw [get?_merge (Value.isKeyed_map.mp (isKeyed_fileSection hfile)).1 htexts.haveKeys
    htexts.areDistinct, get?_bytesOf_of_hasTextKeys htexts, fileSection, valueAt?, Entries.field?]
  cases hv : file.get? (.str "logging") with
  | none => exact hdefault
  | some v =>
    cases v with
    | map entries =>
      obtain ⟨hkeys, hdistinct, _⟩ := Value.isKeyed_map.mp (hfile.get? hv)
      simp only [get?_merge hdefaultKeys hkeys hdistinct, Option.bind_some, valueAt?]
      cases Entries.get? (bytesOf name) entries with
      | none => exact hdefault
      | some w => simp only [hdefault, layered_none, Option.bind_some]
    | _ => rfl

/-- A leaf of the upper layer is a leaf of the merge. -/
theorem leafAt_merge {lower upper : Entries} (hlower : (Value.map lower).IsKeyed)
    (hupper : (Value.map upper).IsKeyed) (h : LeafAt keys leaf (.map upper)) :
    LeafAt keys leaf (.map (merge lower upper)) := by
  refine ⟨valueAt?_merge_upper hlower hupper h.1 fun hmap => ?_, h.2⟩
  rw [h.2] at hmap
  cases hmap

/-- Settings that ask for a log file keep doing so over another section. -/
theorem exists_fileSection_over (hasks : AsksForLog settings upper limit backups)
    (hfile : (Value.map file).IsKeyed) :
    ∃ inner : Entries, Entries.field? "file" (merge (fileSection file) upper) = some (.map inner) ∧
      isEnabled inner false = true ∧ (fileSettings inner).2.1.asInteger = .ok limit ∧
      (fileSettings inner).2.2.asInteger = .ok backups := by
  have hover {keys : List String} {leaf : Value} (h : LeafAt keys leaf (.map upper)) :=
    leafAt_merge (isKeyed_fileSection hfile) (hasks.tree.get? hasks.logging).textKeyed.isKeyed h
  obtain ⟨limitValue, hmaxBytes, hlimitValue⟩ := hasks.maxBytes
  obtain ⟨backupsValue, hbackupCount, hbackupsValue⟩ := hasks.backupCount
  obtain ⟨inner, hinner⟩ := exists_inner_of_leafAt (hover hasks.enabled)
  have hfield {key : String} {leaf : Value} (h : LeafAt ["file", key] leaf (.map upper)) :
      inner.field? key = some leaf := field?_of_leafAt (leafAt_inner hinner (hover h))
  refine ⟨inner, hinner, ?_, ?_, ?_⟩
  · rw [isEnabled, hfield hasks.enabled]
    rfl
  · rw [fileSettings, hfield hmaxBytes]
    exact hlimitValue
  · rw [fileSettings, hfield hbackupCount]
    exact hbackupsValue

/-- The logging section of a configuration that is made from a file and settings that ask for a log
file. -/
theorem checkLogging_over (hasks : AsksForLog settings upper limit backups)
    (hfile : (Value.map file).IsKeyed)
    (hc : ofEntries (merge (merge standardEntries file) settings) = .ok c) :
    checkMapping ["logging"] (.map (merge (fileSection file) upper)) = .valid c.logging := by
  have htexts := (hasks.tree.get? hasks.logging).textKeyed.hasTextKeys
  have hchecked := (ofEntries_eq_ok_iff.mp hc).2.logging
  rwa [checkSetting, field?_logging_over hfile hasks.tree.textKeyed.isKeyed hasks.logging
    htexts] at hchecked

/-- What the file section is in such a configuration. -/
theorem field?_file_of_ofEntries (hasks : AsksForLog settings upper limit backups)
    (hfile : (Value.map file).IsKeyed)
    (hc : ofEntries (merge (merge standardEntries file) settings) = .ok c) :
    c.logging.field? "file" = (valueAt? [.str "logging", bytesOf "file"] (.map file)).or
      (Entries.field? "file" (merge (fileSection file) upper)) := by
  have htexts := (hasks.tree.get? hasks.logging).textKeyed
  obtain ⟨hkeys, _, hvalues⟩ := Value.isKeyed_map.mp htexts.isKeyed
  have hkeyed := isKeyed_merge (fileSection file) upper (isKeyed_fileSection hfile) hkeys hvalues
  rw [field?_of_checkMapping hkeyed (isFirst_over htexts.hasTextKeys)
    (checkLogging_over hasks hfile hc), get?_bytesOf_over hfile htexts.hasTextKeys]

/-- A file that is accepted is accepted together with settings that ask for a log file. -/
theorem exists_ofEntries_over (hasks : AsksForLog settings upper limit backups)
    (hfile : (Value.map file).IsKeyed) (htextKeys : allTextKeys settings = true)
    (hc : ofEntries (merge standardEntries file) = .ok c) :
    ∃ c', ofEntries (merge (merge standardEntries file) settings) = .ok c' := by
  have hkeyed := hasks.tree.textKeyed.isKeyed
  have htexts := (hasks.tree.get? hasks.logging).textKeyed.hasTextKeys
  obtain ⟨hkeys, hpasses⟩ := ofEntries_eq_ok_iff.mp hc
  obtain ⟨hsettingsKeys, hdistinct, _⟩ := Value.isKeyed_map.mp hkeyed
  have hread : AllRead (fileSection file) := by
    have hchecked := hpasses.logging
    rw [checkSetting, field?_merge_logging hfile] at hchecked
    unfold fileSection
    cases hv : file.field? "logging" with
    | none => exact allRead_defaultLogging
    | some v =>
      cases v with
      | map entries =>
        rw [hv] at hchecked
        simp only [layered_map_map] at hchecked
        exact (checkMapping_eq_valid_iff.mp hchecked).1
      | _ => rfl
  have hchecked : checkSetting (merge (merge standardEntries file) settings) "logging" checkMapping
      standard.logging = .valid (Entries.ofList (readings (merge (fileSection file) upper))) := by
    rw [checkSetting, field?_logging_over hfile hkeyed hasks.logging htexts]
    exact checkMapping_eq_valid_iff.mpr
      ⟨allRead_merge.mpr ⟨hread, allRead_of_hasTextKeys htexts⟩, rfl⟩
  refine ⟨_, ofEntries_eq_ok_iff.mpr ⟨?_, hpasses.congr (fun {_ name _ _} hname _ => ?_) hchecked⟩⟩
  · rw [allTextKeys_merge, hkeys, htextKeys, Bool.and_self]
  · have hnone : settings.get? (.str name) = none := hasks.only name hname
    rw [checkSetting, checkSetting, Entries.field?, Entries.field?,
      get?_merge (Value.isKeyed_map.mp (isKeyed_base hfile)).1 hsettingsKeys hdistinct, hnone]

/-! ## Runs -/

/-- Numbers survive the environment. In an environment whose only variables of its own ask for a log
file with a limit and a number of backups, every file that is accepted without them is accepted, and
the run logs with these numbers unless the file holds something under the bytes of the name of the file
section: that is then its file section. Every integer with no more digits than are read is the value of
its text, and a text that is neither a word for a truth value in any letter case nor made of digits,
with a minus sign before them or without, is its own value. -/
theorem environment_numbers (t : FileTree) (path : Path) (environment : List (String × String))
    (file : Entries) (limit backups : Int) :
    (HasFewDigits limit → HasFewDigits backups →
      (ownVariables environment).Perm (logFileVariables limit backups) →
      settingsAt t path = .ok file →
        (∀ plain c, ownVariables plain = [] → load t (some path) plain [] = .ok c →
          ∃ c', load t (some path) environment [] = .ok c') ∧
        ∀ c, load t (some path) environment [] = .ok c →
          (valueAt? [.str "logging", bytesOf "file"] (.map file) = none →
            LogsWith c.logging limit backups) ∧
          ∀ v, valueAt? [.str "logging", bytesOf "file"] (.map file) = some v →
            c.logging.field? "file" = some v) ∧
    (∀ n, HasFewDigits n → ∃ v, readVariable (toString n) = .ok v ∧ v.asInteger = .ok n) ∧
    ∀ text : String, (∀ word ∈ flagWords, text.toLower ≠ word) →
      (¬∃ negative digits, text.toList = Number.signed negative digits ∧ digits ≠ [] ∧
        ∀ c ∈ digits, Text.isDigit c = true) → readVariable text = .ok (.str text) := by
  refine ⟨fun hlimit hbackups henvironment hfile => ?_, fun n => readVariable_toString,
    fun text => readVariable_eq_text⟩
  have hkeyed := isKeyed_of_settingsAt hfile
  obtain ⟨settings, upper, hsettings, hasks⟩ := exists_settings hlimit hbackups henvironment
  rw [load_file_environment hfile hsettings]
  refine ⟨fun plain c hplain hc => ?_, fun c hc => ?_⟩
  · have hnone : fromEnvironment variableStart plain = .ok [] := by
      rw [← fromEnvironment_ownVariables, hplain]
      rfl
    rw [load_file_environment hfile hnone, merge_nil_right] at hc
    exact exists_ofEntries_over hasks hkeyed (allTextKeys_of_fromEnvironment hsettings) hc
  · have hsection := field?_file_of_ofEntries hasks hkeyed hc
    refine ⟨fun hnone => ?_, fun v hv => by rw [hsection, hv, Option.some_or]⟩
    rw [hnone, Option.none_or] at hsection
    obtain ⟨inner, hinner, henabled, hlimit, hbackups⟩ := exists_fileSection_over hasks hkeyed
    exact logsWith_of_file (hsection.trans hinner) henabled hlimit hbackups

/-- Over a file that gives no numbers the variables give one and zero, in any order and with other
variables between them. -/
theorem environment_numbers_truthValues :
    let document : Entries := [(.str "logging", .map [(.str "file", .map
      [(.str "max_bytes", .str "many"), (.str "backup_count", .null)])])]
    let environment := [("TONPACK_LOGGING_FILE_BACKUP_COUNT", "0"), ("HOME", "/root"),
      ("TONPACK_LOGGING_FILE_ENABLED", "true"), ("TONPACK_LOGGING_FILE_MAX_BYTES", "1")]
    HasFewDigits 1 ∧ HasFewDigits 0 ∧
      (ownVariables environment).Perm (logFileVariables 1 0) ∧
      (∃ (t : FileTree) (c : Config),
        settingsAt t (Path.ofString "release.JSON") = .ok document ∧
        load t (some (Path.ofString "release.JSON")) environment [] = .ok c ∧
        LogsWith c.logging 1 0) ∧
      HasFewDigits (-12) ∧
      (∃ v, readVariable (toString (-12 : Int)) = .ok v ∧ v.asInteger = .ok (-12)) ∧
      readVariable "1_000" = .ok (.str "1_000") := by
  intro document environment
  have hone : HasFewDigits 1 := by decide
  have hzero : HasFewDigits 0 := by decide
  have htwelve : HasFewDigits (-12) := by decide
  have henvironment : (ownVariables environment).Perm (logFileVariables 1 0) := by decide +kernel
  have hplain : (Value.map document).IsPlain :=
    ⟨⟨["logging"], by decide, rfl⟩, ⟨⟨["file"], by decide, rfl⟩,
      ⟨⟨["max_bytes", "backup_count"], by decide, rfl⟩, trivial, trivial, trivial⟩, trivial⟩, trivial⟩
  obtain ⟨t, hfile⟩ := exists_settingsAt exists_openFor_emptyAt (documentIn_write hplain (by decide))
  obtain ⟨c₀, hc₀⟩ := (exists_ofEntries_iff hplain.isTextKeyed.isKeyed).mp
    (⟨_, rfl⟩ : ∃ c, ofEntries document = .ok c)
  obtain ⟨hruns, hnumbers, htexts⟩ :=
    environment_numbers t (Path.ofString "release.JSON") environment document 1 0
  obtain ⟨haccepted, hlogs⟩ := hruns hone hzero henvironment hfile
  obtain ⟨c, hc⟩ := haccepted [] c₀ rfl ((load_file hfile).trans hc₀)
  refine ⟨hone, hzero, henvironment, ⟨t, c, hfile, hc, (hlogs c hc).1 rfl⟩, htwelve,
    hnumbers (-12) htwelve, htexts "1_000" (by decide +kernel) fun hdigits => ?_⟩
  exact absurd (looksNumeric_iff.mpr hdigits) (by decide)

/-! ## A file section under the bytes of its name -/

def bytesNameSection : Entries :=
  [(.str "enabled", .bool true), (.str "path", .str "ton.log"), (.str "max_bytes", .int 7)]

def bytesNameText : String :=
  "logging: \x7b!!binary ZmlsZQ==: \x7benabled: true, path: ton.log, max_bytes: 7\x7d\x7d"

def bytesNameNodes : Yaml.Nodes := #[
  ⟨"tag:yaml.org,2002:map", .mapping [(1, 2)], ⟨0, 0, 0⟩⟩,
  ⟨"tag:yaml.org,2002:str", .scalar "logging", ⟨0, 0, 0⟩⟩,
  ⟨"tag:yaml.org,2002:map", .mapping [(3, 4)], ⟨9, 0, 9⟩⟩,
  ⟨"tag:yaml.org,2002:binary", .scalar "ZmlsZQ==", ⟨10, 0, 10⟩⟩,
  ⟨"tag:yaml.org,2002:map", .mapping [(5, 6), (7, 8), (9, 10)], ⟨29, 0, 29⟩⟩,
  ⟨"tag:yaml.org,2002:str", .scalar "enabled", ⟨30, 0, 30⟩⟩,
  ⟨"tag:yaml.org,2002:bool", .scalar "true", ⟨39, 0, 39⟩⟩,
  ⟨"tag:yaml.org,2002:str", .scalar "path", ⟨45, 0, 45⟩⟩,
  ⟨"tag:yaml.org,2002:str", .scalar "ton.log", ⟨51, 0, 51⟩⟩,
  ⟨"tag:yaml.org,2002:str", .scalar "max_bytes", ⟨60, 0, 60⟩⟩,
  ⟨"tag:yaml.org,2002:int", .scalar "7", ⟨71, 0, 71⟩⟩]

def bytesNameSettings : Entries :=
  [(.str "logging", .map [(bytesOf "file", .map bytesNameSection)])]

theorem read_bytesNameText :
    Yaml.read (.ofBytes bytesNameText.toUTF8) = .ok (.map bytesNameSettings) :=
  Yaml.read_of_nodes (by decide) (by decide)
    (by decide +kernel : (Yaml.readDocument ⟨bytesNameText.toList, none⟩).toOption =
      some (bytesNameNodes, some 0)) (by decide +kernel)

/-- The section in the file is the one of the configuration, whatever the variables give. -/
theorem load_bytesName : ∃ (t : FileTree) (c₀ c : Config),
    settingsAt t (Path.ofString "release.yaml") = .ok bytesNameSettings ∧
      load t (some (Path.ofString "release.yaml")) [] [] = .ok c₀ ∧
      load t (some (Path.ofString "release.yaml")) (logFileVariables 20 1) [] = .ok c ∧
      ¬LogsWith c.logging 20 1 := by
  obtain ⟨t, hfile⟩ := exists_settingsAt_yaml read_bytesNameText
  have hkeyed := isKeyed_of_settingsAt hfile
  have hread : AllRead [(bytesOf "file", .map bytesNameSection)] := rfl
  obtain ⟨c₀, hc₀⟩ := (exists_ofEntries_iff hkeyed).mp
    ⟨_, ofEntries_logging (checkMapping_eq_valid_iff.mpr ⟨hread, rfl⟩)⟩
  have henvironment : (ownVariables (logFileVariables 20 1)).Perm (logFileVariables 20 1) := by
    decide +kernel
  obtain ⟨settings, upper, hsettings, hasks⟩ :=
    exists_settings (by decide) (by decide) henvironment
  obtain ⟨c, hc⟩ :=
    exists_ofEntries_over hasks hkeyed (allTextKeys_of_fromEnvironment hsettings) hc₀
  have hsection : c.logging.field? "file" = some (.map bytesNameSection) :=
    field?_file_of_ofEntries hasks hkeyed hc
  have hseven : LogsWith c.logging 7 5 := logsWith_of_file hsection rfl rfl rfl
  have hvalue : fromEnvironment variableStart (logFileVariables 20 1) =
      .ok [(.str "logging", .map [(.str "file", .map [(.str "enabled", .bool true),
        (.str "max_bytes", .int 20), (.str "backup_count", .bool true)])])] := by
    decide +kernel
  obtain rfl := Except.ok.inj (hsettings.symm.trans hvalue)
  cases hasks.logging
  have hlogging := (checkMapping_eq_valid_iff.mp (checkLogging_over hasks hkeyed hc)).2
  have hconsole : (Logging.Manager.ofEntries c.logging).part "console" =
      .ok [(.str "enabled", .bool true)] := by
    rw [← hlogging]
    rfl
  have hpart : (Logging.Manager.ofEntries c.logging).part "file" = .ok bytesNameSection := by
    rw [Logging.Manager.part, Logging.Manager.ofEntries, hsection]
  have hlevel : (Logging.Manager.ofEntries c.logging).level = .ok .info := by
    rw [← hlogging]
    rfl
  have hformat : (Logging.Manager.ofEntries c.logging).format = .ok .text := by
    rw [← hlogging]
    rfl
  let w : World := ⟨.emptyAt [], .initial default, [], []⟩
  obtain ⟨m, w', hok⟩ := Logging.Manager.exists_setUp_ok (w := w) hlevel hformat hconsole hpart
    fun _ hw => Logging.Manager.exists_openLogFile_here hw rfl rfl rfl
  refine ⟨t, c₀, c, hfile, (load_file hfile).trans hc₀,
    (load_file_environment hfile hsettings).trans hc, fun h => ?_⟩
  cases (h.unique hseven hok).1

end ReleasePackaging.Config
