import ReleasePackaging.Proofs.Config.Acceptance
import ReleasePackaging.Proofs.Config.Plain
import ReleasePackaging.Proofs.Config.TextKeys
import ReleasePackaging.Proofs.Logging.Effect
import ReleasePackaging.Proofs.Text.Decode
import ReleasePackaging.Proofs.Value.TextKeyed

/-!
# Defaults of the logging section

The logging section has its defaults twice: its settings can be put over them, and a manager falls
back on its own for what its settings do not give. Both have the same effect. When a section is
checked its keys are read as texts, which can bring two keys together; then the effect is the same
as long as the key that is a text already comes first.
-/
namespace ReleasePackaging.Config

open Logging.Manager (isEnabled fileSettings part SameEffect)

variable {settings full lower upper checked : Entries} {default v key : Value}
  {old new : Option Value} {name text : String} {location : List String}

/-! ## Defaults below, and defaults to fall back on -/

/-- What becomes of a setting, given or not, where a default is supplied for it. -/
inductive Supplied (default : Value) : Option Value → Option Value → Prop
  | missing : Supplied default none (some default)
  | kept (v : Value) : Supplied default (some v) (some v)
  | layered (v : Value) (hkeyed : v.IsKeyed) :
    Supplied default (some v) (some (layered (some default) v))

def SuppliesDefaults (settings full : Entries) : Prop :=
  ∀ name default, defaultLogging.field? name = some default →
    Supplied default (settings.field? name) (full.field? name)

theorem isKeyed_defaultLogging : (Value.map defaultLogging).IsKeyed :=
  Value.isKeyed_of_isPlain _ isPlain_standard

theorem layered_over_not_map (h : default.isMap = false) : layered (some default) v = v := by
  refine layered_over_other (fun lower heq => ?_) v
  cases heq
  cases h

/-- A layer supplies what it is put over with its settings. -/
theorem supplied_merge (hlower : (Value.map lower).IsKeyed) (hupper : (Value.map upper).IsKeyed)
    (hdefault : lower.field? name = some default) :
    Supplied default (upper.field? name) (Entries.field? name (merge lower upper)) := by
  obtain ⟨hkeys, hdistinct, _⟩ := Value.isKeyed_map.mp hupper
  unfold Entries.field? at hdefault ⊢
  rw [get?_merge (Value.isKeyed_map.mp hlower).1 hkeys hdistinct, hdefault]
  cases hv : upper.get? (.str name) with
  | none => exact .missing
  | some v => exact .layered v (hupper.get? hv)

theorem suppliesDefaults_merge (hsettings : (Value.map settings).IsKeyed) :
    SuppliesDefaults settings (merge defaultLogging settings) :=
  fun _ _ hdefault => supplied_merge isKeyed_defaultLogging hsettings hdefault

/-- Falling back on a default that is no mapping gives what there is once it has been supplied. -/
theorem Supplied.getD_eq (h : Supplied default old new) (hdefault : default.isMap = false) :
    old.getD default = new.getD default := by
  cases h with
  | missing => rfl
  | kept v => rfl
  | layered v _ => exact (layered_over_not_map hdefault).symm

theorem getD_merge (name : String) (default : Value) (hlower : (Value.map lower).IsKeyed)
    (hupper : (Value.map upper).IsKeyed)
    (hdefault : lower.field? name = some default) (hmap : default.isMap = false) :
    (upper.field? name).getD default = (Entries.field? name (merge lower upper)).getD default :=
  (supplied_merge hlower hupper hdefault).getD_eq hmap

/-- What is taken from a section of the settings is the same once a default section has been
supplied, if it is the same for any section put over that one. -/
theorem Supplied.map_part {β : Type} {f : Entries → β}
    (h : Supplied (.map lower) (settings.field? name) (full.field? name))
    (hf : ∀ upper, (Value.map upper).IsKeyed → f upper = f (merge lower upper)) :
    ((Logging.Manager.ofEntries settings).part name).map f =
      ((Logging.Manager.ofEntries full).part name).map f := by
  simp only [part, Logging.Manager.ofEntries]
  generalize settings.field? name = old at h
  generalize full.field? name = new at h
  cases h with
  | missing => exact congrArg Except.ok (hf [] Value.isKeyed_nil)
  | kept v => rfl
  | layered v hkeyed =>
    cases hmap : v.isMap with
    | false => rw [layered_of_not_map hmap]
    | true =>
      obtain ⟨upper, rfl⟩ := Value.exists_entries hmap
      exact congrArg Except.ok (hf upper hkeyed)

/-- Settings have the same effect with the defaults supplied. -/
theorem SuppliesDefaults.sameEffect (h : SuppliesDefaults settings full) :
    SameEffect settings full where
  level := by
    have hlevel := (h "level" (.str "INFO") rfl).getD_eq rfl
    simp only [Logging.Manager.level, Logging.Manager.ofEntries, hlevel]
  formatName := by
    have hformat := (h "format" (.str "text") rfl).getD_eq rfl
    simp only [Logging.Manager.formatName, Logging.Manager.ofEntries, hformat]
  console := by
    obtain ⟨lower, hlower⟩ : ∃ lower, defaultLogging.field? "console" = some (.map lower) :=
      ⟨_, rfl⟩
    have hkeyed := isKeyed_defaultLogging.get? hlower
    refine (h "console" _ hlower).map_part fun upper hupper => ?_
    cases hlower
    simp only [isEnabled, getD_merge "enabled" (.bool true) hkeyed hupper rfl rfl]
  file := by
    obtain ⟨lower, hlower⟩ : ∃ lower, defaultLogging.field? "file" = some (.map lower) :=
      ⟨_, rfl⟩
    have hkeyed := isKeyed_defaultLogging.get? hlower
    refine (h "file" _ hlower).map_part fun upper hupper => ?_
    cases hlower
    simp only [isEnabled, fileSettings, getD_merge "enabled" (.bool false) hkeyed hupper rfl rfl,
      getD_merge "path" (.str "logs/tonpack.log") hkeyed hupper rfl rfl,
      getD_merge "max_bytes" (.int (10 * 1024 * 1024)) hkeyed hupper rfl rfl,
      getD_merge "backup_count" (.int 5) hkeyed hupper rfl rfl]

/-! ## Keys read as texts -/

/-- The text that a key is read as, if it is read as one. -/
def reading? (key : Value) : Option String :=
  match key with
  | .bytes bs => (Text.decode ⟨bs.toArray⟩).toOption
  | _ => key.text?

def bytesOf (text : String) : Value := .bytes text.toUTF8.data.toList

def readings (settings : Entries) : Entries :=
  settings.map fun entry => (.str ((reading? entry.1).getD ""), entry.2)

def AllRead (settings : Entries) : Prop :=
  (settings.all fun entry => (reading? entry.1).isSome) = true

/-- Whether no key that is read as a text comes before that text itself. -/
def IsFirst (name : String) (settings : Entries) : Prop :=
  (settings.map Prod.fst).Pairwise fun earlier later =>
    later.text? = some name → reading? earlier ≠ some name

theorem same_str_iff : key.same (.str text) = true ↔ key.text? = some text := by
  cases key <;> simp [Value.same, Value.sameScalar, Value.integer?, Value.text?]

theorem same_bytesOf_iff : key.same (bytesOf text) = true ↔ key = bytesOf text := by
  cases key <;> simp [bytesOf, Value.same, Value.sameScalar, Value.integer?, Value.text?]

theorem same_of_text? {a b : Value} (ha : a.text? = some text) (hb : b.text? = some text) :
    a.same b = true := by
  cases a <;> cases ha <;> cases b <;>
    first
      | exact beq_iff_eq.mpr (Option.some.inj hb).symm
      | cases hb

/-- A key is read as a text if it is that text or its bytes. -/
theorem reading?_eq_some_iff :
    reading? key = some text ↔ key.text? = some text ∨ key = bytesOf text := by
  cases key with
  | bytes bs =>
    have hbytes : (⟨bs.toArray⟩ : ByteArray) = text.toUTF8 ↔ bs = text.toUTF8.data.toList := by
      rw [ByteArray.ext_iff]
      exact ⟨fun h => by rw [← h], fun h => by rw [h]⟩
    calc (Text.decode ⟨bs.toArray⟩).toOption = some text
        ↔ Text.decode ⟨bs.toArray⟩ = .ok text := by
          cases Text.decode ⟨bs.toArray⟩ <;> simp [Except.toOption]
      _ ↔ bs = text.toUTF8.data.toList := Text.decode_eq_ok_iff.trans hbytes
      _ ↔ (Value.bytes bs).text? = some text ∨ .bytes bs = bytesOf text := by
          simp [bytesOf, Value.text?]
  | _ => simp [reading?, bytesOf]

theorem reading?_of_same {a b : Value} (h : a.same b = true) : reading? a = reading? b := by
  cases a <;> cases b <;>
    first
      | exact text?_of_same h
      | cases h
      | exact congrArg (fun bs => reading? (.bytes bs)) (beq_iff_eq.mp h)

theorem checkText_eq_valid_iff :
    checkText location key = .valid text ↔ reading? key = some text := by
  cases key with
  | bytes bs =>
    simp only [checkText, reading?]
    cases Text.decode ⟨bs.toArray⟩ <;> simp [refuse, Except.toOption]
  | _ => simp [checkText, reading?, Value.text?, refuse]

theorem allRead_cons :
    AllRead ((key, v) :: settings) ↔ (reading? key).isSome = true ∧ AllRead settings := by
  rw [AllRead, List.all_cons, Bool.and_eq_true, AllRead]

theorem readings_cons (h : reading? key = some text) :
    readings ((key, v) :: settings) = (.str text, v) :: readings settings := by
  rw [readings, List.map_cons, h]
  rfl

/-- The checks of all keys of a section pass if all of them are read. -/
theorem all_keys_eq_valid_iff {pairs : List (Value × Value)} :
    Checked.all (settings.map fun (key, v) =>
        (checkText (location ++ [keyLabel key, "[key]"]) key).map fun text => (.str text, v)) =
      .valid pairs ↔ AllRead settings ∧ readings settings = pairs := by
  induction settings generalizing pairs with
  | nil => simp [Checked.all, AllRead, readings]
  | cons entry rest ih =>
    obtain ⟨key, v⟩ := entry
    rw [List.map_cons, Checked.all, Checked.seq_eq_valid_iff, allRead_cons]
    constructor
    · rintro ⟨_, later, hfirst, hrest, rfl⟩
      obtain ⟨_, hpair, rfl⟩ := Checked.map_eq_valid_iff.mp hfirst
      obtain ⟨text, htext, rfl⟩ := Checked.map_eq_valid_iff.mp hpair
      obtain ⟨hall, rfl⟩ := ih.mp hrest
      have hkey := checkText_eq_valid_iff.mp htext
      exact ⟨⟨Option.isSome_of_eq_some hkey, hall⟩, readings_cons hkey⟩
    · rintro ⟨⟨hkey, hall⟩, rfl⟩
      obtain ⟨text, htext⟩ := Option.isSome_iff_exists.mp hkey
      refine ⟨_, _, Checked.map_eq_valid_iff.mpr ⟨(.str text, v), ?_, rfl⟩, ih.mpr ⟨hall, rfl⟩,
        (readings_cons htext).symm⟩
      exact Checked.map_eq_valid_iff.mpr ⟨text, checkText_eq_valid_iff.mpr htext, rfl⟩

/-- A section passes its check if all its keys are read, and then its values stand under what their
keys are read as, a later one replacing an earlier one. -/
theorem checkMapping_eq_valid_iff :
    checkMapping location (.map settings) = .valid checked ↔
      AllRead settings ∧ Entries.ofList (readings settings) = checked := by
  refine Checked.map_eq_valid_iff.trans ?_
  simp only [all_keys_eq_valid_iff, and_assoc, exists_and_left, exists_eq_left']

/-! ## What a section holds once it has been checked -/

/-- What a section holds under the bytes of a text, or else under the text itself. -/
def heldAs (name : String) (settings : Entries) : Option Value :=
  (settings.get? (bytesOf name)).or (settings.field? name)

/-- An entry whose key is read as another text adds nothing. -/
theorem heldAs_cons_of_ne (htext : reading? key = some text) (hname : text ≠ name) :
    heldAs name ((key, v) :: settings) = heldAs name settings := by
  have hother : ¬key.same (.str name) = true ∧ ¬key.same (bytesOf name) = true := by
    rw [same_str_iff, same_bytesOf_iff, ← not_or, ← reading?_eq_some_iff, htext, Option.some.injEq]
    exact hname
  simp only [heldAs, Entries.field?, Entries.get?, if_neg hother.1, if_neg hother.2]

/-- An entry whose key is read as the text gives what the rest of the section does not. -/
theorem heldAs_cons_of_eq (htext : reading? key = some name)
    (hkeys : Entries.HaveKeys ((key, v) :: settings))
    (hdistinct : Entries.AreDistinct ((key, v) :: settings)) (hfirst : IsFirst name ((key, v) :: settings)) :
    heldAs name ((key, v) :: settings) = (heldAs name settings).or (some v) := by
  rcases reading?_eq_some_iff.mp htext with hown | rfl
  · have hsame := same_str_iff.mpr hown
    have hother : ¬key.same (bytesOf name) = true := fun h => by
      rw [same_bytesOf_iff.mp h] at hown
      cases hown
    have htail : Entries.field? name settings = none :=
      Entries.get?_tail_eq_none hkeys hdistinct hsame
    have hhead : Entries.field? name ((key, v) :: settings) = some v := if_pos hsame
    rw [heldAs, heldAs, Entries.get?, if_neg hother, hhead, htail, Option.or_none]
  · have hsame : (bytesOf name).same (bytesOf name) = true := same_bytesOf_iff.mpr rfl
    have htail := Entries.get?_tail_eq_none hkeys hdistinct hsame
    have hnone : Entries.field? name settings = none :=
      Entries.get?_eq_none fun entry hentry => Bool.eq_false_iff.mpr fun h =>
        List.rel_of_pairwise_cons hfirst (List.mem_map_of_mem hentry) (same_str_iff.mp h) htext
    rw [heldAs, heldAs, Entries.get?, if_pos hsame, htail, hnone]
    rfl

/-- What a section, put under what its keys are read as, holds under a text is what it holds under
its bytes or else under the text itself, as long as the text comes first. -/
theorem field?_foldl_put_readings (hread : AllRead settings) (hkeys : settings.HaveKeys)
    (hdistinct : settings.AreDistinct) (hfirst : IsFirst name settings) (before : Entries)
    (hbefore : before.HaveKeys) :
    Entries.field? name ((readings settings).foldl (fun entries (k, v) => entries.put k v) before) =
      (heldAs name settings).or (before.field? name) := by
  induction settings generalizing before with
  | nil => rfl
  | cons entry rest ih =>
    obtain ⟨key, v⟩ := entry
    obtain ⟨hkey, hrest⟩ := allRead_cons.mp hread
    obtain ⟨text, htext⟩ := Option.isSome_iff_exists.mp hkey
    have hrestKeys : Entries.HaveKeys rest := fun entry hentry =>
      hkeys entry (List.mem_cons_of_mem _ hentry)
    have hstr : (Value.str text).IsKey := trivial
    have hput : Entries.field? name (before.put (.str text) v) =
        if text = name then some v else before.field? name := by
      rw [Entries.field?, Entries.get?_put hbefore hstr]
      simp only [same_str_iff, Value.text?, Option.some.injEq, Entries.field?]
    rw [readings_cons htext, List.foldl_cons,
      ih hrest hrestKeys hdistinct.of_cons hfirst.of_cons _ (hbefore.put hstr v), hput]
    by_cases hname : text = name
    · subst hname
      rw [if_pos rfl, heldAs_cons_of_eq htext hkeys hdistinct hfirst, Option.or_assoc, Option.some_or]
    · rw [if_neg hname, heldAs_cons_of_ne htext hname]

theorem field?_of_checkMapping (hsettings : (Value.map settings).IsKeyed)
    (hfirst : IsFirst name settings)
    (h : checkMapping location (.map settings) = .valid checked) :
    checked.field? name = (settings.get? (bytesOf name)).or (settings.field? name) := by
  obtain ⟨hkeys, hdistinct, _⟩ := Value.isKeyed_map.mp hsettings
  obtain ⟨hread, rfl⟩ := checkMapping_eq_valid_iff.mp h
  rw [Entries.ofList, field?_foldl_put_readings hread hkeys hdistinct hfirst [] nofun]
  exact Option.or_none

/-- A text that a layer holds comes first also with another layer put over it. -/
theorem isFirst_merge (hname : ∃ own ∈ lower.map Prod.fst, own.text? = some name)
    (hfirst : IsFirst name lower) (upper : List (Value × Value)) :
    IsFirst name (merge lower upper) := by
  induction upper generalizing lower with
  | nil => exact hfirst
  | cons entry rest ih =>
    obtain ⟨key, v⟩ := entry
    rw [merge]
    obtain ⟨own, hmem, hown⟩ := hname
    rcases Entries.keys_put lower key (layered (lower.get? key) v) with
      ⟨_, hkeys⟩ | ⟨hnone, hkeys⟩
    · exact ih ⟨own, hkeys ▸ hmem, hown⟩ (by rwa [IsFirst, hkeys])
    · refine ih ⟨own, hkeys ▸ List.mem_append_left _ hmem, hown⟩ ?_
      rw [IsFirst, hkeys, List.pairwise_append]
      refine ⟨hfirst, List.pairwise_singleton _ _, fun a _ b hb hb' => ?_⟩
      -- The new key is not the text, which is there already.
      cases List.mem_singleton.mp hb
      have hsame : own.same key = true := same_of_text? hown hb'
      rw [hnone own hmem] at hsame
      cases hsame

/-- A text that a layer holds is held with another layer put over it. -/
theorem exists_text_merge (hname : ∃ own ∈ lower.map Prod.fst, own.text? = some name)
    (upper : List (Value × Value)) :
    ∃ own ∈ (merge lower upper).map Prod.fst, own.text? = some name := by
  by_contra hnone
  have hall : ((merge lower upper).all fun entry => entry.1.text? != some name) = true :=
    List.all_eq_true.mpr fun entry hentry => bne_iff_ne.mpr fun heq =>
      hnone ⟨entry.1, List.mem_map_of_mem hentry, heq⟩
  rw [all_keys_merge (P := fun key => key.text? != some name)
    (fun _ _ hsame => by rw [text?_of_same hsame]), Bool.and_eq_true] at hall
  obtain ⟨own, hmem, hown⟩ := hname
  obtain ⟨entry, hentry, rfl⟩ := List.mem_map.mp hmem
  exact bne_iff_ne.mp (List.all_eq_true.mp hall.1 entry hentry) hown

/-! ## Sections whose keys are texts -/

/-- A text comes first if all keys are texts. -/
theorem isFirst_of_hasTextKeys (h : settings.HasTextKeys) (name : String) :
    IsFirst name settings := by
  obtain ⟨names, hdistinct, hkeys⟩ := h
  rw [IsFirst, hkeys, List.pairwise_map]
  refine hdistinct.imp fun hother hlater hearlier => hother ?_
  cases hlater
  exact Option.some.inj hearlier

theorem allRead_of_hasTextKeys (h : settings.HasTextKeys) : AllRead settings := by
  refine List.all_eq_true.mpr ?_
  rintro ⟨key, v⟩ hentry
  obtain ⟨name, rfl⟩ := h.exists_name hentry
  rfl

theorem get?_bytesOf_of_hasTextKeys (h : settings.HasTextKeys) (name : String) :
    settings.get? (bytesOf name) = none := by
  refine Entries.get?_eq_none fun entry hentry => ?_
  obtain ⟨key, v⟩ := entry
  obtain ⟨own, rfl⟩ := h.exists_name hentry
  rfl

def loggingNames : List String := ["level", "format", "console", "file"]

theorem keys_defaultLogging : defaultLogging.map Prod.fst = loggingNames.map .str := rfl

theorem mem_loggingNames (h : defaultLogging.field? name = some default) : name ∈ loggingNames := by
  by_contra hother
  have hnone : defaultLogging.field? name = none := by
    refine Entries.get?_eq_none fun entry hentry => Bool.eq_false_iff.mpr fun hsame => hother ?_
    have hkey : entry.1 ∈ loggingNames.map .str := keys_defaultLogging ▸ List.mem_map_of_mem hentry
    obtain ⟨own, hown, heq⟩ := List.mem_map.mp hkey
    rw [← heq] at hsame
    cases same_str_iff.mp hsame
    exact hown
  rw [hnone] at h
  cases h

theorem isFirst_defaultLogging (name : String) : IsFirst name defaultLogging :=
  isFirst_of_hasTextKeys isSound_standard.logging name

/-- A section and the same section put over the defaults pass their checks as settings and these
settings with the defaults supplied. -/
theorem suppliesDefaults_of_checkMapping {location' : List String}
    (hsettings : (Value.map settings).IsKeyed)
    (hfirst : ∀ name ∈ loggingNames, IsFirst name settings)
    (h : checkMapping location (.map settings) = .valid checked)
    (hfull : checkMapping location' (.map (merge defaultLogging settings)) = .valid full) :
    SuppliesDefaults checked full := by
  intro name default hdefault
  have hname := mem_loggingNames hdefault
  obtain ⟨hkeys, hdistinct, hvalues⟩ := Value.isKeyed_map.mp hsettings
  have hkeyed := isKeyed_merge defaultLogging settings isKeyed_defaultLogging hkeys hvalues
  have hmerged : IsFirst name (merge defaultLogging settings) :=
    isFirst_merge ⟨.str name, keys_defaultLogging ▸ List.mem_map_of_mem hname, rfl⟩
      (isFirst_defaultLogging name) settings
  have hbytes : Entries.get? (bytesOf name) (merge defaultLogging settings) =
      settings.get? (bytesOf name) := by
    have hnone : defaultLogging.get? (bytesOf name) = none := rfl
    rw [get?_merge (Value.isKeyed_map.mp isKeyed_defaultLogging).1 hkeys hdistinct, hnone]
    cases settings.get? (bytesOf name) with
    | none => rfl
    | some v => exact congrArg some (layered_none v)
  rw [field?_of_checkMapping hsettings (hfirst name hname) h,
    field?_of_checkMapping hkeyed hmerged hfull, hbytes]
  cases settings.get? (bytesOf name) with
  | none => exact supplied_merge isKeyed_defaultLogging hsettings hdefault
  | some v => exact .kept v

end ReleasePackaging.Config
