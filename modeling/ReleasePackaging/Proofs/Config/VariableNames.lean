import ReleasePackaging.Proofs.Config.Variables
import ReleasePackaging.Proofs.Text.Split

/-!
# What the names of variables stand for

After a common beginning the name of a variable is read in lower case. The name of a setting stands
for that setting. Otherwise the part before the first underscore has to be the name of a setting, and
something has to follow it: the parts that follow are then grouped to keys within that setting.
-/
namespace ReleasePackaging.Config

variable {start name key text : String} {keys : List String} {v : Value}

/-- The path of keys that a name in lower case stands for. -/
inductive StandsFor : String → List String → Prop where
  | setting {key : String} : key ∈ settingNames → StandsFor key [key]
  | inside {key head : String} {parts : List String} : key ∉ settingNames → head ∈ settingNames →
      (∀ part ∈ head :: parts, '_' ∉ part.toList) → key = "_".intercalate (head :: parts) →
      "_".intercalate parts ≠ "" →
      StandsFor key (head :: groupKeys (entryOf (.map standardEntries) head) parts)

def Reaches (start name : String) (keys : List String) : Prop :=
  ∃ rest, name = start ++ rest ∧ StandsFor (Text.lower rest) keys

/-- What a variable, given by its name and its text, assigns at the path that it reaches: the text as
it is if its name is that of a setting other than the flag, and otherwise the value read from the
text. -/
inductive Assigns (start : String) : String × String → List String → Value → Prop where
  | plain {rest text : String} : Text.lower rest ∈ settingNames → Text.lower rest ≠ "dev_mode" →
      Assigns start (start ++ rest, text) [Text.lower rest] (.str text)
  | read {rest text : String} {keys : List String} {v : Value} :
      StandsFor (Text.lower rest) keys →
      (Text.lower rest ∈ settingNames → Text.lower rest = "dev_mode") → readVariable text = .ok v →
      Assigns start (start ++ rest, text) keys v

/-! ## Names -/

theorem ne_nil_of_intercalate {parts : List String} (h : "_".intercalate parts ≠ "") :
    parts ≠ [] := by
  rintro rfl
  exact h rfl

/-- A name that stands for a path within a setting is cut after the name of the setting. -/
theorem cut_intercalate_cons {head : String} {parts : List String} (hhead : '_' ∉ head.toList)
    (h : "_".intercalate parts ≠ "") :
    Text.cut '_' ("_".intercalate (head :: parts)) = (head, some ("_".intercalate parts)) := by
  refine Text.cut_of_append hhead ?_
  rw [String.intercalate_cons_of_ne_nil (ne_nil_of_intercalate h)]
  simp

theorem splitAll_intercalate {parts : List String} (hparts : ∀ part ∈ parts, '_' ∉ part.toList)
    (h : "_".intercalate parts ≠ "") : Text.splitAll '_' ("_".intercalate parts) = parts :=
  (Text.splitAll_eq_iff (ne_nil_of_intercalate h)).mpr ⟨hparts, rfl⟩

theorem variablePath?_of_inside {head : String} {parts : List String}
    (hkey : "_".intercalate (head :: parts) ∉ settingNames) (hhead : head ∈ settingNames)
    (hparts : ∀ part ∈ head :: parts, '_' ∉ part.toList) (hrest : "_".intercalate parts ≠ "") :
    variablePath? ("_".intercalate (head :: parts)) =
      some (head :: groupKeys (entryOf (.map standardEntries) head) parts) := by
  obtain ⟨hcut, hlater⟩ := List.forall_mem_cons.mp hparts
  rw [variablePath?, if_neg (by simpa using hkey), cut_intercalate_cons hcut hrest]
  simp only [splitAll_intercalate hlater hrest]
  exact if_pos (by simp [hhead, hrest])

/-- A name cut at its first underscore stands for a path within the setting before it. -/
theorem standsFor_of_cut {head rest : String} (hkey : key ∉ settingNames)
    (hhead : head ∈ settingNames) (hcut : Text.cut '_' key = (head, some rest)) (hrest : rest ≠ "") :
    StandsFor key
      (head :: groupKeys (entryOf (.map standardEntries) head) (Text.splitAll '_' rest)) := by
  obtain ⟨hfirst, htext⟩ := Text.cut_eq_some_iff.mp hcut
  have hne : Text.splitAll '_' rest ≠ [] := by simp [Text.splitAll_eq]
  obtain ⟨hparts, hjoin⟩ := (Text.splitAll_eq_iff hne).mp rfl
  have hjoined : "_".intercalate (Text.splitAll '_' rest) = rest := hjoin
  refine .inside hkey hhead (List.forall_mem_cons.mpr ⟨hfirst, hparts⟩) ?_ (hjoined.trans_ne hrest)
  rw [String.intercalate_cons_of_ne_nil hne, hjoined]
  refine String.toList_inj.mp ?_
  simp [htext]

/-- The path of a name is the one that the name stands for. -/
theorem variablePath?_eq_some_iff : variablePath? key = some keys ↔ StandsFor key keys := by
  constructor
  · intro h
    unfold variablePath? at h
    split at h
    · next hsetting =>
      cases h
      exact .setting (List.contains_iff_mem.mp hsetting)
    · next hsetting =>
      have hkey : key ∉ settingNames := fun hmem => hsetting (List.contains_iff_mem.mpr hmem)
      split at h
      · next head rest hcut =>
        split at h
        · next hnames =>
          cases h
          obtain ⟨hhead, hrest⟩ := Bool.and_eq_true_iff.mp hnames
          exact standsFor_of_cut hkey (List.contains_iff_mem.mp hhead) hcut (bne_iff_ne.mp hrest)
        · cases h
      · cases h
  · rintro (⟨hkey⟩ | ⟨hkey, hhead, hparts, rfl, hrest⟩)
    · exact if_pos (List.contains_iff_mem.mpr hkey)
    · exact variablePath?_of_inside hkey hhead hparts hrest

theorem pathOf?_append (start rest : String) :
    pathOf? start (start ++ rest) = variablePath? (Text.lower rest) := by
  have hstart : start.toList.isPrefixOf (start ++ rest).toList = true := by
    rw [List.isPrefixOf_iff_prefix, String.toList_append]
    exact List.prefix_append _ _
  have hrest : String.ofList ((start ++ rest).toList.drop start.length) = rest := by
    rw [String.toList_append, ← String.length_toList, List.drop_left, String.ofList_toList]
  rw [pathOf?, if_pos hstart, hrest]

theorem pathOf?_eq_some_iff : pathOf? start name = some keys ↔ Reaches start name keys := by
  constructor
  · intro h
    by_cases hstart : start.toList.isPrefixOf name.toList = true
    · obtain ⟨rest, hrest⟩ := List.isPrefixOf_iff_prefix.mp hstart
      have hname : name = start ++ String.ofList rest := String.toList_inj.mp (by simp [← hrest])
      rw [hname, pathOf?_append] at h
      exact ⟨String.ofList rest, hname, variablePath?_eq_some_iff.mp h⟩
    · rw [pathOf?, if_neg hstart] at h
      cases h
  · rintro ⟨rest, rfl, hrest⟩
    rw [pathOf?_append]
    exact variablePath?_eq_some_iff.mpr hrest

/-- A variable reaches one path at most. -/
theorem Reaches.unique {other : List String} (h : Reaches start name keys)
    (hother : Reaches start name other) : keys = other := by
  rw [← pathOf?_eq_some_iff] at h hother
  exact Option.some.inj (h.symm.trans hother)

/-! ## Paths -/

theorem StandsFor.ne_nil (h : StandsFor key keys) : keys ≠ [] := by
  cases h <;> exact List.cons_ne_nil _ _

theorem groupKeys_ne_nil {known : Value} {parts : List String} (h : parts ≠ []) :
    groupKeys known parts ≠ [] := by
  obtain ⟨part, rest, rfl⟩ := List.exists_cons_of_ne_nil h
  rw [groupKeys]
  exact List.cons_ne_nil _ _

/-- The name of a setting stands for that setting alone. -/
theorem StandsFor.eq_of_mem (h : StandsFor key keys) (hkey : key ∈ settingNames) : keys = [key] := by
  cases h with
  | setting _ => rfl
  | inside hother _ _ _ _ => exact absurd hkey hother

/-- The text of a variable is read unless its name is that of a setting other than the flag. -/
theorem StandsFor.isRead_iff (h : StandsFor key keys) :
    IsRead keys ↔ (key ∈ settingNames → key = "dev_mode") := by
  cases h with
  | setting hkey =>
    refine ⟨fun hread _ => hread key rfl, fun hflag only heq => ?_⟩
    exact List.singleton_inj.mp heq ▸ hflag hkey
  | inside hkey _ _ _ hrest =>
    refine iff_of_true (fun only heq => ?_) fun hmem => absurd hmem hkey
    exact absurd (List.cons.inj heq).2 (groupKeys_ne_nil (ne_nil_of_intercalate hrest))

/-! ## Values -/

theorem variableValue_of_isRead (h : IsRead keys) : variableValue keys text = readVariable text := by
  unfold variableValue
  split
  · exact if_pos (h _ rfl)
  · rfl

/-- What a variable assigns is the value of its text at the path that it reaches. -/
theorem assigns_iff : Assigns start (name, text) keys v ↔
    Reaches start name keys ∧ variableValue keys text = .ok v := by
  constructor
  · rintro (⟨hkey, hflag⟩ | ⟨hstands, hflag, hread⟩)
    · exact ⟨⟨_, rfl, .setting hkey⟩, if_neg hflag⟩
    · exact ⟨⟨_, rfl, hstands⟩, (variableValue_of_isRead (hstands.isRead_iff.mpr hflag)).trans hread⟩
  · rintro ⟨⟨rest, rfl, hstands⟩, hv⟩
    by_cases hread : IsRead keys
    · rw [variableValue_of_isRead hread] at hv
      exact .read hstands (hstands.isRead_iff.mp hread) hv
    · obtain ⟨hkey, hflag⟩ := Classical.not_imp.mp (mt hstands.isRead_iff.mpr hread)
      obtain rfl := hstands.eq_of_mem hkey
      rw [variableValue, if_neg hflag] at hv
      cases hv
      exact .plain hkey hflag

end ReleasePackaging.Config
