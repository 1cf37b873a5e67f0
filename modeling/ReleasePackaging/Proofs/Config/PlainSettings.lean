import ReleasePackaging.Proofs.Config.Assignments

/-!
# Settings whose default is no mapping

A variable gives such a setting its value, whatever else is set. The version is the exception: its
name is a single part, so the names of other variables lead into it. The later one of the variable of
the version and such a variable decides whether the version is a value or a mapping.
-/
namespace ReleasePackaging.Config

open Value (HoldsMapAt LeafAt leafAt_cons leafAt_nil valueAt?)

variable {start name : String} {given : String × String} {environment : List (String × String)}
  {keys : List String} {settings : Entries} {v : Value}

/-- A setting whose default is no mapping. -/
def IsPlainSetting (name : String) : Prop :=
  name ∈ settingNames ∧ (entryOf (.map standardEntries) name).isMap = false

def ReachesInside (start : String) (given : String × String) (name : String) : Prop :=
  ∃ keys, keys ≠ [] ∧ Reaches start given.1 (name :: keys)

/-- Of the settings whose default is no mapping, names lead only into the version. -/
theorem ReachesInside.eq_version (h : ReachesInside start given name) (hplain : IsPlainSetting name) :
    name = "version" := by
  obtain ⟨keys, hkeys, rest, _, hstands⟩ := h
  have hversion : ∀ name ∈ settingNames, '_' ∉ name.toList →
      (entryOf (.map standardEntries) name).isMap = false → name = "version" := by decide
  generalize hpath : name :: keys = path at hstands
  cases hstands with
  | setting _ => exact absurd (List.cons.inj hpath).2 hkeys
  | inside _ _ hparts _ _ =>
    obtain ⟨rfl, _⟩ := List.cons.inj hpath
    exact hversion name hplain.1 (hparts name List.mem_cons_self) hplain.2

/-- Every variable that reaches a path assigns a value there, if the environment gives settings. -/
theorem exists_assigns (h : fromEnvironment start environment = .ok settings)
    (hgiven : given ∈ environment) (hreaches : Reaches start given.1 keys) :
    ∃ v, Assigns start given keys v := by
  cases hv : variableValue keys given.2 with
  | ok v => exact ⟨v, assigns_iff.mpr ⟨hreaches, hv⟩⟩
  | error fault =>
    obtain ⟨hread, hfalse⟩ := variableValue_error_iff.mp ⟨fault, hv⟩
    obtain ⟨_, hfault⟩ := fromEnvironment_error_iff.mpr
      ⟨given, hgiven, keys, pathOf?_eq_some_iff.mpr hreaches, hread, hfalse⟩
    rw [h] at hfault
    cases hfault

/-- If a list has a member of a kind, it has a last one. -/
theorem exists_last {α : Type} {P : α → Prop} {xs : List α} (h : ∃ a ∈ xs, P a) :
    ∃ before a after, xs = before ++ a :: after ∧ P a ∧ ∀ later ∈ after, ¬P later := by
  induction xs with
  | nil =>
    obtain ⟨_, hmem, _⟩ := h
    cases hmem
  | cons x rest ih =>
    by_cases hrest : ∃ a ∈ rest, P a
    · obtain ⟨before, a, after, rfl, ha, hafter⟩ := ih hrest
      exact ⟨x :: before, a, after, rfl, ha, hafter⟩
    · obtain ⟨a, hmem, ha⟩ := h
      rcases List.mem_cons.mp hmem with rfl | hmem
      · exact ⟨[], a, rest, rfl, ha, fun later hlater hP => hrest ⟨later, hlater, hP⟩⟩
      · exact absurd ⟨a, hmem, ha⟩ hrest

/-- What a variable reaches that does not reach below a name is apart from all paths there. -/
theorem apart_of_reaches {other : List String} (hreaches : Reaches start given.1 other)
    (hnot : ∀ path, other ≠ name :: path) : Apart (name :: keys) other := by
  obtain ⟨head, later, rfl⟩ := List.exists_cons_of_ne_nil hreaches.ne_nil
  exact apart_cons_cons.mpr (.inl fun heq => hnot later (heq ▸ rfl))

/-- The settings hold a mapping under a name exactly if a variable reaches inside it and none after
that reaches the name itself. -/
theorem holdsMapAt_iff (h : fromEnvironment start environment = .ok settings) :
    HoldsMapAt [.str name] (.map settings) ↔
      ∃ before given after, environment = before ++ given :: after ∧ ReachesInside start given name ∧
        ∀ later ∈ after, ¬Reaches start later.1 [name] := by
  have htree := isTree_of_fromEnvironment h
  constructor
  · rintro ⟨inner, hinner⟩
    obtain ⟨w, hw, heq⟩ := Option.bind_eq_some_iff.mp hinner
    cases heq
    obtain ⟨keys, leaf, hleaf⟩ := (htree.get? hw).exists_leafAt (htree.ne_nil hw)
    have hkeys : keys ≠ [] := by
      rintro rfl
      cases (leafAt_nil.mp hleaf).2
    obtain ⟨before, given, after, heq, hassigns, hafter⟩ :=
      (leafAt_iff_lastAt h).mp (leafAt_cons.mpr ⟨_, hw, hleaf⟩)
    refine ⟨before, given, after, heq, ⟨keys, hkeys, hassigns.reaches⟩, fun later hlater hname => ?_⟩
    exact (hafter later hlater [name] hname).2 (by simp)
  · rintro ⟨before, given, after, rfl, ⟨keys, hkeys, hreaches⟩, hafter⟩
    -- The last variable that reaches the name or a path inside it assigns a leaf there.
    obtain ⟨between, last, rest, heq, ⟨path, hpath⟩, hrest⟩ :=
      exists_last (P := fun given => ∃ path, Reaches start given.1 (name :: path))
        ⟨given, List.mem_cons_self (l := after), keys, hreaches⟩
    have hinside : path ≠ [] := by
      rintro rfl
      have hlast : last ∈ given :: after := by simp [heq]
      rcases List.mem_cons.mp hlast with rfl | hlast
      · exact hkeys (List.cons.inj (hreaches.unique hpath)).2
      · exact hafter last hlast hpath
    obtain ⟨w, hassigns⟩ := exists_assigns h (by simp [heq]) hpath
    have hlastAt : LastAt start (before ++ given :: after) (name :: path) w :=
      ⟨before ++ between, last, rest, by simp [heq], hassigns, fun later hlater other hother =>
        apart_of_reaches hother fun path heq => hrest later hlater ⟨path, heq ▸ hother⟩⟩
    obtain ⟨u, hu, hleaf⟩ := leafAt_cons.mp ((leafAt_iff_lastAt h).mpr hlastAt)
    cases hmap : u.isMap with
    | false => exact absurd ((Value.leafAt_of_not_map hmap).mp hleaf).1 hinside
    | true =>
      obtain ⟨inner, rfl⟩ := Value.exists_entries hmap
      have hget : Entries.get? (.str name) settings = some (.map inner) := hu
      exact ⟨inner, by rw [valueAt?, hget]; rfl⟩

/-- A value that a single variable gives to a setting is kept exactly if no later variable reaches
inside the setting. -/
theorem field?_eq_some_iff {before after : List (String × String)}
    (h : fromEnvironment start (before ++ given :: after) = .ok settings)
    (hassigns : Assigns start given [name] v)
    (hsingle : ∀ other ∈ before ++ after, ¬Reaches start other.1 [name]) :
    settings.field? name = some v ↔ ∀ later ∈ after, ¬ReachesInside start later name := by
  have hmap : v.isMap = false := isMap_of_variableValue (assigns_iff.mp hassigns).2
  have hlater : ∀ later ∈ after, ¬Reaches start later.1 [name] :=
    fun later hlater => hsingle later (List.mem_append_right _ hlater)
  constructor
  · intro hfield later hmem hinside
    obtain ⟨between, rest, rfl⟩ := List.append_of_mem hmem
    obtain ⟨inner, hinner⟩ := (holdsMapAt_iff h).mpr ⟨before ++ given :: between, later, rest,
      by simp, hinside, fun other hother => hlater other (by simp [hother])⟩
    have hget : Entries.get? (.str name) settings = some v := hfield
    rw [valueAt?, hget] at hinner
    cases hinner
    cases hmap
  · intro hinside
    have hlast : LastAt start (before ++ given :: after) [name] v := by
      refine ⟨before, given, after, rfl, hassigns, fun later hmem other hother => ?_⟩
      refine apart_of_reaches hother ?_
      rintro path rfl
      cases path with
      | nil => exact hlater later hmem hother
      | cons next path => exact hinside later hmem ⟨next :: path, List.cons_ne_nil _ _, hother⟩
    obtain ⟨w, hw, hleaf⟩ := leafAt_cons.mp ((leafAt_iff_lastAt h).mpr hlast)
    exact (leafAt_nil.mp hleaf).1 ▸ hw

/-- What an environment gives for the settings whose default is no mapping. Only the version becomes a
mapping, exactly if a variable reaches inside it and none after that is the variable of the version
itself. If a single variable names such a setting, the setting has its value, unless it is the version
and a later variable reaches inside it. -/
theorem plain_settings (h : fromEnvironment start environment = .ok settings)
    (hplain : IsPlainSetting name) :
    (HoldsMapAt [.str name] (.map settings) ↔ name = "version" ∧
      ∃ before given after, environment = before ++ given :: after ∧ ReachesInside start given name ∧
        ∀ later ∈ after, ¬Reaches start later.1 [name]) ∧
    ∀ before given after, environment = before ++ given :: after → Reaches start given.1 [name] →
      (∀ other ∈ before ++ after, ¬Reaches start other.1 [name]) →
      ∃ v, Assigns start given [name] v ∧
        (settings.field? name = some v ↔
          ¬(name = "version" ∧ ∃ later ∈ after, ReachesInside start later name)) := by
  constructor
  · rw [holdsMapAt_iff h]
    constructor
    · rintro ⟨before, given, after, heq, hinside, hafter⟩
      exact ⟨hinside.eq_version hplain, before, given, after, heq, hinside, hafter⟩
    · exact And.right
  · rintro before given after rfl hreaches hsingle
    obtain ⟨v, hassigns⟩ := exists_assigns h (by simp) hreaches
    refine ⟨v, hassigns, (field?_eq_some_iff h hassigns hsingle).trans ?_⟩
    constructor
    · rintro hnone ⟨_, later, hlater, hinside⟩
      exact hnone later hlater hinside
    · intro hnot later hlater hinside
      exact hnot ⟨hinside.eq_version hplain, later, hlater, hinside⟩

/-- The version is a text if its variable comes after one that reaches inside it. -/
theorem plain_settings_versionLast :
    let environment := [("TONPACK_VERSION_FOO", "x"), ("TONPACK_VERSION", "1.0")]
    IsPlainSetting "version" ∧ ∃ settings, fromEnvironment variableStart environment = .ok settings ∧
      ∃ v, Assigns variableStart ("TONPACK_VERSION", "1.0") ["version"] v ∧
        settings.field? "version" = some v := by
  intro environment
  have hplain : IsPlainSetting "version" := ⟨by decide, by decide⟩
  have hsettings : fromEnvironment variableStart environment =
      .ok [(.str "version", .str "1.0")] := by decide +kernel
  have hversion : Reaches variableStart "TONPACK_VERSION" ["version"] :=
    pathOf?_eq_some_iff.mp (by decide +kernel)
  have hinside : ¬Reaches variableStart "TONPACK_VERSION_FOO" ["version"] := fun h =>
    absurd (pathOf?_eq_some_iff.mpr h) (by decide +kernel)
  obtain ⟨v, hassigns, hfield⟩ := (plain_settings hsettings hplain).2
    [("TONPACK_VERSION_FOO", "x")] ("TONPACK_VERSION", "1.0") [] rfl hversion (by simpa using hinside)
  refine ⟨hplain, _, hsettings, v, hassigns, hfield.mpr ?_⟩
  rintro ⟨_, later, hlater, _⟩
  cases hlater

/-- In the other order the version becomes a mapping, and the text that its variable gives is lost. -/
theorem fromEnvironment_versionFirst :
    let environment := [("TONPACK_VERSION", "1.0"), ("TONPACK_VERSION_FOO", "x")]
    IsPlainSetting "version" ∧ Reaches variableStart "TONPACK_VERSION" ["version"] ∧
      ¬Reaches variableStart "TONPACK_VERSION_FOO" ["version"] ∧
      fromEnvironment variableStart environment =
        .ok [(.str "version", .map [(.str "foo", .str "x")])] :=
  ⟨⟨by decide, by decide⟩, pathOf?_eq_some_iff.mp (by decide +kernel),
    fun h => absurd (pathOf?_eq_some_iff.mpr h) (by decide +kernel), by decide +kernel⟩

end ReleasePackaging.Config
