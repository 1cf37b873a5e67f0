import Mathlib.Data.List.Induction
import ReleasePackaging.Proofs.Config.PathWrites
import ReleasePackaging.Proofs.Config.VariableNames

/-!
# What an environment assigns

A variable that reaches a path assigns its value there and takes away what stands along the path and
below its end. So the leaves of the settings that an environment gives are the values of those
variables after which none reaches their path, a beginning of it or a path beyond it. The order of the
variables counts only between such paths.
-/
namespace ReleasePackaging.Config

open Value (LeafAt leafAt_cons leafAt_nil)

variable {start : String} {given : String × String} {environment : List (String × String)}
  {keys : List String} {settings : Entries} {v : Value}

/-- A variable of an environment assigns a value at a path, and no later one reaches this path, a
beginning of it or a path beyond it. -/
def LastAt (start : String) (environment : List (String × String)) (keys : List String) (v : Value) :
    Prop :=
  ∃ before given after, environment = before ++ given :: after ∧ Assigns start given keys v ∧
    ∀ later ∈ after, ∀ other, Reaches start later.1 other → Apart keys other

/-- No variable of an environment reaches the path of another one, a beginning of it or a path beyond
it. -/
def KeepsApart (start : String) (environment : List (String × String)) : Prop :=
  environment.Pairwise fun first later => ∀ keys other, Reaches start first.1 keys →
    Reaches start later.1 other → Apart keys other

instance {name : String} : Decidable (∃ keys, Reaches start name keys) :=
  decidable_of_iff ((pathOf? start name).isSome = true) <| by
    simp only [Option.isSome_iff_exists, pathOf?_eq_some_iff]

/-! ## One variable after others -/

theorem Assigns.reaches (h : Assigns start given keys v) : Reaches start given.1 keys :=
  (assigns_iff.mp h).1

theorem Reaches.ne_nil {name : String} (h : Reaches start name keys) : keys ≠ [] := by
  obtain ⟨rest, _, hstands⟩ := h
  exact hstands.ne_nil

/-- A variable assigns one value at one path. -/
theorem Assigns.unique {other : List String} {w : Value} (h : Assigns start given keys v)
    (hother : Assigns start given other w) : other = keys ∧ w = v := by
  obtain ⟨hreaches, hv⟩ := assigns_iff.mp h
  obtain ⟨hreachesOther, hw⟩ := assigns_iff.mp hother
  obtain rfl := hreaches.unique hreachesOther
  exact ⟨rfl, Except.ok.inj (hw.symm.trans hv)⟩

/-- One more variable leaves the settings as they are if it reaches nothing, and otherwise puts its
value at its path. -/
theorem fromEnvironment_concat (h : fromEnvironment start (environment ++ [given]) = .ok settings) :
    ∃ before, fromEnvironment start environment = .ok before ∧
      ((∀ keys, ¬Reaches start given.1 keys) ∧ settings = before ∨
        ∃ keys v, Assigns start given keys v ∧ settings = setAt v keys before) := by
  rw [fromEnvironment_eq, List.foldlM_append] at h
  obtain ⟨before, hbefore, h⟩ := Result.bind_eq_ok_iff.mp h
  rw [List.foldlM_cons] at h
  obtain ⟨next, hnext, h⟩ := Result.bind_eq_ok_iff.mp h
  cases h
  refine ⟨before, fromEnvironment_eq.trans hbefore, ?_⟩
  split at hnext
  · next keys hkeys =>
    obtain ⟨v, hv, rfl⟩ := Result.map_eq_ok_iff.mp hnext
    exact .inr ⟨keys, v, assigns_iff.mpr ⟨pathOf?_eq_some_iff.mp hkeys, hv⟩, rfl⟩
  · next hnone =>
    cases hnext
    refine .inl ⟨fun keys hkeys => ?_, rfl⟩
    rw [pathOf?_eq_some_iff.mpr hkeys] at hnone
    cases hnone

/-- With one more variable a value is the last one at a path if that variable assigns it, or if it was
the last one and the path of that variable is apart. -/
theorem lastAt_concat : LastAt start (environment ++ [given]) keys v ↔
    Assigns start given keys v ∨
      LastAt start environment keys v ∧ ∀ other, Reaches start given.1 other → Apart keys other := by
  constructor
  · rintro ⟨before, own, after, heq, hassigns, hafter⟩
    rcases List.eq_nil_or_concat after with rfl | ⟨between, last, rfl⟩
    · obtain ⟨_, hlast⟩ := List.append_inj' heq rfl
      cases hlast
      exact .inl hassigns
    · have heq : environment ++ [given] = (before ++ own :: between) ++ [last] := by simp [heq]
      obtain ⟨rfl, hlast⟩ := List.append_inj' heq rfl
      cases hlast
      exact .inr ⟨⟨before, own, between, rfl, hassigns,
        fun later hlater => hafter later (by simp [hlater])⟩, hafter given (by simp)⟩
  · rintro (hassigns | ⟨⟨before, own, after, rfl, hassigns, hafter⟩, hapart⟩)
    · exact ⟨environment, given, [], rfl, hassigns, nofun⟩
    · refine ⟨before, own, after ++ [given], by simp, hassigns, fun later hlater => ?_⟩
      rcases List.mem_append.mp hlater with hold | hnew
      · exact hafter later hold
      · exact List.mem_singleton.mp hnew ▸ hapart

/-! ## All variables -/

/-- The leaves of the settings that an environment gives are what is assigned last. -/
theorem leafAt_iff_lastAt (h : fromEnvironment start environment = .ok settings) :
    LeafAt keys v (.map settings) ↔ LastAt start environment keys v := by
  induction environment using List.reverseRecOn generalizing settings with
  | nil =>
    cases h
    refine iff_of_false (fun hleaf => ?_) ?_
    · cases keys with
      | nil => cases (leafAt_nil.mp hleaf).2
      | cons name later =>
        obtain ⟨_, hnone, _⟩ := leafAt_cons.mp hleaf
        cases hnone
    · rintro ⟨before, given, after, heq, _⟩
      simp at heq
  | append_singleton environment given ih =>
    obtain ⟨before, hbefore, ⟨hnone, rfl⟩ | ⟨path, w, hassigns, rfl⟩⟩ := fromEnvironment_concat h
    · rw [lastAt_concat, ih hbefore]
      have hnot : ¬Assigns start given keys v := fun hassigns => hnone keys hassigns.reaches
      simp [hnot, hnone]
    · have hmap := isMap_of_variableValue (assigns_iff.mp hassigns).2
      have hown : Assigns start given keys v ↔ keys = path ∧ v = w :=
        ⟨hassigns.unique, fun ⟨hkeys, hv⟩ => hkeys ▸ hv ▸ hassigns⟩
      have hpath (other : List String) : Reaches start given.1 other ↔ other = path :=
        ⟨fun hother => hother.unique hassigns.reaches, fun heq => heq ▸ hassigns.reaches⟩
      rw [lastAt_concat, leafAt_setAt hmap hassigns.reaches.ne_nil (isTree_of_fromEnvironment hbefore),
        ih hbefore, hown]
      simp only [hpath, forall_eq]
      exact or_congr_right and_comm

/-- An environment gives settings if every text that is read gives a value. -/
theorem exists_fromEnvironment (hread : ∀ given ∈ environment, ∀ keys, Reaches start given.1 keys →
    IsRead keys → ∃ v, readVariable given.2 = .ok v) :
    ∃ settings, fromEnvironment start environment = .ok settings := by
  cases h : fromEnvironment start environment with
  | ok settings => exact ⟨settings, rfl⟩
  | error fault =>
    obtain ⟨given, hgiven, keys, hkeys, hisRead, hfalse⟩ := fromEnvironment_error_iff.mp ⟨fault, h⟩
    obtain ⟨v, hv⟩ := hread given hgiven keys (pathOf?_eq_some_iff.mp hkeys) hisRead
    obtain ⟨own, hown⟩ := readVariable_error_iff.mpr hfalse
    rw [hv] at hown
    cases hown

/-- Variables that reach nothing do not matter. -/
theorem fromEnvironment_filter (start : String) (environment : List (String × String)) :
    fromEnvironment start (environment.filter fun given => ∃ keys, Reaches start given.1 keys) =
      fromEnvironment start environment := by
  rw [fromEnvironment_eq, fromEnvironment_eq, List.foldlM_filter]
  congr 1
  funext entries given
  split
  · rfl
  · next hnone =>
    cases hkeys : pathOf? start given.1 with
    | none => rfl
    | some keys => exact absurd (decide_eq_true ⟨keys, pathOf?_eq_some_iff.mp hkeys⟩) hnone

/-- Where no variable reaches the path of another one, all that is assigned is assigned last. -/
theorem KeepsApart.lastAt_iff (h : KeepsApart start environment) :
    LastAt start environment keys v ↔ ∃ given ∈ environment, Assigns start given keys v := by
  constructor
  · rintro ⟨before, given, after, rfl, hassigns, _⟩
    exact ⟨given, by simp, hassigns⟩
  · rintro ⟨given, hgiven, hassigns⟩
    obtain ⟨before, after, rfl⟩ := List.append_of_mem hgiven
    obtain ⟨_, hsecond, _⟩ := List.pairwise_append.mp h
    obtain ⟨hafter, _⟩ := List.pairwise_cons.mp hsecond
    exact ⟨before, given, after, rfl, hassigns,
      fun later hlater other => hafter later hlater keys other hassigns.reaches⟩

theorem KeepsApart.perm {shuffled : List (String × String)} (h : KeepsApart start environment)
    (hperm : shuffled.Perm environment) : KeepsApart start shuffled :=
  (hperm.pairwise_iff fun hfirst keys other hkeys hother =>
    (hfirst other keys hother hkeys).symm).mpr h

/-- Where no variable reaches the path of another one, the order of the variables does not matter. -/
theorem KeepsApart.same_of_perm {shuffled : List (String × String)} {reordered : Entries}
    (h : KeepsApart start environment) (hperm : shuffled.Perm environment)
    (hsettings : fromEnvironment start environment = .ok settings)
    (hreordered : fromEnvironment start shuffled = .ok reordered) :
    (Value.map reordered).same (.map settings) = true := by
  refine (isTree_of_fromEnvironment hreordered).same_of_leaves
    (isTree_of_fromEnvironment hsettings) (fun keys leaf => ?_) fun keys leaf hleaf => ?_
  · rw [leafAt_iff_lastAt hreordered, leafAt_iff_lastAt hsettings, (h.perm hperm).lastAt_iff,
      h.lastAt_iff]
    simp only [hperm.mem_iff]
  · obtain ⟨_, given, _, _, hassigns, _⟩ := (leafAt_iff_lastAt hreordered).mp hleaf
    exact same_self_of_variableValue (assigns_iff.mp hassigns).2

/-- What an environment assigns. It gives settings if every text that is read gives a value. They are
a tree whose leaves are the values assigned last. Variables that reach nothing do not matter, and if
no variable reaches the path of another one, a beginning of it or a path beyond it, every order of
the variables gives the same settings. -/
theorem environment_meaning (hread : ∀ given ∈ environment, ∀ keys, Reaches start given.1 keys →
    IsRead keys → ∃ v, readVariable given.2 = .ok v) :
    ∃ settings, fromEnvironment start environment = .ok settings ∧ (Value.map settings).IsTree ∧
      (∀ keys v, LeafAt keys v (.map settings) ↔ LastAt start environment keys v) ∧
      fromEnvironment start (environment.filter fun given => ∃ keys, Reaches start given.1 keys) =
        .ok settings ∧
      (KeepsApart start environment → ∀ shuffled : List (String × String),
        shuffled.Perm environment → ∃ reordered, fromEnvironment start shuffled = .ok reordered ∧
          (Value.map reordered).same (.map settings) = true) := by
  obtain ⟨settings, hsettings⟩ := exists_fromEnvironment hread
  refine ⟨settings, hsettings, isTree_of_fromEnvironment hsettings,
    fun keys v => leafAt_iff_lastAt hsettings, (fromEnvironment_filter _ _).trans hsettings,
    fun hapart shuffled hperm => ?_⟩
  obtain ⟨reordered, hreordered⟩ : ∃ reordered, fromEnvironment start shuffled = .ok reordered :=
    exists_fromEnvironment fun given hgiven => hread given (hperm.mem_iff.mp hgiven)
  exact ⟨reordered, hreordered, hapart.same_of_perm hperm hsettings hreordered⟩

/-- A flag for the whole file section is replaced when a later variable reaches inside the section. -/
theorem environment_meaning_fileSection :
    let environment := [("TONPACK_LOGGING_FILE", "on"), ("HOME", "/root"),
      ("TONPACK_LOGGING_FILE_MAX_BYTES", "20")]
    (∀ given ∈ environment, ∀ keys, Reaches variableStart given.1 keys → IsRead keys →
        ∃ v, readVariable given.2 = .ok v) ∧
      ∃ settings, fromEnvironment variableStart environment = .ok settings ∧
        LeafAt ["logging", "file", "max_bytes"] (.int 20) (.map settings) ∧
        LastAt variableStart environment ["logging", "file", "max_bytes"] (.int 20) ∧
        ¬LastAt variableStart environment ["logging", "file"] (.bool true) := by
  intro environment
  have hok : ∀ given ∈ environment, (readVariable given.2).isOk = true := by decide
  have hread : ∀ given ∈ environment, ∀ keys, Reaches variableStart given.1 keys → IsRead keys →
      ∃ v, readVariable given.2 = .ok v := by
    intro given hgiven _ _ _
    have hgivenOk := hok given hgiven
    cases hv : readVariable given.2 with
    | ok v => exact ⟨v, rfl⟩
    | error fault =>
      rw [hv] at hgivenOk
      cases hgivenOk
  obtain ⟨settings, hsettings, _, hleaves, _⟩ := environment_meaning hread
  have hvalue : fromEnvironment variableStart environment =
      .ok [(.str "logging", .map [(.str "file", .map [(.str "max_bytes", .int 20)])])] := by
    decide +kernel
  obtain rfl := Except.ok.inj (hsettings.symm.trans hvalue)
  have hnumber : LeafAt ["logging", "file", "max_bytes"] (.int 20)
      (.map [(.str "logging", .map [(.str "file", .map [(.str "max_bytes", .int 20)])])]) :=
    ⟨rfl, rfl⟩
  refine ⟨hread, _, hvalue, hnumber, (hleaves _ _).mp hnumber, fun hflag => ?_⟩
  cases ((hleaves _ _).mpr hflag).1

end ReleasePackaging.Config
