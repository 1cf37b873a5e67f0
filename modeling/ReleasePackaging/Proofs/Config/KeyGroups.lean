import ReleasePackaging.Config.Basic
import ReleasePackaging.Proofs.Config.LoggingSection
import ReleasePackaging.Proofs.Config.VariableNames

/-!
# Keys from the parts of a name

The parts of a name are grouped to keys from the left. A group is as long as it can be for its key to
be there: of all beginnings of what is left, the longest one whose key leads on from the keys before it,
and a single part if none does. Some parts have one grouping only, and it is the one that is computed.

The names of nested settings are joined from their keys, which hold underscores themselves. Grouping
finds the keys again as long as nothing beside them could be meant: on no level another key goes on
after the key of the path and an underscore.
-/
namespace ReleasePackaging.Config

open Value (valueAt?)

variable {known : Value} {key : String} {keys group later parts rest : List String}
  {groups : List (List String)}

def joined (parts : List String) : String := "_".intercalate parts

/-- A path of keys, at least one, leads to something in a value. -/
def IsKeyPath (keys : List String) (known : Value) : Prop :=
  keys ≠ [] ∧ ∃ v, valueAt? (keys.map .str) known = some v

/-- Of the beginnings of a group and what follows it, the group is the longest one whose key leads on
from some keys; where there is none it is a single part. -/
def IsLongest (known : Value) (keys group rest : List String) : Prop :=
  (IsKeyPath (keys ++ [joined group]) known ∧
    ∀ longer, longer <+: group ++ rest → group.length < longer.length →
      ¬IsKeyPath (keys ++ [joined longer]) known) ∨
  (group.length = 1 ∧
    ∀ other, other <+: group ++ rest → other ≠ [] → ¬IsKeyPath (keys ++ [joined other]) known)

/-- Groups of the parts of a name: they are consecutive parts, at least one each, and each of them is
the longest in its place. -/
structure IsGrouping (known : Value) (parts : List String) (groups : List (List String)) : Prop where
  flatten : groups.flatten = parts
  ne_nil : ∀ group ∈ groups, group ≠ []
  longest : ∀ before group after, groups = before ++ group :: after →
    IsLongest known (before.map joined) group after.flatten

/-- On no level along a path of keys another key of the mapping there goes on after the key of the path
and an underscore. -/
def HasPlainSiblings (keys : List String) (known : Value) : Prop :=
  ∀ before key after, keys = before ++ key :: after →
    ∀ entries, valueAt? (before.map .str) known = some (.map entries) →
      ∀ entry ∈ entries, ∀ ending, entry.1.text? ≠ some (key ++ "_" ++ ending)

/-! ## Joining parts -/

theorem joined_append (hgroup : group ≠ []) (hrest : rest ≠ []) :
    joined (group ++ rest) = joined group ++ "_" ++ joined rest :=
  String.intercalate_append_of_ne_nil hgroup hrest

/-- Parts are joined group by group. -/
theorem joined_flatten (hgroups : ∀ group ∈ groups, group ≠ []) :
    joined (groups.map joined) = joined groups.flatten := by
  induction groups with
  | nil => rfl
  | cons group later ih =>
    obtain ⟨hgroup, hlater⟩ := List.forall_mem_cons.mp hgroups
    by_cases hend : later = []
    · subst hend
      simp [joined]
    · have hrest : later.flatten ≠ [] := by
        obtain ⟨next, _, rfl⟩ := List.exists_cons_of_ne_nil hend
        simp [hlater next List.mem_cons_self]
      have hfirst : joined ((group :: later).map joined) =
          joined group ++ "_" ++ joined (later.map joined) :=
        String.intercalate_cons_of_ne_nil (by simpa using hend)
      rw [hfirst, ih hlater, List.flatten_cons, joined_append hgroup hrest]

theorem splitAll_ne_nil (text : String) : Text.splitAll '_' text ≠ [] := by
  simp [Text.splitAll_eq]

theorem joined_splitAll (text : String) : joined (Text.splitAll '_' text) = text :=
  ((Text.splitAll_eq_iff (splitAll_ne_nil text)).mp rfl).2

/-- The parts of joined keys are the parts of each of them. -/
theorem splitAll_joined (hkeys : keys ≠ []) :
    Text.splitAll '_' (joined keys) = (keys.map (Text.splitAll '_')).flatten := by
  have hparts : ∀ group ∈ keys.map (Text.splitAll '_'), group ≠ [] := by
    simp [splitAll_ne_nil]
  have hne : (keys.map (Text.splitAll '_')).flatten ≠ [] := by
    obtain ⟨key, _, rfl⟩ := List.exists_cons_of_ne_nil hkeys
    simp [splitAll_ne_nil]
  refine (Text.splitAll_eq_iff hne).mpr ⟨fun part hpart => ?_, ?_⟩
  · obtain ⟨key, _, hmem⟩ := List.mem_flatMap.mp (List.flatMap_def ▸ hpart)
    exact ((Text.splitAll_eq_iff (splitAll_ne_nil key)).mp rfl).1 part hmem
  · have hback : (keys.map (Text.splitAll '_')).map joined = keys := by
      simp [Function.comp_def, joined_splitAll]
    exact (joined_flatten hparts).symm.trans (congrArg joined hback)

/-! ## One group -/

theorem isKeyPath_append (hkeys : keys ≠ []) (h : IsKeyPath (keys ++ later) known) :
    IsKeyPath keys known := by
  obtain ⟨_, v, hv⟩ := h
  rw [List.map_append, Value.valueAt?_append] at hv
  obtain ⟨w, hw, _⟩ := Option.bind_eq_some_iff.mp hv
  exact ⟨hkeys, w, hw⟩

/-- Beyond its first key a path leads on from what is held under that key. -/
theorem isKeyPath_cons (hkeys : keys ≠ []) :
    IsKeyPath (key :: keys) known ↔ IsKeyPath keys (entryOf known key) := by
  obtain ⟨next, later, rfl⟩ := List.exists_cons_of_ne_nil hkeys
  have hsome : valueAt? ((key :: next :: later).map .str) known =
      valueAt? ((next :: later).map .str) (entryOf known key) := by
    cases known with
    | map entries =>
      have hget : Entries.get? (.str key) entries = Entries.field? key entries := rfl
      rw [List.map_cons, valueAt?, hget, entryOf]
      cases Entries.field? key entries <;> rfl
    | _ => rfl
  simp only [IsKeyPath, ne_eq, reduceCtorEq, not_false_eq_true, true_and, hsome]

theorem isLongest_cons : IsLongest known (key :: keys) group rest ↔
    IsLongest (entryOf known key) keys group rest := by
  have hstep (name : String) :
      IsKeyPath (key :: keys ++ [name]) known ↔ IsKeyPath (keys ++ [name]) (entryOf known key) :=
    isKeyPath_cons (by simp)
  simp only [IsLongest, hstep]

/-- A single key is there if a mapping holds something under it. -/
theorem isKeyPath_singleton {entries : Entries} :
    IsKeyPath [key] (.map entries) ↔ (entries.field? key).isSome = true := by
  have hget : entries.get? (.str key) = entries.field? key := rfl
  rw [Option.isSome_iff_exists, IsKeyPath, List.map_cons, List.map_nil, valueAt?, hget]
  cases entries.field? key <;> simp [valueAt?]

theorem not_isKeyPath_singleton (h : known.isMap = false) : ¬IsKeyPath [key] known := by
  rintro ⟨_, v, hv⟩
  rw [List.map_cons, Value.valueAt?_not_map h] at hv
  cases hv

/-- The number of parts found is the greatest one whose parts make a key that is there, or one. -/
theorem longestKey_spec (known : Value) (parts : List String) (count : Nat) :
    (longestKey known parts count ≤ count ∧
      IsKeyPath [joined (parts.take (longestKey known parts count))] known ∧
      ∀ n, longestKey known parts count < n → n ≤ count →
        ¬IsKeyPath [joined (parts.take n)] known) ∨
    (longestKey known parts count = 1 ∧
      ∀ n, 0 < n → n ≤ count → ¬IsKeyPath [joined (parts.take n)] known) := by
  induction count with
  | zero => exact .inr ⟨rfl, fun n hpos hle => absurd hpos (by omega)⟩
  | succ count ih =>
    cases hmap : known.isMap with
    | false =>
      refine .inr ⟨?_, fun n _ _ => not_isKeyPath_singleton hmap⟩
      cases known with
      | map entries => cases hmap
      | _ => rfl
    | true =>
      obtain ⟨entries, rfl⟩ := Value.exists_entries hmap
      have hkey : IsKeyPath [joined (parts.take (count + 1))] (.map entries) ↔
          (Entries.field? (joined (parts.take (count + 1))) entries).isSome = true :=
        isKeyPath_singleton
      have hstep : longestKey (.map entries) parts (count + 1) =
          if (Entries.field? (joined (parts.take (count + 1))) entries).isSome then count + 1
          else longestKey (.map entries) parts count := rfl
      by_cases hfound : (Entries.field? (joined (parts.take (count + 1))) entries).isSome = true
      · rw [hstep, if_pos hfound]
        exact .inl ⟨le_refl _, hkey.mpr hfound, fun n hlt hle => absurd hlt (by omega)⟩
      · rw [hstep, if_neg hfound]
        have hnot : ∀ n, n = count + 1 → ¬IsKeyPath [joined (parts.take n)] (.map entries) :=
          fun n hn => hn ▸ mt hkey.mp hfound
        rcases ih with ⟨hle, hthere, hlonger⟩ | ⟨hone, hnone⟩
        · refine .inl ⟨by omega, hthere, fun n hlt hn => ?_⟩
          rcases Nat.lt_or_eq_of_le hn with hlow | hlast
          · exact hlonger n hlt (by omega)
          · exact hnot n hlast
        · refine .inr ⟨hone, fun n hpos hn => ?_⟩
          rcases Nat.lt_or_eq_of_le hn with hlow | hlast
          · exact hnone n hpos (by omega)
          · exact hnot n hlast

/-- The parts found are the longest group in their place. -/
theorem isLongest_longestKey (known : Value) (hparts : parts ≠ []) :
    IsLongest known [] (parts.take (longestKey known parts parts.length))
      (parts.drop (longestKey known parts parts.length)) := by
  have hpos := List.length_pos_of_ne_nil hparts
  unfold IsLongest
  simp only [List.take_append_drop, List.nil_append, List.length_take]
  rcases longestKey_spec known parts parts.length with ⟨hle, hthere, hlonger⟩ | ⟨hone, hnone⟩
  · refine .inl ⟨hthere, fun longer hprefix hlength => ?_⟩
    rw [List.prefix_iff_eq_take.mp hprefix]
    exact hlonger _ (by omega) hprefix.length_le
  · refine .inr ⟨by omega, fun other hprefix hother => ?_⟩
    rw [List.prefix_iff_eq_take.mp hprefix]
    exact hnone _ (List.length_pos_of_ne_nil hother) hprefix.length_le

/-- In one place there is one longest group. -/
theorem IsLongest.unique {other rest' : List String} (hgroup : group ≠ []) (hother : other ≠ [])
    (h : IsLongest known keys group rest) (h' : IsLongest known keys other rest')
    (heq : group ++ rest = other ++ rest') : group = other ∧ rest = rest' := by
  have hprefix : group <+: other ++ rest' := ⟨rest, heq⟩
  have hprefix' : other <+: group ++ rest := ⟨rest', heq.symm⟩
  refine List.append_inj heq ?_
  rcases h with ⟨hkey, hlonger⟩ | ⟨hone, hnone⟩ <;>
    rcases h' with ⟨hkey', hlonger'⟩ | ⟨hone', hnone'⟩
  · rcases Nat.lt_trichotomy group.length other.length with hlt | hsame | hgt
    · exact absurd hkey' (hlonger other hprefix' hlt)
    · exact hsame
    · exact absurd hkey (hlonger' group hprefix hgt)
  · exact absurd hkey (hnone' group hprefix hgroup)
  · exact absurd hkey' (hnone other hprefix' hother)
  · rw [hone, hone']

/-! ## All groups -/

theorem isGrouping_cons : IsGrouping known parts (group :: groups) ↔
    group ≠ [] ∧ parts = group ++ groups.flatten ∧ IsLongest known [] group groups.flatten ∧
      IsGrouping (entryOf known (joined group)) groups.flatten groups := by
  constructor
  · rintro ⟨rfl, hne, hlongest⟩
    obtain ⟨hgroup, hgroups⟩ := List.forall_mem_cons.mp hne
    refine ⟨hgroup, rfl, hlongest [] group groups rfl, rfl, hgroups, ?_⟩
    rintro before next after rfl
    exact isLongest_cons.mp (hlongest (group :: before) next after rfl)
  · rintro ⟨hgroup, rfl, hfirst, _, hgroups, hlongest⟩
    refine ⟨rfl, List.forall_mem_cons.mpr ⟨hgroup, hgroups⟩, fun before next after heq => ?_⟩
    cases before with
    | nil =>
      obtain ⟨rfl, rfl⟩ := List.cons.inj heq
      exact hfirst
    | cons first before =>
      obtain ⟨rfl, rfl⟩ := List.cons.inj heq
      exact isLongest_cons.mpr (hlongest before next after rfl)

theorem groupKeys_nil (known : Value) : groupKeys known [] = [] := by
  unfold groupKeys
  rfl

theorem take_longestKey_ne_nil (known : Value) (hparts : parts ≠ []) :
    parts.take (longestKey known parts parts.length) ≠ [] := by
  have hpos := longestKey_pos known parts parts.length
  rw [ne_eq, List.take_eq_nil_iff]
  exact not_or.mpr ⟨by omega, hparts⟩

/-- What starts with the longest group is grouped by this group first. -/
theorem groupKeys_append (hgroup : group ≠ []) (h : IsLongest known [] group rest) :
    groupKeys known (group ++ rest) =
      joined group :: groupKeys (entryOf known (joined group)) rest := by
  have hparts : group ++ rest ≠ [] := by simp [hgroup]
  obtain ⟨hfirst, hlater⟩ := (isLongest_longestKey known hparts).unique
    (take_longestKey_ne_nil known hparts) hgroup h (List.take_append_drop _ _)
  generalize group ++ rest = parts at hparts hfirst hlater ⊢
  obtain ⟨part, others, rfl⟩ := List.exists_cons_of_ne_nil hparts
  rw [groupKeys]
  simp only [List.length_cons] at hfirst hlater
  simp only [hfirst, hlater]
  rfl

/-- The keys that are computed are those of every grouping. -/
theorem IsGrouping.groupKeys_eq (h : IsGrouping known parts groups) :
    groupKeys known parts = groups.map joined := by
  induction groups generalizing known parts with
  | nil =>
    obtain rfl := h.flatten
    exact groupKeys_nil known
  | cons group groups ih =>
    obtain ⟨hgroup, rfl, hfirst, hlater⟩ := isGrouping_cons.mp h
    rw [groupKeys_append hgroup hfirst, ih hlater, List.map_cons]

theorem exists_isGrouping (known : Value) (parts : List String) :
    ∃ groups, IsGrouping known parts groups := by
  induction hlength : parts.length using Nat.strong_induction_on generalizing known parts with
  | _ length ih =>
    by_cases hparts : parts = []
    · subst hparts
      exact ⟨[], rfl, nofun, by simp⟩
    · have hlongest := isLongest_longestKey known hparts
      have htake := take_longestKey_ne_nil known hparts
      have hpos := longestKey_pos known parts parts.length
      have hsome := List.length_pos_of_ne_nil hparts
      generalize longestKey known parts parts.length = count at hlongest htake hpos
      obtain ⟨groups, hgroups⟩ := ih (parts.drop count).length
        (by rw [List.length_drop]; omega) (entryOf known (joined (parts.take count)))
        (parts.drop count) rfl
      refine ⟨parts.take count :: groups, isGrouping_cons.mpr ⟨htake, ?_, ?_, ?_⟩⟩
      · rw [hgroups.flatten, List.take_append_drop]
      · rwa [hgroups.flatten]
      · rwa [hgroups.flatten]

/-! ## Keys found again -/

/-- A path that goes on from where another key is ends in a key that a mapping holds there. -/
theorem exists_key_of_isKeyPath (h : IsKeyPath (keys ++ [key]) known) :
    ∃ entries, valueAt? (keys.map .str) known = some (.map entries) ∧
      ∃ entry ∈ entries, entry.1.text? = some key := by
  obtain ⟨_, v, hv⟩ := h
  rw [List.map_append, Value.valueAt?_append] at hv
  obtain ⟨w, hw, hv⟩ := Option.bind_eq_some_iff.mp hv
  cases hmap : w.isMap with
  | false =>
    rw [List.map_cons, Value.valueAt?_not_map hmap] at hv
    cases hv
  | true =>
    obtain ⟨entries, rfl⟩ := Value.exists_entries hmap
    obtain ⟨u, hu, _⟩ := Option.bind_eq_some_iff.mp hv
    obtain ⟨own, hsame, hmem⟩ := Entries.mem_of_get?_eq_some hu
    exact ⟨entries, hw, _, hmem, same_str_iff.mp hsame⟩

/-- The parts of each key of a path are its groups, if no key beside the path could be meant. -/
theorem isGrouping_of_isKeyPath (hpath : IsKeyPath keys known)
    (hplain : HasPlainSiblings keys known) :
    IsGrouping known (Text.splitAll '_' (joined keys)) (keys.map (Text.splitAll '_')) := by
  refine ⟨(splitAll_joined hpath.1).symm, by simp [splitAll_ne_nil], ?_⟩
  intro before group after heq
  obtain ⟨earlier, _, rfl, rfl, hlater⟩ := List.map_eq_append_iff.mp heq
  obtain ⟨key, later, rfl, rfl, rfl⟩ := List.map_eq_cons_iff.mp hlater
  have hback : (earlier.map (Text.splitAll '_')).map joined = earlier := by
    simp [Function.comp_def, joined_splitAll]
  rw [hback]
  refine .inl ⟨?_, fun longer hprefix hlength hlonger => ?_⟩
  · have hwhole : IsKeyPath ((earlier ++ [key]) ++ later) known := by simpa using hpath
    rw [joined_splitAll]
    exact isKeyPath_append (by simp) hwhole
  -- A longer key would be that of the path, an underscore and more.
  obtain ⟨extra, rfl⟩ : Text.splitAll '_' key <+: longer :=
    List.prefix_of_prefix_length_le (List.prefix_append _ _) hprefix hlength.le
  have hextra : extra ≠ [] := by
    rintro rfl
    simp at hlength
  rw [joined_append (splitAll_ne_nil key) hextra, joined_splitAll] at hlonger
  obtain ⟨entries, hentries, entry, hentry, htext⟩ := exists_key_of_isKeyPath hlonger
  exact hplain earlier key later rfl entries hentries entry hentry _ htext

/-- What grouping gives. The parts of any text are grouped against any value to consecutive groups,
each the longest in its place, whose keys joined are the text again. A path of keys in a value is found
again from its joined keys, if on no level another key goes on after the key of the path and an
underscore. -/
theorem grouping_exact (known : Value) :
    (∀ text, ∃ groups, IsGrouping known (Text.splitAll '_' text) groups ∧
      groupKeys known (Text.splitAll '_' text) = groups.map joined ∧
      joined (groupKeys known (Text.splitAll '_' text)) = text) ∧
    ∀ keys, IsKeyPath keys known → HasPlainSiblings keys known →
      groupKeys known (Text.splitAll '_' (joined keys)) = keys := by
  constructor
  · intro text
    obtain ⟨groups, hgroups⟩ := exists_isGrouping known (Text.splitAll '_' text)
    refine ⟨groups, hgroups, hgroups.groupKeys_eq, ?_⟩
    rw [hgroups.groupKeys_eq, joined_flatten hgroups.ne_nil, hgroups.flatten, joined_splitAll]
  · intro keys hpath hplain
    rw [(isGrouping_of_isKeyPath hpath hplain).groupKeys_eq]
    simp [Function.comp_def, joined_splitAll]

/-- Keys that end in an underscore or hold two of them are found again beside their own beginnings. -/
theorem grouping_exact_doubled :
    let known : Value := .map [(.str "a", .null),
      (.str "a_", .map [(.str "b", .null), (.str "b__c", .null)])]
    IsKeyPath ["a_", "b__c"] known ∧ HasPlainSiblings ["a_", "b__c"] known ∧
      Text.splitAll '_' (joined ["a_", "b__c"]) = ["a", "", "b", "", "c"] ∧
      groupKeys known ["a", "", "b", "", "c"] = ["a_", "b__c"] := by
  intro known
  have hpath : IsKeyPath ["a_", "b__c"] known := ⟨by simp, .null, rfl⟩
  have hshort {name key ending : String} (hlength : name.length ≤ key.length) :
      Value.text? (.str name) ≠ some (key ++ "_" ++ ending) := fun heq => by
    have hsame := congrArg String.length (Option.some.inj heq)
    simp only [String.length_append, show "_".length = 1 from rfl] at hsame
    omega
  have hplain : HasPlainSiblings ["a_", "b__c"] known := by
    intro before key after hkeys entries hentries entry hentry ending
    match before, hkeys with
    | [], hkeys =>
      cases hkeys
      change some (Value.map _) = some (Value.map entries) at hentries
      cases hentries
      simp only [List.mem_cons, List.not_mem_nil, or_false] at hentry
      rcases hentry with rfl | rfl
      · exact hshort (by decide)
      · exact hshort (by decide)
    | [_], hkeys =>
      cases hkeys
      cases hentries
      simp only [List.mem_cons, List.not_mem_nil, or_false] at hentry
      rcases hentry with rfl | rfl
      · exact hshort (by decide)
      · exact hshort (by decide)
    | _ :: _ :: rest, hkeys => simp at hkeys
  have hsplit : Text.splitAll '_' (joined ["a_", "b__c"]) = ["a", "", "b", "", "c"] := by
    decide +kernel
  refine ⟨hpath, hplain, hsplit, ?_⟩
  rw [← hsplit]
  exact (grouping_exact known).2 ["a_", "b__c"] hpath hplain

/-- Beside a key that goes on after an underscore a path is not found again. -/
example : groupKeys (.map [(.str "a", .map [(.str "b", .null)]), (.str "a_b", .null)]) ["a", "b"] =
    ["a_b"] := by decide +kernel

end ReleasePackaging.Config
