import Mathlib.Data.List.Induction
import ReleasePackaging.Config.Load
import ReleasePackaging.Proofs.Config.MergedPaths

/-!
# Grouping of layers

No settings at all change nothing, below or above a layer, and a layer put over a merge that it is
part of changes nothing either. Of three layers it does not matter which two are merged first, unless
the middle one holds something else at a path where the outer two hold mappings. So layers without
such a path can be combined in any grouping that keeps their order. All this holds with the order of
the keys.
-/
namespace ReleasePackaging.Config

open Value (HoldsMapAt valueAt?)

variable {lower middle upper : Entries} {key v : Value} {path : List Value}

/-! ## What is found under a key -/

/-- What a layer and one below it make of what they have under a key. -/
def overlaid (old new : Option Value) : Option Value :=
  match new with
  | some v => some (layered old v)
  | none => old

theorem get?_merge_eq (hlower : lower.HasTextKeys) (hupper : upper.HasTextKeys) (key : Value) :
    Entries.get? key (merge lower upper) = overlaid (lower.get? key) (upper.get? key) :=
  get?_merge hlower.haveKeys hupper.haveKeys hupper.areDistinct key

@[simp] theorem overlaid_none_left (new : Option Value) : overlaid none new = new := by
  cases new with
  | none => rfl
  | some v => exact congrArg some (layered_none v)

@[simp] theorem overlaid_none_right (old : Option Value) : overlaid old none = old := rfl

@[simp] theorem overlaid_some (old : Option Value) (v : Value) :
    overlaid old (some v) = some (layered old v) := rfl

/-! ## No settings -/

theorem merge_nil_left (hupper : upper.HasTextKeys) : merge [] upper = upper := by
  refine (hasTextKeys_merge Entries.hasTextKeys_nil hupper).ext hupper ?_ fun key => ?_
  · simp [keys_merge Entries.hasTextKeys_nil hupper]
  · rw [get?_merge_eq Entries.hasTextKeys_nil hupper]
    exact overlaid_none_left _

theorem merge_nil_right (lower : Entries) : merge lower [] = lower := by rw [merge]

/-! ## A layer put over itself -/

theorem keys_merge_self (hlower : lower.HasTextKeys) (hupper : upper.HasTextKeys) :
    (merge (merge lower upper) upper).map Prod.fst = (merge lower upper).map Prod.fst := by
  rw [keys_merge (hasTextKeys_merge hlower hupper) hupper, List.append_right_eq_self,
    List.filter_eq_nil_iff]
  intro key hkey
  by_cases hmem : key ∈ lower.map Prod.fst <;> simp [keys_merge hlower hupper, hkey, hmem]

/-- A layer changes nothing over a merge that it is part of, if its values do not. -/
theorem merge_merge_of_values (hlower : (Value.map lower).IsTextKeyed)
    (hupper : (Value.map upper).IsTextKeyed)
    (hvalues : ∀ entry ∈ upper, ∀ old, (∀ w, old = some w → w.IsTextKeyed) →
      layered (some (layered old entry.2)) entry.2 = layered old entry.2) :
    merge (merge lower upper) upper = merge lower upper := by
  have hmerged := hasTextKeys_merge hlower.hasTextKeys hupper.hasTextKeys
  refine (hasTextKeys_merge hmerged hupper.hasTextKeys).ext hmerged
    (keys_merge_self hlower.hasTextKeys hupper.hasTextKeys) fun key => ?_
  rw [get?_merge_eq hmerged hupper.hasTextKeys,
    get?_merge_eq hlower.hasTextKeys hupper.hasTextKeys]
  cases hv : upper.get? key with
  | none => rfl
  | some v =>
    obtain ⟨_, _, hmem⟩ := Entries.mem_of_get?_eq_some hv
    exact congrArg some (hvalues _ hmem _ fun w hw => hlower.get? hw)

theorem layered_layered (old : Option Value) (v : Value) (hold : ∀ w, old = some w → w.IsTextKeyed)
    (hv : v.IsTextKeyed) : layered (some (layered old v)) v = layered old v := by
  induction v using Value.mapInduction generalizing old with
  | other v hmap => rw [layered_of_not_map hmap, layered_of_not_map hmap]
  | map upper ih =>
    have hvalues : ∀ entry ∈ upper, ∀ old, (∀ w, old = some w → w.IsTextKeyed) →
        layered (some (layered old entry.2)) entry.2 = layered old entry.2 := by
      intro entry hentry old hold
      obtain ⟨name, _, hfield⟩ := hv.hasTextKeys.mem_iff.mp hentry
      exact ih entry hentry old hold (hv.get? hfield)
    rcases layered_cases old (.map upper) with ⟨lower, _, rfl, heq⟩ | hself
    · cases heq
      rw [layered_map_map, layered_map_map, merge_merge_of_values (hold _ rfl) hv hvalues]
    · -- Over something else the mapping is put over itself, as if over no settings.
      have hempty := merge_merge_of_values Value.isTextKeyed_nil hv hvalues
      rw [merge_nil_left hv.hasTextKeys] at hempty
      rw [hself, layered_map_map, hempty]

theorem merge_merge_self (hlower : (Value.map lower).IsTextKeyed)
    (hupper : (Value.map upper).IsTextKeyed) : merge (merge lower upper) upper = merge lower upper := by
  refine merge_merge_of_values hlower hupper fun entry hentry old hold => ?_
  obtain ⟨name, _, hfield⟩ := hupper.hasTextKeys.mem_iff.mp hentry
  exact layered_layered old entry.2 hold (hupper.get? hfield)

/-! ## Three layers -/

/-- At a path the outer two of three values hold mappings and the middle one holds something else. -/
def SeparatedAt (path : List Value) (lower middle upper : Value) : Prop :=
  HoldsMapAt path lower ∧ HoldsMapAt path upper ∧
    ∃ v, valueAt? path middle = some v ∧ v.isMap = false

theorem keys_merge_assoc (hlower : lower.HasTextKeys) (hmiddle : middle.HasTextKeys)
    (hupper : upper.HasTextKeys) :
    (merge (merge lower middle) upper).map Prod.fst =
      (merge lower (merge middle upper)).map Prod.fst := by
  rw [keys_merge (hasTextKeys_merge hlower hmiddle) hupper, keys_merge hlower hmiddle,
    keys_merge hlower (hasTextKeys_merge hmiddle hupper), keys_merge hmiddle hupper,
    List.append_assoc, List.filter_append, List.filter_filter]
  congr 2
  refine List.filter_congr fun key _ => ?_
  by_cases hmem : key ∈ lower.map Prod.fst <;> simp [hmem]

/-- Three layers may be merged in either grouping if the values under each key may. -/
theorem merge_assoc_of_values (hlower : lower.HasTextKeys) (hmiddle : middle.HasTextKeys)
    (hupper : upper.HasTextKeys)
    (hvalues : ∀ key v w, middle.get? key = some v → upper.get? key = some w →
      layered (some (layered (lower.get? key) v)) w =
        layered (lower.get? key) (layered (some v) w)) :
    merge (merge lower middle) upper = merge lower (merge middle upper) := by
  have hfirst := hasTextKeys_merge hlower hmiddle
  have hlast := hasTextKeys_merge hmiddle hupper
  refine (hasTextKeys_merge hfirst hupper).ext (hasTextKeys_merge hlower hlast)
    (keys_merge_assoc hlower hmiddle hupper) fun key => ?_
  rw [get?_merge_eq hfirst hupper, get?_merge_eq hlower hmiddle, get?_merge_eq hlower hlast,
    get?_merge_eq hmiddle hupper]
  cases hw : upper.get? key with
  | none => simp
  | some w =>
    cases hv : middle.get? key with
    | none => simp [layered_none]
    | some v => simp [hvalues key v w hv hw]

/-- Values under one key in three layers may be layered in either grouping. -/
theorem layered_assoc (old : Option Value) (v w : Value)
    (hold : ∀ u, old = some u → u.IsTextKeyed) (hv : v.IsTextKeyed) (hw : w.IsTextKeyed)
    (hapart : ∀ u, old = some u → ∀ path, ¬SeparatedAt path u v w) :
    layered (some (layered old v)) w = layered old (layered (some v) w) := by
  induction v using Value.mapInduction generalizing old w with
  | other v hmap =>
    have hover : layered (some v) w = w := by
      refine layered_over_other (fun lower heq => ?_) w
      cases heq
      cases hmap
    rw [layered_of_not_map hmap, hover]
    refine (layered_cases old w).elim ?_ Eq.symm
    rintro ⟨lower, upper, rfl, rfl⟩
    exact absurd ⟨⟨lower, rfl⟩, ⟨upper, rfl⟩, v, rfl, hmap⟩ (hapart _ rfl [])
  | map middle ih =>
    cases hwmap : w.isMap with
    | false => rw [layered_of_not_map hwmap, layered_of_not_map hwmap, layered_of_not_map hwmap]
    | true =>
      obtain ⟨upper, rfl⟩ := Value.exists_entries hwmap
      by_cases hlower : ∃ lower, old = some (.map lower)
      · obtain ⟨lower, rfl⟩ := hlower
        have hlower := hold _ rfl
        simp only [layered_map_map]
        refine congrArg Value.map (merge_assoc_of_values hlower.hasTextKeys hv.hasTextKeys
          hw.hasTextKeys fun key v w hvkey hwkey => ?_)
        obtain ⟨_, _, hmem⟩ := Entries.mem_of_get?_eq_some hvkey
        refine ih _ hmem (Entries.get? key lower) w (fun u hu => hlower.get? hu) (hv.get? hvkey)
          (hw.get? hwkey) fun u hu path hseparated => hapart _ rfl (key :: path) ?_
        simpa [SeparatedAt, HoldsMapAt, valueAt?, hu, hvkey, hwkey] using hseparated
      · have hself (x : Value) : layered old x = x :=
          layered_over_other (fun lower heq => hlower ⟨lower, heq⟩) x
        rw [hself, hself]

theorem merge_assoc (hlower : (Value.map lower).IsTextKeyed)
    (hmiddle : (Value.map middle).IsTextKeyed) (hupper : (Value.map upper).IsTextKeyed)
    (hapart : ∀ path, ¬SeparatedAt path (.map lower) (.map middle) (.map upper)) :
    merge (merge lower middle) upper = merge lower (merge middle upper) := by
  have h := layered_assoc (some (.map lower)) (.map middle) (.map upper)
    (fun u hu => by cases hu; exact hlower) hmiddle hupper (fun u hu => by cases hu; exact hapart)
  simpa only [layered_map_map, Value.map.injEq] using h

/-! ## Any number of layers -/

/-- No three of some layers, in their order, are separated at a path. -/
def NeverSeparated (layers : List Entries) : Prop :=
  ∀ lower middle upper, [lower, middle, upper].Sublist layers →
    ∀ path, ¬SeparatedAt path (.map lower) (.map middle) (.map upper)

theorem isTextKeyed_foldl {base : Entries} {layers : List Entries}
    (hbase : (Value.map base).IsTextKeyed)
    (hlayers : ∀ layer ∈ layers, (Value.map layer).IsTextKeyed) :
    (Value.map (layers.foldl merge base)).IsTextKeyed := by
  refine List.foldlRecOn (motive := fun merged => (Value.map merged).IsTextKeyed) layers merge hbase
    fun merged hmerged layer hlayer => isTextKeyed_merge hmerged (hlayers layer hlayer)

/-- What merged layers hold at a path beyond the start is held there, in its sort, by one of them. -/
theorem exists_holder_of_foldl {layers : List Entries}
    (hlayers : ∀ layer ∈ layers, (Value.map layer).IsTextKeyed) (hpath : path ≠ [])
    (h : valueAt? path (.map (layers.foldl merge [])) = some v) :
    ∃ layer ∈ layers, ∃ w, valueAt? path (.map layer) = some w ∧ w.isMap = v.isMap := by
  induction layers using List.reverseRecOn generalizing v with
  | nil =>
    cases path with
    | nil => exact absurd rfl hpath
    | cons key later => cases h
  | append_singleton layers last ih =>
    have hbefore : ∀ layer ∈ layers, (Value.map layer).IsTextKeyed :=
      fun layer hlayer => hlayers layer (List.mem_append_left _ hlayer)
    have hmerged := isTextKeyed_foldl Value.isTextKeyed_nil hbefore
    have hlast := hlayers last (by simp)
    rw [List.foldl_append, List.foldl_cons, List.foldl_nil] at h
    obtain ⟨layer, hlayer, w, hw, hsort⟩ := exists_holder hmerged.isKeyed hlast.isKeyed h
    simp only [List.mem_cons, List.not_mem_nil, or_false] at hlayer
    rcases hlayer with rfl | rfl
    · obtain ⟨layer, hlayer, u, hu, husort⟩ := ih hbefore hw
      exact ⟨layer, List.mem_append_left _ hlayer, u, hu, husort.trans hsort⟩
    · exact ⟨layer, by simp, w, hw, hsort⟩

/-- Merged layers are not separated if the layers are not. -/
theorem NeverSeparated.foldl {first second : List Entries}
    (h : NeverSeparated (first ++ (second ++ [upper])))
    (hfirst : ∀ layer ∈ first, (Value.map layer).IsTextKeyed)
    (hsecond : ∀ layer ∈ second, (Value.map layer).IsTextKeyed) (path : List Value) :
    ¬SeparatedAt path (.map (first.foldl merge [])) (.map (second.foldl merge []))
      (.map upper) := by
  rintro ⟨⟨entries, hentries⟩, hupper, v, hv, hmap⟩
  have hpath : path ≠ [] := by
    rintro rfl
    cases hv
    cases hmap
  obtain ⟨lower, hlower, w, hw, hwmap⟩ := exists_holder_of_foldl hfirst hpath hentries
  obtain ⟨middle, hmiddle, u, hu, humap⟩ := exists_holder_of_foldl hsecond hpath hv
  obtain ⟨inner, rfl⟩ := Value.exists_entries hwmap
  have hthree : [lower, middle, upper].Sublist (first ++ (second ++ [upper])) :=
    (List.singleton_sublist.mpr hlower).append
      ((List.singleton_sublist.mpr hmiddle).append (List.Sublist.refl [upper]))
  exact h lower middle upper hthree path ⟨⟨inner, hw⟩, hupper, u, hu, humap.trans hmap⟩

/-- Merging layers in two parts gives what merging them one after another gives. -/
theorem foldl_merge_append {first second : List Entries}
    (hlayers : ∀ layer ∈ first ++ second, (Value.map layer).IsTextKeyed)
    (h : NeverSeparated (first ++ second)) :
    (first ++ second).foldl merge [] = merge (first.foldl merge []) (second.foldl merge []) := by
  induction second using List.reverseRecOn with
  | nil => rw [List.append_nil, List.foldl_nil, merge_nil_right]
  | append_singleton second last ih =>
    rw [← List.append_assoc] at hlayers
    have hbefore : ∀ layer ∈ first ++ second, (Value.map layer).IsTextKeyed :=
      fun layer hlayer => hlayers layer (List.mem_append_left _ hlayer)
    have hfirst : ∀ layer ∈ first, (Value.map layer).IsTextKeyed :=
      fun layer hlayer => hbefore layer (List.mem_append_left _ hlayer)
    have hsecond : ∀ layer ∈ second, (Value.map layer).IsTextKeyed :=
      fun layer hlayer => hbefore layer (List.mem_append_right _ hlayer)
    have hseparated : NeverSeparated (first ++ second) := fun lower middle upper hthree =>
      h lower middle upper (hthree.trans (by simp))
    have hassoc := merge_assoc (isTextKeyed_foldl Value.isTextKeyed_nil hfirst)
      (isTextKeyed_foldl Value.isTextKeyed_nil hsecond) (hlayers last (by simp))
      (h.foldl hfirst hsecond)
    calc (first ++ (second ++ [last])).foldl merge []
        = merge ((first ++ second).foldl merge []) last := by simp
      _ = merge (merge (first.foldl merge []) (second.foldl merge [])) last := by
        rw [ih hbefore hseparated]
      _ = merge (first.foldl merge []) (merge (second.foldl merge []) last) := hassoc
      _ = merge (first.foldl merge []) ((second ++ [last]).foldl merge []) := by simp

/-- A way to combine layers two at a time. -/
inductive Grouping where
  | layer (entries : Entries)
  | pair (lower upper : Grouping)

namespace Grouping

def layers : Grouping → List Entries
  | layer entries => [entries]
  | pair lower upper => lower.layers ++ upper.layers

/-- The settings that a grouping makes of its layers. -/
def combined : Grouping → Entries
  | layer entries => entries
  | pair lower upper => merge lower.combined upper.combined

/-- A grouping makes of its layers what merging them one after another does. -/
theorem combined_eq (g : Grouping) (hlayers : ∀ layer ∈ g.layers, (Value.map layer).IsTextKeyed)
    (h : NeverSeparated g.layers) : g.combined = g.layers.foldl merge [] := by
  induction g with
  | layer entries => exact (merge_nil_left (hlayers entries (by simp [layers])).hasTextKeys).symm
  | pair lower upper hlower hupper =>
    rw [layers] at hlayers h
    rw [combined, layers, foldl_merge_append hlayers h,
      hlower (fun layer hlayer => hlayers layer (List.mem_append_left _ hlayer))
        fun _ _ _ hthree => h _ _ _ (hthree.trans (List.sublist_append_left _ _)),
      hupper (fun layer hlayer => hlayers layer (List.mem_append_right _ hlayer))
        fun _ _ _ hthree => h _ _ _ (hthree.trans (List.sublist_append_right _ _))]

end Grouping

theorem isTextKeyed_standardEntries : (Value.map standardEntries).IsTextKeyed := by
  rw [standardEntries_eq]
  exact (isPlain_plainEntries isPlain_standard).isTextKeyed

/-- Assembling settings is merging layers one after another, from the defaults on. -/
theorem assemble_eq (upper : List Entries) :
    assemble upper = (standardEntries :: upper).foldl merge [] := by
  rw [List.foldl_cons, merge_nil_left isTextKeyed_standardEntries.hasTextKeys]
  rfl

/-- The laws of layering. No settings are neutral on both sides; putting a layer over a merge that it
is the upper part of changes nothing; merging is associative where the middle layer does not separate
the outer ones. So layers that are not separated give the same settings in every grouping, and those
of a run are assembled in any of them. -/
theorem layering_laws :
    (∀ x, (Value.map x).IsTextKeyed → merge [] x = x ∧ merge x [] = x) ∧
    (∀ a b, (Value.map a).IsTextKeyed → (Value.map b).IsTextKeyed →
      merge (merge a b) b = merge a b) ∧
    (∀ a b c, (Value.map a).IsTextKeyed → (Value.map b).IsTextKeyed →
      (Value.map c).IsTextKeyed → (∀ path, ¬SeparatedAt path (.map a) (.map b) (.map c)) →
        merge (merge a b) c = merge a (merge b c)) ∧
    ∀ g : Grouping, (∀ layer ∈ g.layers, (Value.map layer).IsTextKeyed) →
      NeverSeparated g.layers →
        g.combined = g.layers.foldl merge [] ∧
        ∀ upper, g.layers = standardEntries :: upper → assemble upper = g.combined := by
  refine ⟨fun x hx => ⟨merge_nil_left hx.hasTextKeys, merge_nil_right x⟩,
    fun a b ha hb => merge_merge_self ha hb, fun a b c ha hb hc => merge_assoc ha hb hc,
    fun g hlayers h => ⟨g.combined_eq hlayers h, fun upper hupper => ?_⟩⟩
  rw [assemble_eq, ← hupper, g.combined_eq hlayers h]

/-- A file, an environment and a caller that all speak of the logging section are layered in either
grouping. -/
theorem layering_laws_logging :
    let file : Entries := [(.str "version", .str "1.0"),
      (.str "logging", .map [(.str "level", .str "debug")])]
    let environment : Entries := [(.str "logging", .map [(.str "format", .str "json")])]
    let caller : Entries := [(.str "logging", .map [(.str "level", .str "error")])]
    let g : Grouping := .pair (.layer file) (.pair (.layer environment) (.layer caller))
    (∀ layer ∈ g.layers, (Value.map layer).IsTextKeyed) ∧ NeverSeparated g.layers ∧
      g.combined = g.layers.foldl merge [] := by
  intro file environment caller g
  have hsection (key text : String) :
      (Value.map [(.str "logging", .map [(.str key, .str text)])]).IsPlain :=
    ⟨⟨["logging"], by decide, rfl⟩,
      ⟨⟨[key], by simp, rfl⟩, trivial, trivial⟩, trivial⟩
  have hfile : (Value.map file).IsPlain :=
    ⟨⟨["version", "logging"], by decide, rfl⟩, trivial, (hsection "level" "debug").2⟩
  have hlayers : ∀ layer ∈ g.layers, (Value.map layer).IsTextKeyed := by
    intro layer hlayer
    have hmem : layer ∈ [file, environment, caller] := hlayer
    simp only [List.mem_cons, List.not_mem_nil, or_false] at hmem
    rcases hmem with rfl | rfl | rfl
    · exact hfile.isTextKeyed
    · exact (hsection "format" "json").isTextKeyed
    · exact (hsection "level" "error").isTextKeyed
  have hseparated : NeverSeparated g.layers := by
    intro lower middle upper hthree path
    have hlist : [lower, middle, upper] = [file, environment, caller] := hthree.eq_of_length rfl
    obtain ⟨rfl, rfl, rfl⟩ : lower = file ∧ middle = environment ∧ upper = caller := by
      simpa using hlist
    -- The environment holds no mapping below its section only, and there the caller holds none.
    rintro ⟨_, ⟨inner, hinner⟩, v, hv, hmap⟩
    match path, hinner, hv with
    | [], _, hv =>
      cases hv
      cases hmap
    | [key], _, hv =>
      obtain ⟨_, hfound, hv⟩ := Option.bind_eq_some_iff.mp hv
      obtain ⟨_, _, hentry⟩ := Entries.mem_of_get?_eq_some hfound
      cases List.mem_singleton.mp hentry
      cases hv
      cases hmap
    | key :: next :: later, hinner, _ =>
      obtain ⟨_, hfound, hinner⟩ := Option.bind_eq_some_iff.mp hinner
      obtain ⟨_, _, hentry⟩ := Entries.mem_of_get?_eq_some hfound
      cases List.mem_singleton.mp hentry
      obtain ⟨_, hfound, hinner⟩ := Option.bind_eq_some_iff.mp hinner
      obtain ⟨_, _, hentry⟩ := Entries.mem_of_get?_eq_some hfound
      cases List.mem_singleton.mp hentry
      obtain ⟨_, hmapping⟩ := HoldsMapAt.exists_entries ⟨inner, hinner⟩
      cases hmapping
  exact ⟨hlayers, hseparated, (layering_laws.2.2.2 g hlayers hseparated).1⟩

/-- A value that is no mapping cuts off what lies below it, but only once it has been put there. -/
example :
    let lower : Entries := [(.str "file", .map [(.str "path", .str "a.log")])]
    let middle : Entries := [(.str "file", .bool false)]
    let upper : Entries := [(.str "file", .map [(.str "enabled", .bool true)])]
    merge (merge lower middle) upper ≠ merge lower (merge middle upper) := by
  decide

end ReleasePackaging.Config
