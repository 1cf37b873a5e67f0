import ReleasePackaging.Config.Basic
import ReleasePackaging.Proofs.Config.Layers
import ReleasePackaging.Proofs.Config.Plain
import ReleasePackaging.Proofs.Value.TextKeyed

/-!
# What a merge holds along every path

A layer put over another one is told completely by paths of keys. At a path where the upper layer
holds something this is what the merge holds, but mappings in both layers are merged; at any other
path the lower layer shows through as far as both layers hold mappings. A merged mapping lists the
keys of the lower one first and the new keys of the upper one after them, each in their order.
-/
namespace ReleasePackaging.Config

open Value (HoldsMapAt valueAt?)

variable {lower upper : Entries} {path start : List Value} {v w : Value}

/-! ## Keys -/

/-- The keys of a merge: those of the lower layer, then the new ones of the upper layer. -/
theorem keys_merge (hlower : lower.HasTextKeys) (hupper : upper.HasTextKeys) :
    (merge lower upper).map Prod.fst =
      lower.map Prod.fst ++ (upper.map Prod.fst).filter (· ∉ lower.map Prod.fst) := by
  induction upper generalizing lower with
  | nil => simp [merge]
  | cons entry rest ih =>
    obtain ⟨key, v⟩ := entry
    obtain ⟨name, rfl, hfresh, hrest⟩ := Entries.hasTextKeys_cons.mp hupper
    rw [merge, ih (hlower.put name _) hrest, List.map_cons]
    by_cases hmem : Value.str name ∈ lower.map Prod.fst
    · rw [Entries.keys_put_of_mem hmem, List.filter_cons_of_neg (by simpa using hmem)]
    · -- The rest of the upper layer does not hold the key that has just been added.
      have hsame : (rest.map Prod.fst).filter (· ∉ lower.map Prod.fst ++ [.str name]) =
          (rest.map Prod.fst).filter (· ∉ lower.map Prod.fst) := by
        refine List.filter_congr fun key hkey => ?_
        have hother : key ≠ .str name := fun heq => hfresh (heq ▸ hkey)
        simp [hother]
      rw [Entries.put_new hlower hmem, List.map_append, List.map_singleton, hsame,
        List.filter_cons_of_pos (by simpa using hmem), List.append_assoc, List.singleton_append]

theorem hasTextKeys_merge (hlower : lower.HasTextKeys) (hupper : upper.HasTextKeys) :
    Entries.HasTextKeys (merge lower upper) := by
  induction upper generalizing lower with
  | nil => exact hlower
  | cons entry rest ih =>
    obtain ⟨key, v⟩ := entry
    obtain ⟨name, rfl, _, hrest⟩ := Entries.hasTextKeys_cons.mp hupper
    exact ih (hlower.put name _) hrest

/-- A layer with text keys throughout over another one gives such a mapping. -/
theorem isTextKeyed_merge (hlower : (Value.map lower).IsTextKeyed)
    (hupper : (Value.map upper).IsTextKeyed) : (Value.map (merge lower upper)).IsTextKeyed := by
  intro path entries hentries
  rcases valueAt?_merge_cases hlower.isKeyed hupper.isKeyed hentries with
    hnew | hold | ⟨old, new, hold, hnew, heq⟩
  · exact hupper path entries hnew
  · exact hlower path entries hold
  · cases heq
    exact hasTextKeys_merge (hlower path old hold) (hupper path new hnew)

/-! ## Paths -/

/-- The longest beginning of a path at which a value holds something. -/
structure IsReach (path start : List Value) (v : Value) : Prop where
  along : start <+: path
  held : ∃ w, valueAt? start v = some w
  longest : ∀ longer, longer <+: path → (∃ w, valueAt? longer v = some w) → longer <+: start

theorem exists_isReach (path : List Value) (v : Value) : ∃ start, IsReach path start v := by
  induction path generalizing v with
  | nil => exact ⟨[], List.prefix_rfl, ⟨v, rfl⟩, fun _ hlonger _ => hlonger⟩
  | cons key path ih =>
    cases hnext : valueAt? [key] v with
    | none =>
      refine ⟨[], List.nil_prefix, ⟨v, rfl⟩, fun longer hlonger ⟨w, hw⟩ => ?_⟩
      cases longer with
      | nil => exact List.prefix_rfl
      | cons first longer =>
        obtain ⟨rfl, _⟩ := List.cons_prefix_cons.mp hlonger
        rw [Value.valueAt?_cons_eq_none hnext] at hw
        cases hw
    | some u =>
      have hcons (later : List Value) : valueAt? (key :: later) v = valueAt? later u := by
        rw [← List.singleton_append, Value.valueAt?_append, hnext]
        rfl
      obtain ⟨start, hstart⟩ := ih u
      refine ⟨key :: start, List.cons_prefix_cons.mpr ⟨rfl, hstart.along⟩, ?_, ?_⟩
      · rw [hcons]
        exact hstart.held
      · rintro longer hlonger ⟨w, hw⟩
        cases longer with
        | nil => exact List.nil_prefix
        | cons first longer =>
          obtain ⟨rfl, hrest⟩ := List.cons_prefix_cons.mp hlonger
          rw [hcons] at hw
          exact List.cons_prefix_cons.mpr ⟨rfl, hstart.longest longer hrest ⟨w, hw⟩⟩

/-- Right after its reach a path leads to nothing. -/
theorem IsReach.next (h : IsReach path start v) (hnone : valueAt? path v = none) :
    ∃ key later, path = start ++ key :: later ∧ valueAt? (start ++ [key]) v = none := by
  obtain ⟨rest, rfl⟩ := h.along
  cases rest with
  | nil =>
    obtain ⟨w, hw⟩ := h.held
    rw [List.append_nil, hw] at hnone
    cases hnone
  | cons key later =>
    refine ⟨key, later, rfl, Option.eq_none_iff_forall_ne_some.mpr fun w hw => ?_⟩
    have hlong : start ++ [key] <+: start := h.longest _ ⟨later, by simp⟩ ⟨w, hw⟩
    have hlength := hlong.length_le
    simp only [List.length_append, List.length_singleton] at hlength
    omega

/-- What a layer put over another one holds at a path. What the upper layer holds is held, unless it
is a mapping over a mapping: then there is a mapping with the keys of both. Where the upper layer
holds nothing, the lower layer is kept if at the reach of the path in the upper layer both layers hold
a mapping, and nothing otherwise. A merged mapping lists the keys of the lower one first. -/
theorem merge_paths (hlower : (Value.map lower).IsTextKeyed)
    (hupper : (Value.map upper).IsTextKeyed) :
    (∀ path, path ≠ [] →
      (∀ v, valueAt? path (.map upper) = some v → v.isMap = false →
        valueAt? path (.map (merge lower upper)) = some v) ∧
      (∀ new, valueAt? path (.map upper) = some (.map new) →
        (∀ old, valueAt? path (.map lower) = some (.map old) →
          ∃ merged, valueAt? path (.map (merge lower upper)) = some (.map merged) ∧
            ∀ key, key ∈ merged.map Prod.fst ↔
              key ∈ old.map Prod.fst ∨ key ∈ new.map Prod.fst) ∧
        (¬HoldsMapAt path (.map lower) →
          valueAt? path (.map (merge lower upper)) = some (.map new))) ∧
      (valueAt? path (.map upper) = none → ∃ start, IsReach path start (.map upper) ∧
        (HoldsMapAt start (.map upper) ∧ HoldsMapAt start (.map lower) →
          valueAt? path (.map (merge lower upper)) = valueAt? path (.map lower)) ∧
        (¬(HoldsMapAt start (.map upper) ∧ HoldsMapAt start (.map lower)) →
          valueAt? path (.map (merge lower upper)) = none))) ∧
    ∀ path old new, valueAt? path (.map lower) = some (.map old) →
      valueAt? path (.map upper) = some (.map new) →
        ∃ merged, valueAt? path (.map (merge lower upper)) = some (.map merged) ∧
          merged.map Prod.fst =
            old.map Prod.fst ++ (new.map Prod.fst).filter (· ∉ old.map Prod.fst) := by
  have hmerged {path : List Value} {old new : Entries}
      (hold : valueAt? path (.map lower) = some (.map old))
      (hnew : valueAt? path (.map upper) = some (.map new)) :=
    And.intro (valueAt?_merge_both hlower.isKeyed hupper.isKeyed hold hnew)
      (keys_merge (hlower path old hold) (hupper path new hnew))
  refine ⟨fun path _ => ⟨fun v hv hmap => ?_, fun new hnew => ⟨fun old hold => ?_, fun hnot => ?_⟩,
    fun hnone => ?_⟩, fun path old new hold hnew => ⟨_, hmerged hold hnew⟩⟩
  · refine valueAt?_merge_upper hlower.isKeyed hupper.isKeyed hv fun h => ?_
    rw [hmap] at h
    cases h
  · obtain ⟨hvalue, hkeys⟩ := hmerged hold hnew
    refine ⟨_, hvalue, fun key => ?_⟩
    rw [hkeys, List.mem_append, List.mem_filter, decide_eq_true_iff]
    by_cases hmem : key ∈ old.map Prod.fst <;> simp [hmem]
  · exact valueAt?_merge_upper hlower.isKeyed hupper.isKeyed hnew fun _ => hnot
  · obtain ⟨start, hstart⟩ := exists_isReach path (.map upper)
    obtain ⟨u, hu⟩ := hstart.held
    obtain ⟨key, later, rfl, hnext⟩ := hstart.next hnone
    exact ⟨start, hstart, valueAt?_merge_beyond hlower.isKeyed hupper.isKeyed hu hnext⟩

/-- Over the defaults of the logging section a flag replaces the section of the console and all in it,
and a file section with a new key and a new path keeps the rest of the default one. -/
theorem merge_paths_logging :
    let upper : Entries := [(.str "console", .bool false),
      (.str "file", .map [(.str "mode", .str "w"), (.str "path", .str "ton.log")])]
    (Value.map defaultLogging).IsTextKeyed ∧ (Value.map upper).IsTextKeyed ∧
      valueAt? [.str "console"] (.map (merge defaultLogging upper)) = some (.bool false) ∧
      valueAt? [.str "file", .str "enabled"] (.map (merge defaultLogging upper)) =
        some (.bool false) ∧
      ∃ merged, valueAt? [.str "file"] (.map (merge defaultLogging upper)) = some (.map merged) ∧
        merged.map Prod.fst = [.str "enabled", .str "path", .str "max_bytes", .str "backup_count",
          .str "mode"] := by
  intro upper
  have hlower : (Value.map defaultLogging).IsTextKeyed := isPlain_standard.isTextKeyed
  have hfile : Entries.HasTextKeys [(.str "mode", .str "w"), (.str "path", .str "ton.log")] :=
    ⟨["mode", "path"], by decide, rfl⟩
  have hplain : (Value.map upper).IsPlain :=
    ⟨⟨["console", "file"], by decide, rfl⟩, trivial, ⟨hfile, trivial, trivial, trivial⟩, trivial⟩
  obtain ⟨hpaths, hkeys⟩ := merge_paths hlower hplain.isTextKeyed
  refine ⟨hlower, hplain.isTextKeyed, (hpaths [.str "console"] nofun).1 _ rfl rfl, ?_,
    hkeys [.str "file"] _ _ rfl rfl⟩
  obtain ⟨start, hstart, hkept, _⟩ :=
    (hpaths [.str "file", .str "enabled"] nofun).2.2 rfl
  refine hkept ?_
  -- The upper layer holds a mapping on the whole way to the missing key.
  rcases List.prefix_cons_iff.mp hstart.along with rfl | ⟨rest, rfl, hrest⟩
  · exact ⟨⟨_, rfl⟩, _, rfl⟩
  · rcases List.prefix_cons_iff.mp hrest with rfl | ⟨rest, rfl, _⟩
    · exact ⟨⟨_, rfl⟩, _, rfl⟩
    · obtain ⟨w, hw⟩ := hstart.held
      cases hw

end ReleasePackaging.Config
