import ReleasePackaging.Config.Merge
import ReleasePackaging.Proofs.Value.Keyed

/-!
# Layers along paths of keys

What a layer puts over another one is told for every path of keys: where the upper layer holds a
value it is layered over the lower one, and elsewhere the lower one stays. So the last layer that
holds a value at a path decides it, as long as no layer holds a mapping where another holds
something else.
-/
namespace ReleasePackaging.Config

open Value (HoldsMapAt valueAt? valueAt?_append valueAt?_not_map)

variable {lower upper : Entries} {key k v : Value} {path : List Value}

/-! ## One layer over another -/

theorem layered_none (v : Value) : layered none v = v := by
  cases v <;> rfl

theorem layered_of_not_map {old : Option Value} (h : v.isMap = false) : layered old v = v := by
  cases v with
  | map entries => cases h
  | _ => rfl

theorem isMap_layered (old : Option Value) (v : Value) : (layered old v).isMap = v.isMap := by
  cases v with
  | map upper =>
    unfold layered
    split <;> rfl
  | _ => rfl

/-- What is found under a key after a layer has been put over another one. -/
theorem get?_merge (hlower : lower.HaveKeys) (hupper : upper.HaveKeys)
    (hdistinct : upper.AreDistinct) (k : Value) :
    Entries.get? k (merge lower upper) =
      match upper.get? k with
      | some v => some (layered (lower.get? k) v)
      | none => lower.get? k := by
  induction upper generalizing lower with
  | nil => rfl
  | cons entry rest ih =>
    obtain ⟨key, v⟩ := entry
    have hkey : key.IsKey := hupper _ List.mem_cons_self
    obtain ⟨_, hrest⟩ := List.pairwise_cons.mp hdistinct
    have hrestKeys : Entries.HaveKeys rest := fun entry hentry =>
      hupper entry (List.mem_cons_of_mem _ hentry)
    rw [merge, ih (hlower.put hkey _) hrestKeys hrest, Entries.get?_put hlower hkey, Entries.get?]
    by_cases hsame : key.same k = true
    · have hnone := Entries.get?_tail_eq_none hupper hdistinct hsame
      rw [if_pos hsame, if_pos hsame, hnone, Entries.get?_congr hlower hkey hsame]
    · rw [if_neg hsame, if_neg hsame]

/-- What holds of all keys of two layers holds of all keys of one put over the other, if it does not
tell apart keys that are the same. -/
theorem all_keys_merge {P : Value → Bool} (hP : ∀ a b, a.same b = true → P a = P b)
    (lower : Entries) (upper : List (Value × Value)) :
    ((merge lower upper).all fun entry => P entry.1) =
      ((lower.all fun entry => P entry.1) && upper.all fun entry => P entry.1) := by
  induction upper generalizing lower with
  | nil => simp [merge]
  | cons entry rest ih =>
    obtain ⟨key, v⟩ := entry
    rw [merge, ih, Entries.all_keys_put hP, Bool.and_assoc]
    rfl

mutual

/-- A keyed layer over a keyed one is keyed. -/
theorem isKeyed_layered (old : Option Value) : ∀ v : Value, (∀ w, old = some w → w.IsKeyed) →
    v.IsKeyed → (layered old v).IsKeyed
  | .map upper, hold, hupper => by
    obtain ⟨hkeys, _, hvalues⟩ := Value.isKeyed_map.mp hupper
    unfold layered
    split
    · exact isKeyed_merge _ upper (hold _ rfl) hkeys hvalues
    · exact hupper
  | .null, _, _ | .bool _, _, _ | .int _, _, _ | .float _, _, _ | .str _, _, _ | .bytes _, _, _
  | .date _, _, _ | .moment _, _, _ | .path _, _, _ | .platform _, _, _ | .list _, _, _
  | .tuple _, _, _ | .set _, _, _ => trivial

theorem isKeyed_merge (lower : Entries) : ∀ upper : List (Value × Value),
    (Value.map lower).IsKeyed → Entries.HaveKeys upper → (∀ entry ∈ upper, entry.2.IsKeyed) →
      (Value.map (merge lower upper)).IsKeyed
  | [], hlower, _, _ => hlower
  | (key, v) :: rest, hlower, hkeys, hvalues => by
    have hv := isKeyed_layered (lower.get? key) v (fun w hw => hlower.get? hw)
      (hvalues _ List.mem_cons_self)
    rw [merge]
    exact isKeyed_merge _ rest (hlower.put (hkeys _ List.mem_cons_self) hv)
      (fun entry hentry => hkeys entry (List.mem_cons_of_mem _ hentry))
      (fun entry hentry => hvalues entry (List.mem_cons_of_mem _ hentry))

end

/-! ## What a merge holds at a path -/

/-- A mapping over a mapping is merged with it. -/
theorem layered_map_map (old new : Entries) :
    layered (some (.map old)) (.map new) = .map (merge old new) := by
  unfold layered
  rfl

/-- A value put over what is no mapping stays as it is. -/
theorem layered_over_other {old : Option Value} (h : ∀ lower, old ≠ some (.map lower)) (v : Value) :
    layered old v = v := by
  cases v with
  | map upper =>
    unfold layered
    split
    · next lower => exact absurd rfl (h lower)
    · rfl
  | _ => rfl

/-- A value stays as it is unless it is a mapping put over one. -/
theorem layered_cases (old : Option Value) (v : Value) :
    (∃ lower upper, old = some (.map lower) ∧ v = .map upper) ∨ layered old v = v := by
  by_cases hold : ∃ lower, old = some (.map lower)
  · obtain ⟨lower, hlower⟩ := hold
    cases hmap : v.isMap with
    | true =>
      obtain ⟨upper, rfl⟩ := Value.exists_entries hmap
      exact .inl ⟨lower, upper, hlower, rfl⟩
    | false => exact .inr (layered_of_not_map hmap)
  · exact .inr (layered_over_other (fun lower hlower => hold ⟨lower, hlower⟩) v)

/-- Below a key a merge is what the two layers make of what they hold there. -/
theorem valueAt?_merge_cons (hlower : (Value.map lower).IsKeyed) (hupper : (Value.map upper).IsKeyed)
    (key : Value) (path : List Value) :
    valueAt? (key :: path) (.map (merge lower upper)) =
      match upper.get? key with
      | some v => valueAt? path (layered (lower.get? key) v)
      | none => valueAt? (key :: path) (.map lower) := by
  obtain ⟨hlowerKeys, _, _⟩ := Value.isKeyed_map.mp hlower
  obtain ⟨hupperKeys, hdistinct, _⟩ := Value.isKeyed_map.mp hupper
  rw [valueAt?, get?_merge hlowerKeys hupperKeys hdistinct]
  cases upper.get? key <;> rfl

/-- Where both layers hold a mapping the two are merged. -/
theorem valueAt?_merge_both {old new : Entries} (hlower : (Value.map lower).IsKeyed)
    (hupper : (Value.map upper).IsKeyed) (hold : valueAt? path (.map lower) = some (.map old))
    (hnew : valueAt? path (.map upper) = some (.map new)) :
    valueAt? path (.map (merge lower upper)) = some (.map (merge old new)) := by
  induction path generalizing lower upper with
  | nil =>
    cases hold
    cases hnew
    rfl
  | cons key path ih =>
    obtain ⟨w, hw, hold⟩ := Option.bind_eq_some_iff.mp hold
    obtain ⟨v, hv, hnew⟩ := Option.bind_eq_some_iff.mp hnew
    obtain ⟨lower', rfl⟩ := HoldsMapAt.exists_entries ⟨old, hold⟩
    obtain ⟨upper', rfl⟩ := HoldsMapAt.exists_entries ⟨new, hnew⟩
    simp only [valueAt?_merge_cons hlower hupper, hv, hw, layered_map_map]
    exact ih (hlower.get? hw) (hupper.get? hv) hold hnew

/-- What the upper layer holds stays unless both layers hold a mapping. -/
theorem valueAt?_merge_upper (hlower : (Value.map lower).IsKeyed)
    (hupper : (Value.map upper).IsKeyed) (hv : valueAt? path (.map upper) = some v)
    (h : v.isMap = true → ¬HoldsMapAt path (.map lower)) :
    valueAt? path (.map (merge lower upper)) = some v := by
  induction path generalizing lower upper with
  | nil =>
    cases hv
    exact absurd ⟨lower, rfl⟩ (h rfl)
  | cons key path ih =>
    obtain ⟨u, hu, hv⟩ := Option.bind_eq_some_iff.mp hv
    simp only [valueAt?_merge_cons hlower hupper, hu]
    rcases layered_cases (lower.get? key) u with ⟨lower', upper', hold, rfl⟩ | hself
    · rw [hold, layered_map_map]
      refine ih (hlower.get? hold) (hupper.get? hu) hv ?_
      rintro hmap ⟨entries, hentries⟩
      exact h hmap ⟨entries, by simp [valueAt?, hold, hentries]⟩
    · rw [hself]
      exact hv

/-- Beyond the point to which the upper layer leads, the lower layer is kept if both hold a mapping
there, and nothing else. -/
theorem valueAt?_merge_beyond {start later : List Value} {u : Value}
    (hlower : (Value.map lower).IsKeyed) (hupper : (Value.map upper).IsKeyed)
    (hu : valueAt? start (.map upper) = some u)
    (hnone : valueAt? (start ++ [key]) (.map upper) = none) :
    (HoldsMapAt start (.map upper) ∧ HoldsMapAt start (.map lower) →
      valueAt? (start ++ key :: later) (.map (merge lower upper)) =
        valueAt? (start ++ key :: later) (.map lower)) ∧
    (¬(HoldsMapAt start (.map upper) ∧ HoldsMapAt start (.map lower)) →
      valueAt? (start ++ key :: later) (.map (merge lower upper)) = none) := by
  have hnext : valueAt? [key] u = none := by
    rw [valueAt?_append, hu] at hnone
    exact hnone
  constructor
  · rintro ⟨⟨new, hnew⟩, old, hold⟩
    cases hu.symm.trans hnew
    have hkeyedOld := hlower.valueAt? hold
    have hkeyedNew := hupper.valueAt? hnew
    obtain ⟨holdKeys, _, _⟩ := Value.isKeyed_map.mp hkeyedOld
    obtain ⟨hnewKeys, hdistinct, _⟩ := Value.isKeyed_map.mp hkeyedNew
    have habsent : Entries.get? key new = none := by
      cases hget : Entries.get? key new with
      | none => rfl
      | some w => simp [valueAt?, hget] at hnext
    rw [valueAt?_append, valueAt?_append, valueAt?_merge_both hlower hupper hold hnew, hold]
    simp only [Option.bind, valueAt?, get?_merge holdKeys hnewKeys hdistinct, habsent]
  · intro hnot
    have hkept := valueAt?_merge_upper hlower hupper hu fun hmap hholds => by
      obtain ⟨new, rfl⟩ := Value.exists_entries hmap
      exact hnot ⟨⟨new, hu⟩, hholds⟩
    rw [valueAt?_append, hkept]
    exact Value.valueAt?_cons_eq_none hnext

/-- A merge holds at a path what one of its layers holds there, or the merge of what they hold. -/
theorem valueAt?_merge_cases (hlower : (Value.map lower).IsKeyed)
    (hupper : (Value.map upper).IsKeyed) (h : valueAt? path (.map (merge lower upper)) = some v) :
    valueAt? path (.map upper) = some v ∨ valueAt? path (.map lower) = some v ∨
      ∃ old new, valueAt? path (.map lower) = some (.map old) ∧
        valueAt? path (.map upper) = some (.map new) ∧ v = .map (merge old new) := by
  induction path generalizing lower upper with
  | nil =>
    cases h
    exact .inr (.inr ⟨lower, upper, rfl, rfl, rfl⟩)
  | cons key path ih =>
    rw [valueAt?_merge_cons hlower hupper] at h
    cases hnew : upper.get? key with
    | none =>
      rw [hnew] at h
      exact .inr (.inl h)
    | some u =>
      simp only [hnew] at h
      rcases layered_cases (lower.get? key) u with ⟨lower', upper', hold, rfl⟩ | hself
      · rw [hold, layered_map_map] at h
        simpa [valueAt?, hold, hnew] using ih (hlower.get? hold) (hupper.get? hnew) h
      · rw [hself] at h
        exact .inl (by simp [valueAt?, hnew, h])

/-! ## Paths through layers -/

/-- Whether two values hold no mapping at a path where the other one holds something else. -/
def AgreeAt (path : List Value) (a b : Value) : Prop :=
  ∀ v w, valueAt? path a = some v → valueAt? path b = some w → v.isMap = w.isMap

instance (path : List Value) (a b : Value) : Decidable (AgreeAt path a b) :=
  match ha : valueAt? path a, hb : valueAt? path b with
  | some v, some w =>
    decidable_of_iff (v.isMap = w.isMap) ⟨fun h v' w' hv' hw' => by
      rw [ha] at hv'
      rw [hb] at hw'
      cases hv'
      cases hw'
      exact h, fun h => h v w ha hb⟩
  | none, _ => isTrue fun v w hv _ => by rw [ha] at hv; cases hv
  | some _, none => isTrue fun v w _ hw => by rw [hb] at hw; cases hw

/-- What a layer put over another one holds at a path. -/
theorem valueAt?_merge (hlower : (Value.map lower).IsKeyed) (hupper : (Value.map upper).IsKeyed)
    (hagree : ∀ start, start <+: path → AgreeAt start (.map lower) (.map upper)) :
    valueAt? path (.map (merge lower upper)) =
      match valueAt? path (.map upper) with
      | some v => some (layered (valueAt? path (.map lower)) v)
      | none => valueAt? path (.map lower) := by
  induction path generalizing lower upper with
  | nil => rfl
  | cons key path ih =>
    rw [valueAt?_merge_cons hlower hupper]
    cases hnew : upper.get? key with
    | none => simp [valueAt?, hnew]
    | some v =>
      simp only [valueAt?, hnew]
      cases hold : lower.get? key with
      | none =>
        simp only [Option.bind, layered_none]
        cases valueAt? path v <;> rfl
      | some w =>
        have hsort : w.isMap = v.isMap :=
          hagree [key] ⟨path, rfl⟩ w v (by simp [valueAt?, hold]) (by simp [valueAt?, hnew])
        simp only [Option.bind]
        cases hv : v.isMap with
        | true =>
          obtain ⟨inner, rfl⟩ := Value.exists_entries hv
          obtain ⟨outer, rfl⟩ := Value.exists_entries (hsort.trans hv)
          refine ih (hlower.get? hold) (hupper.get? hnew) fun start hstart => ?_
          have hlater := hagree (key :: start) (List.cons_prefix_cons.mpr ⟨rfl, hstart⟩)
          simpa only [AgreeAt, valueAt?, hold, hnew, Option.bind] using hlater
        | false =>
          have hw : w.isMap = false := hsort.trans hv
          rw [layered_of_not_map hv]
          cases path with
          | nil => exact congrArg some (layered_of_not_map hv).symm
          | cons next path => rw [valueAt?_not_map hv, valueAt?_not_map hw]

/-- What two layers hold at a path if they hold the same there, or a mapping each. -/
def SameUnlessMap (a b : Option Value) : Prop :=
  a = b ∨ ∃ v w, a = some v ∧ b = some w ∧ v.isMap = true ∧ w.isMap = true

theorem SameUnlessMap.refl (a : Option Value) : SameUnlessMap a a := .inl rfl

theorem SameUnlessMap.or {a b : Option Value} (h : SameUnlessMap a b) (c : Option Value) :
    SameUnlessMap (c.or a) (c.or b) := by
  cases c with
  | none => exact h
  | some v => exact .inl rfl

theorem SameUnlessMap.trans {a b c : Option Value} (h : SameUnlessMap a b)
    (h' : SameUnlessMap b c) : SameUnlessMap a c := by
  rcases h with rfl | ⟨v, w, ha, hb, hv, hw⟩
  · exact h'
  · rcases h' with rfl | ⟨v', w', hb', hc, hv', hw'⟩
    · exact .inr ⟨v, w, ha, hb, hv, hw⟩
    · exact .inr ⟨v, w', ha, hc, hv, hw'⟩

/-- Of a layer and one below it the upper one decides a path at which it holds a value. -/
theorem sameUnlessMap_merge (hlower : (Value.map lower).IsKeyed)
    (hupper : (Value.map upper).IsKeyed)
    (hagree : ∀ start, start <+: path → AgreeAt start (.map lower) (.map upper)) :
    SameUnlessMap (valueAt? path (.map (merge lower upper)))
      ((valueAt? path (.map upper)).or (valueAt? path (.map lower))) := by
  rw [valueAt?_merge hlower hupper hagree]
  cases hv : valueAt? path (.map upper) with
  | none => exact .refl _
  | some v =>
    cases hmap : v.isMap with
    | false => exact .inl (congrArg some (layered_of_not_map hmap))
    | true => exact .inr ⟨_, v, rfl, rfl, (isMap_layered _ v).trans hmap, hmap⟩

/-! ## Several layers -/

/-- The value that the last of some layers holds at a path, of those that hold one. -/
def lastAt? (path : List Value) : List Entries → Option Value
  | [] => none
  | layer :: later => (lastAt? path later).or (valueAt? path (.map layer))

/-- Whether no layer holds a mapping, at a path or on the way to it, where another one holds
something else. -/
def Unconflicted (layers : List Entries) (path : List Value) : Prop :=
  ∀ start, start <+: path → ∀ a ∈ layers, ∀ b ∈ layers, AgreeAt start (.map a) (.map b)

theorem unconflicted_iff_take {layers : List Entries} : Unconflicted layers path ↔
    ∀ n ∈ List.range (path.length + 1), ∀ a ∈ layers, ∀ b ∈ layers,
      AgreeAt (path.take n) (.map a) (.map b) := by
  constructor
  · exact fun h n _ a ha b hb => h _ (List.take_prefix n path) a ha b hb
  · intro h start hstart a ha b hb
    have hn : start.length ∈ List.range (path.length + 1) :=
      List.mem_range.mpr (Nat.lt_succ_of_le hstart.length_le)
    rw [List.prefix_iff_eq_take.mp hstart]
    exact h _ hn a ha b hb

instance (layers : List Entries) (path : List Value) : Decidable (Unconflicted layers path) :=
  decidable_of_iff _ unconflicted_iff_take.symm

/-- Where merged layers hold a value, one of them holds a value of that sort. -/
theorem exists_holder (hlower : (Value.map lower).IsKeyed) (hupper : (Value.map upper).IsKeyed)
    (h : valueAt? path (.map (merge lower upper)) = some v) :
    ∃ layer ∈ [lower, upper], ∃ w, valueAt? path (.map layer) = some w ∧ w.isMap = v.isMap := by
  rcases valueAt?_merge_cases hlower hupper h with hv | hv | ⟨old, new, hold, _, rfl⟩
  · exact ⟨upper, by simp, v, hv, rfl⟩
  · exact ⟨lower, by simp, v, hv, rfl⟩
  · exact ⟨lower, by simp, .map old, hold, rfl⟩

theorem Unconflicted.merge {later : List Entries} (h : Unconflicted (lower :: upper :: later) path)
    (hlower : (Value.map lower).IsKeyed) (hupper : (Value.map upper).IsKeyed) :
    Unconflicted (merge lower upper :: later) path := by
  -- Each layer holds at the beginnings of the path what one of the layers before holds there.
  have hholder : ∀ start, start <+: path → ∀ a ∈ Config.merge lower upper :: later, ∀ v,
      valueAt? start (.map a) = some v →
        ∃ layer ∈ lower :: upper :: later, ∃ w,
          valueAt? start (.map layer) = some w ∧ w.isMap = v.isMap := by
    intro start hstart a ha v hv
    rcases List.mem_cons.mp ha with rfl | hlater
    · obtain ⟨layer, hlayer, hrest⟩ := exists_holder hlower hupper hv
      exact ⟨layer, List.mem_append_left later hlayer, hrest⟩
    · exact ⟨a, by simp [hlater], v, hv, rfl⟩
  intro start hstart a ha b hb v w hv hw
  obtain ⟨layer, hlayer, v', hv', hvsort⟩ := hholder start hstart a ha v hv
  obtain ⟨layer', hlayer', w', hw', hwsort⟩ := hholder start hstart b hb w hw
  rw [← hvsort, ← hwsort]
  exact h start hstart layer hlayer layer' hlayer' v' w' hv' hw'

/-- Layers put one over another hold at a path what the last of them holds, unless it is a
mapping. -/
theorem foldl_merge (base : Entries) (later : List Entries) (hbase : (Value.map base).IsKeyed)
    (hlater : ∀ layer ∈ later, (Value.map layer).IsKeyed)
    (h : Unconflicted (base :: later) path) :
    SameUnlessMap (valueAt? path (.map (later.foldl merge base))) (lastAt? path (base :: later)) := by
  induction later generalizing base with
  | nil => exact .refl _
  | cons upper later ih =>
    have hupper := hlater upper List.mem_cons_self
    obtain ⟨hkeys, _, hvalues⟩ := Value.isKeyed_map.mp hupper
    have hmerged := ih (merge base upper) (isKeyed_merge base upper hbase hkeys hvalues)
      (fun layer hlayer => hlater layer (List.mem_cons_of_mem _ hlayer)) (h.merge hbase hupper)
    have hfirst := sameUnlessMap_merge hbase hupper fun start hstart =>
      h start hstart base (by simp) upper (by simp)
    rw [lastAt?] at hmerged
    rw [List.foldl_cons, lastAt?, lastAt?, Option.or_assoc]
    exact hmerged.trans (hfirst.or _)

theorem exists_layer_of_lastAt? {layers : List Entries} {v : Value}
    (h : lastAt? path layers = some v) : ∃ layer ∈ layers, valueAt? path (.map layer) = some v := by
  induction layers with
  | nil => cases h
  | cons layer later ih =>
    rcases Option.or_eq_some_iff.mp h with hlater | ⟨_, hlayer⟩
    · obtain ⟨layer', hmem, hvalue⟩ := ih hlater
      exact ⟨layer', List.mem_cons_of_mem _ hmem, hvalue⟩
    · exact ⟨layer, List.mem_cons_self, hlayer⟩

theorem isSome_lastAt? {layers : List Entries} {layer : Entries} {v : Value} (hmem : layer ∈ layers)
    (hv : valueAt? path (.map layer) = some v) : ∃ w, lastAt? path layers = some w := by
  induction layers with
  | nil => cases hmem
  | cons first later ih =>
    rw [lastAt?]
    rcases List.mem_cons.mp hmem with rfl | hlater
    · rw [hv]
      cases lastAt? path later with
      | none => exact ⟨v, rfl⟩
      | some w => exact ⟨w, rfl⟩
    · obtain ⟨w, hw⟩ := ih hlater
      exact ⟨w, by rw [hw]; rfl⟩

/-- A path that holds no mapping is decided by the last layer that holds something there. -/
theorem valueAt?_foldl_merge (base : Entries) (later : List Entries) {v : Value}
    (hbase : (Value.map base).IsKeyed) (hlater : ∀ layer ∈ later, (Value.map layer).IsKeyed)
    (h : Unconflicted (base :: later) path) (hv : v.isMap = false) :
    valueAt? path (.map (later.foldl merge base)) = some v ↔
      lastAt? path (base :: later) = some v := by
  rcases foldl_merge base later hbase hlater h with heq | ⟨a, b, ha, hb, hamap, hbmap⟩
  · rw [heq]
  · rw [ha, hb]
    constructor
    · rintro ⟨⟩
      rw [hv] at hamap
      cases hamap
    · rintro ⟨⟩
      rw [hv] at hbmap
      cases hbmap

/-- The last layer that holds something at a path holds no mapping exactly if some layer does so. -/
theorem exists_lastAt?_iff {layers : List Entries} (h : Unconflicted layers path) :
    (∃ v, lastAt? path layers = some v ∧ v.isMap = false) ↔
      ∃ layer ∈ layers, ∃ v, valueAt? path (.map layer) = some v ∧ v.isMap = false := by
  constructor
  · rintro ⟨v, hlast, hv⟩
    obtain ⟨layer, hmem, hvalue⟩ := exists_layer_of_lastAt? hlast
    exact ⟨layer, hmem, v, hvalue, hv⟩
  · rintro ⟨layer, hmem, v, hvalue, hv⟩
    obtain ⟨w, hlast⟩ := isSome_lastAt? hmem hvalue
    obtain ⟨layer', hmem', hvalue'⟩ := exists_layer_of_lastAt? hlast
    have hsort := h path List.prefix_rfl layer hmem layer' hmem' v w hvalue hvalue'
    exact ⟨w, hlast, hsort ▸ hv⟩

theorem lastAt?_eq_none {layers : List Entries}
    (h : ∀ layer ∈ layers, valueAt? path (.map layer) = none) : lastAt? path layers = none := by
  cases hlast : lastAt? path layers with
  | none => rfl
  | some v =>
    obtain ⟨layer, hmem, hvalue⟩ := exists_layer_of_lastAt? hlast
    rw [h layer hmem] at hvalue
    cases hvalue

/-- Layers that hold nothing at a path leave it to those below. -/
theorem lastAt?_append {lower higher : List Entries}
    (h : ∀ layer ∈ higher, valueAt? path (.map layer) = none) :
    lastAt? path (lower ++ higher) = lastAt? path lower := by
  induction lower with
  | nil => exact lastAt?_eq_none h
  | cons layer lower ih => rw [List.cons_append, lastAt?, lastAt?, ih]

end ReleasePackaging.Config
