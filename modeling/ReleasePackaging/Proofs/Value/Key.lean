import ReleasePackaging.Proofs.Number.Integral
import ReleasePackaging.Value.Basic

/-!
# Keys of mappings

A key is a scalar or a tuple of keys. Two keys are the same if they count as the same: the truth
values and whole numbers count as integers, a platform as its name, and what is no number counts as
nothing. What is found under a key follows from this alone.
-/
namespace ReleasePackaging

open Number (Binary64)

namespace Value

/-- What a key counts as when keys are compared. -/
inductive KeyClass where
  | null
  | integer (n : Int)
  | fraction (x : Binary64)
  | text (s : String)
  | bytes (bs : List UInt8)
  | date (d : Date)
  | moment (isAware : Bool) (instant : Int)
  | path (p : Path)
  | tuple (parts : List KeyClass)

def numberClass? (x : Binary64) : Option KeyClass :=
  if x.isNaN then none
  else if x.isIntegral then some (.integer x.truncate)
  else some (.fraction x)

mutual

def keyClass? : Value → Option KeyClass
  | .null => some .null
  | .bool b => some (.integer (if b then 1 else 0))
  | .int n => some (.integer n)
  | .float x => numberClass? x
  | .str s => some (.text s)
  | .platform p => some (.text p.name)
  | .bytes bs => some (.bytes bs)
  | .date d => some (.date d)
  | .moment t => some (.moment t.offset.isSome t.instant)
  | .path p => some (.path p)
  | .tuple xs => (keyClasses? xs).map .tuple
  | .list _ | .set _ | .map _ => none

def keyClasses? : List Value → Option (List KeyClass)
  | [] => some []
  | x :: xs => (keyClass? x).bind fun first => (keyClasses? xs).map fun rest => first :: rest

end

mutual

/-- Whether a value can be a key: a scalar or a tuple of such. -/
def IsKey : Value → Prop
  | .tuple xs => AreKeys xs
  | .list _ | .set _ | .map _ => False
  | _ => True

def AreKeys : List Value → Prop
  | [] => True
  | x :: xs => IsKey x ∧ AreKeys xs

end

/-! ## Numbers -/

theorem truncate_of_isZero {x : Binary64} (h : x.isZero = true) :
    x.isNaN = false ∧ x.isIntegral = true ∧ x.truncate = 0 := by
  simp only [Binary64.isZero, Bool.and_eq_true, beq_iff_eq] at h
  have hsignificand : x.significand = 0 := by rw [Binary64.significand, if_pos h.1, h.2]
  refine ⟨?_, ?_, ?_⟩
  · simp [Binary64.isNaN, h.1]
  · simp [Binary64.isIntegral, Binary64.isFinite, h.1, Binary64.toRatio_eq, hsignificand]
  · simp [Binary64.truncate_eq, hsignificand]

theorem not_isNaN_of_isIntegral {x : Binary64} (h : x.isIntegral = true) : x.isNaN = false := by
  simp only [Binary64.isIntegral, Bool.and_eq_true, Binary64.isFinite, bne_iff_ne] at h
  simp [Binary64.isNaN, h.1]

/-- A number equals an integer if it counts as that integer. -/
theorem eqvInt_iff {x : Binary64} {n : Int} :
    x.eqvInt n = true ↔ numberClass? x = some (.integer n) := by
  unfold Binary64.eqvInt numberClass?
  cases hintegral : x.isIntegral with
  | true => simp [not_isNaN_of_isIntegral hintegral]
  | false => cases x.isNaN <;> simp

theorem isSome_numberClass? {x : Binary64} (h : x.isNaN = false) : ∃ k, numberClass? x = some k := by
  unfold numberClass?
  cases x.isIntegral with
  | true => exact ⟨.integer x.truncate, by simp [h]⟩
  | false => exact ⟨.fraction x, by simp [h]⟩

/-- Two numbers are equal if they count as the same. -/
theorem eqv_iff {x y : Binary64} :
    x.eqv y = true ↔ ∃ k, numberClass? y = some k ∧ numberClass? x = some k := by
  constructor
  · intro h
    simp only [Binary64.eqv, Bool.and_eq_true, Bool.or_eq_true, beq_iff_eq, Bool.not_eq_true'] at h
    obtain ⟨⟨hx, hy⟩, hbits | ⟨hxzero, hyzero⟩⟩ := h
    · obtain rfl : x = y := congrArg Binary64.mk hbits
      obtain ⟨k, hk⟩ := isSome_numberClass? hx
      exact ⟨k, hk, hk⟩
    · obtain ⟨_, hxwhole, hxvalue⟩ := truncate_of_isZero hxzero
      obtain ⟨_, hywhole, hyvalue⟩ := truncate_of_isZero hyzero
      exact ⟨.integer 0, by simp [numberClass?, hy, hywhole, hyvalue],
        by simp [numberClass?, hx, hxwhole, hxvalue]⟩
  · rintro ⟨k, hky, hkx⟩
    unfold numberClass? at hky hkx
    split at hky
    · cases hky
    next hy =>
    split at hkx
    · cases hkx
    next hx =>
    have heq : x = y ∨ x.isZero = true ∧ y.isZero = true := by
      split at hky <;> split at hkx
      · next hywhole hxwhole =>
        cases hky
        exact Binary64.eq_of_truncate_eq hxwhole hywhole (KeyClass.integer.inj (Option.some.inj hkx))
      · cases hky
        cases hkx
      · cases hky
        cases hkx
      · cases hky
        exact .inl (KeyClass.fraction.inj (Option.some.inj hkx))
    rcases heq with rfl | ⟨hxzero, hyzero⟩
    · simp [Binary64.eqv, hx]
    · simp [Binary64.eqv, hx, hy, hxzero, hyzero]

/-! ## Scalars -/

def isScalar : Value → Bool
  | .list _ | .tuple _ | .set _ | .map _ => false
  | _ => true

def KeyClass.isNumber : KeyClass → Bool
  | .integer _ | .fraction _ => true
  | _ => false

theorem numberClass?_ne {x : Binary64} {k : KeyClass} (hk : k.isNumber = false) :
    numberClass? x ≠ some k := by
  rintro h
  unfold numberClass? at h
  split at h
  · cases h
  split at h <;> (cases h; cases hk)

/-- Two scalars are the same if they count as the same. -/
theorem sameScalar_iff {a : Value} (ha : a.isScalar = true) (b : Value) :
    sameScalar a b = true ↔ ∃ k, keyClass? b = some k ∧ keyClass? a = some k := by
  cases a <;> cases b <;>
    simp [sameScalar, integer?, text?, keyClass?, eqvInt_iff, eqv_iff, isScalar] at ha ⊢
  case moment.moment s t => simp [Moment.same]
  case float.tuple => exact fun _ _ => numberClass?_ne rfl
  all_goals exact numberClass?_ne rfl

theorem same_of_isScalar {a : Value} (ha : a.isScalar = true) (b : Value) :
    a.same b = sameScalar a b := by
  unfold same
  split <;> first | cases ha | rfl

theorem same_iff_of_isScalar {a : Value} (ha : a.isScalar = true) (b : Value) :
    a.same b = true ↔ ∃ k, keyClass? b = some k ∧ keyClass? a = some k := by
  rw [same_of_isScalar ha, sameScalar_iff ha]

/-! ## Keys -/

theorem keyClasses?_cons {x : Value} {xs : List Value} {ks : List KeyClass} :
    keyClasses? (x :: xs) = some ks ↔
      ∃ k rest, keyClass? x = some k ∧ keyClasses? xs = some rest ∧ k :: rest = ks := by
  rw [keyClasses?]
  cases keyClass? x <;> cases keyClasses? xs <;> simp

theorem keyClass?_tuple {xs : List Value} {k : KeyClass} :
    keyClass? (.tuple xs) = some k ↔ ∃ ks, keyClasses? xs = some ks ∧ .tuple ks = k := by
  rw [keyClass?, Option.map_eq_some_iff]

/-- What counts as a tuple is one. -/
theorem eq_tuple {b : Value} {ks : List KeyClass} (h : keyClass? b = some (.tuple ks)) :
    ∃ ys, b = .tuple ys := by
  cases b with
  | tuple ys => exact ⟨ys, rfl⟩
  | float x => exact absurd h (numberClass?_ne rfl)
  | _ => cases h

mutual

/-- A key is the same as a value if both count as the same. -/
theorem same_iff : ∀ a : Value, a.IsKey → ∀ b : Value,
    a.same b = true ↔ ∃ k, keyClass? b = some k ∧ keyClass? a = some k
  | .null, _ | .bool _, _ | .int _, _ | .float _, _ | .str _, _ | .bytes _, _ | .date _, _
  | .moment _, _ | .path _, _ | .platform _, _ => same_iff_of_isScalar rfl
  | .tuple xs, hkeys => by
    intro b
    by_cases htuple : ∃ ys, b = .tuple ys
    · obtain ⟨ys, rfl⟩ := htuple
      rw [same, sameAll_iff xs hkeys ys]
      constructor
      · rintro ⟨ks, hys, hxs⟩
        exact ⟨.tuple ks, keyClass?_tuple.mpr ⟨ks, hys, rfl⟩, keyClass?_tuple.mpr ⟨ks, hxs, rfl⟩⟩
      · rintro ⟨k, hy, hx⟩
        obtain ⟨ks, hys, rfl⟩ := keyClass?_tuple.mp hy
        obtain ⟨ks', hxs, heq⟩ := keyClass?_tuple.mp hx
        cases heq
        exact ⟨ks, hys, hxs⟩
    · constructor
      · intro h
        cases b with
        | tuple ys => exact absurd ⟨ys, rfl⟩ htuple
        | _ => simp [same, sameScalar, integer?, text?] at h
      · rintro ⟨k, hb, hxs⟩
        obtain ⟨ks, _, rfl⟩ := keyClass?_tuple.mp hxs
        exact absurd (eq_tuple hb) htuple

theorem sameAll_iff : ∀ xs : List Value, AreKeys xs → ∀ ys : List Value,
    sameAll xs ys = true ↔ ∃ ks, keyClasses? ys = some ks ∧ keyClasses? xs = some ks
  | [], _ => by
    intro ys
    cases ys with
    | nil => simp [sameAll, keyClasses?]
    | cons y ys =>
      refine iff_of_false (by simp [sameAll]) ?_
      rintro ⟨ks, hys, hnil⟩
      cases hnil
      obtain ⟨k, rest, _, _, heq⟩ := keyClasses?_cons.mp hys
      cases heq
  | x :: xs, ⟨hx, hxs⟩ => by
    intro ys
    cases ys with
    | nil =>
      refine iff_of_false (by simp [sameAll]) ?_
      rintro ⟨ks, hnil, hcons⟩
      cases hnil
      obtain ⟨k, rest, _, _, heq⟩ := keyClasses?_cons.mp hcons
      cases heq
    | cons y ys =>
      rw [sameAll, Bool.and_eq_true, same_iff x hx y, sameAll_iff xs hxs ys]
      constructor
      · rintro ⟨⟨k, hy, hx⟩, ks, hys, hxs⟩
        exact ⟨k :: ks, keyClasses?_cons.mpr ⟨k, ks, hy, hys, rfl⟩,
          keyClasses?_cons.mpr ⟨k, ks, hx, hxs, rfl⟩⟩
      · rintro ⟨_, hsecond, hfirst⟩
        obtain ⟨k, ks, hy, hys, rfl⟩ := keyClasses?_cons.mp hsecond
        obtain ⟨k', ks', hx, hxs, heq⟩ := keyClasses?_cons.mp hfirst
        cases heq
        exact ⟨⟨k, hy, hx⟩, ks, hys, hxs⟩

end

variable {a b c : Value}

theorem same_symm (ha : a.IsKey) (hb : b.IsKey) (h : a.same b = true) : b.same a = true := by
  obtain ⟨k, hkb, hka⟩ := (same_iff a ha b).mp h
  exact (same_iff b hb a).mpr ⟨k, hka, hkb⟩

theorem same_trans (ha : a.IsKey) (hb : b.IsKey) (hab : a.same b = true) (hbc : b.same c = true) :
    a.same c = true := by
  obtain ⟨k, hkb, hka⟩ := (same_iff a ha b).mp hab
  obtain ⟨k', hkc, hkb'⟩ := (same_iff b hb c).mp hbc
  rw [hkb] at hkb'
  cases hkb'
  exact (same_iff a ha c).mpr ⟨k, hkc, hka⟩

/-- Keys that are the same as one value are the same. -/
theorem same_of_common (ha : a.IsKey) (hb : b.IsKey) (hac : a.same c = true)
    (hbc : b.same c = true) : a.same b = true := by
  obtain ⟨k, hkc, hka⟩ := (same_iff a ha c).mp hac
  obtain ⟨k', hkc', hkb⟩ := (same_iff b hb c).mp hbc
  rw [hkc] at hkc'
  cases hkc'
  exact (same_iff a ha b).mpr ⟨k, hkb, hka⟩

/-- Keys that are the same are the same as the same values. -/
theorem same_eq_same (ha : a.IsKey) (hb : b.IsKey) (h : a.same b = true) (c : Value) :
    a.same c = b.same c := by
  rw [Bool.eq_iff_iff]
  exact ⟨same_trans hb ha (same_symm ha hb h), same_trans ha hb h⟩

end Value

/-! ## Putting an entry among others -/

section PutWith

variable {α β : Type} {same : α → α → Bool} {key : α} {v : β} {entries : List (α × β)}

/-- The entries with a value put under a key, in place of the first one whose key is the same, or at
the end. -/
def putWith (same : α → α → Bool) (key : α) (v : β) : List (α × β) → List (α × β)
  | [] => [(key, v)]
  | (own, w) :: rest =>
    if same own key then (own, v) :: rest else (own, w) :: putWith same key v rest

/-- An entry that has been put is the new one, an old one, or an old key with the new value. -/
theorem mem_putWith {entry : α × β} (h : entry ∈ putWith same key v entries) :
    entry ∈ entries ∨ entry = (key, v) ∨ ∃ own w, (own, w) ∈ entries ∧ entry = (own, v) := by
  induction entries with
  | nil => exact .inr (.inl (List.mem_singleton.mp h))
  | cons first rest ih =>
    obtain ⟨own, w⟩ := first
    rw [putWith] at h
    split at h
    · rcases List.mem_cons.mp h with rfl | hrest
      · exact .inr (.inr ⟨own, w, List.mem_cons_self, rfl⟩)
      · exact .inl (List.mem_cons_of_mem _ hrest)
    · rcases List.mem_cons.mp h with rfl | hrest
      · exact .inl List.mem_cons_self
      · rcases ih hrest with hold | hnew | ⟨own', w', hmem, heq⟩
        · exact .inl (List.mem_cons_of_mem _ hold)
        · exact .inr (.inl hnew)
        · exact .inr (.inr ⟨own', w', List.mem_cons_of_mem _ hmem, heq⟩)

/-- Keys that are all different stay so. -/
theorem pairwise_putWith
    (hdistinct : entries.Pairwise fun first later => same first.1 later.1 = false) :
    (putWith same key v entries).Pairwise fun first later => same first.1 later.1 = false := by
  induction entries with
  | nil => exact List.pairwise_singleton _ _
  | cons first rest ih =>
    obtain ⟨own, w⟩ := first
    obtain ⟨hfirst, hrest⟩ := List.pairwise_cons.mp hdistinct
    rw [putWith]
    split
    · exact List.pairwise_cons.mpr ⟨hfirst, hrest⟩
    · next hother =>
      refine List.pairwise_cons.mpr ⟨fun entry hentry => ?_, ih hrest⟩
      rcases mem_putWith hentry with hold | rfl | ⟨own', w', hmem, rfl⟩
      · exact hfirst entry hold
      · exact Bool.eq_false_iff.mpr hother
      · exact hfirst (own', w') hmem

end PutWith

/-! ## Mappings -/

namespace Entries

variable {entries : Entries} {key k v : Value}

theorem put_eq_putWith : entries.put key v = putWith Value.same key v entries := by
  induction entries with
  | nil => rfl
  | cons entry rest ih => rw [put, putWith, ih]

def HaveKeys (entries : Entries) : Prop := ∀ entry ∈ entries, entry.1.IsKey

/-- No two keys of a mapping are the same. -/
def AreDistinct (entries : Entries) : Prop :=
  entries.Pairwise fun first later => first.1.same later.1 = false

/-- What is found after a value has been put under a key. -/
theorem get?_put (hkeys : entries.HaveKeys) (hkey : key.IsKey) (v k : Value) :
    (entries.put key v).get? k = if key.same k then some v else entries.get? k := by
  induction entries with
  | nil => rfl
  | cons entry rest ih =>
    obtain ⟨own, w⟩ := entry
    have hown : own.IsKey := hkeys _ List.mem_cons_self
    have hrest : HaveKeys rest := fun entry hentry => hkeys entry (List.mem_cons_of_mem _ hentry)
    rw [put]
    by_cases hsame : own.same key = true
    · rw [if_pos hsame, get?, get?, Value.same_eq_same hown hkey hsame]
      split <;> rfl
    · rw [if_neg hsame, get?, get?, ih hrest]
      by_cases hfound : own.same k = true
      · have hother : ¬ key.same k = true := fun hk =>
          hsame (Value.same_of_common hown hkey hfound hk)
        rw [if_pos hfound, if_neg hother, if_pos hfound]
      · rw [if_neg hfound, if_neg hfound]

/-- Under keys that are the same the same is found. -/
theorem get?_congr (hkeys : entries.HaveKeys) (hkey : key.IsKey) (h : key.same k = true) :
    entries.get? key = entries.get? k := by
  induction entries with
  | nil => rfl
  | cons entry rest ih =>
    have hown : entry.1.IsKey := hkeys _ List.mem_cons_self
    have hsame : entry.1.same key = entry.1.same k := by
      rw [Bool.eq_iff_iff]
      exact ⟨fun h' => Value.same_trans hown hkey h' h, fun h' => Value.same_of_common hown hkey h' h⟩
    rw [get?, get?, hsame, ih fun entry hentry => hkeys entry (List.mem_cons_of_mem _ hentry)]

theorem get?_eq_none (h : ∀ entry ∈ entries, entry.1.same k = false) : entries.get? k = none := by
  induction entries with
  | nil => rfl
  | cons entry rest ih =>
    rw [get?, h entry List.mem_cons_self, if_neg nofun]
    exact ih fun entry hentry => h entry (List.mem_cons_of_mem _ hentry)

/-- What is found under the first key of a mapping is not found after it. -/
theorem get?_tail_eq_none (hkeys : HaveKeys ((key, v) :: entries))
    (hdistinct : AreDistinct ((key, v) :: entries)) (h : key.same k = true) :
    entries.get? k = none := by
  obtain ⟨hapart, _⟩ := List.pairwise_cons.mp hdistinct
  refine get?_eq_none fun entry hentry => Bool.eq_false_iff.mpr fun hother => ?_
  have hcommon := Value.same_of_common (hkeys _ List.mem_cons_self)
    (hkeys entry (List.mem_cons_of_mem _ hentry)) h hother
  rw [hapart entry hentry] at hcommon
  cases hcommon

theorem mem_of_get?_eq_some (h : entries.get? k = some v) :
    ∃ key, key.same k = true ∧ (key, v) ∈ entries := by
  induction entries with
  | nil => cases h
  | cons entry rest ih =>
    rw [get?] at h
    split at h
    · next hsame =>
      cases h
      exact ⟨_, hsame, List.mem_cons_self⟩
    · obtain ⟨key, hsame, hmem⟩ := ih h
      exact ⟨key, hsame, List.mem_cons_of_mem _ hmem⟩

theorem HaveKeys.put (hkeys : entries.HaveKeys) (hkey : key.IsKey) (v : Value) :
    (entries.put key v).HaveKeys := by
  intro entry hentry
  rcases mem_putWith (put_eq_putWith ▸ hentry) with hold | rfl | ⟨own, w, hmem, rfl⟩
  · exact hkeys entry hold
  · exact hkey
  · exact hkeys (own, w) hmem

theorem AreDistinct.put (hdistinct : entries.AreDistinct) (key v : Value) :
    (entries.put key v).AreDistinct := by
  rw [put_eq_putWith]
  exact pairwise_putWith hdistinct

end Entries

end ReleasePackaging
