import ReleasePackaging.Proofs.Action.Result
import ReleasePackaging.Proofs.Value.Keyed
import ReleasePackaging.Yaml.Reader

/-!
# Mappings read from YAML

While a document is assembled, an opened node that is no collection is a scalar, and a filled mapping
holds no key twice and no collection as a key. So the value that is assembled in the end is keyed.
-/
namespace ReleasePackaging.Yaml

/-! ## Sound states -/

/-- Whether an item is a collection or a scalar by itself. -/
def Item.IsSound : Item → Prop
  | .scalar v => v.isScalar = true
  | .notNumber _ | .collection _ => True

def Item.IsKey : Item → Prop
  | .scalar v => v.isScalar = true
  | .notNumber _ => True
  | .collection _ => False

/-- Whether the entries of a mapping have keys, all different, and sound values. -/
structure AreSound (entries : List (Item × Item)) : Prop where
  keys : ∀ entry ∈ entries, entry.1.IsKey
  values : ∀ entry ∈ entries, entry.2.IsSound
  distinct : entries.Pairwise fun first later => first.1.sameKey later.1 = false

/-- Whether a filled collection is none of mappings or a sound one. -/
def Cell.IsSound : Cell → Prop
  | .map entries => AreSound entries
  | .list _ | .tuples _ | .set _ => True

/-- Whether all opened nodes and filled collections are sound. -/
structure Assembly.IsSound (s : Assembly) : Prop where
  items : ∀ (n : Nat) (item : Item), s.items[n]?.join = some item → item.IsSound
  cells : ∀ (n : Nat) (cell : Cell), s.cells[n]?.join = some cell → cell.IsSound

theorem join_setIfInBounds {α : Type} {xs : Array (Option α)} {n m : Nat} {a b : α}
    (h : (xs.setIfInBounds n (some a))[m]?.join = some b) : b = a ∨ xs[m]?.join = some b := by
  rw [Array.getElem?_setIfInBounds] at h
  split at h
  · split at h
    · exact .inl (Option.some.inj h).symm
    · cases h
  · exact .inr h

theorem Assembly.IsSound.setItem {s : Assembly} (hs : s.IsSound) {item : Item}
    (hitem : item.IsSound) (number : Nat) :
    ({ s with items := s.items.setIfInBounds number (some item) } : Assembly).IsSound := by
  refine ⟨fun n other h => ?_, hs.cells⟩
  rcases join_setIfInBounds h with rfl | hold
  · exact hitem
  · exact hs.items n other hold

theorem Assembly.IsSound.setCell {s : Assembly} (hs : s.IsSound) {cell : Cell}
    (hcell : cell.IsSound) (number : Nat) :
    ({ s with cells := s.cells.setIfInBounds number (some cell) } : Assembly).IsSound := by
  refine ⟨hs.items, fun n other h => ?_⟩
  rcases join_setIfInBounds h with rfl | hold
  · exact hcell
  · exact hs.cells n other hold

/-! ## Entries -/

theorem areSound_nil : AreSound [] := ⟨nofun, nofun, List.Pairwise.nil⟩

theorem putItem_eq_putWith {key v : Item} {entries : List (Item × Item)} :
    Assemble.putItem key v entries = putWith Item.sameKey key v entries := by
  induction entries with
  | nil => rfl
  | cons entry rest ih => rw [Assemble.putItem, putWith, ih]

theorem AreSound.putItem {key v : Item} {entries : List (Item × Item)} (h : AreSound entries)
    (hkey : key.IsKey) (hv : v.IsSound) : AreSound (Assemble.putItem key v entries) := by
  rw [putItem_eq_putWith]
  refine ⟨fun entry hentry => ?_, fun entry hentry => ?_, pairwise_putWith h.distinct⟩
  · rcases mem_putWith hentry with hold | rfl | ⟨own, w, hmem, rfl⟩
    · exact h.keys entry hold
    · exact hkey
    · exact h.keys (own, w) hmem
  · rcases mem_putWith hentry with hold | rfl | ⟨own, w, hmem, rfl⟩
    · exact h.values entry hold
    · exact hv
    · exact hv

/-! ## Actions on sound states -/

/-- Whether an action that succeeds on a sound state leaves one, with a result that has a property. -/
def Keeps (x : Assemble α) (Q : α → Prop) : Prop :=
  ∀ s a s', s.IsSound → x.run s = .ok (a, s') → s'.IsSound ∧ Q a

namespace Keeps

variable {α β : Type} {x : Assemble α} {f : α → Assemble β} {Q : α → Prop} {R : β → Prop}

theorem pure {a : α} (ha : Q a) : Keeps (Pure.pure a) Q := by
  rintro s _ _ hs ⟨⟩
  exact ⟨hs, ha⟩

theorem bind (hx : Keeps x Q) (hf : ∀ a, Q a → Keeps (f a) R) : Keeps (x >>= f) R := by
  intro s b s' hs h
  rw [StateT.run_bind] at h
  obtain ⟨⟨a, t⟩, hrun, hrest⟩ := Result.bind_eq_ok_iff.mp h
  obtain ⟨ht, ha⟩ := hx s a t hs hrun
  exact hf a ha t b s' ht hrest

theorem mono {Q' : α → Prop} (hx : Keeps x Q) (h : ∀ a, Q a → Q' a) : Keeps x Q' := by
  intro s a s' hs hrun
  obtain ⟨hs', ha⟩ := hx s a s' hs hrun
  exact ⟨hs', h a ha⟩

theorem throw (fault : ReadFault) : Keeps (MonadExcept.throw fault : Assemble α) Q := by
  rintro _ _ _ _ ⟨⟩

theorem fail (context : Option (Context × Option Mark)) (problem : Problem) (mark : Mark) :
    Keeps (Assemble.fail context problem mark : Assemble α) Q := throw _

theorem get : Keeps (MonadState.get : Assemble Assembly) Assembly.IsSound := by
  rintro s _ _ hs ⟨⟩
  exact ⟨hs, hs⟩

theorem modify {change : Assembly → Assembly} (h : ∀ s, s.IsSound → (change s).IsSound) :
    Keeps (modify change) fun _ => True := by
  rintro s _ _ hs ⟨⟩
  exact ⟨h s hs, trivial⟩

theorem lift {result : Except ReadFault α} (h : ∀ a, result = .ok a → Q a) :
    Keeps (liftM result : Assemble α) Q := by
  intro s a s' hs hrun
  cases result with
  | error fault => cases hrun
  | ok a =>
    cases hrun
    exact ⟨hs, h a rfl⟩

theorem mapM {xs : List α} (h : ∀ a ∈ xs, Keeps (f a) R) :
    Keeps (xs.mapM f) fun bs => ∀ b ∈ bs, R b := by
  induction xs with
  | nil => exact pure nofun
  | cons a rest ih =>
    rw [List.mapM_cons]
    refine bind (h a List.mem_cons_self) fun b hb => ?_
    refine bind (ih fun a' ha' => h a' (List.mem_cons_of_mem _ ha')) fun bs hbs => ?_
    exact pure (List.forall_mem_cons.mpr ⟨hb, hbs⟩)

theorem foldlM {step : β → α → Assemble β} {xs : List α} {b : β} (hb : R b)
    (h : ∀ b a, R b → Keeps (step b a) R) : Keeps (xs.foldlM step b) R := by
  induction xs generalizing b with
  | nil => exact pure hb
  | cons a rest ih =>
    rw [List.foldlM_cons]
    exact bind (h b a hb) fun b' hb' => ih hb'

/-- A loop keeps what each of its rounds keeps. -/
theorem forIn {round : α → PUnit → Assemble (ForInStep PUnit)} {xs : List α}
    (h : ∀ a ∈ xs, Keeps (round a PUnit.unit) fun r => r = .yield PUnit.unit) :
    Keeps (ForIn.forIn xs PUnit.unit round) fun _ => True := by
  induction xs with
  | nil => exact pure trivial
  | cons a rest ih =>
    rw [List.forIn_cons]
    refine (h a List.mem_cons_self).bind fun r hr => ?_
    rw [hr]
    exact ih fun a' ha' => h a' (List.mem_cons_of_mem _ ha')

end Keeps

namespace Assemble

/-! ## Opening -/

theorem keeps_node (number : Nat) : Keeps (node number) fun _ => True := by
  unfold node
  exact Keeps.get.bind fun _ _ => Keeps.pure trivial

theorem keeps_textOf (fuel number : Nat) : Keeps (textOf fuel number) fun _ => True := by
  induction fuel generalizing number with
  | zero => exact Keeps.throw _
  | succ fuel ih =>
    unfold textOf
    refine (keeps_node number).bind fun here _ => ?_
    split
    · exact Keeps.pure trivial
    · exact Keeps.fail _ _ _
    · refine Keeps.get.bind fun s _ => ?_
      dsimp only
      split
      · exact ih _
      · exact Keeps.fail _ _ _

theorem isScalar_of_readTime {text : String} {v : Value} (h : readTime text = .ok v) :
    v.isScalar = true := by
  unfold readTime at h
  split at h
  · cases h
  · obtain ⟨zone, _, h⟩ := Result.bind_eq_ok_iff.mp h
    obtain ⟨date, _, h⟩ := Result.bind_eq_ok_iff.mp h
    split at h
    · cases h
      rfl
    · obtain ⟨moment, _, h⟩ := Result.bind_eq_ok_iff.mp h
      cases h
      rfl

theorem isSound_of_floatItem {number : Nat} {text : String} {item : Item}
    (h : floatItem number text = .ok item) : item.IsSound := by
  obtain ⟨x, _, h⟩ := Result.bind_eq_ok_iff.mp h
  split at h
  · cases h
    trivial
  · cases h
    rfl

/-- A scalar node is read as a scalar. -/
theorem isSound_of_scalarReader? {number : Nat} {node : Node} {text : String} {item : Item}
    {read : String → Except ReadFault Item} (hread : scalarReader? number node = some read)
    (h : read text = .ok item) : item.IsSound := by
  have hplain {own : String → Except ReadFault Value}
      (hown : ∀ v, own text = .ok v → v.isScalar = true)
      (hread : some (fun text => (own text).map Item.scalar) = some read) : item.IsSound := by
    rw [← Option.some.inj hread] at h
    obtain ⟨v, hv, rfl⟩ := Result.map_eq_ok_iff.mp h
    exact hown v hv
  unfold scalarReader? at hread
  extract_lets plain tag at hread
  split at hread
  · exact hplain (fun v hv => by cases hv; rfl) hread
  split at hread
  · exact hplain (fun v hv => by cases hv; rfl) hread
  split at hread
  · refine hplain (fun v hv => ?_) hread
    obtain ⟨b, _, hb⟩ := Result.bind_eq_ok_iff.mp hv
    cases hb
    rfl
  split at hread
  · refine hplain (fun v hv => ?_) hread
    obtain ⟨n, _, hn⟩ := Result.bind_eq_ok_iff.mp hv
    cases hn
    rfl
  split at hread
  · rw [← Option.some.inj hread] at h
    exact isSound_of_floatItem h
  split at hread
  · refine hplain (fun v hv => ?_) hread
    unfold timeOf at hv
    split at hv
    · exact isScalar_of_readTime hv
    · cases hv
  split at hread
  · refine hplain (fun v hv => ?_) hread
    obtain ⟨bytes, _, hbytes⟩ := Result.bind_eq_ok_iff.mp hv
    cases hbytes
    rfl
  · cases hread

theorem keeps_wait (number : Nat) (kind : Collection) :
    Keeps (modify fun s => { s with waiting := (number, kind) :: s.waiting }) fun _ => True :=
  Keeps.modify fun _ hs => ⟨hs.items, hs.cells⟩

theorem keeps_open (number : Nat) {item : Item} (hitem : item.IsSound) :
    Keeps (modify fun s => { s with items := s.items.setIfInBounds number (some item) })
      fun _ => True :=
  Keeps.modify fun _ hs => hs.setItem hitem number

theorem keeps_openNode (number : Nat) : Keeps (openNode number) Item.IsSound := by
  unfold openNode
  refine Keeps.get.bind fun s hs => ?_
  split
  · next item hitem => exact Keeps.pure (hs.items number item hitem)
  · refine (keeps_node number).bind fun here _ => ?_
    extract_lets finish
    have hfinish (item : Item) (hitem : item.IsSound) : Keeps (finish item) Item.IsSound :=
      (keeps_open number hitem).bind fun _ _ => Keeps.pure hitem
    split
    · next read hread =>
      refine (keeps_textOf _ _).bind fun text _ => ?_
      exact (Keeps.lift fun item h => isSound_of_scalarReader? hread h).bind hfinish
    · split
      · refine (keeps_wait _ _).bind fun _ _ => ?_
        exact hfinish (Item.collection number) trivial
      · exact (Keeps.fail _ _ _).bind hfinish

theorem keeps_takeWaiting : Keeps (modify fun s => { s with waiting := [] }) fun _ => True :=
  Keeps.modify fun _ hs => ⟨hs.items, hs.cells⟩

theorem keeps_fill (number : Nat) {cell : Cell} (hcell : cell.IsSound) :
    Keeps (modify fun s => { s with cells := s.cells.setIfInBounds number (some cell) })
      fun _ => True :=
  Keeps.modify fun _ hs => hs.setCell hcell number

/-! ## Merging -/

theorem keeps_setPairs (number : Nat) (pairs : List (Nat × Nat)) :
    Keeps (setPairs number pairs) fun _ => True :=
  Keeps.modify fun _ hs => ⟨hs.items, hs.cells⟩

theorem keeps_makePlain (key : Nat) : Keeps (makePlain key) fun _ => True :=
  Keeps.modify fun _ hs => ⟨hs.items, hs.cells⟩

theorem keeps_mergeSource {mergeInto : Nat → Assemble Unit}
    (hmerge : ∀ number, Keeps (mergeInto number) fun _ => True) (mark : Mark) (source : Nat) :
    Keeps (mergeSource mergeInto mark source) fun _ => True := by
  have hmerged (number : Nat) : Keeps (do
      mergeInto number
      return pairsOf (← node number)) fun _ => True :=
    (hmerge number).bind fun _ _ => (keeps_node number).bind fun _ _ => Keeps.pure trivial
  unfold mergeSource
  refine (keeps_node source).bind fun here _ => ?_
  split
  · exact hmerged source
  · refine (Keeps.mapM (R := fun _ => True) fun item _ => ?_).bind fun _ _ => Keeps.pure trivial
    refine (keeps_node item).bind fun part _ => ?_
    split
    · exact hmerged item
    · exact Keeps.fail _ _ _
  · exact Keeps.fail _ _ _

/-- Merging changes the nodes only. -/
theorem keeps_merge (fuel number : Nat) : Keeps (merge fuel number) fun _ => True := by
  induction fuel generalizing number with
  | zero =>
    unfold merge
    exact Keeps.pure trivial
  | succ fuel ih =>
    unfold merge
    refine (keeps_node number).bind fun here _ => ?_
    refine Keeps.get.bind fun s _ => ?_
    dsimp only
    split
    · refine (Keeps.forIn fun _ _ => ?_).bind fun _ _ => Keeps.pure trivial
      exact (keeps_makePlain _).bind fun _ _ => Keeps.pure rfl
    · refine (keeps_setPairs _ _).bind fun _ _ => ?_
      refine (keeps_node number).bind fun here _ => ?_
      refine (keeps_mergeSource ih _ _).bind fun merged _ => ?_
      refine (ih number).bind fun _ _ => ?_
      exact (keeps_node number).bind fun here _ => keeps_setPairs _ _

/-! ## Filling -/

theorem Item.isKey_of_isSound {item : Item} (h : item.IsSound)
    (hitem : ∀ number, item ≠ .collection number) : item.IsKey := by
  cases item with
  | scalar v => exact h
  | notNumber origin => trivial
  | collection number => exact absurd rfl (hitem number)

theorem keeps_entriesOf (number : Nat) : Keeps (entriesOf number) AreSound := by
  unfold entriesOf
  refine (keeps_node number).bind fun here _ => ?_
  split
  · refine Keeps.get.bind fun s _ => ?_
    refine (keeps_merge _ _).bind fun _ _ => ?_
    refine (keeps_node number).bind fun here _ => ?_
    refine Keeps.foldlM areSound_nil fun entries entry hentries => ?_
    refine (keeps_openNode entry.1).bind fun k hk => ?_
    split
    · exact (keeps_node _).bind fun _ _ => Keeps.fail _ _ _
    · next hkey =>
      refine (keeps_openNode entry.2).bind fun v hv => ?_
      exact Keeps.pure (hentries.putItem (Item.isKey_of_isSound hk hkey) hv)
  · exact Keeps.fail _ _ _

theorem keeps_tuplesOf (context : Context) (number : Nat) :
    Keeps (tuplesOf context number) fun _ => True := by
  unfold tuplesOf
  refine (keeps_node number).bind fun here _ => ?_
  dsimp only
  split
  · refine (Keeps.mapM (R := fun _ => True) fun item _ => ?_).mono fun _ _ => trivial
    refine (keeps_node item).bind fun part _ => ?_
    split
    · refine (keeps_openNode _).bind fun _ _ => ?_
      exact (keeps_openNode _).bind fun _ _ => Keeps.pure trivial
    · exact Keeps.fail _ _ _
    · exact Keeps.fail _ _ _
  · exact Keeps.fail _ _ _

theorem keeps_cellOf (number : Nat) (kind : Collection) :
    Keeps (cellOf number kind) Cell.IsSound := by
  unfold cellOf
  split
  · refine (keeps_node number).bind fun here _ => ?_
    split
    · exact (Keeps.mapM fun item _ => keeps_openNode item).bind fun _ _ => Keeps.pure trivial
    · exact Keeps.fail _ _ _
  · exact (keeps_entriesOf number).bind fun _ hentries => Keeps.pure hentries
  · exact (keeps_entriesOf number).bind fun _ _ => Keeps.pure trivial
  · exact (keeps_tuplesOf _ _).bind fun _ _ => Keeps.pure trivial
  · exact (keeps_tuplesOf _ _).bind fun _ _ => Keeps.pure trivial

theorem keeps_fillAll (fuel : Nat) : Keeps (fillAll fuel) fun _ => True := by
  induction fuel with
  | zero =>
    unfold fillAll
    exact Keeps.pure trivial
  | succ fuel ih =>
    unfold fillAll
    refine Keeps.get.bind fun s _ => ?_
    split
    · exact Keeps.pure trivial
    · refine keeps_takeWaiting.bind fun _ _ => ?_
      refine (Keeps.forIn fun entry _ => ?_).bind fun _ _ => ih
      refine (keeps_cellOf entry.1 entry.2).bind fun cell hcell => ?_
      exact (keeps_fill entry.1 hcell).bind fun _ _ => Keeps.pure rfl

end Assemble

/-! ## The value of an item -/

theorem keyClass?_of_isNaN : Value.keyClass? (.float .nan) = none := by decide

def Item.keyValue : Item → Value
  | .scalar v => v
  | .notNumber _ | .collection _ => .float .nan

theorem Item.value_of_isKey {cells : Array (Option Cell)} {fuel : Nat} {path : List Nat}
    {returns : Nat} {item : Item} (h : item.IsKey) :
    item.value cells fuel path returns = item.keyValue := by
  cases item with
  | collection number => cases h
  | _ => cases fuel <;> rfl

theorem isKey_of_isScalar {v : Value} (h : v.isScalar = true) : v.IsKey := by
  cases v <;> trivial

theorem Item.IsKey.isKey_keyValue {item : Item} (h : item.IsKey) : item.keyValue.IsKey := by
  cases item with
  | scalar v => exact isKey_of_isScalar h
  | _ => trivial

/-- Different items are different keys. What is no number is the same as nothing. -/
theorem Item.IsKey.same_keyValue {first later : Item} (hfirst : first.IsKey) (hlater : later.IsKey)
    (h : first.sameKey later = false) : first.keyValue.same later.keyValue = false := by
  rw [Bool.eq_false_iff, ne_eq, Value.same_iff _ hfirst.isKey_keyValue]
  rintro ⟨k, hl, hf⟩
  cases first with
  | collection number => cases hfirst
  | notNumber origin =>
    rw [Item.keyValue, keyClass?_of_isNaN] at hf
    cases hf
  | scalar v =>
    cases later with
    | collection number => cases hlater
    | notNumber origin =>
      rw [Item.keyValue, keyClass?_of_isNaN] at hl
      cases hl
    | scalar w =>
      have hsame : v.same w = true := (Value.same_iff v (isKey_of_isScalar hfirst) w).mpr ⟨k, hl, hf⟩
      rw [Item.sameKey, hsame] at h
      cases h

/-- Sound entries whose keys stand for themselves and whose values are keyed make a keyed mapping. -/
theorem AreSound.isKeyed {entries : List (Item × Item)} (hentries : AreSound entries)
    {inside : Item → Value} (hkeys : ∀ item : Item, item.IsKey → inside item = item.keyValue)
    (hvalues : ∀ item : Item, item.IsSound → (inside item).IsKeyed) :
    (Value.map (entries.map fun entry => (inside entry.1, inside entry.2))).IsKeyed := by
  refine Value.isKeyed_map.mpr ⟨?_, List.pairwise_map.mpr ?_, ?_⟩
  · refine List.forall_mem_map.mpr fun entry hentry => ?_
    rw [hkeys entry.1 (hentries.keys entry hentry)]
    exact (hentries.keys entry hentry).isKey_keyValue
  · refine hentries.distinct.imp_of_mem fun {first later} hfirst hlater h => ?_
    rw [hkeys first.1 (hentries.keys first hfirst), hkeys later.1 (hentries.keys later hlater)]
    exact (hentries.keys first hfirst).same_keyValue (hentries.keys later hlater) h
  · exact List.forall_mem_map.mpr fun entry hentry =>
      hvalues entry.2 (hentries.values entry hentry)

theorem Cell.isKeyed_emptied (cell : Cell) : cell.emptied.IsKeyed := by
  cases cell with
  | map entries => exact Value.isKeyed_nil
  | _ => trivial

/-- The value of a sound item among sound collections is keyed, on every path and with every
number of returns. -/
theorem isKeyed_itemValue {cells : Array (Option Cell)}
    (hcells : ∀ (n : Nat) (cell : Cell), cells[n]?.join = some cell → cell.IsSound) {fuel : Nat}
    {path : List Nat} {returns : Nat} {item : Item} (hitem : item.IsSound) :
    (item.value cells fuel path returns).IsKeyed := by
  induction fuel generalizing item path returns with
  | zero =>
    cases item with
    | scalar w => exact (isKey_of_isScalar hitem).isKeyed
    | notNumber origin => trivial
    | collection number => exact Cell.isKeyed_emptied _
  | succ fuel ih =>
    cases item with
    | scalar w => exact (isKey_of_isScalar hitem).isKeyed
    | notNumber origin => trivial
    | collection number =>
      unfold Item.value
      extract_lets cell isReturn inside
      have hcell : cell.IsSound := by
        cases hfilled : cells[number]?.join with
        | none =>
          have hcell : cell = default := congrArg (Option.getD · default) hfilled
          rw [hcell]
          trivial
        | some filled =>
          have hcell : cell = filled := congrArg (Option.getD · default) hfilled
          rw [hcell]
          exact hcells number filled hfilled
      clear_value cell
      split
      · exact Cell.isKeyed_emptied _
      · cases cell with
        | map entries =>
          exact AreSound.isKeyed hcell (fun _ h => Item.value_of_isKey h) fun _ h => ih h
        | _ => trivial

/-! ## Documents -/

theorem join_replicate_none {α : Type} {size n : Nat} {a : α} :
    (Array.replicate size (none : Option α))[n]?.join ≠ some a := by
  rw [Array.getElem?_replicate]
  split <;> nofun

/-- The value of a document is keyed. -/
theorem isKeyed_of_value {nodes : Nodes} {root : Nat} {v : Value} (h : nodes.value root = .ok v) :
    v.IsKeyed := by
  have hassembled : Keeps (do
      let item ← Assemble.openNode root
      Assemble.fillAll (nodes.size + 1)
      return item) Item.IsSound :=
    (Assemble.keeps_openNode root).bind fun _ hitem =>
      (Assemble.keeps_fillAll _).bind fun _ _ => Keeps.pure hitem
  unfold Nodes.value at h
  extract_lets size empty assembled at h
  obtain ⟨⟨item, state⟩, hrun, h⟩ := Result.bind_eq_ok_iff.mp h
  have hempty : empty.IsSound :=
    ⟨fun _ _ h => absurd h join_replicate_none, fun _ _ h => absurd h join_replicate_none⟩
  obtain ⟨hstate, hitem⟩ := hassembled empty item state hempty hrun
  cases h
  exact isKeyed_itemValue hstate.cells hitem

/-- A document that is read is keyed. -/
theorem isKeyed_of_read {source : Source} {v : Value} (h : read source = .ok v) : v.IsKeyed := by
  obtain ⟨⟨nodes, root⟩, _, h⟩ := Result.bind_eq_ok_iff.mp h
  dsimp only at h
  split at h
  · cases h
    trivial
  · exact isKeyed_of_value h

end ReleasePackaging.Yaml
