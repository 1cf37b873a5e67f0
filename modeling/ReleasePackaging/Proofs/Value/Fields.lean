import ReleasePackaging.Value.Basic

/-!
# Mappings whose keys are texts

A mapping has text keys if its keys are texts, all of them different. Putting a value under a text
keeps it so, and putting entries with new keys one after another appends them.
-/
namespace ReleasePackaging.Entries

variable {entries rest : Entries} {name : String} {v : Value}

def HasTextKeys (entries : Entries) : Prop :=
  ∃ names : List String, names.Nodup ∧ entries.map Prod.fst = names.map Value.str

theorem hasTextKeys_cons {key : Value} :
    HasTextKeys ((key, v) :: rest) ↔
      ∃ name, key = .str name ∧ (.str name) ∉ rest.map Prod.fst ∧ HasTextKeys rest := by
  constructor
  · rintro ⟨names, hdistinct, hkeys⟩
    cases names with
    | nil => cases hkeys
    | cons name names =>
      obtain ⟨hnew, hdistinct⟩ := List.nodup_cons.mp hdistinct
      obtain ⟨rfl, hrest⟩ := List.cons.inj hkeys
      refine ⟨name, rfl, fun hmem => ?_, names, hdistinct, hrest⟩
      rw [hrest] at hmem
      obtain ⟨other, hother, heq⟩ := List.mem_map.mp hmem
      cases heq
      exact hnew hother
  · rintro ⟨name, rfl, hnew, names, hdistinct, hkeys⟩
    refine ⟨name :: names, List.nodup_cons.mpr ⟨fun hmem => hnew ?_, hdistinct⟩, ?_⟩
    · rw [hkeys]
      exact List.mem_map_of_mem hmem
    · rw [List.map_cons, List.map_cons, hkeys]

theorem hasTextKeys_nil : HasTextKeys [] := ⟨[], List.nodup_nil, rfl⟩

/-- A value under a new text goes to the end. -/
theorem put_new (hkeys : HasTextKeys entries) (hnew : (.str name) ∉ entries.map Prod.fst) :
    entries.put (.str name) v = entries ++ [(.str name, v)] := by
  induction entries with
  | nil => rfl
  | cons entry rest ih =>
    obtain ⟨key, w⟩ := entry
    obtain ⟨own, rfl, _, hrest⟩ := hasTextKeys_cons.mp hkeys
    have hother : (Value.str own).same (.str name) = false := by
      refine beq_false_of_ne fun heq => hnew ?_
      rw [heq]
      exact List.mem_cons_self
    rw [put, hother, ih hrest fun hmem => hnew (List.mem_cons_of_mem _ hmem)]
    rfl

/-- The keys after a value has been put: those before, of which one is the same as the new one, or
with it at the end if none is. -/
theorem keys_put (entries : Entries) (key v : Value) :
    ((∃ own ∈ entries.map Prod.fst, own.same key = true) ∧
        (entries.put key v).map Prod.fst = entries.map Prod.fst) ∨
      (∀ own ∈ entries.map Prod.fst, own.same key = false) ∧
        (entries.put key v).map Prod.fst = entries.map Prod.fst ++ [key] := by
  induction entries with
  | nil => exact .inr ⟨nofun, rfl⟩
  | cons entry rest ih =>
    obtain ⟨own, w⟩ := entry
    rw [put]
    cases hsame : own.same key with
    | true => exact .inl ⟨⟨own, List.mem_cons_self, hsame⟩, rfl⟩
    | false =>
      rcases ih with ⟨⟨other, hmem, hother⟩, hrest⟩ | ⟨hnone, hrest⟩
      · exact .inl ⟨⟨other, List.mem_cons_of_mem _ hmem, hother⟩, congrArg (List.cons own) hrest⟩
      · exact .inr ⟨List.forall_mem_cons.mpr ⟨hsame, hnone⟩, congrArg (List.cons own) hrest⟩

/-- What holds of all keys holds of them after a value has been put if it holds of the new key, and
only then, if it does not tell apart keys that are the same. -/
theorem all_keys_put {P : Value → Bool} (hP : ∀ a b, a.same b = true → P a = P b)
    (entries : Entries) (key v : Value) :
    ((entries.put key v).all fun entry => P entry.1) =
      ((entries.all fun entry => P entry.1) && P key) := by
  have hall (entries : Entries) :
      (entries.all fun entry => P entry.1) = (entries.map Prod.fst).all P := by
    rw [List.all_map]
    rfl
  rw [hall, hall]
  rcases keys_put entries key v with ⟨⟨own, hmem, hsame⟩, hkeys⟩ | ⟨_, hkeys⟩
  · rw [hkeys, ← hP own key hsame, Bool.eq_iff_iff, Bool.and_eq_true]
    exact ⟨fun h => ⟨h, List.all_eq_true.mp h own hmem⟩, And.left⟩
  · simp [hkeys]

theorem HasTextKeys.put (hkeys : HasTextKeys entries) (name : String) (v : Value) :
    HasTextKeys (entries.put (.str name) v) := by
  obtain ⟨names, hdistinct, heq⟩ := hkeys
  rcases keys_put entries (.str name) v with ⟨_, hsame⟩ | ⟨hnew, happend⟩
  · exact ⟨names, hdistinct, hsame.trans heq⟩
  · refine ⟨names ++ [name], ?_, ?_⟩
    · refine List.nodup_append.mpr ⟨hdistinct, by simp, fun a ha b hb => ?_⟩
      rintro rfl
      rw [List.mem_singleton.mp hb] at ha
      have hother := hnew (.str name) (heq ▸ List.mem_map_of_mem ha)
      exact absurd (beq_self_eq_true name) (Bool.eq_false_iff.mp hother)
    · rw [happend, heq, List.map_append]
      rfl

theorem hasTextKeys_ofList {pairs : List (Value × Value)}
    (htexts : ∀ pair ∈ pairs, ∃ name, pair.1 = .str name) : HasTextKeys (ofList pairs) := by
  unfold ofList
  refine List.foldlRecOn pairs _ hasTextKeys_nil fun entries hkeys pair hpair => ?_
  obtain ⟨key, v⟩ := pair
  obtain ⟨name, rfl⟩ := htexts _ hpair
  exact hkeys.put name v

theorem hasTextKeys_append_cons {key : Value} (hkeys : HasTextKeys (entries ++ (key, v) :: rest)) :
    ∃ name, key = .str name ∧ HasTextKeys entries ∧ (.str name) ∉ entries.map Prod.fst := by
  obtain ⟨names, hdistinct, heq⟩ := hkeys
  rw [List.map_append, List.map_cons, eq_comm, List.map_eq_append_iff] at heq
  obtain ⟨before, after, rfl, hbefore, hafter⟩ := heq
  obtain ⟨name, later, rfl, rfl, _⟩ := List.map_eq_cons_iff.mp hafter
  obtain ⟨hfirst, _, hapart⟩ := List.nodup_append.mp hdistinct
  refine ⟨name, rfl, ⟨before, hfirst, hbefore.symm⟩, fun hmem => ?_⟩
  rw [← hbefore] at hmem
  obtain ⟨other, hother, hsame⟩ := List.mem_map.mp hmem
  cases hsame
  exact hapart name hother name List.mem_cons_self rfl

/-- Entries with text keys are put one after another as they are. -/
theorem foldl_put (entries : Entries) (hkeys : HasTextKeys (entries ++ rest)) :
    rest.foldl (fun entries (k, v) => entries.put k v) entries = entries ++ rest := by
  induction rest generalizing entries with
  | nil => rw [List.append_nil, List.foldl_nil]
  | cons entry rest ih =>
    obtain ⟨key, v⟩ := entry
    obtain ⟨name, rfl, hbefore, hnew⟩ := hasTextKeys_append_cons hkeys
    have hnext : HasTextKeys (entries ++ [(.str name, v)] ++ rest) := by
      rw [List.append_assoc]
      exact hkeys
    rw [List.foldl_cons]
    simp only
    rw [put_new hbefore hnew, ih _ hnext, List.append_assoc]
    rfl

theorem ofList_self (hkeys : HasTextKeys entries) : ofList entries = entries :=
  foldl_put [] hkeys

/-- An entry with a text as its key is what is found under that text. -/
theorem field?_of_mem (hkeys : HasTextKeys entries) (hmem : (.str name, v) ∈ entries) :
    entries.field? name = some v := by
  induction entries with
  | nil => cases hmem
  | cons entry rest ih =>
    obtain ⟨key, w⟩ := entry
    obtain ⟨own, rfl, hnew, hrest⟩ := hasTextKeys_cons.mp hkeys
    unfold field? get?
    rcases List.mem_cons.mp hmem with heq | hlater
    · cases heq
      exact if_pos (beq_self_eq_true name)
    · have hother : (Value.str own).same (.str name) = false := by
        refine beq_false_of_ne fun heq => hnew ?_
        rw [heq]
        exact List.mem_map_of_mem hlater
      rw [hother, if_neg nofun]
      exact ih hrest hlater

end ReleasePackaging.Entries
