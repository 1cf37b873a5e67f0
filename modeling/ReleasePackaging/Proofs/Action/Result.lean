/-!
# Results

A compound result is one exactly if its parts are.
-/
namespace ReleasePackaging.Result

variable {ε ε' α β : Type} {x : Except ε α} {b : β}

theorem map_eq_ok_iff {f : α → β} : x.map f = .ok b ↔ ∃ a, x = .ok a ∧ f a = b := by
  cases x <;> simp [Except.map]

theorem map_error_iff {f : α → β} : (∃ fault, x.map f = .error fault) ↔ ∃ fault, x = .error fault := by
  cases x <;> simp [Except.map]

theorem bind_eq_ok_iff {f : α → Except ε β} : (x >>= f) = .ok b ↔ ∃ a, x = .ok a ∧ f a = .ok b := by
  cases x <;> simp [bind, Except.bind]

theorem bind_eq_error_iff {fault : ε} {f : α → Except ε β} :
    (x >>= f) = .error fault ↔ x = .error fault ∨ ∃ a, x = .ok a ∧ f a = .error fault := by
  cases x <;> simp [bind, Except.bind]

@[simp] theorem ok_bind (a : α) (f : α → Except ε β) : (Except.ok a >>= f) = f a := rfl

@[simp] theorem error_bind (fault : ε) (f : α → Except ε β) :
    (Except.error fault >>= f) = .error fault := rfl

@[simp] theorem mapError_ok (f : ε → ε') (a : α) :
    (Except.ok a : Except ε α).mapError f = .ok a := rfl

@[simp] theorem mapError_error (f : ε → ε') (fault : ε) :
    (Except.error fault : Except ε α).mapError f = .error (f fault) := rfl

theorem mapError_eq_ok_iff {f : ε → ε'} {a : α} : x.mapError f = .ok a ↔ x = .ok a := by
  cases x <;> simp

/-- What each step of a run over a list keeps holds in the end. -/
theorem foldlM_eq_ok {step : β → α → Except ε β} {P : β → Prop} {xs : List α} {b' : β}
    (hstep : ∀ b a next, P b → step b a = .ok next → P next) (hb : P b)
    (h : xs.foldlM step b = .ok b') : P b' := by
  induction xs generalizing b with
  | nil =>
    cases h
    exact hb
  | cons a rest ih =>
    rw [List.foldlM_cons] at h
    obtain ⟨next, hnext, hrest⟩ := bind_eq_ok_iff.mp h
    exact ih (hstep b a next hb hnext) hrest

/-- A run over a list fails exactly if a step fails for one of its members, where it does not depend
on what has been gathered whether a step fails. -/
theorem foldlM_error_iff {step : β → α → Except ε β} {Fails : α → Prop} {xs : List α}
    (hstep : ∀ b a, (∃ fault, step b a = .error fault) ↔ Fails a) :
    (∃ fault, xs.foldlM step b = .error fault) ↔ ∃ a ∈ xs, Fails a := by
  induction xs generalizing b with
  | nil => exact ⟨nofun, nofun⟩
  | cons a rest ih =>
    simp only [List.foldlM_cons, List.mem_cons, exists_eq_or_imp, ← hstep b a]
    cases hnext : step b a with
    | error fault => exact iff_of_true ⟨fault, rfl⟩ (.inl ⟨fault, rfl⟩)
    | ok next => exact ih.trans (or_iff_right nofun).symm

/-- A function has a result for each member of a list exactly if it can be taken over the list. -/
theorem exists_mapM_iff {f : α → Except ε β} {xs : List α} :
    (∃ bs, xs.mapM f = .ok bs) ↔ ∀ a ∈ xs, ∃ b, f a = .ok b := by
  induction xs with
  | nil => simp [pure, Except.pure]
  | cons a rest ih =>
    rw [List.mapM_cons, List.forall_mem_cons, ← ih]
    cases f a with
    | error fault => simp
    | ok b => cases rest.mapM f <;> simp [pure, Except.pure]

end ReleasePackaging.Result
