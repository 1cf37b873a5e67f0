import ReleasePackaging.World

/-!
# Running actions

How a compound action runs, told by its parts. What is said of a state in general holds of actions in
the surroundings of a run and of actions on the file tree.
-/
namespace ReleasePackaging

namespace Action

variable {σ ε ε' α β : Type} {s s' : σ} {x : ExceptT ε (StateM σ) α}
  {f : α → ExceptT ε (StateM σ) β}

@[simp] theorem run_pure (a : α) (s : σ) :
    (pure a : ExceptT ε (StateM σ) α).run.run s = (.ok a, s) := rfl

@[simp] theorem run_throw (fault : ε) (s : σ) :
    (throw fault : ExceptT ε (StateM σ) α).run.run s = (.error fault, s) := rfl

@[simp] theorem run_modify (change : σ → σ) (s : σ) :
    (modify change : ExceptT ε (StateM σ) Unit).run.run s = (.ok (), change s) := rfl

@[simp] theorem run_get (s : σ) : (get : ExceptT ε (StateM σ) σ).run.run s = (.ok s, s) := rfl

theorem run_mk (step : σ → Except ε α × σ) (s : σ) :
    (ExceptT.mk step : ExceptT ε (StateM σ) α).run.run s = step s := rfl

/-- A sequence of two actions goes on from the state that the first one leaves, unless that fails. -/
theorem run_bind (x : ExceptT ε (StateM σ) α) (f : α → ExceptT ε (StateM σ) β) (s : σ) :
    (x >>= f).run.run s =
      match x.run.run s with
      | (.ok a, s') => (f a).run.run s'
      | (.error fault, s') => (.error fault, s') := by
  unfold ExceptT.run StateT.run
  simp only [bind, ExceptT.bind, ExceptT.mk, StateT.bind, ExceptT.bindCont]
  cases x s with
  | mk result s' => cases result <;> rfl

theorem run_bind_ok {a : α} (h : x.run.run s = (.ok a, s')) :
    (x >>= f).run.run s = (f a).run.run s' := by
  rw [run_bind, h]

theorem run_bind_error {fault : ε} (h : x.run.run s = (.error fault, s')) :
    (x >>= f).run.run s = (.error fault, s') := by
  rw [run_bind, h]

/-- A sequence of two actions succeeds exactly if both do. -/
theorem run_bind_eq_ok_iff {b : β} :
    (x >>= f).run.run s = (.ok b, s') ↔
      ∃ a s₁, x.run.run s = (.ok a, s₁) ∧ (f a).run.run s₁ = (.ok b, s') := by
  rw [run_bind]
  cases x.run.run s with
  | mk result s₁ =>
    cases result with
    | error fault =>
      refine ⟨fun h => ?_, fun ⟨_, _, h, _⟩ => ?_⟩ <;> cases h
    | ok a =>
      refine ⟨fun h => ⟨a, s₁, rfl, h⟩, fun ⟨_, _, h, hf⟩ => ?_⟩
      cases h
      exact hf

/-- What handles the faults of an action runs in the state that the failed action leaves. -/
theorem run_tryCatch (x : ExceptT ε (StateM σ) α) (handle : ε → ExceptT ε (StateM σ) α) (s : σ) :
    (tryCatch x handle).run.run s =
      match x.run.run s with
      | (.ok a, s') => (.ok a, s')
      | (.error fault, s') => (handle fault).run.run s' := by
  unfold ExceptT.run StateT.run
  simp only [tryCatch, tryCatchThe, MonadExceptOf.tryCatch, ExceptT.tryCatch, bind, StateT.bind,
    ExceptT.mk]
  cases x s with
  | mk result s' => cases result <;> rfl

/-- An action whose faults are reworded does what it did. -/
theorem run_adapt (x : ExceptT ε (StateM σ) α) (reword : ε → ε') (s : σ) :
    (x.adapt reword).run.run s = ((x.run.run s).1.mapError reword, (x.run.run s).2) := rfl

/-- An action on the tree leaves the rest of the surroundings alone. -/
theorem run_onTree (action : TreeAction ε α) (w : World) :
    (onTree action).run.run w =
      ((action.run.run w.tree).1, { w with tree := (action.run.run w.tree).2 }) := rfl

theorem run_outcome (action : Action ε α) (w : World) :
    (outcome action : Action ε' (Except ε α)).run.run w =
      (.ok (action.run.run w).1, (action.run.run w).2) := rfl

theorem run_ofResult (result : Except ε α) (w : World) :
    (ofResult result).run.run w = (result, w) := rfl

/-! ## Actions that change the tree alone -/

/-- Whether an action changes at most the file tree. -/
def ChangesTree (x : Action ε α) : Prop :=
  ∀ w, ∃ tree, (x.run.run w).2 = { w with tree := tree }

namespace ChangesTree

theorem bind {x : Action ε α} {f : α → Action ε β} (hx : x.ChangesTree)
    (hf : ∀ a, (f a).ChangesTree) : (x >>= f).ChangesTree := by
  intro w
  obtain ⟨tree, htree⟩ := hx w
  rw [run_bind]
  cases hrun : x.run.run w with
  | mk result w₁ =>
    rw [hrun] at htree
    subst htree
    cases result with
    | error fault => exact ⟨tree, rfl⟩
    | ok a => exact hf a _

theorem ofResult (result : Except ε α) : (ofResult result).ChangesTree := fun w => ⟨w.tree, rfl⟩

theorem onTree (action : TreeAction ε α) : (onTree action).ChangesTree := fun _ => ⟨_, rfl⟩

theorem get : (MonadState.get : Action ε World).ChangesTree := fun w => ⟨w.tree, rfl⟩

end ChangesTree

end Action

namespace TreeAction

theorem run_query {ε α : Type} (question : FileTree → Except ε α) (t : FileTree) :
    (query question).run.run t = (question t, t) := rfl

/-- An elementary change that fails leaves the tree as it was. -/
theorem run_change (f : FileTree → Except AccessFault FileTree) (t : FileTree) :
    (change f).run.run t =
      match f t with
      | .ok t' => (.ok (), t')
      | .error fault => (.error fault, t) := rfl

end TreeAction

end ReleasePackaging
