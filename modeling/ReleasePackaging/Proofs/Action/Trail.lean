import ReleasePackaging.Proofs.Logging.Report

/-!
# The trail of a run

A run takes steps, such as to launch a program or to call a hook, and reports events: these are its
trail. A run that reports no errors ends with a result, with a failure of a step of the release, or
astray, which is with some other fault that has its cause in a state the run comes through.
-/
namespace ReleasePackaging

/-- What happens between two states of the surroundings: the events of a list are reported in order,
and steps of some kind are taken. -/
inductive Trail (Step : World → World → Prop) (target : EventTarget) :
    World → List Event → World → Prop where
  | done (w : World) : Trail Step target w [] w
  | told {w w' : World} {es : List Event} (e : Event)
      (rest : Trail Step target (w.told target e) es w') : Trail Step target w (e :: es) w'
  | stepped {w w₁ w' : World} {es : List Event} (h : Step w w₁)
      (rest : Trail Step target w₁ es w') : Trail Step target w es w'

/-- Whether no event of a list is an error. -/
def AreQuiet (es : List Event) : Prop := ∀ e ∈ es, e.level ≠ .error

def Fault.IsOfStep (fault : Fault) : Prop := ∃ f, fault = .failure f ∧ f.isPackaging = true

/-- How a run ends that reports no errors: if not with a result, then with a failure of a step of
the release or with a fault that goes astray in a state it comes through. -/
def EndsQuietly (Step : World → World → Prop) (target : EventTarget) (Stray : World → Fault → Prop)
    (w : World) {α : Type} (outcome : Except Fault α × World) : Prop :=
  ∃ before w₁ after, Trail Step target w before w₁ ∧ Trail Step target w₁ after outcome.2 ∧
    AreQuiet (before ++ after) ∧
    ∀ fault, outcome.1 = .error fault → fault.IsOfStep ∨ Stray w₁ fault

variable {Step Step' : World → World → Prop} {target : EventTarget} {w w₁ w' : World}
  {es later : List Event} {Stray Stray' : World → Fault → Prop} {α β : Type}

namespace Trail

theorem append (h : Trail Step target w es w₁) (h' : Trail Step target w₁ later w') :
    Trail Step target w (es ++ later) w' := by
  induction h with
  | done => exact h'
  | told e _ ih => exact .told e (ih h')
  | stepped hstep _ ih => exact .stepped hstep (ih h')

/-- An event that is reported at the end is the last of the trail. -/
theorem tell (h : Trail Step target w es w₁) (e : Event) :
    Trail Step target w (es ++ [e]) (w₁.told target e) :=
  h.append (.told e (.done _))

theorem single (h : Step w w') : Trail Step target w [] w' := .stepped h (.done w')

theorem mono (h : Trail Step target w es w') (hstep : ∀ w w', Step w w' → Step' w w') :
    Trail Step' target w es w' := by
  induction h with
  | done w => exact .done w
  | told e _ ih => exact .told e ih
  | stepped h _ ih => exact .stepped (hstep _ _ h) ih

/-- A recorder keeps the events of the trail, and no others where steps record none. -/
theorem events (h : Trail Step .recorder w es w')
    (hstep : ∀ w w', Step w w' → w'.events = w.events) : w'.events = w.events ++ es := by
  induction h with
  | done => rw [List.append_nil]
  | @told w w' es e _ ih =>
    have htold : (w.told .recorder e).events = w.events ++ [e] := rfl
    rw [ih, htold, List.append_assoc, List.singleton_append]
  | stepped h _ ih => rw [ih, hstep _ _ h]

end Trail

theorem AreQuiet.nil : AreQuiet [] := List.forall_mem_nil _

theorem AreQuiet.append (h : AreQuiet es) (h' : AreQuiet later) : AreQuiet (es ++ later) :=
  fun e he => (List.mem_append.mp he).elim (h e) (h' e)

theorem AreQuiet.filter_error (h : AreQuiet es) :
    es.filter (fun event => event.level == .error) = [] :=
  List.filter_eq_nil_iff.mpr fun event hmem => by simpa using h event hmem

namespace EndsQuietly

/-- A run that ends quietly has a trail without errors, however it ends. -/
theorem exists_trail {outcome : Except Fault α × World}
    (h : EndsQuietly Step target Stray w outcome) :
    ∃ es, AreQuiet es ∧ Trail Step target w es outcome.2 := by
  obtain ⟨before, w₁, after, hbefore, hafter, hquiet, _⟩ := h
  exact ⟨before ++ after, hquiet, hbefore.append hafter⟩

theorem of_trail {outcome : Except Fault α × World} (htrail : Trail Step target w es outcome.2)
    (hquiet : AreQuiet es)
    (hfault : ∀ fault, outcome.1 = .error fault → fault.IsOfStep ∨ Stray w fault) :
    EndsQuietly Step target Stray w outcome :=
  ⟨[], w, es, .done w, htrail, hquiet, hfault⟩

theorem of_ok {a : α} (htrail : Trail Step target w es w') (hquiet : AreQuiet es) :
    EndsQuietly Step target Stray w (.ok a, w') :=
  of_trail htrail hquiet fun fault h => by cases h

theorem of_error {fault : Fault} (htrail : Trail Step target w es w') (hquiet : AreQuiet es)
    (h : fault.IsOfStep ∨ Stray w fault) :
    EndsQuietly Step target Stray w ((.error fault : Except Fault α), w') :=
  of_trail htrail hquiet fun other hother => by
    cases hother
    exact h

theorem result (a : α) : EndsQuietly Step target Stray w (.ok a, w) := of_ok (.done w) .nil

theorem fault {fault : Fault} (h : fault.IsOfStep ∨ Stray w fault) :
    EndsQuietly Step target Stray w ((.error fault : Except Fault α), w) :=
  of_error (.done w) .nil h

theorem bind {x : Action Fault α} {f : α → Action Fault β}
    (hx : EndsQuietly Step target Stray w (x.run.run w))
    (hf : ∀ a w₁, x.run.run w = (.ok a, w₁) →
      EndsQuietly Step target Stray w₁ ((f a).run.run w₁)) :
    EndsQuietly Step target Stray w ((x >>= f).run.run w) := by
  cases hrun : x.run.run w with
  | mk result w₁ =>
    rw [hrun] at hx
    cases result with
    | error fault =>
      rw [Action.run_bind_error hrun]
      obtain ⟨before, w₂, after, hbefore, hafter, hquiet, hcause⟩ := hx
      exact ⟨before, w₂, after, hbefore, hafter, hquiet, fun other hother =>
        hcause other (by cases hother; rfl)⟩
    | ok a =>
      rw [Action.run_bind_ok hrun]
      obtain ⟨first, hfirst, htrail⟩ := hx.exists_trail
      obtain ⟨before, w₂, after, hbefore, hafter, hquiet, hcause⟩ := hf a w₁ hrun
      refine ⟨first ++ before, w₂, after, htrail.append hbefore, hafter, ?_, hcause⟩
      rw [List.append_assoc]
      exact hfirst.append hquiet

theorem mono {outcome : Except Fault α × World} (h : EndsQuietly Step target Stray w outcome)
    (hstep : ∀ w w', Step w w' → Step' w w')
    (hstray : ∀ w fault, Stray w fault → Stray' w fault) :
    EndsQuietly Step' target Stray' w outcome := by
  obtain ⟨before, w₁, after, hbefore, hafter, hquiet, hcause⟩ := h
  exact ⟨before, w₁, after, hbefore.mono hstep, hafter.mono hstep, hquiet,
    fun fault hfault => (hcause fault hfault).imp id (hstray w₁ fault)⟩

/-- An event that is no error and whose fields have names of their own is reported. -/
theorem emit {level : Logging.Level} {text : String} {context : Entries}
    (hplain : Logging.ArePlain context) (hlevel : level ≠ .error) :
    EndsQuietly Step target Stray w (((Event.mk level text context).emit target).run.run w) := by
  rw [Event.run_emit hplain]
  exact .of_ok (.told _ (.done _)) (List.forall_mem_singleton.mpr hlevel)

end EndsQuietly

end ReleasePackaging
