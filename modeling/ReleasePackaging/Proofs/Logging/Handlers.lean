import Mathlib.Data.List.Nodup
import ReleasePackaging.Proofs.Action.Trail

/-!
# What reporting does to handlers

Handlers are known by their numbers. Reporting makes, attaches, detaches and closes none of them: a
log file that a record is written to goes on as a log file, and all else stays as it is.
-/
namespace ReleasePackaging

namespace Logging

def Sink.isConsole : Sink → Bool
  | .console => true
  | .file _ => false

def Handler.on (h : Handler) (sink : Sink) : Handler := { h with sink := sink }

namespace System

def IsNumbered (s : System) : Prop := s.handlers.map Handler.number = List.range s.handlers.length

/-- A system goes on with the handlers, the level and the layout of another one: at most the log
files that handlers write to, and what has been written, are different. -/
def GoesOn (s s' : System) : Prop :=
  s'.level = s.level ∧ s'.layout = s.layout ∧
    ∃ sinkOf : Handler → Sink, (∀ h ∈ s.handlers, (sinkOf h).isConsole = h.sink.isConsole) ∧
      s'.handlers = s.handlers.map fun h => h.on (sinkOf h)

variable {s s' s'' : System} {t : FileTree} {h : Handler}

theorem IsNumbered.eq_of_number {other : Handler} (hs : s.IsNumbered) (h₁ : h ∈ s.handlers)
    (h₂ : other ∈ s.handlers) (heq : h.number = other.number) : h = other :=
  List.inj_on_of_nodup_map (hs ▸ List.nodup_range) h₁ h₂ heq

theorem IsNumbered.lt (hs : s.IsNumbered) (h₁ : h ∈ s.handlers) : h.number < s.handlers.length := by
  have hmem := List.mem_map_of_mem (f := Handler.number) h₁
  rwa [hs, List.mem_range] at hmem

/-- A change of handlers that keeps their numbers. -/
theorem IsNumbered.map (hs : s.IsNumbered) (change : Handler → Handler)
    (hchange : ∀ h, (change h).number = h.number) (hs' : s'.handlers = s.handlers.map change) :
    s'.IsNumbered := by
  have hsame : Handler.number ∘ change = Handler.number := funext hchange
  rw [IsNumbered, hs', List.map_map, hsame, List.length_map]
  exact hs

/-! ## Going on -/

namespace GoesOn

theorem refl (s : System) : GoesOn s s :=
  ⟨rfl, rfl, Handler.sink, fun _ _ => rfl, (List.map_id' s.handlers).symm⟩

theorem isNumbered (h : GoesOn s s') (hs : s.IsNumbered) : s'.IsNumbered := by
  obtain ⟨_, _, sinkOf, _, hhandlers⟩ := h
  exact hs.map (fun h => h.on (sinkOf h)) (fun _ => rfl) hhandlers

theorem length_handlers (h : GoesOn s s') : s'.handlers.length = s.handlers.length := by
  obtain ⟨_, _, sinkOf, _, hhandlers⟩ := h
  rw [hhandlers, List.length_map]

theorem trans (h : GoesOn s s') (h' : GoesOn s' s'') : GoesOn s s'' := by
  obtain ⟨hlevel, hlayout, sinkOf, hkind, hhandlers⟩ := h
  obtain ⟨hlevel', hlayout', sinkOf', hkind', hhandlers'⟩ := h'
  refine ⟨hlevel'.trans hlevel, hlayout'.trans hlayout, fun h => sinkOf' (h.on (sinkOf h)),
    fun h hmem => ?_, ?_⟩
  · have hmoved : h.on (sinkOf h) ∈ s'.handlers := hhandlers ▸ List.mem_map_of_mem hmem
    exact (hkind' _ hmoved).trans (hkind h hmem)
  · rw [hhandlers', hhandlers, List.map_map]
    rfl

/-- The log file of a handler may be replaced by what it has become. -/
theorem update (hs : s.IsNumbered) (hgoes : GoesOn s s') (hmem : h ∈ s.handlers)
    (hfile : h.sink.isConsole = false) (f : LogFile) :
    GoesOn s (s'.update h.number fun h => { h with sink := .file f }) := by
  obtain ⟨hlevel, hlayout, sinkOf, hkind, hhandlers⟩ := hgoes
  refine ⟨hlevel, hlayout, fun x => if x.number = h.number then .file f else sinkOf x,
    fun x hx => ?_, ?_⟩
  · by_cases hnumber : x.number = h.number
    · simp only [if_true, hs.eq_of_number hx hmem hnumber, hfile]
      rfl
    · simp only [hnumber, if_false]
      exact hkind x hx
  · simp only [System.update, hhandlers, List.map_map]
    refine List.map_congr_left fun x _ => ?_
    by_cases hnumber : x.number = h.number <;> simp [Handler.on, hnumber]

/-- What has been written does not matter. -/
theorem written (h : GoesOn s s') (out err : String) :
    GoesOn s { s' with out := out, err := err } := h

end GoesOn

/-! ## Reporting -/

theorem deliver_goesOn (hs : s.IsNumbered) (hgoes : GoesOn s s') (hmem : h ∈ s.handlers)
    (record : Record) : GoesOn s (deliver record s' t h).1 := by
  unfold deliver
  split
  · exact hgoes
  · cases hsink : h.sink with
    | console => exact hgoes.written _ s'.err
    | file f =>
      exact hgoes.update hs hmem (by rw [hsink]; rfl) _

theorem publish_goesOn (hs : s.IsNumbered) (record : Record) (t : FileTree) :
    GoesOn s (s.publish record t).1 := by
  unfold publish
  split
  · split
    · exact (GoesOn.refl s).written s.out _
    · exact .refl s
  · refine List.foldlRecOn (motive := fun st : System × FileTree => GoesOn s st.1) _ _ (.refl s)
      fun st hst h hh => ?_
    exact deliver_goesOn hs hst (List.mem_filter.mp hh).1 record

theorem report_goesOn (hs : s.IsNumbered) (logger : String) (level : Level) (text : String)
    (fields : Entries) (t : FileTree) : GoesOn s (s.report logger level text fields t).2.1 := by
  unfold report
  split
  · exact .refl s
  · split
    · split
      · exact publish_goesOn hs _ t
      · exact .refl s
    · exact .refl s

end System

end Logging

open Logging.System (GoesOn)

variable {Step : World → World → Prop} {target : EventTarget} {w w' : World} {es : List Event}

theorem World.told_goesOn (hw : w.logging.IsNumbered) (target : EventTarget) (e : Event) :
    GoesOn w.logging (w.told target e).logging := by
  cases target with
  | recorder => exact .refl w.logging
  | logger name => exact Logging.System.report_goesOn hw name e.level e.text e.context w.tree

/-- The handlers go on along the trail of a run whose steps leave the logging system alone. -/
theorem Trail.goesOn (h : Trail Step target w es w') (hw : w.logging.IsNumbered)
    (hstep : ∀ w w', Step w w' → w'.logging = w.logging) : GoesOn w.logging w'.logging := by
  induction h with
  | done w => exact .refl w.logging
  | told e _ ih =>
    have htold := World.told_goesOn hw target e
    exact htold.trans (ih (htold.isNumbered hw))
  | stepped h _ ih =>
    rw [← hstep _ _ h] at hw ⊢
    exact ih hw

end ReleasePackaging
