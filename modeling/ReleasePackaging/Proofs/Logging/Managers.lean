import Mathlib.Logic.Function.Basic
import ReleasePackaging.Proofs.Logging.SetUp

/-!
# Any number of managers

Managers set logging up and shut it down in any order, and in between events are reported and the
file tree changes. A set-up whose level cannot be read fails and leaves all handlers to whom they
belong. Apart from these, and whatever handlers there were before, those that are attached belong to the
last set-up, none of them is closed, and each manager that is shut down leaves no handler of its own
behind.
-/
namespace ReleasePackaging.Logging

/-- Some managers and their surroundings. -/
structure Managers where
  members : Nat → Manager
  world : World

/-- What may happen: a manager sets logging up or shuts it down, an event is reported, or the file
tree changes. -/
inductive Call where
  | setUp (n : Nat)
  | shutDown (n : Nat)
  | report (target : EventTarget) (e : Event)
  | disturb (tree : FileTree)

/-- No level can be read from what cannot be spelled out. -/
theorem Level.ofSetting_of_isOverlong {v : Value} (hlong : v.isOverlong = true) :
    Level.ofSetting v = .error .unwritable := by
  rw [ofSetting, Value.plainText, if_pos hlong]
  rfl

namespace Managers

/-- Managers with some settings that have done nothing so far. -/
def ofSettings (settings : Nat → Entries) (w : World) : Managers :=
  ⟨fun n => .ofEntries (settings n), w⟩

abbrev handlers (s : Managers) : List Handler := s.world.logging.handlers

abbrev attached (s : Managers) : List Handler := s.world.logging.attached

/-- Lets a manager set logging up, and gives the fault if that fails. -/
def setUp (s : Managers) (n : Nat) : Except Fault Unit × Managers :=
  match (s.members n).setUp.run.run s.world with
  | (.ok (m, result), w) => (result, ⟨Function.update s.members n m, w⟩)
  | (.error fault, w) => (.error fault, ⟨s.members, w⟩)

def shutDown (s : Managers) (n : Nat) : Managers :=
  match (s.members n).shutDown.run.run s.world with
  | (.ok m, w) => ⟨Function.update s.members n m, w⟩
  | (.error _, w) => ⟨s.members, w⟩

/-- Lets something happen. -/
def perform (s : Managers) : Call → Managers
  | .setUp n => (s.setUp n).2
  | .shutDown n => s.shutDown n
  | .report target e => { s with world := s.world.told target e }
  | .disturb tree => { s with world := { s.world with tree := tree } }

/-- Lets one thing after another happen. -/
def after (s : Managers) (calls : List Call) : Managers := calls.foldl perform s

variable {settings : Nat → Entries} {s s' : Managers} {n k : Nat} {call : Call} {calls : List Call}
  {h : Handler} {level : Level} {format : Format}

/-! ## What one call does -/

/-- What is true of managers all the time: handlers have their numbers, managers keep their
settings, and they have made handlers that there are, and none if they have never set up logging. -/
structure IsSound (settings : Nat → Entries) (s : Managers) : Prop where
  numbered : s.world.logging.IsNumbered
  settings : ∀ k, (s.members k).settings = settings k
  made : ∀ k, ∀ i ∈ (s.members k).made, i < s.handlers.length
  begun : ∀ k, (s.members k).isBegun = false → (s.members k).made = []

/-- What a set-up does that attaches new handlers for some sinks. -/
structure SetUpBy (s : Managers) (n : Nat) (level : Level) (format : Format) (sinks : List Sink)
    (s' : Managers) : Prop where
  handlers : s'.handlers = s.world.logging.detachAll.handlers ++
    newHandlers level format s.handlers.length sinks
  level : s'.world.logging.level = level
  own : s'.members n = { s.members n with
    made := (s.members n).made ++ List.range' s.handlers.length sinks.length, isBegun := true }
  others : ∀ k, k ≠ n → s'.members k = s.members k

theorem setUp_effect (hlevel : (s.members n).level = .ok level) :
    ∃ format sinks, SetUpBy s n level format sinks (s.setUp n).2 ∧
      ((s.setUp n).1 = .ok () → (s.members n).format = .ok format ∧
        ∃ console file, (s.members n).AsksFor console file.isSome ∧
          sinks = wantedSinks console file) := by
  obtain ⟨format, sinks, result, tree, hrun, hattaches, hformat⟩ :=
    Manager.setUp_effect hlevel s.world
  have hcount : s.world.logging.detachAll.handlers.length = s.handlers.length := List.length_map _
  rw [setUp, hrun]
  refine ⟨format, sinks, ⟨?_, rfl, ?_, fun k hk => Function.update_of_ne hk _ _⟩,
    fun hok => ⟨hformat hok, hattaches.wanted hok⟩⟩
  · rw [← hcount]
    rfl
  · rw [← hcount]
    exact Function.update_self ..

/-- What a set-up does whose level cannot be read: nothing, but that its manager has begun. -/
structure Unmoved (s s' : Managers) : Prop where
  world : s'.world = s.world
  settings : ∀ k, (s'.members k).settings = (s.members k).settings
  made : ∀ k, (s'.members k).made = (s.members k).made
  begun : ∀ k, (s'.members k).isBegun = false → (s.members k).isBegun = false

theorem setUp_of_noLevel {fault : Number.IntegerFault}
    (hlevel : (s.members n).level = .error fault) :
    (s.setUp n).1 = .error (.integer fault) ∧ Unmoved s (s.setUp n).2 := by
  have hrun : s.setUp n = (.error (.integer fault),
      ⟨Function.update s.members n { s.members n with isBegun := true }, s.world⟩) := by
    rw [setUp, Manager.run_setUp_of_noLevel hlevel]
  rw [hrun]
  refine ⟨rfl, rfl, fun k => ?_, fun k => ?_, fun k => ?_⟩ <;>
  · by_cases heq : k = n
    · subst heq
      simp
    · simp [Function.update_of_ne heq]

/-- What shutting down does: it releases the handlers that the manager has made. -/
structure ShutDownBy (s : Managers) (n : Nat) (s' : Managers) : Prop where
  handlers : s'.handlers = s.handlers.map (Handler.afterRelease (s.members n).made)
  level : s'.world.logging.level = s.world.logging.level
  own : s'.members n = { s.members n with made := [] }
  others : ∀ k, k ≠ n → s'.members k = s.members k

theorem shutDown_effect (hs : s.IsSound settings) (n : Nat) : ShutDownBy s n (s.shutDown n) := by
  have hlogging : (s.shutDown n).world.logging = s.world.logging.release (s.members n).made := by
    rw [shutDown, Manager.run_shutDown]
    cases hbegun : (s.members n).isBegun with
    | true => rfl
    | false =>
      rw [hs.begun n hbegun]
      simp [System.release]
  have hmembers : (s.shutDown n).members =
      Function.update s.members n { s.members n with made := [] } := by
    rw [shutDown, Manager.run_shutDown]
  refine ⟨congrArg System.handlers hlogging, ?_, ?_, fun k hk => ?_⟩
  · rw [hlogging]
    rfl
  · rw [hmembers, Function.update_self]
  · rw [hmembers, Function.update_of_ne hk]

theorem IsSound.ofSettings (settings : Nat → Entries) {w : World} (hw : w.logging.IsNumbered) :
    (ofSettings settings w).IsSound settings :=
  ⟨hw, fun _ => rfl, fun _ _ hi => (nomatch hi), fun _ _ => rfl⟩

theorem SetUpBy.isSound {sinks : List Sink} (hs : s.IsSound settings)
    (h : SetUpBy s n level format sinks s') : s'.IsSound settings := by
  have hcount : s'.handlers.length = s.handlers.length + sinks.length := by
    rw [h.handlers, List.length_append, length_newHandlers]
    exact congrArg (· + sinks.length) (List.length_map _)
  refine ⟨?_, fun k => ?_, fun k i hi => ?_, fun k hk => ?_⟩
  · have hnumbered := hs.numbered.detachAll.withMade level format sinks
    refine hnumbered.congr (h.handlers.trans ?_)
    rw [System.withMade]
    simp [System.detachAll]
  · by_cases heq : k = n
    · rw [heq, h.own]
      exact hs.settings n
    · rw [h.others k heq]
      exact hs.settings k
  · rw [hcount]
    by_cases heq : k = n
    · rw [heq, h.own] at hi
      rcases List.mem_append.mp hi with hold | hnew
      · have := hs.made n i hold
        omega
      · have := List.mem_range'_1.mp hnew
        omega
    · rw [h.others k heq] at hi
      have := hs.made k i hi
      omega
  · by_cases heq : k = n
    · rw [heq, h.own] at hk
      cases hk
    · rw [h.others k heq] at hk ⊢
      exact hs.begun k hk

theorem ShutDownBy.isSound (hs : s.IsSound settings) (h : ShutDownBy s n s') :
    s'.IsSound settings := by
  have hcount : s'.handlers.length = s.handlers.length := by rw [h.handlers, List.length_map]
  have hmembers (k : Nat) :
      s'.members k = s.members k ∨ s'.members k = { s.members k with made := [] } := by
    by_cases heq : k = n
    · exact .inr (heq ▸ h.own)
    · exact .inl (h.others k heq)
  refine ⟨hs.numbered.map _ (fun h => (h.ages_afterRelease _).number) h.handlers, fun k => ?_,
    fun k i hi => ?_, fun k hk => ?_⟩
  · rcases hmembers k with hsame | hreleased
    · exact hsame ▸ hs.settings k
    · rw [hreleased]
      exact hs.settings k
  · rw [hcount]
    rcases hmembers k with hsame | hreleased
    · exact hs.made k i (hsame ▸ hi)
    · rw [hreleased] at hi
      cases hi
  · rcases hmembers k with hsame | hreleased
    · rw [hsame] at hk ⊢
      exact hs.begun k hk
    · rw [hreleased]

theorem Unmoved.isSound (hs : s.IsSound settings) (h : Unmoved s s') : s'.IsSound settings := by
  refine ⟨?_, fun k => (h.settings k).trans (hs.settings k), fun k i hi => ?_, fun k hk => ?_⟩
  · rw [h.world]
    exact hs.numbered
  · rw [handlers, h.world]
    exact hs.made k i (h.made k ▸ hi)
  · rw [h.made k]
    exact hs.begun k (h.begun k hk)

theorem IsSound.perform (hs : s.IsSound settings) (call : Call) :
    (s.perform call).IsSound settings := by
  cases call with
  | setUp n =>
    cases hlevel : (s.members n).level with
    | ok level =>
      obtain ⟨format, sinks, hby, _⟩ := setUp_effect hlevel
      exact hby.isSound hs
    | error fault => exact (setUp_of_noLevel hlevel).2.isSound hs
  | shutDown n => exact (shutDown_effect hs n).isSound hs
  | report target e =>
    have htold := World.told_goesOn hs.numbered target e
    exact ⟨htold.isNumbered hs.numbered, hs.settings,
      fun k i hi => htold.length_handlers.symm ▸ hs.made k i hi, hs.begun⟩
  | disturb tree => exact ⟨hs.numbered, hs.settings, hs.made, hs.begun⟩

theorem IsSound.after (hs : s.IsSound settings) (calls : List Call) :
    (s.after calls).IsSound settings := by
  induction calls generalizing s with
  | nil => exact hs
  | cons call rest ih => exact ih (hs.perform call)

/-! ## While the handlers of a set-up stand -/

/-- The handlers that a manager has attached, from a first number on and for sinks of some kinds,
are the only ones attached: all others are older and are detached, and no other manager has made any
of them. -/
structure Stands (level : Level) (format : Format) (n first : Nat) (kinds : List Bool)
    (s : Managers) : Prop where
  handlers : ∃ old sinks, s.handlers = old ++ newHandlers level format first sinks ∧
    sinks.map Sink.isConsole = kinds ∧ ∀ h ∈ old, h.isAttached = false ∧ h.number < first
  level : s.world.logging.level = level
  own : ∀ i ∈ List.range' first kinds.length, i ∈ (s.members n).made
  others : ∀ k, k ≠ n → ∀ i ∈ (s.members k).made, i < first

/-- No handler is attached. -/
def IsSilent (s : Managers) : Prop := ∀ h ∈ s.handlers, h.isAttached = false

variable {first : Nat} {kinds : List Bool}

theorem Stands.attached (h : Stands level format n first kinds s) : ∃ sinks,
    s.attached = newHandlers level format first sinks ∧
      sinks.map Sink.isConsole = kinds := by
  obtain ⟨old, sinks, hhandlers, hkinds, hold⟩ := h.handlers
  exact ⟨sinks, System.attached_eq_newHandlers hhandlers fun h hmem => (hold h hmem).1, hkinds⟩

theorem IsSilent.attached (h : s.IsSilent) : s.attached = [] :=
  List.filter_eq_nil_iff.mpr fun h' hmem => by simp [h h' hmem]

theorem SetUpBy.stands {sinks : List Sink} (hs : s.IsSound settings)
    (h : SetUpBy s n level format sinks s') :
    Stands level format n s.handlers.length (sinks.map Sink.isConsole) s' := by
  refine ⟨⟨_, sinks, h.handlers, rfl, fun h' hmem => ?_⟩, h.level, fun i hi => ?_,
    fun k hk i hi => ?_⟩
  · obtain ⟨old, hold, rfl⟩ := List.mem_map.mp hmem
    have hlt : old.number < s.handlers.length := hs.numbered.lt hold
    exact ⟨rfl, hlt⟩
  · rw [h.own]
    exact List.mem_append_right _ (by rwa [List.length_map] at hi)
  · rw [h.others k hk] at hi
    exact hs.made k i hi

theorem Stands.report (hs : s.IsSound settings) (h : Stands level format n first kinds s)
    (target : EventTarget) (e : Event) :
    Stands level format n first kinds (s.perform (.report target e)) := by
  obtain ⟨old, sinks, hhandlers, hkinds, hold⟩ := h.handlers
  obtain ⟨hlevel, _, sinkOf, hkind, hmap⟩ := World.told_goesOn hs.numbered target e
  rw [show s.world.logging.handlers = _ from hhandlers] at hkind hmap
  obtain ⟨later, hlater, hnew⟩ := exists_map_newHandlers
    fun h hmem => hkind h (List.mem_append_right old hmem)
  refine ⟨⟨old.map fun h => h.on (sinkOf h), later, ?_, hlater.trans hkinds, fun h' hmem => ?_⟩,
    hlevel.trans h.level, h.own, h.others⟩
  · rw [← hnew, ← List.map_append]
    exact hmap
  · obtain ⟨before, hbefore, rfl⟩ := List.mem_map.mp hmem
    exact hold before hbefore

/-- A set-up that does nothing leaves the handlers alone. -/
theorem Stands.unmoved (h : Stands level format n first kinds s) (hsame : Unmoved s s') :
    Stands level format n first kinds s' := by
  refine ⟨?_, ?_, fun i hi => ?_, fun k hk i hi => h.others k hk i (hsame.made k ▸ hi)⟩
  · rw [Managers.handlers, hsame.world]
    exact h.handlers
  · rw [hsame.world]
    exact h.level
  · rw [hsame.made n]
    exact h.own i hi

/-- Another manager that is shut down leaves the handlers alone. -/
theorem Stands.shutDown_other (h : Stands level format n first kinds s) (hk : k ≠ n)
    (hdown : ShutDownBy s k s') :
    Stands level format n first kinds s' := by
  obtain ⟨old, sinks, hhandlers, hkinds, hold⟩ := h.handlers
  have hnew : (newHandlers level format first sinks).map
      (Handler.afterRelease (s.members k).made) = newHandlers level format first sinks := by
    refine (List.map_congr_left fun h' hmem => ?_).trans (List.map_id _)
    refine Handler.afterRelease_of_notMem fun hmade => ?_
    have hlt := h.others k hk _ hmade
    have hge := (List.mem_range'_1.mp (of_mem_newHandlers hmem).1).1
    omega
  refine ⟨⟨old.map (Handler.afterRelease (s.members k).made), sinks, ?_, hkinds, fun h' hmem => ?_⟩,
    hdown.level.trans h.level, fun i hi => ?_, fun j hj i hi => ?_⟩
  · rw [hdown.handlers, hhandlers, List.map_append, hnew]
  · obtain ⟨before, hbefore, rfl⟩ := List.mem_map.mp hmem
    have hages := before.ages_afterRelease (s.members k).made
    obtain ⟨hdetached, hlt⟩ := hold before hbefore
    exact ⟨hages.detached hdetached, hages.number ▸ hlt⟩
  · rw [hdown.others n (Ne.symm hk)]
    exact h.own i hi
  · by_cases heq : j = k
    · rw [heq, hdown.own] at hi
      cases hi
    · rw [hdown.others j heq] at hi
      exact h.others j hj i hi

/-- The manager that has attached the handlers detaches them when it is shut down. -/
theorem Stands.shutDown_own (h : Stands level format n first kinds s) (hdown : ShutDownBy s n s') :
    s'.IsSilent := by
  obtain ⟨old, sinks, hhandlers, hkinds, hold⟩ := h.handlers
  intro h' hmem
  rw [hdown.handlers, hhandlers] at hmem
  obtain ⟨before, hbefore, rfl⟩ := List.mem_map.mp hmem
  rcases List.mem_append.mp hbefore with hmem | hmem
  · exact (before.ages_afterRelease _).detached (hold before hmem).1
  · have hmade : before.number ∈ (s.members n).made := by
      refine h.own _ ?_
      rw [← hkinds, List.length_map]
      exact (of_mem_newHandlers hmem).1
    rw [Handler.afterRelease_of_mem hmade]

/-! ## What becomes of handlers -/

/-- Whether something that happens makes no handlers: it is no set-up, or one whose level cannot be
read. -/
def MakesNone (settings : Nat → Entries) : Call → Prop
  | .setUp n => ∃ fault, (Manager.ofEntries (settings n)).level = .error fault
  | _ => True

/-- The level that a manager asks for depends on its settings alone. -/
theorem IsSound.level_eq (hs : s.IsSound settings) (n : Nat) :
    (s.members n).level = (Manager.ofEntries (settings n)).level := by
  rw [Manager.level, hs.settings n]
  rfl

theorem unmoved_of_makesNone (hs : s.IsSound settings) (hnone : MakesNone settings (.setUp n)) :
    Unmoved s (s.perform (.setUp n)) := by
  obtain ⟨fault, hlevel⟩ := hnone
  exact (setUp_of_noLevel ((hs.level_eq n).trans hlevel)).2

theorem ages_of_makesNone (hs : s.IsSound settings) (hnone : MakesNone settings call) :
    ∀ h' ∈ (s.perform call).handlers, ∃ h ∈ s.handlers, h.Ages h' := by
  intro h' hmem
  cases call with
  | setUp n =>
    rw [handlers, (unmoved_of_makesNone hs hnone).world] at hmem
    exact ⟨h', hmem, rfl, id, id⟩
  | shutDown n =>
    rw [show (s.perform (.shutDown n)).handlers = _ from (shutDown_effect hs n).handlers] at hmem
    obtain ⟨before, hbefore, rfl⟩ := List.mem_map.mp hmem
    exact ⟨before, hbefore, before.ages_afterRelease _⟩
  | report target e =>
    obtain ⟨_, _, sinkOf, _, hmap⟩ := World.told_goesOn hs.numbered target e
    rw [show (s.perform (.report target e)).handlers = _ from hmap] at hmem
    obtain ⟨before, hbefore, rfl⟩ := List.mem_map.mp hmem
    exact ⟨before, hbefore, rfl, id, id⟩
  | disturb tree => exact ⟨h', hmem, rfl, id, id⟩

/-- A set-up leaves the handlers there were before, detached, and makes later ones. -/
theorem SetUpBy.ages {sinks : List Sink} (h : SetUpBy s n level format sinks s') :
    ∀ h' ∈ s'.handlers, (∃ h ∈ s.handlers, h.Ages h') ∨ s.handlers.length ≤ h'.number := by
  intro h' hmem
  rw [h.handlers] at hmem
  rcases List.mem_append.mp hmem with hold | hnew
  · obtain ⟨before, hbefore, rfl⟩ := List.mem_map.mp hold
    exact .inl ⟨before, hbefore, rfl, fun _ => rfl, id⟩
  · exact .inr (List.mem_range'_1.mp (of_mem_newHandlers hnew).1).1

theorem IsSilent.perform (hs : s.IsSound settings) (h : s.IsSilent)
    (hnone : MakesNone settings call) : (s.perform call).IsSilent := by
  intro h' hmem
  obtain ⟨before, hbefore, hages⟩ := ages_of_makesNone hs hnone h' hmem
  exact hages.detached (h before hbefore)

theorem IsSilent.after (hs : s.IsSound settings) (h : s.IsSilent)
    (hcalls : ∀ call ∈ calls, MakesNone settings call) : (s.after calls).IsSilent := by
  induction calls generalizing s with
  | nil => exact h
  | cons call rest ih =>
    obtain ⟨hcall, hrest⟩ := List.forall_mem_cons.mp hcalls
    exact ih (hs.perform call) (h.perform hs hcall) hrest

/-- Until new handlers are made, the handlers of a set-up stand as long as its manager is not shut down,
and from then on there are none. -/
theorem Stands.after (hs : s.IsSound settings) (h : Stands level format n first kinds s)
    (hcalls : ∀ call ∈ calls, MakesNone settings call) :
    (.shutDown n ∉ calls ∧ Stands level format n first kinds (s.after calls)) ∨
      (.shutDown n ∈ calls ∧ (s.after calls).IsSilent) := by
  induction calls generalizing s with
  | nil => exact .inl ⟨List.not_mem_nil, h⟩
  | cons call rest ih =>
    obtain ⟨hcall, hrest⟩ := List.forall_mem_cons.mp hcalls
    have hsound := hs.perform call
    have hstill (hstands : Stands level format n first kinds (s.perform call)) (hne : .shutDown n ≠ call) :
        (.shutDown n ∉ call :: rest ∧ Stands level format n first kinds (s.after (call :: rest))) ∨
          (.shutDown n ∈ call :: rest ∧ (s.after (call :: rest)).IsSilent) := by
      simp only [List.mem_cons, hne, false_or]
      exact ih hsound hstands hrest
    cases call with
    | setUp k => exact hstill (h.unmoved (unmoved_of_makesNone hs hcall)) nofun
    | shutDown k =>
      by_cases heq : k = n
      · subst heq
        have hsilent : (s.perform (.shutDown k)).IsSilent := h.shutDown_own (shutDown_effect hs k)
        have hend := hsilent.after hsound hrest
        exact .inr ⟨List.mem_cons_self, hend⟩
      · exact hstill (h.shutDown_other heq (shutDown_effect hs k)) (by simpa using Ne.symm heq)
    | report target e => exact hstill (h.report hs target e) nofun
    | disturb tree => exact hstill ⟨h.handlers, h.level, h.own, h.others⟩ nofun

/-! ## Handlers that a manager has made -/

/-- Each handler with a number in some range is still to be released by a manager, or it is detached
and closed. -/
def Owned (n first last : Nat) (s : Managers) : Prop :=
  ∀ h ∈ s.handlers, first ≤ h.number → h.number < last →
    h.number ∈ (s.members n).made ∨ h.isAttached = false ∧ h.isClosed = true

variable {last : Nat}

/-- A handler that was still to be released or was detached and closed. -/
theorem Owned.of_ages {h' : Handler} (howned : Owned n first last s) (hmem : h ∈ s.handlers)
    (hages : h.Ages h') (hfirst : first ≤ h'.number) (hlast : h'.number < last)
    (hmade : h.number ∈ (s.members n).made →
      h'.number ∈ (s'.members n).made ∨ h'.isAttached = false ∧ h'.isClosed = true) :
    h'.number ∈ (s'.members n).made ∨ h'.isAttached = false ∧ h'.isClosed = true := by
  rw [hages.number] at hfirst hlast
  rcases howned h hmem hfirst hlast with hstill | ⟨hdetached, hclosed⟩
  · exact hmade hstill
  · exact .inr ⟨hages.detached hdetached, hages.closed hclosed⟩

/-- A manager that is set up still has what it had made. -/
theorem SetUpBy.made_subset {k : Nat} {sinks : List Sink} (h : SetUpBy s k level format sinks s')
    (n : Nat) : (s.members n).made ⊆ (s'.members n).made := by
  by_cases heq : n = k
  · subst heq
    rw [h.own]
    exact List.subset_append_left _ _
  · rw [h.others n heq]
    exact List.Subset.refl _

theorem Owned.perform (hs : s.IsSound settings) (h : Owned n first last s)
    (hlast : last ≤ s.handlers.length) (call : Call) : Owned n first last (s.perform call) := by
  intro h' hmem hge hlt
  cases call with
  | setUp k =>
    cases hlevel : (s.members k).level with
    | error fault =>
      have hsame : Unmoved s (s.perform (.setUp k)) := (setUp_of_noLevel hlevel).2
      rw [handlers, hsame.world] at hmem
      exact h.of_ages hmem ⟨rfl, id, id⟩ hge hlt fun hmade => .inl ((hsame.made n).symm ▸ hmade)
    | ok level =>
      obtain ⟨format, sinks, hby, _⟩ := setUp_effect hlevel
      rcases hby.ages h' hmem with ⟨before, hbefore, hages⟩ | hnew
      · refine h.of_ages hbefore hages hge hlt fun hmade => .inl ?_
        exact hages.number ▸ hby.made_subset n hmade
      · omega
  | shutDown k =>
    have hdown := shutDown_effect hs k
    rw [show (s.perform (.shutDown k)).handlers = _ from hdown.handlers] at hmem
    obtain ⟨before, hbefore, rfl⟩ := List.mem_map.mp hmem
    have hages := before.ages_afterRelease (s.members k).made
    refine h.of_ages hbefore hages hge hlt fun hmade => ?_
    by_cases heq : n = k
    · subst heq
      rw [Handler.afterRelease_of_mem hmade]
      exact .inr ⟨rfl, rfl⟩
    · rw [show ((s.perform (.shutDown k)).members n) = _ from hdown.others n heq, hages.number]
      exact .inl hmade
  | report target e =>
    have hnone : MakesNone settings (.report target e) := trivial
    obtain ⟨before, hbefore, hages⟩ := ages_of_makesNone hs hnone h' hmem
    exact h.of_ages hbefore hages hge hlt fun hmade => .inl (hages.number ▸ hmade)
  | disturb tree => exact h h' hmem hge hlt

theorem length_handlers_perform (hs : s.IsSound settings) (call : Call) :
    s.handlers.length ≤ (s.perform call).handlers.length := by
  cases call with
  | setUp n =>
    cases hlevel : (s.members n).level with
    | error fault =>
      have hsame : Unmoved s (s.perform (.setUp n)) := (setUp_of_noLevel hlevel).2
      exact Nat.le_of_eq (congrArg (·.logging.handlers.length) hsame.world).symm
    | ok level =>
      obtain ⟨format, sinks, hby, _⟩ := setUp_effect hlevel
      rw [show (s.perform (.setUp n)).handlers = _ from hby.handlers, List.length_append]
      have hcount : s.world.logging.detachAll.handlers.length = s.handlers.length :=
        List.length_map _
      omega
  | shutDown n =>
    have hcount := congrArg List.length (shutDown_effect hs n).handlers
    exact Nat.le_of_eq (hcount.trans (List.length_map _)).symm
  | report target e =>
    exact Nat.le_of_eq (World.told_goesOn hs.numbered target e).length_handlers.symm
  | disturb tree => exact Nat.le_refl _

theorem length_handlers_after (hs : s.IsSound settings) (calls : List Call) :
    s.handlers.length ≤ (s.after calls).handlers.length := by
  induction calls generalizing s with
  | nil => exact Nat.le_refl _
  | cons call rest ih =>
    exact Nat.le_trans (length_handlers_perform hs call) (ih (hs.perform call))

theorem Owned.after (hs : s.IsSound settings) (h : Owned n first last s)
    (hlast : last ≤ s.handlers.length) (calls : List Call) :
    Owned n first last (s.after calls) := by
  induction calls generalizing s with
  | nil => exact h
  | cons call rest ih =>
    exact ih (hs.perform call) (h.perform hs hlast call)
      (Nat.le_trans hlast (length_handlers_perform hs call))

/-- What a manager has made in a set-up is its own. -/
theorem SetUpBy.owned {sinks : List Sink} (h : SetUpBy s n level format sinks s') :
    Owned n s.handlers.length s'.handlers.length s' := by
  intro h' hmem hge hlt
  left
  rw [h.own]
  refine List.mem_append_right _ (List.mem_range'_1.mpr ⟨hge, ?_⟩)
  rw [h.handlers, List.length_append, length_newHandlers] at hlt
  have hcount : s.world.logging.detachAll.handlers.length = s.handlers.length := List.length_map _
  omega

/-! ## The law of the handlers -/

/-- The handlers that are attached are those that the settings of a manager ask for, with numbers
from a first one on, and a record that passes their level is written once to each of their sinks. -/
def IsInstalled (m : Manager) (level : Level) (first : Nat) (s : Managers) : Prop :=
  ∃ format console file, m.format = .ok format ∧ m.AsksFor console file.isSome ∧
    s.attached = newHandlers level format first (wantedSinks console file) ∧
    s.world.logging.level = level ∧
    ∀ record t, level.passes record.level = true →
      (s.world.logging.publish record t).1.out =
          s.world.logging.out ++ (if console then record.output format else "") ∧
        (s.world.logging.publish record t).2 =
          file.elim t fun f => (f.receive (record.line format).toOption t).2

/-- What holds of the handlers when a manager has set logging up with a level and some calls have
followed that make no handlers: those attached were made by that set-up and are open; there are none if
the manager has been shut down since; otherwise they are what its settings ask for, if the set-up
succeeded. -/
structure AfterSetUp (m : Manager) (level : Level) (s : Managers) (n : Nat) (later : List Call)
    (now : Managers) : Prop where
  newest : ∀ h ∈ now.attached,
    s.handlers.length ≤ h.number ∧ h.number < (s.setUp n).2.handlers.length
  gone : .shutDown n ∈ later → now.attached = []
  installed : (s.setUp n).1 = .ok () → .shutDown n ∉ later →
    IsInstalled m level s.handlers.length now
  isOpen : ∀ h ∈ now.attached, h.isClosed = false

/-- The law of the handlers that a manager makes when it sets logging up with a level: what holds of
them until others are made, and that they are detached and closed once the manager has been shut down,
whatever was done in between. -/
structure HandlerLaw (settings : Nat → Entries) (level : Level) (s : Managers) (n : Nat) :
    Prop where
  afterSetUp : ∀ later, (∀ call ∈ later, MakesNone settings call) →
    AfterSetUp (.ofEntries (settings n)) level s n later ((s.setUp n).2.after later)
  afterShutDown : ∀ later, ∀ h ∈ (((s.setUp n).2.after later).shutDown n).handlers,
    s.handlers.length ≤ h.number → h.number < (s.setUp n).2.handlers.length →
      h.isAttached = false ∧ h.isClosed = true

/-- What a manager asks for depends on its settings alone. -/
theorem IsSound.isInstalled (hs : s.IsSound settings) {now : Managers}
    (h : IsInstalled (s.members n) level first now) :
    IsInstalled (.ofEntries (settings n)) level first now := by
  have hsettings := hs.settings n
  generalize s.members n = m at h hsettings
  obtain ⟨own, made, isBegun⟩ := m
  obtain rfl : own = settings n := hsettings
  obtain ⟨format, console, file, hformat, ⟨hconsole, hfile⟩, hrest⟩ := h
  exact ⟨format, console, file, hformat, ⟨hconsole, hfile⟩, hrest⟩

theorem afterSetUp (hs : s.IsSound settings) (hlevel : (s.members n).level = .ok level)
    (hlater : ∀ call ∈ calls, MakesNone settings call) :
    AfterSetUp (.ofEntries (settings n)) level s n calls ((s.setUp n).2.after calls) := by
  obtain ⟨format, sinks, hby, hok⟩ := setUp_effect hlevel
  have hsound := hby.isSound hs
  rcases (hby.stands hs).after hsound hlater with ⟨hup, hstands⟩ | ⟨hdown, hsilent⟩
  · obtain ⟨later, hattached, hkinds⟩ := hstands.attached
    refine ⟨fun h hmem => ?_, fun hdown => absurd hdown hup, fun hresult _ => ?_, fun h hmem => ?_⟩
    · rw [hattached] at hmem
      have hnumber := List.mem_range'_1.mp (of_mem_newHandlers hmem).1
      have hcount := congrArg List.length hkinds
      rw [List.length_map, List.length_map] at hcount
      have hold : s.world.logging.detachAll.handlers.length = s.handlers.length := List.length_map _
      rw [hby.handlers, List.length_append, length_newHandlers]
      omega
    · obtain ⟨hformat, console, file, hasks, rfl⟩ := hok hresult
      obtain ⟨other, hother, rfl⟩ := eq_wantedSinks hkinds
      exact hs.isInstalled ⟨format, console, other, hformat, hother ▸ hasks, hattached,
        hstands.level, fun record t hpasses => System.publish_wanted hattached record hpasses t⟩
    · rw [hattached] at hmem
      exact (of_mem_newHandlers hmem).2.2
  · have hnone := hsilent.attached
    refine ⟨fun h hmem => ?_, fun _ => hnone, fun _ hup => absurd hdown hup, fun h hmem => ?_⟩ <;>
    · rw [hnone] at hmem
      cases hmem

theorem handlerLaw (hs : s.IsSound settings) (hlevel : (s.members n).level = .ok level) :
    HandlerLaw settings level s n := by
  refine ⟨fun later hlater => afterSetUp hs hlevel hlater, fun later h hmem hge hlt => ?_⟩
  obtain ⟨format, sinks, hby, _⟩ := setUp_effect hlevel
  have hsound := hby.isSound hs
  have hbefore := hby.owned.after hsound (Nat.le_refl _) later
  have howned := hbefore.perform (hsound.after later) (length_handlers_after hsound later)
    (.shutDown n)
  refine (howned h hmem hge hlt).resolve_left fun hmade => ?_
  rw [show (((s.setUp n).2.after later).perform (.shutDown n)).members n = _ from
    (shutDown_effect (hsound.after later) n).own] at hmade
  cases hmade

/-- Whatever managers have done before, and whatever handlers there were before that: the handlers
that a manager makes when it sets logging up obey the law. If its level cannot be read, setting up fails
and leaves everything as it is. -/
theorem handlers_lawful (settings : Nat → Entries) {w : World} (hw : w.logging.IsNumbered)
    (earlier : List Call) (n : Nat) :
    let s := (ofSettings settings w).after earlier
    match (Manager.ofEntries (settings n)).level with
    | .ok level => HandlerLaw settings level s n
    | .error fault => (s.setUp n).1 = .error (.integer fault) ∧ (s.setUp n).2.world = s.world := by
  have hsound := (IsSound.ofSettings settings hw).after earlier
  have hsame := hsound.level_eq n
  cases hlevel : (Manager.ofEntries (settings n)).level with
  | ok level => exact handlerLaw hsound (hsame.trans hlevel)
  | error fault =>
    obtain ⟨hfails, hunmoved⟩ := setUp_of_noLevel (hsame.trans hlevel)
    exact ⟨hfails, hunmoved.world⟩

/-- Settings with a section that is no mapping, for one manager among many. -/
def illTyped (n : Nat) : Entries := if n = 1 then [(.str "file", .bool true)] else []

/-- Surroundings with a handler that no manager has made. -/
def foreignHandler : World :=
  ⟨.emptyAt [], { System.initial default with
    handlers := [⟨0, .debug, .text, .console, true, false⟩] }, [], []⟩

theorem handlers_lawful_illTyped : foreignHandler.logging.IsNumbered ∧
    HandlerLaw illTyped .info
      ((ofSettings illTyped foreignHandler).after [.setUp 1, .setUp 2, .shutDown 1]) 2 := by
  have hnumbered : foreignHandler.logging.IsNumbered := rfl
  exact ⟨hnumbered, handlers_lawful illTyped hnumbered [.setUp 1, .setUp 2, .shutDown 1] 2⟩

/-- Settings with a level of too many digits, for one manager among many. -/
def overlongLevel (n : Nat) : Entries :=
  if n = 1 then [(.str "level", .int (10 ^ Number.digitLimit))] else []

/-- A set-up that cannot read its level leaves the handlers of another manager attached. -/
theorem setUp_overlongLevel :
    let s := (ofSettings overlongLevel foreignHandler).after [.setUp 0]
    (s.setUp 1).1 = .error (.integer .unwritable) ∧
      (s.setUp 1).2.attached = [⟨1, .info, .text, .console, true, false⟩] ∧
      ((s.setUp 1).2.members 0).made = [1] ∧ ((s.setUp 1).2.members 1).made = [] := by
  intro s
  have hlevel : (Manager.ofEntries (overlongLevel 1)).level = .error .unwritable :=
    Level.ofSetting_of_isOverlong (Number.isOverlong_pow (Nat.le_refl Number.digitLimit))
  have hnumbered : foreignHandler.logging.IsNumbered := rfl
  have hsound : s.IsSound overlongLevel := (IsSound.ofSettings _ hnumbered).after [.setUp 0]
  obtain ⟨hfails, hunmoved⟩ := setUp_of_noLevel ((hsound.level_eq 1).trans hlevel)
  refine ⟨hfails, ?_, hunmoved.made 0, hunmoved.made 1⟩
  rw [Managers.attached, hunmoved.world]
  rfl

end Managers

end ReleasePackaging.Logging
