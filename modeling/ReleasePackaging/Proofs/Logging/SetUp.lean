import ReleasePackaging.Logging.Manager
import ReleasePackaging.Proofs.Action.Result
import ReleasePackaging.Proofs.Logging.Handlers

/-!
# What setting up and shutting down do

If the level cannot be read, setting up fails and leaves all handlers as they are. Otherwise it detaches
them and attaches new ones, which are those that the settings ask for unless it fails. Shutting down
detaches and closes all that the manager has made.
-/
namespace ReleasePackaging.Logging

variable {m m' : Manager} {s s' : System} {w w' w'' : World} {h : Handler} {sinks later : List Sink}

/-- New handlers of a level and a format for some sinks, with numbers from a first one on. -/
def newHandlers (level : Level) (format : Format) (first : Nat) : List Sink → List Handler
  | [] => []
  | sink :: rest =>
    ⟨first, level, format, sink, true, false⟩ :: newHandlers level format (first + 1) rest

def Manager.withMade (m : Manager) (s : System) (sinks : List Sink) : Manager :=
  { m with made := m.made ++ List.range' s.handlers.length sinks.length }

/-- A system in which handlers of a level and a format have been made for some sinks. -/
def System.withMade (s : System) (level : Level) (format : Format) (sinks : List Sink) : System :=
  { s with handlers := s.handlers ++ newHandlers level format s.handlers.length sinks }

/-- Whether the settings of a manager ask for the console, and whether they ask for a log file. -/
structure Manager.AsksFor (m : Manager) (console file : Bool) : Prop where
  console : (m.part "console").map (Manager.isEnabled · true) = .ok console
  file : (m.part "file").map (Manager.isEnabled · false) = .ok file

def Manager.Opens (m : Manager) (f : LogFile) : Prop :=
  ∃ entries w w', m.part "file" = .ok entries ∧
    (Manager.openLogFile entries).run.run w = (.ok f, w')

/-- The sinks of the console and of a log file, where they are wanted. -/
def wantedSinks (console : Bool) (file : Option LogFile) : List Sink :=
  (if console then [.console] else []) ++ (file.map Sink.file).toList

/-! ## New handlers -/

variable {level : Level} {format : Format} {first : Nat}

theorem newHandlers_append (level : Level) (format : Format) (first : Nat)
    (sinks later : List Sink) :
    newHandlers level format first (sinks ++ later) =
      newHandlers level format first sinks ++
        newHandlers level format (first + sinks.length) later := by
  induction sinks generalizing first with
  | nil => rfl
  | cons sink rest ih =>
    rw [List.cons_append, newHandlers, ih, newHandlers, List.length_cons, Nat.add_right_comm,
      Nat.add_assoc, List.cons_append]

theorem map_number_newHandlers (level : Level) (format : Format) (first : Nat)
    (sinks : List Sink) :
    (newHandlers level format first sinks).map Handler.number = List.range' first sinks.length := by
  induction sinks generalizing first with
  | nil => rfl
  | cons sink rest ih => rw [newHandlers, List.map_cons, ih, List.length_cons, List.range'_succ]

theorem map_sink_newHandlers (level : Level) (format : Format) (first : Nat) (sinks : List Sink) :
    (newHandlers level format first sinks).map Handler.sink = sinks := by
  induction sinks generalizing first with
  | nil => rfl
  | cons sink rest ih => rw [newHandlers, List.map_cons, ih]

theorem length_newHandlers (level : Level) (format : Format) (first : Nat) (sinks : List Sink) :
    (newHandlers level format first sinks).length = sinks.length := by
  have hlength := congrArg List.length (map_number_newHandlers level format first sinks)
  rwa [List.length_map, List.length_range'] at hlength

/-- New handlers are attached and open, and have the numbers from the first one on. -/
theorem of_mem_newHandlers (hmem : h ∈ newHandlers level format first sinks) :
    h.number ∈ List.range' first sinks.length ∧ h.isAttached = true ∧ h.isClosed = false := by
  refine ⟨map_number_newHandlers level format first sinks ▸ List.mem_map_of_mem hmem, ?_⟩
  induction sinks generalizing first with
  | nil => cases hmem
  | cons sink rest ih =>
    rcases List.mem_cons.mp hmem with rfl | hrest
    · exact ⟨rfl, rfl⟩
    · exact ih hrest

/-- New handlers that follow detached ones are those attached. -/
theorem System.attached_eq_newHandlers {old : List Handler}
    (hhandlers : s.handlers = old ++ newHandlers level format first sinks)
    (hold : ∀ h ∈ old, h.isAttached = false) :
    s.attached = newHandlers level format first sinks := by
  have hnone : old.filter (·.isAttached) = [] :=
    List.filter_eq_nil_iff.mpr fun h hmem => by simp [hold h hmem]
  have hall : (newHandlers level format first sinks).filter (·.isAttached) =
      newHandlers level format first sinks :=
    List.filter_eq_self.mpr fun h hmem => (of_mem_newHandlers hmem).2.1
  rw [attached, hhandlers, List.filter_append, hnone, hall, List.nil_append]

/-- New handlers of which each goes on with another sink of the same kind. -/
theorem exists_map_newHandlers {sinkOf : Handler → Sink}
    (hkind : ∀ h ∈ newHandlers level format first sinks,
      (sinkOf h).isConsole = h.sink.isConsole) :
    ∃ later, later.map Sink.isConsole = sinks.map Sink.isConsole ∧
      (newHandlers level format first sinks).map (fun h => h.on (sinkOf h)) =
        newHandlers level format first later := by
  induction sinks generalizing first with
  | nil => exact ⟨[], rfl, rfl⟩
  | cons sink rest ih =>
    obtain ⟨hfirst, hrest⟩ := List.forall_mem_cons.mp hkind
    obtain ⟨later, hkinds, hmap⟩ := ih hrest
    refine ⟨sinkOf ⟨first, level, format, sink, true, false⟩ :: later, ?_, ?_⟩
    · rw [List.map_cons, List.map_cons, hkinds, hfirst]
    · rw [newHandlers, List.map_cons, hmap]
      rfl

/-- Sinks of the kinds that are wanted are the console and a log file, where they are wanted. -/
theorem eq_wantedSinks {console : Bool} {file : Option LogFile}
    (h : sinks.map Sink.isConsole = (wantedSinks console file).map Sink.isConsole) :
    ∃ other, other.isSome = file.isSome ∧ sinks = wantedSinks console other := by
  have hfile (sink : Sink) (hsink : sink.isConsole = false) : ∃ f, sink = .file f := by
    cases sink with
    | console => cases hsink
    | file f => exact ⟨f, rfl⟩
  have hconsole (sink : Sink) (hsink : sink.isConsole = true) : sink = .console := by
    cases sink with
    | console => rfl
    | file f => cases hsink
  cases console <;> cases file <;>
    simp only [wantedSinks, Option.map_none, Option.map_some, Option.toList_none,
      Option.toList_some, if_true, Bool.false_eq_true, if_false, List.append_nil, List.nil_append,
      List.cons_append, List.map_nil, List.map_cons, List.map_eq_nil_iff,
      List.map_eq_cons_iff] at h
  · exact ⟨none, rfl, h⟩
  · obtain ⟨sink, rest, rfl, hkind, rfl⟩ := h
    obtain ⟨f, rfl⟩ := hfile sink hkind
    exact ⟨some f, rfl, rfl⟩
  · obtain ⟨sink, rest, rfl, hkind, rfl⟩ := h
    obtain rfl := hconsole sink hkind
    exact ⟨none, rfl, rfl⟩
  · obtain ⟨sink, _, rfl, hkind, other, rest, rfl, hother, rfl⟩ := h
    obtain rfl := hconsole sink hkind
    obtain ⟨f, rfl⟩ := hfile other hother
    exact ⟨some f, rfl, rfl⟩

/-! ## Setting up -/

theorem System.withMade_nil (s : System) (level : Level) (format : Format) :
    s.withMade level format [] = s := by
  simp [System.withMade, newHandlers]

theorem System.withMade_append (s : System) (level : Level) (format : Format)
    (sinks later : List Sink) :
    (s.withMade level format sinks).withMade level format later =
      s.withMade level format (sinks ++ later) := by
  simp only [System.withMade, newHandlers_append, List.length_append, length_newHandlers,
    List.append_assoc]

theorem wantedSinks_append (console : Bool) (file : Option LogFile) :
    wantedSinks console none ++ wantedSinks false file = wantedSinks console file := by
  simp [wantedSinks]

theorem file_mem_wantedSinks {console : Bool} {file : Option LogFile} {f : LogFile} :
    .file f ∈ wantedSinks console file ↔ file = some f := by
  cases console <;> cases file <;> simp [wantedSinks, eq_comm]

namespace Manager

theorem withMade_nil (m : Manager) (s : System) : m.withMade s [] = m := by
  simp [withMade]

theorem withMade_append (m : Manager) (s : System) (sinks later : List Sink) :
    (m.withMade s sinks).withMade (s.withMade level format sinks) later =
      m.withMade s (sinks ++ later) := by
  simp only [withMade, System.withMade, List.length_append, length_newHandlers,
    List.append_assoc, List.range'_append_1]

/-- Setting up the console step by step. -/
theorem run_setUpConsole (m : Manager) (level : Level) (format : Format) (w : World) :
    (m.setUpConsole level format).run.run w =
      match m.part "console" with
      | .error misuse => (.error (.misuse misuse), w)
      | .ok entries =>
        let sinks := if isEnabled entries true then [.console] else []
        (.ok (m.withMade w.logging sinks),
          { w with logging := w.logging.withMade level format sinks }) := by
  unfold setUpConsole
  cases m.part "console" with
  | error misuse => rfl
  | ok entries =>
    simp only [Result.mapError_ok, Action.run_bind, Action.run_ofResult]
    cases isEnabled entries true with
    | true => rfl
    | false => simp only [Bool.false_eq_true, if_false, withMade_nil, System.withMade_nil,
        Action.run_pure]

/-- Opening a log file changes at most the tree. -/
theorem openLogFile_changesTree (entries : Entries) : (openLogFile entries).ChangesTree :=
  .bind (.ofResult _) fun _ => .bind (.onTree _) fun _ => .bind .get fun _ =>
    .bind (.ofResult _) fun _ => .bind .get fun _ => .bind (.ofResult _) fun (_, tree) =>
      .bind (fun _ => ⟨tree, rfl⟩) fun _ => .ofResult (.ok _)

/-- Setting up the log file step by step. -/
theorem run_setUpFile (m : Manager) (level : Level) (format : Format) (w : World) :
    (m.setUpFile level format).run.run w =
      match m.part "file" with
      | .error misuse => (.error (.misuse misuse), w)
      | .ok entries =>
        if isEnabled entries false then
          match (openLogFile entries).run.run w with
          | (.error fault, w') => (.error fault, w')
          | (.ok f, w') =>
            (.ok (m.withMade w'.logging [.file f]),
              { w' with logging := w'.logging.withMade level format [.file f] })
        else (.ok m, w) := by
  unfold setUpFile
  cases m.part "file" with
  | error misuse => rfl
  | ok entries =>
    simp only [Result.mapError_ok, Action.run_bind, Action.run_ofResult]
    cases isEnabled entries false with
    | false => rfl
    | true =>
      simp only [if_true, Action.run_bind]
      cases (openLogFile entries).run.run w with
      | mk result w' => cases result <;> rfl

/-- Attaching the handlers that are wanted step by step. -/
theorem run_setUpHandlers (m : Manager) (level : Level) (format : Format) (w : World) :
    (m.setUpHandlers level format).run.run w =
      match (m.setUpConsole level format).run.run w with
      | (.error fault, w₁) => (.ok (m, .error fault), w₁)
      | (.ok m₁, w₁) =>
        match (m₁.setUpFile level format).run.run w₁ with
        | (.error fault, w₂) => (.ok (m₁, .error fault), w₂)
        | (.ok m₂, w₂) =>
          (.ok (m₂, .ok ()), { w₂ with logging := { w₂.logging with layout := some format } }) := by
  unfold setUpHandlers change
  simp only [Action.run_bind, Action.run_outcome]
  cases (m.setUpConsole level format).run.run w with
  | mk result w₁ =>
    cases result with
    | error fault => rfl
    | ok m₁ =>
      simp only [Action.run_bind, Action.run_outcome]
      cases (m₁.setUpFile level format).run.run w₁ with
      | mk result w₂ => cases result <;> rfl

/-- Setting up step by step. -/
theorem run_setUp (m : Manager) (w : World) :
    m.setUp.run.run w =
      match m.level with
      | .error fault => (.ok ({ m with isBegun := true }, .error (.integer fault)), w)
      | .ok level =>
        match m.format with
        | .error fault =>
          (.ok ({ m with isBegun := true }, .error (.integer fault)),
            { w with logging := { w.logging.detachAll with level := level } })
        | .ok format =>
          (setUpHandlers { m with isBegun := true } level format).run.run
            { w with logging := { w.logging.detachAll with level := level } } := by
  have hlevel : ({ m with isBegun := true } : Manager).level = m.level := rfl
  have hformat : ({ m with isBegun := true } : Manager).format = m.format := rfl
  simp only [setUp, hlevel, hformat]
  cases m.level with
  | error fault => rfl
  | ok level => cases m.format <;> rfl

/-- Setting up the console attaches it if it is asked for, unless its section is no mapping. -/
theorem setUpConsole_effect (m : Manager) (level : Level) (format : Format) (w : World) :
    (∃ fault, (m.setUpConsole level format).run.run w = (.error fault, w)) ∨
      ∃ console, (m.part "console").map (isEnabled · true) = .ok console ∧
        (m.setUpConsole level format).run.run w =
          (.ok (m.withMade w.logging (wantedSinks console none)),
            { w with logging := w.logging.withMade level format (wantedSinks console none) }) := by
  rw [run_setUpConsole]
  cases m.part "console" with
  | error misuse => exact .inl ⟨_, rfl⟩
  | ok entries =>
    refine .inr ⟨isEnabled entries true, rfl, ?_⟩
    simp only [wantedSinks, Option.map_none, Option.toList_none, List.append_nil]

/-- Setting up the log file opens and attaches it if it is asked for, unless something fails. -/
theorem setUpFile_effect (m : Manager) (level : Level) (format : Format) (w : World) :
    (∃ fault tree,
        (m.setUpFile level format).run.run w = (.error fault, { w with tree := tree })) ∨
      ∃ file tree, (m.part "file").map (isEnabled · false) = .ok file.isSome ∧
        (∀ f, file = some f → m.Opens f) ∧
        (m.setUpFile level format).run.run w =
          (.ok (m.withMade w.logging (wantedSinks false file)),
            { w with
              tree := tree
              logging := w.logging.withMade level format (wantedSinks false file) }) := by
  rw [run_setUpFile]
  cases hpart : m.part "file" with
  | error misuse => exact .inl ⟨_, w.tree, rfl⟩
  | ok entries =>
    cases henabled : isEnabled entries false with
    | false =>
      refine .inr ⟨none, w.tree, congrArg Except.ok henabled, nofun, ?_⟩
      simp only [henabled, Bool.false_eq_true, if_false, wantedSinks, Option.map_none,
        Option.toList_none, List.append_nil, withMade_nil, System.withMade_nil]
    | true =>
      simp only [henabled, if_true]
      obtain ⟨tree, htree⟩ := openLogFile_changesTree entries w
      cases hopened : (openLogFile entries).run.run w with
      | mk result w' =>
        rw [hopened] at htree
        subst htree
        cases result with
        | error fault => exact .inl ⟨fault, tree, rfl⟩
        | ok f =>
          have hopens : m.Opens f := ⟨entries, w, _, hpart, hopened⟩
          exact .inr ⟨some f, tree, congrArg Except.ok henabled,
            fun _ hsame => Option.some.inj hsame ▸ hopens, rfl⟩

/-- What has been done when handlers have been attached for some sinks: they are those that the
settings ask for, with a log file that has been opened, or it has failed and they are none or the
console alone. -/
structure Attaches (m : Manager) (sinks : List Sink) (result : Except Fault Unit) : Prop where
  failed : ∀ fault, result = .error fault → sinks = [] ∨ sinks = [.console]
  opens : ∀ f, .file f ∈ sinks → m.Opens f
  wanted : result = .ok () →
    ∃ console file, m.AsksFor console file.isSome ∧ sinks = wantedSinks console file

theorem attaches_nothing (m : Manager) (fault : Fault) : m.Attaches [] (.error fault) :=
  ⟨fun _ _ => .inl rfl, nofun, nofun⟩

/-- How events are laid out after a set-up. -/
def layoutAfter (before : Option Format) (format : Format) : Except Fault Unit → Option Format
  | .ok () => some format
  | .error _ => before

theorem setUpHandlers_effect (m : Manager) (level : Level) (format : Format) (w : World) :
    ∃ sinks result tree, m.Attaches sinks result ∧
      (m.setUpHandlers level format).run.run w =
        (.ok (m.withMade w.logging sinks, result),
          { w with
            tree := tree
            logging := { w.logging.withMade level format sinks with
              layout := layoutAfter w.logging.layout format result } }) := by
  rw [run_setUpHandlers]
  rcases setUpConsole_effect m level format w with ⟨fault, hfailed⟩ | ⟨console, hconsole, hmade⟩
  · refine ⟨[], .error fault, w.tree, attaches_nothing m fault, ?_⟩
    rw [hfailed, withMade_nil, System.withMade_nil]
    rfl
  · rw [hmade]
    simp only
    rcases setUpFile_effect _ level format _ with
      ⟨fault, tree, hfailed⟩ | ⟨file, tree, hfile, hopens, hmade⟩
    · refine ⟨wantedSinks console none, .error fault, tree, ⟨fun _ _ => ?_, fun f hmem => ?_, nofun⟩, ?_⟩
      · cases console <;> simp [wantedSinks]
      · cases file_mem_wantedSinks.mp hmem
      · rw [hfailed]
        rfl
    · refine ⟨wantedSinks console file, .ok (), tree,
        ⟨fun _ heq => (by cases heq), fun f hmem => hopens f (file_mem_wantedSinks.mp hmem),
          fun _ => ⟨console, file, ⟨hconsole, hfile⟩, rfl⟩⟩, ?_⟩
      rw [hmade]
      simp only [withMade_append, System.withMade_append, wantedSinks_append]
      rfl

/-- A set-up whose level cannot be read fails and does nothing else. -/
theorem run_setUp_of_noLevel {fault : Number.IntegerFault} (hlevel : m.level = .error fault)
    (w : World) :
    m.setUp.run.run w = (.ok ({ m with isBegun := true }, .error (.integer fault)), w) := by
  rw [run_setUp, hlevel]

/-- What setting up does once the level has been read: it attaches handlers in place of all others,
which have that level and the format of the settings. -/
theorem setUp_effect (hlevel : m.level = .ok level) (w : World) : ∃ format sinks result tree,
    m.setUp.run.run w =
      (.ok ({ m.withMade w.logging.detachAll sinks with isBegun := true }, result),
        { w with
          tree := tree
          logging := { w.logging.detachAll.withMade level format sinks with
            level := level
            layout := layoutAfter w.logging.layout format result } }) ∧
      m.Attaches sinks result ∧ (result = .ok () → m.format = .ok format) := by
  rw [run_setUp, hlevel]
  simp only
  cases hformat : m.format with
  | error fault =>
    refine ⟨default, [], .error (.integer fault), w.tree, ?_, m.attaches_nothing _, nofun⟩
    rw [withMade_nil, System.withMade_nil]
    rfl
  | ok format =>
    obtain ⟨sinks, result, tree, hattaches, hrun⟩ :=
      setUpHandlers_effect { m with isBegun := true } level format
        { w with logging := { w.logging.detachAll with level := level } }
    refine ⟨format, sinks, result, tree, hrun,
      ⟨hattaches.failed, hattaches.opens, fun hok => ?_⟩, fun _ => rfl⟩
    obtain ⟨console, file, ⟨hconsole, hfile⟩, hsinks⟩ := hattaches.wanted hok
    exact ⟨console, file, ⟨hconsole, hfile⟩, hsinks⟩

/-- A set-up that succeeds has read the level. -/
theorem exists_level_of_setUp (hsetUp : m.setUp.run.run w = (.ok (m', .ok ()), w')) :
    ∃ level, m.level = .ok level := by
  cases hlevel : m.level with
  | ok level => exact ⟨level, rfl⟩
  | error fault =>
    rw [run_setUp_of_noLevel hlevel] at hsetUp
    cases hsetUp

/-! ## Shutting down -/

theorem run_shutDown (m : Manager) (w : World) :
    m.shutDown.run.run w =
      (.ok { m with made := [] },
        if m.isBegun then { w with logging := w.logging.release m.made } else w) := by
  unfold shutDown
  cases m.isBegun <;> rfl

end Manager

/-! ## Handlers afterwards -/

def Handler.afterRelease (numbers : List Nat) (h : Handler) : Handler :=
  if numbers.contains h.number then { h with isAttached := false, isClosed := true } else h

theorem Handler.afterRelease_of_mem {numbers : List Nat} (hmem : h.number ∈ numbers) :
    h.afterRelease numbers = { h with isAttached := false, isClosed := true } :=
  if_pos (List.contains_iff_mem.mpr hmem)

theorem Handler.afterRelease_of_notMem {numbers : List Nat} (hmem : h.number ∉ numbers) :
    h.afterRelease numbers = h :=
  if_neg fun hcontains => hmem (List.contains_iff_mem.mp hcontains)

/-- What may become of a handler: it keeps its number, and once it is detached or closed it stays
so. -/
structure Handler.Ages (h h' : Handler) : Prop where
  number : h'.number = h.number
  detached : h.isAttached = false → h'.isAttached = false
  closed : h.isClosed = true → h'.isClosed = true

theorem Handler.ages_afterRelease (numbers : List Nat) (h : Handler) :
    h.Ages (h.afterRelease numbers) := by
  by_cases hmem : h.number ∈ numbers
  · rw [afterRelease_of_mem hmem]
    exact ⟨rfl, fun _ => rfl, fun _ => rfl⟩
  · rw [afterRelease_of_notMem hmem]
    exact ⟨rfl, id, id⟩

namespace System

theorem handlers_release (s : System) (numbers : List Nat) :
    (s.release numbers).handlers = s.handlers.map (Handler.afterRelease numbers) := rfl

theorem IsNumbered.congr (hs : s.IsNumbered) (h : s'.handlers = s.handlers) : s'.IsNumbered := by
  rw [IsNumbered, h]
  exact hs

theorem IsNumbered.withMade (hs : s.IsNumbered) (level : Level) (format : Format)
    (sinks : List Sink) : (s.withMade level format sinks).IsNumbered := by
  rw [IsNumbered, System.withMade, List.map_append, map_number_newHandlers, hs, List.length_append,
    length_newHandlers, List.range_eq_range', List.range_eq_range', ← List.range'_append_1,
    Nat.zero_add]

theorem IsNumbered.detachAll (hs : s.IsNumbered) : s.detachAll.IsNumbered :=
  hs.map (fun h => { h with isAttached := false }) (fun _ => rfl) rfl

/-- A record that passes the level of the handlers that are attached goes once to each of them. -/
theorem publish_wanted {console : Bool} {file : Option LogFile}
    (hattached : s.attached = newHandlers level format first (wantedSinks console file))
    (record : Record) (hpasses : level.passes record.level = true) (t : FileTree) :
    (s.publish record t).1.out = s.out ++ (if console then record.output format else "") ∧
      (s.publish record t).2 =
        file.elim t fun f => (f.receive (record.line format).toOption t).2 := by
  unfold publish
  rw [hattached]
  cases console with
  | false =>
    cases file with
    | none =>
      -- Without handlers the record goes to the error output at most.
      change (if _ then _ else _ : System × FileTree).1.out = _ ∧
        (if _ then _ else _ : System × FileTree).2 = _
      split <;> simp
    | some f => simp [wantedSinks, newHandlers, deliver, hpasses, System.update]
  | true =>
    cases file with
    | none => simp [wantedSinks, newHandlers, deliver, hpasses]
    | some f => simp [wantedSinks, newHandlers, deliver, hpasses, System.update]

@[simp] theorem level_update (s : System) (number : Nat) (change : Handler → Handler) :
    (s.update number change).level = s.level := rfl

@[simp] theorem layout_update (s : System) (number : Nat) (change : Handler → Handler) :
    (s.update number change).layout = s.layout := rfl

/-- A handler that goes on with another sink stays attached or detached. -/
theorem attached_update_sink (s : System) (number : Nat) (sink : Sink) :
    (s.update number fun h => { h with sink := sink }).attached =
      s.attached.map fun h => if h.number = number then { h with sink := sink } else h := by
  have hsame : (·.isAttached) ∘ (fun h : Handler =>
      if h.number = number then { h with sink := sink } else h) = (·.isAttached) := by
    funext h
    rw [Function.comp_apply]
    split <;> rfl
  rw [attached, update, List.filter_map, hsame]
  rfl

/-- A record that passes the level of the handlers that are attached leaves them attached, and the log
file goes on. -/
theorem attached_publish_wanted {console : Bool} {file : Option LogFile}
    (hattached : s.attached = newHandlers level format first (wantedSinks console file))
    (record : Record) (hpasses : level.passes record.level = true) (t : FileTree) :
    (s.publish record t).1.level = s.level ∧ (s.publish record t).1.layout = s.layout ∧
      (s.publish record t).1.attached = newHandlers level format first
        (wantedSinks console
          (file.map fun f => (f.receive (record.line format).toOption t).1)) := by
  have hwritten (out : String) : ({ s with out := out } : System).attached = s.attached := rfl
  unfold publish
  rw [hattached]
  cases console with
  | false =>
    cases file with
    | none =>
      change (if _ then _ else _ : System × FileTree).1.level = _ ∧
        (if _ then _ else _ : System × FileTree).1.layout = _ ∧
        (if _ then _ else _ : System × FileTree).1.attached = _
      split <;> exact ⟨rfl, rfl, hattached⟩
    | some f =>
      have hupdated := attached_update_sink s first
        (.file (f.receive (record.line format).toOption t).1)
      rw [hattached] at hupdated
      simp [wantedSinks, newHandlers, deliver, hpasses, hupdated]
  | true =>
    cases file with
    | none => simp [wantedSinks, newHandlers, deliver, hpasses, hwritten, hattached]
    | some f =>
      simp [wantedSinks, newHandlers, deliver, hpasses, attached_update_sink, hwritten, hattached]

end System

namespace Manager

variable {settings : Entries} {result : Except Fault Unit}

theorem setUp_isNumbered (hw : w.logging.IsNumbered)
    (hsetUp : m.setUp.run.run w = (.ok (m', result), w')) : w'.logging.IsNumbered := by
  cases hlevel : m.level with
  | error fault =>
    rw [run_setUp_of_noLevel hlevel] at hsetUp
    cases hsetUp
    exact hw
  | ok level =>
    obtain ⟨format, sinks, _, tree, hrun, _⟩ := setUp_effect hlevel w
    rw [hsetUp] at hrun
    cases hrun
    exact (hw.detachAll.withMade level format sinks).congr rfl

/-- A set-up that fails once the level has been read leaves attached what the manager has made, which
is the console if anything. -/
theorem attached_setUp_error {fault : Fault} (hlevel : (ofEntries settings).level = .ok level)
    (hsetUp : (ofEntries settings).setUp.run.run w = (.ok (m, .error fault), w')) :
    w'.logging.attached.map Handler.number = m.made ∧
      (w'.logging.attached.map Handler.sink = [] ∨
        w'.logging.attached.map Handler.sink = [.console]) := by
  obtain ⟨format, sinks, _, tree, hrun, hattaches, _⟩ := setUp_effect hlevel w
  rw [hsetUp] at hrun
  cases hrun
  have hdetached : ∀ h ∈ w.logging.detachAll.handlers, h.isAttached = false := fun h hmem => by
    obtain ⟨before, _, rfl⟩ := List.mem_map.mp hmem
    rfl
  rw [System.attached_eq_newHandlers rfl hdetached, map_number_newHandlers, map_sink_newHandlers]
  exact ⟨rfl, hattaches.failed fault rfl⟩

/-- The only manager to have set logging up leaves no handler attached when it is shut down,
whatever has been reported since. -/
theorem attached_shutDown (hsetUp : (ofEntries settings).setUp.run.run w = (.ok (m, .ok ()), w'))
    (hgoes : System.GoesOn w'.logging w''.logging) :
    (m.shutDown.run.run w'').2.logging.attached = [] := by
  obtain ⟨level, hlevel⟩ := exists_level_of_setUp hsetUp
  obtain ⟨format, sinks, _, tree, hrun, _⟩ := setUp_effect hlevel w
  obtain ⟨_, _, sinkOf, _, hhandlers⟩ := hgoes
  rw [hsetUp] at hrun
  cases hrun
  rw [run_shutDown, if_pos rfl]
  refine List.filter_eq_nil_iff.mpr fun h' hmem => ?_
  rw [System.handlers_release, hhandlers, List.map_map] at hmem
  obtain ⟨before, hbefore, rfl⟩ := List.mem_map.mp hmem
  have hages := (before.on (sinkOf before)).ages_afterRelease
    ((ofEntries settings).withMade w.logging.detachAll sinks).made
  rcases List.mem_append.mp hbefore with hold | hnew
  · obtain ⟨first, _, rfl⟩ := List.mem_map.mp hold
    simp [hages.detached rfl]
  · have hmade : (before.on (sinkOf before)).number ∈
        ((ofEntries settings).withMade w.logging.detachAll sinks).made :=
      List.mem_append_right [] (of_mem_newHandlers hnew).1
    simp [Handler.afterRelease_of_mem hmade]

end Manager

end ReleasePackaging.Logging
