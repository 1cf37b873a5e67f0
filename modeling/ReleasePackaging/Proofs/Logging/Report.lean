import ReleasePackaging.Proofs.Action.Run
import ReleasePackaging.Proofs.Logging.LogFile

/-!
# What reporting an event does

An event whose fields have no meaning for its record is always reported. What is reported reaches the
file tree through log files alone: where every log file stays outside of a directory, the directory
is left alone, and where there is no log file, so is the whole tree.
-/
namespace ReleasePackaging

open FileTree (IsNumbered Later Beside)

namespace Logging

/-- The names of fields that say something about the record of an event. -/
def reservedNames : List String := trailingFields ++ hiddenFields ++ "stacklevel" :: ownNames

def ArePlain (fields : Entries) : Prop :=
  ∀ entry ∈ fields, ∃ name, entry.1 = .str name ∧ name ∉ reservedNames

theorem arePlain_of_names {fields : Entries} {names : List String}
    (hplain : ∀ name ∈ names, name ∉ reservedNames)
    (hkeys : fields.map Prod.fst = names.map Value.str) : ArePlain fields := by
  intro entry hentry
  have hkey : entry.1 ∈ names.map Value.str := hkeys ▸ List.mem_map_of_mem hentry
  obtain ⟨name, hname, heq⟩ := List.mem_map.mp hkey
  exact ⟨name, heq.symm, hplain name hname⟩

theorem field?_eq_none {fields : Entries} {name : String} (hplain : ArePlain fields)
    (hreserved : name ∈ reservedNames) : fields.field? name = none := by
  induction fields with
  | nil => rfl
  | cons entry rest ih =>
    obtain ⟨key, v⟩ := entry
    obtain ⟨own, rfl, hown⟩ := hplain (key, v) List.mem_cons_self
    have hne : (Value.str own).same (.str name) = false := by
      have hdiffer : own ≠ name := fun heq => hown (heq ▸ hreserved)
      exact beq_false_of_ne hdiffer
    simp only [Entries.field?, Entries.get?, hne, Bool.false_eq_true, if_false]
    exact ih fun entry hentry => hplain entry (List.mem_cons_of_mem _ hentry)

theorem ArePlain.drop {fields : Entries} (hplain : ArePlain fields) (key : Value) :
    ArePlain (fields.drop key) :=
  fun entry hentry => hplain entry (List.mem_filter.mp hentry).1

theorem ArePlain.reported {fields : Entries} (hplain : ArePlain fields) :
    ArePlain (reportedFields fields) := by
  intro entry hentry
  obtain ⟨given, hgiven, rfl⟩ := List.mem_map.mp hentry
  exact hplain given (List.mem_filter.mp hgiven).1

/-- No field of its own name is one that each record has. -/
theorem findSome?_ownNames {fields : Entries} (hplain : ArePlain fields) :
    (fields.findSome? fun (key, _) => key.text?.filter ownNames.contains) = none := by
  rw [List.findSome?_eq_none_iff]
  intro entry hentry
  obtain ⟨name, hkey, hname⟩ := hplain entry hentry
  have hnotown : name ∉ ownNames := fun hmem => hname (by simp [reservedNames, hmem])
  simpa [hkey, Value.text?] using hnotown

namespace System

variable {dir : Location} {t t' : FileTree} {s : System} {fields : Entries}

theorem recordOf_ok (hplain : ArePlain fields) (format : Format) (logger : String) (level : Level)
    (text : String) : ∃ record, s.recordOf format logger level text fields = .ok record := by
  cases format with
  | text =>
    have hrecord : fields.field? "_record" = none := field?_eq_none hplain (by decide)
    simp only [recordOf, namedLogger, hrecord]
    exact ⟨_, rfl⟩
  | json =>
    have hdepth : fields.field? "stacklevel" = none := field?_eq_none hplain (by decide)
    have hown := findSome?_ownNames ((hplain.drop (.str "event")).reported.drop (.str "stacklevel"))
    simp only [recordOf, hdepth, hown, Option.bind_none]
    exact ⟨_, rfl⟩

theorem report_ok (hplain : ArePlain fields) (logger : String) (level : Level) (text : String) :
    (s.report logger level text fields t).1 = .ok () := by
  unfold report
  split
  · have hstack : fields.field? "stack" = none := field?_eq_none hplain (by decide)
    have hexception : fields.field? "exception" = none := field?_eq_none hplain (by decide)
    simp only [trailer, givenText, hstack, hexception]
    rfl
  · next format _ =>
    split
    · obtain ⟨record, hrecord⟩ := recordOf_ok (s := s) hplain format logger level text
      rw [hrecord]
    · rfl

/-! ## Log files outside of a directory -/

/-- Every log file that gets records stays outside of a directory. -/
def LogsOutside (dir : Location) (t : FileTree) (s : System) : Prop :=
  ∀ h ∈ s.attached, ∀ f, h.sink = .file f → f.StaysOutside dir t

theorem LogsOutside.later (h : s.LogsOutside dir t) (hlater : Later dir t t') :
    s.LogsOutside dir t' :=
  fun handler hhandler f hf => (h handler hhandler f hf).later hlater

/-- A log file that is written takes the place of what it was before. -/
theorem LogsOutside.update {f : LogFile} (h : s.LogsOutside dir t) (hf : f.StaysOutside dir t)
    (number : Nat) : (s.update number fun h => { h with sink := .file f }).LogsOutside dir t := by
  intro handler hhandler g hg
  simp only [attached, System.update, List.mem_filter, List.mem_map] at hhandler
  obtain ⟨⟨old, hold, rfl⟩, hattached⟩ := hhandler
  split at hg
  · cases hg
    exact hf
  · next hne =>
    rw [if_neg hne] at hattached
    exact h old (List.mem_filter.mpr ⟨hold, hattached⟩) g hg

theorem deliver_beside {h : Handler} (hnumbered : IsNumbered dir t) (hlogs : s.LogsOutside dir t)
    (hsink : ∀ f, h.sink = .file f → f.StaysOutside dir t) (record : Record) :
    Beside dir t (deliver record s t h).2 ∧
      (deliver record s t h).1.LogsOutside dir (deliver record s t h).2 := by
  unfold deliver
  split
  · exact ⟨.refl dir t, hlogs⟩
  · cases hfile : h.sink with
    | console => exact ⟨.refl dir t, hlogs⟩
    | file f =>
      obtain ⟨hbeside, hout⟩ :=
        LogFile.receive_beside (hsink f hfile) hnumbered (record.line h.format).toOption
      exact ⟨hbeside, (hlogs.later hbeside.toLater).update hout h.number⟩

theorem publish_beside (hnumbered : IsNumbered dir t) (hlogs : s.LogsOutside dir t)
    (record : Record) :
    Beside dir t (s.publish record t).2 ∧
      (s.publish record t).1.LogsOutside dir (s.publish record t).2 := by
  unfold publish
  split
  · split <;> exact ⟨.refl dir t, hlogs⟩
  · refine List.foldlRecOn
      (motive := fun st : System × FileTree => Beside dir t st.2 ∧ st.1.LogsOutside dir st.2)
      _ _ ⟨.refl dir t, hlogs⟩ fun st hst h hh => ?_
    obtain ⟨hbeside, hout⟩ := hst
    obtain ⟨hdelivered, hstill⟩ := deliver_beside (hbeside.numbered hnumbered) hout
      (fun f hf => (hlogs h hh f hf).later hbeside.toLater) record
    exact ⟨hbeside.trans hdelivered, hstill⟩

theorem report_beside (hnumbered : IsNumbered dir t) (hlogs : s.LogsOutside dir t)
    (logger : String) (level : Level) (text : String) (fields : Entries) :
    Beside dir t (s.report logger level text fields t).2.2 ∧
      (s.report logger level text fields t).2.1.LogsOutside dir
        (s.report logger level text fields t).2.2 := by
  unfold report
  split
  · exact ⟨.refl dir t, hlogs⟩
  · split
    · split
      · exact publish_beside hnumbered hlogs _
      · exact ⟨.refl dir t, hlogs⟩
    · exact ⟨.refl dir t, hlogs⟩

/-! ## No log files -/

/-- Every handler that gets records writes to the console. -/
def LogsToConsole (s : System) : Prop := ∀ h ∈ s.attached, h.sink = .console

theorem deliver_console {h : Handler} (hlogs : s.LogsToConsole) (hsink : h.sink = .console)
    (record : Record) :
    (deliver record s t h).2 = t ∧ (deliver record s t h).1.LogsToConsole := by
  unfold deliver
  split
  · exact ⟨rfl, hlogs⟩
  · simp only [hsink, true_and]
    exact hlogs

theorem publish_console (hlogs : s.LogsToConsole) (record : Record) :
    (s.publish record t).2 = t ∧ (s.publish record t).1.LogsToConsole := by
  unfold publish
  split
  · split <;> exact ⟨rfl, hlogs⟩
  · refine List.foldlRecOn (motive := fun st : System × FileTree => st.2 = t ∧ st.1.LogsToConsole)
      _ _ ⟨rfl, hlogs⟩ fun st hst h hh => ?_
    obtain ⟨htree, hconsole⟩ := hst
    obtain ⟨hdelivered, hstill⟩ := deliver_console (t := st.2) hconsole (hlogs h hh) record
    exact ⟨hdelivered.trans htree, hstill⟩

theorem report_console (hlogs : s.LogsToConsole) (logger : String) (level : Level) (text : String)
    (fields : Entries) :
    (s.report logger level text fields t).2.2 = t ∧
      (s.report logger level text fields t).2.1.LogsToConsole := by
  unfold report
  split
  · exact ⟨rfl, hlogs⟩
  · split
    · split
      · exact publish_console hlogs _
      · exact ⟨rfl, hlogs⟩
    · exact ⟨rfl, hlogs⟩

end System

end Logging

/-! ## Events of a run -/

def World.told (w : World) (target : EventTarget) (e : Event) : World :=
  ((e.emit target).run.run w).2

variable {target : EventTarget} {e : Event} {dir : Location} {w : World}

/-- An event whose fields have names of their own is always reported. -/
theorem Event.run_emit (hplain : Logging.ArePlain e.context) (target : EventTarget) (w : World) :
    (e.emit target).run.run w = (.ok (), w.told target e) := by
  refine Prod.ext ?_ rfl
  cases target with
  | recorder => rfl
  | logger name =>
    change ((w.logging.report name e.level e.text e.context w.tree).1.mapError Fault.logging) = _
    rw [Logging.System.report_ok hplain]
    rfl

namespace World

@[simp] theorem hookCalls_told (w : World) (target : EventTarget) (e : Event) :
    (w.told target e).hookCalls = w.hookCalls := by
  cases target <;> rfl

/-- Events of a run are kept, or written by loggers to log files that stay outside of a directory. -/
def LogsOutside (target : EventTarget) (dir : Location) (w : World) : Prop :=
  match target with
  | .recorder => True
  | .logger _ => w.logging.LogsOutside dir w.tree

/-- Events of a run are kept or written to the console. -/
def LogsOffTree (target : EventTarget) (w : World) : Prop :=
  match target with
  | .recorder => True
  | .logger _ => w.logging.LogsToConsole

theorem LogsOutside.later {w' : World} (h : w.LogsOutside target dir)
    (hlogging : w'.logging = w.logging) (hlater : Later dir w.tree w'.tree) :
    w'.LogsOutside target dir := by
  cases target with
  | recorder => trivial
  | logger name =>
    unfold LogsOutside at h ⊢
    rw [hlogging]
    exact h.later hlater

theorem told_beside (hnumbered : IsNumbered dir w.tree) (hlogs : w.LogsOutside target dir)
    (e : Event) :
    Beside dir w.tree (w.told target e).tree ∧ (w.told target e).LogsOutside target dir := by
  cases target with
  | recorder => exact ⟨.refl dir w.tree, trivial⟩
  | logger name => exact Logging.System.report_beside hnumbered hlogs name e.level e.text e.context

theorem told_offTree (hlogs : w.LogsOffTree target) (e : Event) :
    (w.told target e).tree = w.tree ∧ (w.told target e).LogsOffTree target := by
  cases target with
  | recorder => exact ⟨rfl, trivial⟩
  | logger name => exact Logging.System.report_console hlogs name e.level e.text e.context

end World

end ReleasePackaging
