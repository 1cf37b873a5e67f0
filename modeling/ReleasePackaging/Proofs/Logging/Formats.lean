import ReleasePackaging.Proofs.Logging.Calls

/-!
# What the format of a log changes

Settings that differ in the format alone ask for the same level and the same sinks. In either format the
sinks get the records of the calls that pass the level and do not raise, in order and once each, and lose
those with a field that cannot be written in the format. The two formats agree on what is written as long
as no field has a name that each record has itself, none is there to name the logger and does not, and
all fields can be written in both.
-/
namespace ReleasePackaging.Logging

def Format.name : Format → String
  | .text => "text"
  | .json => "json"

def inFormat (format : Format) (settings : Entries) : Entries :=
  (.str "format", .str format.name) :: settings

/-- Whether a call raises in no format, and is lost in none, where logging has been set up with a
level. -/
structure LoggerCall.FitsFormats (threshold : Level) (c : LoggerCall) : Prop where
  parameters : "self" ∉ c.names ∧ "method_name" ∉ c.fields.map Prod.fst
  inWords : threshold.passes c.level = true →
    NamesLogger (c.entries.field? "_record") ∧ c.IsWritable .text
  asObject : threshold.passes c.level = true →
    (∀ name ∈ c.names, name ∉ ownNames) ∧ c.IsWritable .json

variable {settings : Entries} {threshold : Level} {format : Format} {c : LoggerCall}
  {calls : List LoggerCall} {m : Manager} {w w' : World}

/-! ## Settings in a format -/

namespace Manager

theorem field?_inFormat {name : String} (hname : name ≠ "format") :
    (inFormat format settings).field? name = settings.field? name := by
  have hne : (Value.str "format").same (.str name) = false := beq_false_of_ne (Ne.symm hname)
  simp [inFormat, Entries.field?, Entries.get?, hne]

theorem format_inFormat (format : Format) (settings : Entries) :
    (ofEntries (inFormat format settings)).format = .ok format := by
  have hname : (ofEntries (inFormat format settings)).formatName = .ok format.name := by
    have hgiven : (inFormat format settings).field? "format" = some (.str format.name) := rfl
    rw [formatName, ofEntries, hgiven]
    cases format <;> decide
  rw [Manager.format, hname]
  cases format <;> rfl

theorem level_inFormat (format : Format) (settings : Entries) :
    (ofEntries (inFormat format settings)).level = (ofEntries settings).level := by
  have hne : "level" ≠ "format" := by decide
  simp only [Manager.level, ofEntries, field?_inFormat hne]

theorem asksFor_inFormat {console file : Bool} :
    (ofEntries (inFormat format settings)).AsksFor console file ↔
      (ofEntries settings).AsksFor console file := by
  have hpart (name : String) (hname : name ≠ "format") :
      (ofEntries (inFormat format settings)).part name = (ofEntries settings).part name := by
    simp only [part, ofEntries, field?_inFormat hname]
  have hconsole := hpart "console" (by decide)
  have hfile := hpart "file" (by decide)
  exact ⟨fun h => ⟨hconsole ▸ h.console, hfile ▸ h.file⟩,
    fun h => ⟨hconsole ▸ h.console, hfile ▸ h.file⟩⟩

/-- A set-up that succeeds leaves the logging system as its settings say. -/
theorem isTuned_setUp (hsetUp : (ofEntries settings).setUp.run.run w = (.ok (m, .ok ()), w')) :
    ∃ level format console file, (ofEntries settings).level = .ok level ∧
      (ofEntries settings).format = .ok format ∧ (ofEntries settings).AsksFor console file.isSome ∧
      w'.logging.IsTuned level format w.logging.detachAll.handlers.length console file := by
  obtain ⟨level, hlevel⟩ := exists_level_of_setUp hsetUp
  obtain ⟨format, sinks, _, tree, hrun, hattaches, hformat⟩ := setUp_effect hlevel w
  rw [hsetUp] at hrun
  cases hrun
  obtain ⟨console, file, hasks, rfl⟩ := hattaches.wanted rfl
  have hdetached : ∀ h ∈ w.logging.detachAll.handlers, h.isAttached = false := fun h hmem => by
    obtain ⟨before, _, rfl⟩ := List.mem_map.mp hmem
    rfl
  exact ⟨level, format, console, file, hlevel, hformat rfl, hasks, rfl, rfl,
    System.attached_eq_newHandlers rfl hdetached⟩

end Manager

/-! ## Calls in both formats -/

theorem LoggerCall.fitsFormats_iff : c.FitsFormats threshold ↔
    ∀ format, ¬ c.Raises threshold format ∧
      (c.IsHeard threshold format ↔ threshold.passes c.level = true) := by
  constructor
  · rintro ⟨hparameters, hwords, hobject⟩ format
    have hwritable (hpasses : threshold.passes c.level = true) :
        c.IsRecordable format ∧ c.IsWritable format := by
      cases format with
      | text => exact hwords hpasses
      | json => exact hobject hpasses
    have hquiet : ¬ c.Raises threshold format :=
      not_or.mpr ⟨not_or.mpr hparameters, fun h => h.2 (hwritable h.1).1⟩
    exact ⟨hquiet, fun h => h.1.1, fun hpasses => ⟨⟨hpasses, hquiet⟩, (hwritable hpasses).2⟩⟩
  · intro h
    have hwritable (format : Format) (hpasses : threshold.passes c.level = true) :
        c.IsRecordable format ∧ c.IsWritable format := by
      obtain ⟨hquiet, hheard⟩ := h format
      exact ⟨by_contra fun hrefused => hquiet (.inr ⟨hpasses, hrefused⟩), (hheard.mpr hpasses).2⟩
    exact ⟨not_or.mp (not_or.mp (h .text).1).1, hwritable .text, hwritable .json⟩

theorem filter_isHeard_iff {format : Format} :
    (calls.filter fun c => c.IsHeard threshold format) =
        (calls.filter fun c => threshold.passes c.level) ↔
      ∀ c ∈ calls, (c.IsHeard threshold format ↔ threshold.passes c.level = true) := by
  constructor
  · intro hsame c hc
    have hmem := congrArg (c ∈ ·) hsame
    simpa [hc] using hmem
  · intro h
    refine List.filter_congr fun c hc => ?_
    simp [h c hc]

/-- Calls are heard in both formats if they pass the level, and none raises, exactly if all fit. -/
theorem heard_in_formats_iff :
    (∀ format, (calls.filter fun c => c.IsHeard threshold format) =
        (calls.filter fun c => threshold.passes c.level) ∧
      ∀ c ∈ calls, ¬ c.Raises threshold format) ↔
      ∀ c ∈ calls, c.FitsFormats threshold := by
  simp only [filter_isHeard_iff, LoggerCall.fitsFormats_iff]
  constructor
  · exact fun h c hc format => ⟨(h format).2 c hc, (h format).1 c hc⟩
  · exact fun h format => ⟨fun c hc => (h c hc format).2, fun c hc => (h c hc format).1⟩

def setUpIn (format : Format) : World :=
  ((Manager.ofEntries (inFormat format [])).setUp.run.run
    ⟨.emptyAt [], .initial default, [], []⟩).2

theorem setUpIn_eq (format : Format) : ∃ m, (Manager.ofEntries (inFormat format [])).setUp.run.run
    ⟨.emptyAt [], .initial default, [], []⟩ = (.ok (m, .ok ()), setUpIn format) := by
  cases format <;> exact ⟨_, rfl⟩

/-- Calls of which one passes the level. -/
def plainCalls : List LoggerCall :=
  [⟨"tool", .info, "begun", [], [("count", .int 1)]⟩, ⟨"tool", .debug, "detail", [], []⟩]

/-- A call with a field that has the name of an own part of a record. -/
def moduleCall : LoggerCall := ⟨"tool", .info, "begun", [], [("module", .str "core")]⟩

end ReleasePackaging.Logging
