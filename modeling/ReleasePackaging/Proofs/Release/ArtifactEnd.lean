import ReleasePackaging.Proofs.Release.Packaging

/-!
# How packaging an artifact ends

An artifact is looked for before its hook is called and once more before it is archived. Where it can be
looked for, packaging takes one of five courses, and only the last of them touches the archive: the
artifact is not there, its hook ends with a failure of this program or in some other way, the hook takes
the artifact away, or the artifact is archived as the hook has left it.
-/
namespace ReleasePackaging

/-- Whether a failure names a step wherever it names one: as its own, in its details and in front of its
text. -/
structure Failure.NamesStep (f : Failure) (step : String) : Prop where
  own : ∃ artifact stage, f.cause = .step (.str step) artifact stage
  detail : f.details.field? "step" = some (.str step)
  front : ∃ rest, f.text = s!"[{step}] " ++ rest

/-- The text of a failure of a step starts with the step. -/
theorem Failure.exists_text_eq {step : String} {artifact : Option String} {stage : Failure.Stage}
    {message : Value} {details : Entries} :
    ∃ rest, (Failure.mk (.step (.str step) artifact stage) message details).text =
      s!"[{step}] " ++ rest := by
  have hstep : (Value.str step).plain = step := rfl
  unfold Failure.text
  simp only [hstep]
  split
  · exact ⟨_, rfl⟩
  · exact ⟨_, rfl⟩
  · next a _ =>
    refine ⟨message.plain ++ s!" (artifact: {a})", ?_⟩
    simp only [String.append_assoc]
    rfl

/-- A missing artifact names the step in which it was missed. -/
theorem Failure.namesStep_missingArtifact (path : Path) (step : String) :
    (Failure.missingArtifact path step).NamesStep step :=
  ⟨⟨_, _, rfl⟩, rfl, exists_text_eq⟩

namespace Release

/-- The courses of packaging an artifact. -/
inductive ArtifactCourse where
  | absent
  | refused (f : Failure)
  | hookFailed (message : String)
  | takenAway
  | archived
  deriving Repr

variable {r : Release} {e : Equipment} {a : Artifact} {w : World}

/-- What packaging an artifact comes to on each course. The tree is as it was before or as the hook has
left it, unless the artifact is archived. -/
inductive Takes (r : Release) (e : Equipment) (a : Artifact) (w : World) :
    ArtifactCourse → Except Fault Path × World → Prop where
  | absent (hbefore : w.tree.isFile a.path = .ok false)
      (hstep : (Failure.missingArtifact a.path "post-build").NamesStep "post-build") :
      Takes r e a w .absent (.error (.failure (.missingArtifact a.path "post-build")), w)
  | refused {f : Failure} (hbefore : w.tree.isFile a.path = .ok true)
      (hhook : (r.hookOutcome a w).1 = .error (.failure f)) :
      Takes r e a w (.refused f) (.error (.failure f), r.afterHook a w)
  | hookFailed {message : String} (hbefore : w.tree.isFile a.path = .ok true)
      (hhook : (r.hookOutcome a w).1 = .error (.other message)) :
      Takes r e a w (.hookFailed message)
        (.error (.failure (.postBuild s!"Post-build hook {r.hook.name} failed: {message}" a.path)),
          r.afterHook a w)
  | takenAway (hbefore : w.tree.isFile a.path = .ok true) (hhook : (r.hookOutcome a w).1 = .ok ())
      (hafter : (r.afterHook a w).tree.isFile a.path = .ok false)
      (hstep : (Failure.missingArtifact a.path "archive").NamesStep "archive") :
      Takes r e a w .takenAway
        (.error (.failure (.missingArtifact a.path "archive")), r.afterHook a w)
  | archived (hbefore : w.tree.isFile a.path = .ok true) (hhook : (r.hookOutcome a w).1 = .ok ())
      (hafter : (r.afterHook a w).tree.isFile a.path = .ok true) :
      Takes r e a w .archived (r.archiving e a (r.afterHook a w))

/-- An artifact is on one course at most. -/
theorem Takes.unique {course other : ArtifactCourse} {outcome outcome' : Except Fault Path × World}
    (h : Takes r e a w course outcome) (h' : Takes r e a w other outcome') : other = course := by
  cases h <;> cases h' <;> simp_all

theorem archiving_of_absent (h : w.tree.isFile a.path = .ok false) :
    r.archiving e a w = (.error (.failure (.missingArtifact a.path "archive")), w) := by
  simp only [archiving, Archive.run_write, h]

/-- Packaging an artifact that can be looked for, before its hook is called and after that has returned,
takes exactly one of the five courses, and comes to what this course says. -/
theorem packageArtifact_end (hbefore : ∃ present, w.tree.isFile a.path = .ok present)
    (hafter : w.tree.isFile a.path = .ok true → (r.hookOutcome a w).1 = .ok () →
      ∃ present, (r.afterHook a w).tree.isFile a.path = .ok present) :
    ∃! course, Takes r e a w course ((r.packageArtifact e a).run.run w) := by
  suffices hsome : ∃ course, Takes r e a w course ((r.packageArtifact e a).run.run w) by
    obtain ⟨course, htakes⟩ := hsome
    exact ⟨course, htakes, fun other hother => htakes.unique hother⟩
  have hstep (step : String) := Failure.namesStep_missingArtifact a.path step
  obtain ⟨present, hpresent⟩ := hbefore
  rw [run_packageArtifact, run_applyHook, hpresent]
  cases present with
  | false => exact ⟨.absent, .absent hpresent (hstep "post-build")⟩
  | true =>
    cases hhook : (r.hookOutcome a w).1 with
    | error fault =>
      cases fault with
      | failure f => exact ⟨.refused f, .refused hpresent hhook⟩
      | other message => exact ⟨.hookFailed message, .hookFailed hpresent hhook⟩
    | ok =>
      obtain ⟨still, hstill⟩ := hafter hpresent hhook
      cases still with
      | false =>
        refine ⟨.takenAway, ?_⟩
        simp only [Result.mapError_ok, archiving_of_absent hstill]
        exact .takenAway hpresent hhook hstill (hstep "archive")
      | true => exact ⟨.archived, .archived hpresent hhook hstill⟩

/-! ### A hook that takes its artifact away -/

def rereleased : FileTree where
  nodes := [(["bin"], .directory), (["bin", "n.gz"], .file 0 ⟨#[7]⟩), (["a"], .file 1 ⟨#[1]⟩)]
  workDir := []
  nextNumber := 2

def removingHook : Hook where
  name := "Removing"
  apply _ call := (TreeAction.change fun t => t.unlink call.artifact.toString).adapt fun fault =>
    .other fault.message

def loneArtifact : Artifact := ⟨["a"], "n"⟩

def careless : Release := ⟨.standard, "linux", "1.0", removingHook⟩

def beforeCareless : World := ⟨rereleased, .initial default, [], []⟩

theorem status_rereleased (follow : Bool) :
    rereleased.status follow loneArtifact.path.toString = .ok (["a"], .file 1 ⟨#[1]⟩) := by
  refine FileTree.status_eq_ok_iff.mpr ⟨?_, rfl⟩
  exact FileTree.locate_entry rfl ⟨by decide, by decide, by decide⟩ (by decide) (by decide)
    fun _ heq => by cases heq

theorem isFile_rereleased : rereleased.isFile loneArtifact.path = .ok true := by
  rw [FileTree.isFile, FileTree.ask, status_rereleased]

theorem hookOutcome_careless :
    careless.hookOutcome loneArtifact beforeCareless = (.ok (), rereleased.erase ["a"]) := by
  have hunlink : rereleased.unlink loneArtifact.path.toString = .ok (rereleased.erase ["a"]) :=
    FileTree.unlink_of_status (status_rereleased false) nofun
  rw [hookOutcome, careless, removingHook, Action.run_adapt, TreeAction.run_change]
  simp only [beforeCareless, hookCall, hunlink]
  rfl

/-- Where the hook takes the artifact away, packaging misses it before it is archived, and the archive
of the earlier release stays. -/
theorem packageArtifact_end_takenAway :
    rereleased.isFile loneArtifact.path = .ok true ∧
      (careless.hookOutcome loneArtifact beforeCareless).1 = .ok () ∧
      (rereleased.erase ["a"]).isFile loneArtifact.path = .ok false ∧
      (rereleased.erase ["a"]).node? ["bin", "n.gz"] = some (.file 0 ⟨#[7]⟩) ∧
      ∃! course, Takes careless soundEquipment loneArtifact beforeCareless course
        ((careless.packageArtifact soundEquipment loneArtifact).run.run beforeCareless) := by
  have hgone : (rereleased.erase ["a"]).isFile loneArtifact.path = .ok false := by
    have hlocate : (rereleased.erase ["a"]).locate true loneArtifact.path.toString = .ok ["a"] :=
      FileTree.locate_entry rfl ⟨by decide, by decide, by decide⟩ (by decide) (by decide)
        fun _ heq => by cases heq
    rw [FileTree.isFile, FileTree.ask, FileTree.status, hlocate]
    rfl
  have hhook := hookOutcome_careless
  refine ⟨isFile_rereleased, congrArg Prod.fst hhook, hgone, by decide, ?_⟩
  refine packageArtifact_end ⟨true, isFile_rereleased⟩ fun _ _ => ⟨false, ?_⟩
  rw [← hgone]
  exact congrArg (fun outcome => outcome.2.isFile loneArtifact.path) hhook

end Release

end ReleasePackaging
