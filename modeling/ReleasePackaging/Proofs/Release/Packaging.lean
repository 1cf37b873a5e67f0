import ReleasePackaging.Proofs.Action.Result
import ReleasePackaging.Proofs.Archive.Write
import ReleasePackaging.Proofs.Logging.Report
import ReleasePackaging.Release.Packaging

/-!
# What packaging one artifact does

The hook is called at most once for an artifact, and it changes at most the artifact. The archive then
comes to stand at its place in the output directory, or the place stays free if packaging ends with a
failure. Nothing else in the output directory changes.
-/
namespace ReleasePackaging

open FileTree (ChangesFile IsNumbered Later Beside)

/-- A hook that rewrites or deletes at most the artifact that it is called for. -/
def Hook.TouchesOnlyArtifact (hook : Hook) : Prop :=
  ∀ calls call t loc number content,
    t.status false call.artifact.toString = .ok (loc, .file number content) →
      ChangesFile loc t ((hook.apply calls call).run.run t).2

namespace Release

/-- Equipment that keeps events and writes whatever is given. -/
def soundEquipment : Equipment :=
  ⟨fun _ _ => throw .nullCharacter, TreeAction.freeRemover, Archive.soundDevice, .recorder⟩

variable {r : Release} {e : Equipment} {a : Artifact} {dir : Location} {w w' : World}

def eventFields : List String :=
  ["library", "version", "host_os", "dev_mode", "path", "artifacts", "artifact", "archive", "archives",
    "step", "error"]

/-- An announcement is always made, since none of its fields says anything about its record. -/
theorem run_announce {context : List (String × Value)}
    (hfields : context.map Prod.fst ⊆ eventFields) (level : Logging.Level) (text : String) :
    (announce e level text context).run.run w =
      (.ok (), w.told e.target ⟨level, text, context.map fun (key, v) => (.str key, v)⟩) := by
  have hplain : ∀ name ∈ eventFields, name ∉ Logging.reservedNames := by decide
  refine Event.run_emit
    (Logging.arePlain_of_names (fun name hname => hplain name (hfields hname)) ?_) e.target w
  rw [List.map_map, List.map_map]
  rfl

theorem announce_told (e : Equipment) (level : Logging.Level) (text : String)
    (context : List (String × Value)) (hfields : context.map Prod.fst ⊆ eventFields) (w : World) :
    ∃ event, (announce e level text context).run.run w = (.ok (), w.told e.target event) :=
  ⟨_, run_announce hfields level text⟩

def hookCall (r : Release) (a : Artifact) : HookCall := ⟨a.path, r.host⟩

/-- The place of the archive of an artifact in the output directory. -/
def place (dir : Location) (a : Artifact) : Location := dir ++ [archiveName a.baseName]

/-- What is known of the output directory before artifacts are packaged: where it is, that it is a
directory, and that nothing else has to do with what is in it. -/
structure OutputReady (r : Release) (e : Equipment) (dir : Location) (w : World) : Prop where
  located : w.tree.locate true r.config.outputDir.toString = .ok dir
  directory : w.tree.node? dir = some .directory
  numbered : IsNumbered dir w.tree
  logs : w.LogsOutside e.target dir

/-- What is known of an artifact before it is packaged: it is no link and not in the output directory,
and the name of its archive is a name that is still free there. -/
structure ArtifactReady (dir : Location) (a : Artifact) (t : FileTree) : Prop where
  name : '/' ∉ a.baseName.toList
  free : t.node? (place dir a) = none
  outside : ∀ loc, t.locate true a.path.toString = .ok loc → ¬ dir <+: loc
  noLink : t.isLink a.path ≠ .ok true

theorem OutputReady.later (h : OutputReady r e dir w) (hlogs : w'.LogsOutside e.target dir)
    (hlater : Later dir w.tree w'.tree) : OutputReady r e dir w' :=
  ⟨hlater.frame.locate h.located, hlater.frame.directory h.directory, hlater.numbered h.numbered,
    hlogs⟩

/-! ## The hook -/

/-- How the hook ends for an artifact, and the tree that it leaves. -/
def hookOutcome (r : Release) (a : Artifact) (w : World) : Except HookFault Unit × FileTree :=
  (r.hook.apply w.hookCalls (r.hookCall a)).run.run w.tree

def afterHook (r : Release) (a : Artifact) (w : World) : World :=
  { w with tree := (r.hookOutcome a w).2, hookCalls := w.hookCalls ++ [r.hookCall a] }

/-- The hook is called for an artifact that is there, and for no other one. -/
theorem run_applyHook :
    (r.applyHook a).run.run w =
      match w.tree.isFile a.path with
      | .error fault => (.error (.access fault), w)
      | .ok false => (.error (.failure (.missingArtifact a.path "post-build")), w)
      | .ok true => ((r.hookOutcome a w).1.mapError (hookFault r.hook a.path), r.afterHook a w) := by
  unfold applyHook
  simp only [Action.run_bind, Action.run_onTree, Action.run_adapt, TreeAction.run_query]
  cases w.tree.isFile a.path with
  | error fault => rfl
  | ok present => cases present <;> rfl

/-- A regular file that is found at the path of an artifact is the artifact itself. -/
theorem status_of_isFile (hartifact : ArtifactReady dir a w.tree)
    (h : w.tree.isFile a.path = .ok true) :
    ∃ loc number content, w.tree.status false a.path.toString = .ok (loc, .file number content) ∧
      ¬ dir <+: loc ∧ w.tree.fixed? loc = none := by
  obtain ⟨loc, number, content, hstatus⟩ := FileTree.exists_status_of_isFile h
  obtain ⟨hlocate, hnode⟩ := FileTree.status_eq_ok_iff.mp hstatus
  refine ⟨loc, number, content, FileTree.status_of_not_link hartifact.noLink hstatus,
    hartifact.outside loc hlocate, ?_⟩
  simp [FileTree.fixed?, hnode, Node.isFile]

/-- Applying the hook calls it at most once, and leaves the output directory alone. -/
theorem applyHook_effect {result : Except Fault Unit} (hout : OutputReady r e dir w)
    (hartifact : ArtifactReady dir a w.tree) (hhook : r.hook.TouchesOnlyArtifact)
    (h : (r.applyHook a).run.run w = (result, w')) :
    Beside dir w.tree w'.tree ∧ w'.logging = w.logging ∧
      (w'.hookCalls = w.hookCalls ∨ w'.hookCalls = w.hookCalls ++ [r.hookCall a]) ∧
      (result = .ok () → w'.hookCalls = w.hookCalls ++ [r.hookCall a]) := by
  rw [run_applyHook] at h
  split at h
  · cases h
    exact ⟨.refl dir w.tree, rfl, .inl rfl, nofun⟩
  · cases h
    exact ⟨.refl dir w.tree, rfl, .inl rfl, nofun⟩
  · next hpresent =>
    obtain ⟨loc, number, content, hfile, houtside, hfixed⟩ := status_of_isFile hartifact hpresent
    have hchange : ChangesFile loc w.tree (r.afterHook a w).tree :=
      hhook w.hookCalls (r.hookCall a) w.tree loc number content hfile
    cases h
    exact ⟨hchange.beside hfixed houtside hout.numbered, rfl, .inr rfl, fun _ => rfl⟩

/-! ## The artifact -/

/-- What holds after an artifact has been packaged, whatever came of it. -/
structure Handled (r : Release) (e : Equipment) (dir : Location) (a : Artifact) (w w' : World) :
    Prop where
  later : Later dir w.tree w'.tree
  logs : w'.LogsOutside e.target dir
  elsewhere : ∀ loc, dir <+: loc → loc ≠ place dir a → w'.tree.node? loc = w.tree.node? loc
  calls : w'.hookCalls = w.hookCalls ∨ w'.hookCalls = w.hookCalls ++ [r.hookCall a]

/-- What holds besides after an artifact has been packaged well: its archive is an archive of what it
was when its hook returned. -/
structure Archived (r : Release) (dir : Location) (a : Artifact) (w w' : World) : Prop where
  called : w'.hookCalls = w.hookCalls ++ [r.hookCall a]
  archive : ∃ w₁ content, (r.applyHook a).run.run w = (.ok (), w₁) ∧
    w₁.tree.read a.path.toString = .ok content ∧ Archive.Holds w'.tree (place dir a) content

def archivedEvent (a : Artifact) (target : Path) : Event :=
  ⟨.info, "Archived artifact",
    [(.str "artifact", .str a.path.toString), (.str "archive", .str target.toString)]⟩

/-- How archiving an artifact ends, and what it leaves; an archive that has been written is reported. -/
def archiving (r : Release) (e : Equipment) (a : Artifact) (w : World) : Except Fault Path × World :=
  match (Archive.write e.device a.path a.baseName r.config.outputDir).run.run w.tree with
  | (.ok target, tree) =>
    (.ok target, World.told { w with tree := tree } e.target (archivedEvent a target))
  | (.error fault, tree) => (.error fault, { w with tree := tree })

/-- An artifact to which the hook has been applied is archived. -/
theorem run_packageArtifact :
    (r.packageArtifact e a).run.run w =
      match (r.applyHook a).run.run w with
      | (.ok (), w₁) => r.archiving e a w₁
      | (.error fault, w₁) => (.error fault, w₁) := by
  unfold packageArtifact archiving
  simp only [Action.run_bind, Action.run_onTree]
  cases (r.applyHook a).run.run w with
  | mk applied w₁ =>
    cases applied with
    | error fault => rfl
    | ok =>
      simp only
      cases (Archive.write e.device a.path a.baseName r.config.outputDir).run.run w₁.tree with
      | mk written tree =>
        cases written with
        | error fault => rfl
        | ok target =>
          simp only
          rw [run_announce (by simp [eventFields])]
          rfl

/-- What archiving an artifact does where the place of its archive is free: nothing else in the output
directory changes, the hook is not called, and the place holds an archive of the artifact afterwards or
stays free. -/
theorem archiving_effect {result : Except Fault Path} (hout : OutputReady r e dir w)
    (hname : '/' ∉ a.baseName.toList) (hfree : w.tree.node? (place dir a) = none)
    (hdevice : e.device.IsHonest) (h : r.archiving e a w = (result, w')) :
    Later dir w.tree w'.tree ∧ w'.LogsOutside e.target dir ∧
      (∀ loc, dir <+: loc → loc ≠ place dir a → w'.tree.node? loc = w.tree.node? loc) ∧
      w'.hookCalls = w.hookCalls ∧
      (∀ path, result = .ok path → path = archivePath a.baseName r.config.outputDir ∧
        ∃ content, w.tree.read a.path.toString = .ok content ∧
          Archive.Holds w'.tree (place dir a) content) ∧
      (∀ f, result = .error (.failure f) → w'.tree.node? (place dir a) = none) := by
  have hplace : dir <+: place dir a := List.prefix_append dir _
  have htarget : Archive.IsFree w.tree (archivePath a.baseName r.config.outputDir) (place dir a) := by
    refine ⟨hfree, locate_archivePath hname hout.located hout.directory ?_⟩
    intro text hlink
    rw [place] at hfree
    rw [hfree] at hlink
    cases hlink
  rw [archiving] at h
  cases hwrite : (Archive.write e.device a.path a.baseName r.config.outputDir).run.run w.tree with
  | mk written t =>
    obtain ⟨hchange, hwritten, hfailed⟩ := Archive.write_effect htarget hdevice hwrite
    have hmade := hchange.later hfree hplace
    have hlogs : World.LogsOutside e.target dir { w with tree := t } := hout.logs.later rfl hmade
    simp only [hwrite] at h
    cases written with
    | error fault =>
      cases h
      exact ⟨hmade, hlogs, fun loc _ hne => hchange.elsewhere loc hne, rfl, nofun,
        fun f hf => hfailed f (congrArg _ (Except.error.inj hf))⟩
    | ok path =>
      obtain ⟨rfl, content, hread, number, archive, hfile, hcontent⟩ := hwritten path rfl
      cases h
      -- The archive is written before it is reported, and a report stays outside of the directory.
      obtain ⟨htold, hlogsAfter⟩ := World.told_beside (hmade.numbered hout.numbered) hlogs
        (archivedEvent a (archivePath a.baseName r.config.outputDir))
      refine ⟨hmade.trans htold.toLater, hlogsAfter, fun loc hloc hne => ?_,
        World.hookCalls_told _ _ _, fun _ hok => ⟨(Except.ok.inj hok).symm, content, hread, ?_⟩, nofun⟩
      · exact (htold.within loc hloc).trans (hchange.elsewhere loc hne)
      · exact ⟨number, archive, (htold.within _ hplace).trans hfile, hcontent⟩

/-- What packaging an artifact does. -/
theorem packageArtifact_effect {result : Except Fault Path} (hout : OutputReady r e dir w)
    (hartifact : ArtifactReady dir a w.tree) (hhook : r.hook.TouchesOnlyArtifact)
    (hdevice : e.device.IsHonest) (h : (r.packageArtifact e a).run.run w = (result, w')) :
    Handled r e dir a w w' ∧
      (∀ path, result = .ok path →
        path = archivePath a.baseName r.config.outputDir ∧ Archived r dir a w w') ∧
      (∀ f, result = .error (.failure f) → w'.tree.node? (place dir a) = none) := by
  rw [run_packageArtifact] at h
  cases hhooked : (r.applyHook a).run.run w with
  | mk applied w₁ =>
    obtain ⟨hbeside, hlogging, hcalls, hcalled⟩ := applyHook_effect hout hartifact hhook hhooked
    have hlogs : w₁.LogsOutside e.target dir := hout.logs.later hlogging hbeside.toLater
    have hfree : w₁.tree.node? (place dir a) = none :=
      (hbeside.within _ (List.prefix_append dir _)).trans hartifact.free
    simp only [hhooked] at h
    cases applied with
    | error fault =>
      cases h
      exact ⟨⟨hbeside.toLater, hlogs, fun loc hloc _ => hbeside.within loc hloc, hcalls⟩, nofun,
        fun _ _ => hfree⟩
    | ok =>
      obtain ⟨hlater, hlogsAfter, helsewhere, hsame, hwritten, hfailed⟩ :=
        archiving_effect (hout.later hlogs hbeside.toLater) hartifact.name hfree hdevice h
      have hcalls' : w'.hookCalls = w.hookCalls ++ [r.hookCall a] := hsame.trans (hcalled rfl)
      refine ⟨⟨hbeside.toLater.trans hlater, hlogsAfter, fun loc hloc hne => ?_, .inr hcalls'⟩,
        fun path hok => ?_, hfailed⟩
      · exact (helsewhere loc hloc hne).trans (hbeside.within loc hloc)
      · obtain ⟨hpath, content, hread, harchive⟩ := hwritten path hok
        exact ⟨hpath, hcalls', w₁, content, hhooked, hread, harchive⟩

end Release

end ReleasePackaging
