import ReleasePackaging.Proofs.Release.Packaging
import ReleasePackaging.Release.Build

/-!
# The archives of a prefix

Artifacts are packaged in order until one of them fails. Whenever packaging stops with a failure, the
output directory holds the archives of the artifacts before the failing one and nothing else, each of
them an archive of what its artifact was when the hook had returned.
-/
namespace ReleasePackaging.Release

open FileTree (SameFrame Later)

variable {r : Release} {e : Equipment} {a b : Artifact} {as rest : List Artifact} {dir : Location}
  {w w₁ w' : World} {i k : Nat}

/-- The content that an artifact of a list has when its own call of the hook has returned. -/
def HandedOver (r : Release) (e : Equipment) (as : List Artifact) (w : World) (i : Nat)
    (content : ByteArray) : Prop :=
  ∃ a archives w₁ w₂, as[i]? = some a ∧
    (r.packageAll e (as.take i)).run.run w = (.ok archives, w₁) ∧
    (r.applyHook a).run.run w₁ = (.ok (), w₂) ∧ w₂.tree.read a.path.toString = .ok content

def StopsAt (r : Release) (e : Equipment) (as : List Artifact) (w : World) (k : Nat) (f : Failure)
    (w' : World) : Prop :=
  ∃ a archives w₁, as[k]? = some a ∧
    (r.packageAll e (as.take k)).run.run w = (.ok archives, w₁) ∧
    (r.packageArtifact e a).run.run w₁ = (.error (.failure f), w')

/-- The first artifacts of a list have been packaged: their archives are in place, and all else in the
output directory is what it was. -/
structure Packaged (r : Release) (e : Equipment) (dir : Location) (as : List Artifact) (w : World)
    (k : Nat) (t : FileTree) : Prop where
  archives : ∀ i a, i < k → as[i]? = some a →
    ∃ content, HandedOver r e as w i content ∧ Archive.Holds t (place dir a) content
  elsewhere : ∀ loc, dir <+: loc →
    (∀ i a, i < k → as[i]? = some a → loc ≠ place dir a) → t.node? loc = w.tree.node? loc

/-- What is known of artifacts before they are packaged. -/
structure Ready (dir : Location) (as : List Artifact) (t : FileTree) : Prop where
  distinct : (as.map Artifact.baseName).Nodup
  each : ∀ a ∈ as, ArtifactReady dir a t

/-! ## One artifact after another -/

theorem place_inj (h : place dir a = place dir b) : a.baseName = b.baseName := by
  have hname := List.append_cancel_left h
  simp only [archiveName, List.cons.injEq, and_true, ← String.toList_inj,
    String.toList_append] at hname
  exact String.toList_inj.mp (List.append_cancel_right hname)

theorem isLink_of_sameFrame {t t' : FileTree} {p : Path} (hframe : SameFrame t t')
    (h : t'.isLink p = .ok true) : t.isLink p = .ok true := by
  unfold FileTree.isLink FileTree.ask at h
  split at h
  · next loc node hstatus =>
    obtain ⟨hlocate, hnode⟩ := FileTree.status_eq_ok_iff.mp hstatus
    cases node with
    | directory | file => cases h
    | link target =>
      have hbefore := FileTree.status_eq_ok_iff.mpr
        ⟨hframe.symm.locate hlocate, hframe.symm.link hnode⟩
      rw [FileTree.isLink, FileTree.ask, hbefore]
  · split at h <;> cases h

/-- The artifacts that remain are still ready after one has been handled. -/
theorem Ready.tail (h : Ready dir (a :: rest) w.tree) (hhandled : Handled r e dir a w w₁) :
    Ready dir rest w₁.tree := by
  obtain ⟨hnew, hdistinct⟩ := List.nodup_cons.mp h.distinct
  refine ⟨hdistinct, fun b hb => ?_⟩
  have hready := h.each b (List.mem_cons_of_mem a hb)
  have hne : place dir b ≠ place dir a :=
    fun heq => hnew (place_inj heq ▸ List.mem_map_of_mem hb)
  refine ⟨hready.name, ?_, fun loc hloc => ?_, fun hlink => ?_⟩
  · exact (hhandled.elsewhere _ (List.prefix_append dir _) hne).trans hready.free
  · exact hready.outside loc (hhandled.later.frame.symm.locate hloc)
  · exact hready.noLink (isLink_of_sameFrame hhandled.later.frame hlink)

theorem run_packageAll_cons :
    (r.packageAll e (a :: rest)).run.run w =
      match (r.packageArtifact e a).run.run w with
      | (.ok path, w₁) =>
        match (r.packageAll e rest).run.run w₁ with
        | (.ok paths, w₂) => (.ok (path :: paths), w₂)
        | (.error fault, w₂) => (.error fault, w₂)
      | (.error fault, w₁) => (.error fault, w₁) := by
  rw [packageAll]
  simp only [Action.run_bind]
  cases (r.packageArtifact e a).run.run w with
  | mk result w₁ =>
    cases result with
    | error fault => rfl
    | ok path =>
      simp only
      cases (r.packageAll e rest).run.run w₁ with
      | mk result w₂ => cases result <;> rfl

theorem HandedOver.cons {path : Path} {content : ByteArray}
    (hfirst : (r.packageArtifact e a).run.run w = (.ok path, w₁))
    (h : HandedOver r e rest w₁ i content) : HandedOver r e (a :: rest) w (i + 1) content := by
  obtain ⟨b, archives, w₂, w₃, hb, htake, hhook, hread⟩ := h
  refine ⟨b, path :: archives, w₂, w₃, hb, ?_, hhook, hread⟩
  rw [List.take_succ_cons, run_packageAll_cons, hfirst]
  simp only [htake]

theorem StopsAt.cons {path : Path} {f : Failure}
    (hfirst : (r.packageArtifact e a).run.run w = (.ok path, w₁))
    (h : StopsAt r e rest w₁ k f w') : StopsAt r e (a :: rest) w (k + 1) f w' := by
  obtain ⟨b, archives, w₂, hb, htake, hstop⟩ := h
  refine ⟨b, path :: archives, w₂, hb, ?_, hstop⟩
  rw [List.take_succ_cons, run_packageAll_cons, hfirst]
  simp only [htake]

/-- Packaging a list packages its first artifact and then the others. -/
theorem Packaged.cons {path : Path} {t : FileTree} (hready : Ready dir (a :: rest) w.tree)
    (hfirst : (r.packageArtifact e a).run.run w = (.ok path, w₁))
    (hhandled : Handled r e dir a w w₁) (harchived : Archived r dir a w w₁)
    (h : Packaged r e dir rest w₁ k t) : Packaged r e dir (a :: rest) w (k + 1) t := by
  have hnew := (List.nodup_cons.mp hready.distinct).1
  have hkept : t.node? (place dir a) = w₁.tree.node? (place dir a) := by
    refine h.elsewhere _ (List.prefix_append dir _) fun i b _ hb heq => hnew ?_
    exact place_inj heq ▸ List.mem_map_of_mem (List.mem_of_getElem? hb)
  refine ⟨fun i b hi hb => ?_, fun loc hloc hother => ?_⟩
  · cases i with
    | zero =>
      obtain rfl : a = b := Option.some.inj hb
      obtain ⟨w₀, content, hhook, hread, number, archive, hfile, hcontent⟩ := harchived.archive
      exact ⟨content, ⟨a, [], w, w₀, rfl, rfl, hhook, hread⟩, number, archive, hkept.trans hfile,
        hcontent⟩
    | succ i =>
      obtain ⟨content, hhanded, hholds⟩ := h.archives i b (Nat.lt_of_succ_lt_succ hi) hb
      exact ⟨content, hhanded.cons hfirst, hholds⟩
  · have hne : loc ≠ place dir a := hother 0 a (Nat.succ_pos k) rfl
    exact (h.elsewhere loc hloc fun i b hi hb => hother (i + 1) b (Nat.succ_lt_succ hi) hb).trans
      (hhandled.elsewhere loc hloc hne)

theorem Packaged.zero {t : FileTree}
    (h : ∀ loc, dir <+: loc → t.node? loc = w.tree.node? loc) : Packaged r e dir as w 0 t :=
  ⟨fun _ _ hi => absurd hi (Nat.not_lt_zero _), fun loc hloc _ => h loc hloc⟩

/-! ## All artifacts -/

def PrefixOutcome (r : Release) (e : Equipment) (dir : Location) (as : List Artifact) (w : World) :
    Except Fault (List Path) × World → Prop
  | (.ok archives, w') =>
    archives = as.map (fun a => archivePath a.baseName r.config.outputDir) ∧
      Packaged r e dir as w as.length w'.tree ∧
      w'.hookCalls = w.hookCalls ++ as.map r.hookCall
  | (.error (.failure f), w') =>
    ∃ k, k < as.length ∧ StopsAt r e as w k f w' ∧ Packaged r e dir as w k w'.tree ∧
      (w'.hookCalls = w.hookCalls ++ (as.take k).map r.hookCall ∨
        w'.hookCalls = w.hookCalls ++ (as.take (k + 1)).map r.hookCall)
  | (.error _, _) => True

theorem packageAll_prefix (hout : OutputReady r e dir w) (hready : Ready dir as w.tree)
    (hhook : r.hook.TouchesOnlyArtifact) (hdevice : e.device.IsHonest) :
    PrefixOutcome r e dir as w ((r.packageAll e as).run.run w) := by
  induction as generalizing w with
  | nil =>
    refine ⟨rfl, .zero fun _ _ => rfl, ?_⟩
    simp
  | cons a rest ih =>
    rw [run_packageAll_cons]
    cases hfirst : (r.packageArtifact e a).run.run w with
    | mk result w₁ =>
      obtain ⟨hhandled, hok, hfailure⟩ := packageArtifact_effect hout
        (hready.each a List.mem_cons_self) hhook hdevice hfirst
      cases result with
      | error fault =>
        cases fault with
        | failure f =>
          refine ⟨0, Nat.succ_pos _, ⟨a, [], w, rfl, rfl, hfirst⟩, .zero fun loc hloc => ?_, ?_⟩
          · by_cases hne : loc = place dir a
            · rw [hne, hfailure f rfl, (hready.each a List.mem_cons_self).free]
            · exact hhandled.elsewhere loc hloc hne
          · simpa using hhandled.calls
        | _ => trivial
      | ok path =>
        obtain ⟨rfl, harchived⟩ := hok path rfl
        have hrest := ih (hout.later hhandled.logs hhandled.later) (hready.tail hhandled)
        simp only
        generalize (r.packageAll e rest).run.run w₁ = remaining at hrest
        obtain ⟨result, w'⟩ := remaining
        cases result with
        | ok archives =>
          obtain ⟨rfl, hpackaged, hcalls⟩ := hrest
          refine ⟨rfl, hpackaged.cons hready hfirst hhandled harchived, ?_⟩
          rw [hcalls, harchived.called, List.map_cons, List.append_assoc, List.singleton_append]
        | error fault =>
          cases fault with
          | failure f =>
            obtain ⟨k, hk, hstops, hpackaged, hcalls⟩ := hrest
            refine ⟨k + 1, Nat.succ_lt_succ hk, hstops.cons hfirst,
              hpackaged.cons hready hfirst hhandled harchived, ?_⟩
            simp only [harchived.called, List.append_assoc, List.singleton_append] at hcalls
            simpa only [List.take_succ_cons, List.map_cons] using hcalls
          | _ => trivial

/-! ## From an empty output directory -/

/-- An empty directory stands at a location. -/
structure IsEmptyDirectory (t : FileTree) (dir : Location) : Prop where
  directory : t.node? dir = some .directory
  empty : ∀ loc, dir <+: loc → loc ≠ dir → t.node? loc = none

/-- The directory at a location holds exactly the archives of the first artifacts of a list. -/
structure HoldsExactly (r : Release) (e : Equipment) (dir : Location) (as : List Artifact) (w : World)
    (k : Nat) (t : FileTree) : Prop where
  directory : t.node? dir = some .directory
  archives : ∀ i a, i < k → as[i]? = some a →
    ∃ content, HandedOver r e as w i content ∧ Archive.Holds t (place dir a) content
  nothingElse : ∀ loc, dir <+: loc → loc ≠ dir → t.node? loc ≠ none →
    ∃ i a, i < k ∧ as[i]? = some a ∧ loc = place dir a

theorem Packaged.holdsExactly {t : FileTree} (h : Packaged r e dir as w k t)
    (hempty : IsEmptyDirectory w.tree dir) : HoldsExactly r e dir as w k t := by
  refine ⟨?_, h.archives, fun loc hloc hne hstands => ?_⟩
  · refine (h.elsewhere dir (List.prefix_refl dir) fun i a _ _ heq => ?_).trans hempty.directory
    have hlength := congrArg List.length heq
    simp [place] at hlength
  · refine Classical.byContradiction fun hnone => ?_
    refine hstands ((h.elsewhere loc hloc fun i a hi ha heq => hnone ⟨i, a, hi, ha, heq⟩).trans ?_)
    exact hempty.empty loc hloc hne

/-- What has come of packaging artifacts into an empty output directory and reporting on it. If there
is a report, all of them have been packaged. If there is a failure of this program, it came while one
of them was packaged, and the ones before it have been packaged. The hook has been called for the
packaged ones in order, and for the failing one at most once. -/
def ReportOutcome (r : Release) (e : Equipment) (dir : Location) (as : List Artifact) (w : World) :
    Except Fault Report × World → Prop
  | (.ok report, w') =>
    report.artifacts = as ∧
      report.archives = as.map (fun a => archivePath a.baseName r.config.outputDir) ∧
      HoldsExactly r e dir as w as.length w'.tree ∧
      w'.hookCalls = w.hookCalls ++ as.map r.hookCall
  | (.error (.failure f), w') =>
    ∃ k, k < as.length ∧ StopsAt r e as w k f w' ∧ HoldsExactly r e dir as w k w'.tree ∧
      (w'.hookCalls = w.hookCalls ++ (as.take k).map r.hookCall ∨
        w'.hookCalls = w.hookCalls ++ (as.take (k + 1)).map r.hookCall)
  | (.error _, _) => True

/-- Whenever packaging stops, the output directory holds exactly the archives of the artifacts that
were packaged before. -/
theorem packageAndReport_prefix (hlocated : w.tree.locate true r.config.outputDir.toString = .ok dir)
    (hempty : IsEmptyDirectory w.tree dir) (hdistinct : (as.map Artifact.baseName).Nodup)
    (hnames : ∀ a ∈ as, '/' ∉ a.baseName.toList)
    (houtside : ∀ a ∈ as, ∀ loc, w.tree.locate true a.path.toString = .ok loc → ¬ dir <+: loc)
    (hlinks : ∀ a ∈ as, w.tree.isLink a.path ≠ .ok true)
    (hhook : r.hook.TouchesOnlyArtifact) (hdevice : e.device.IsHonest)
    (hlogs : w.LogsOutside e.target dir) :
    ReportOutcome r e dir as w ((r.packageAndReport e as).run.run w) := by
  have hnumbered : FileTree.IsNumbered dir w.tree := by
    intro l number content hl hfile
    by_cases hne : l = dir
    · rw [hne, hempty.directory] at hfile
      cases hfile
    · rw [hempty.empty l hl hne] at hfile
      cases hfile
  have hready : Ready dir as w.tree := by
    refine ⟨hdistinct, fun a ha => ⟨hnames a ha, ?_, houtside a ha, hlinks a ha⟩⟩
    exact hempty.empty _ (List.prefix_append dir _) (by simp [place])
  have hprefix := packageAll_prefix ⟨hlocated, hempty.directory, hnumbered, hlogs⟩ hready hhook hdevice
  rw [packageAndReport, Action.run_bind]
  generalize (r.packageAll e as).run.run w = packaged at hprefix
  obtain ⟨result, w'⟩ := packaged
  cases result with
  | ok archives =>
    obtain ⟨rfl, hpackaged, hcalls⟩ := hprefix
    exact ⟨rfl, rfl, hpackaged.holdsExactly hempty, hcalls⟩
  | error fault =>
    cases fault with
    | failure f =>
      obtain ⟨k, hk, hstops, hpackaged, hcalls⟩ := hprefix
      exact ⟨k, hk, hstops, hpackaged.holdsExactly hempty, hcalls⟩
    | _ => trivial

/-! ### Two artifacts and a hook that fails at its second call -/

/-- A hook that changes nothing and fails at its second call. -/
def onceOnlyHook : Hook := ⟨"once", fun calls _ => if calls = [] then pure () else throw (.other "")⟩

theorem onceOnlyHook_touchesOnlyArtifact : onceOnlyHook.TouchesOnlyArtifact := by
  intro calls call t loc number content hfile
  have hsame : ((onceOnlyHook.apply calls call).run.run t).2 = t := by
    cases calls <;> rfl
  rw [hsame]
  refine .refl ?_
  simp [FileTree.fixed?, (FileTree.status_eq_ok_iff.mp hfile).2, Node.isFile]

def twoFiles : FileTree where
  nodes := [(["bin"], .directory), (["a"], .file 0 ⟨#[1]⟩), (["b"], .file 1 ⟨#[2]⟩)]
  workDir := []
  nextNumber := 2

/-- The files of the tree as artifacts. -/
def twoArtifacts : List Artifact := [⟨["a"], "first"⟩, ⟨["b"], "second"⟩]

/-- The standard release with a hook that fails at its second call. -/
def onceOnlyRelease : Release := ⟨.standard, "linux", "1.0", onceOnlyHook⟩

theorem packageAndReport_prefix_onceOnly :
    ReportOutcome onceOnlyRelease soundEquipment ["bin"] twoArtifacts
      ⟨twoFiles, .initial default, [], []⟩
      ((onceOnlyRelease.packageAndReport soundEquipment twoArtifacts).run.run
        ⟨twoFiles, .initial default, [], []⟩) := by
  have hempty : IsEmptyDirectory twoFiles ["bin"] := by
    refine ⟨rfl, fun loc hloc hne => ?_⟩
    obtain ⟨rest, rfl⟩ := hloc
    have hrest : rest ≠ [] := by simpa using hne
    simp [twoFiles, FileTree.node?, FileTree.lookup_cons_eq, hrest]
  have hbin : twoFiles.locate true onceOnlyRelease.config.outputDir.toString = .ok ["bin"] :=
    FileTree.locate_entry rfl ⟨by decide, by decide, by decide⟩ (by decide) (by decide)
      fun _ heq => by cases heq
  have hfirst (follow : Bool) :
      twoFiles.locate follow (Artifact.mk ["a"] "first").path.toString = .ok ["a"] :=
    FileTree.locate_entry rfl ⟨by decide, by decide, by decide⟩ (by decide) (by decide)
      fun _ heq => by cases heq
  have hsecond (follow : Bool) :
      twoFiles.locate follow (Artifact.mk ["b"] "second").path.toString = .ok ["b"] :=
    FileTree.locate_entry rfl ⟨by decide, by decide, by decide⟩ (by decide) (by decide)
      fun _ heq => by cases heq
  refine packageAndReport_prefix hbin hempty (by decide) (by decide) ?_ ?_
    onceOnlyHook_touchesOnlyArtifact (fun _ _ => rfl) trivial
  · intro a ha loc hloc
    simp only [twoArtifacts, List.mem_cons, List.not_mem_nil, or_false] at ha
    rcases ha with rfl | rfl
    · obtain rfl := Except.ok.inj ((hfirst true).symm.trans hloc)
      decide
    · obtain rfl := Except.ok.inj ((hsecond true).symm.trans hloc)
      decide
  · intro a ha hlink
    have hnot : twoFiles.isLink a.path = .ok false := by
      simp only [twoArtifacts, List.mem_cons, List.not_mem_nil, or_false] at ha
      rcases ha with rfl | rfl
      · rw [FileTree.isLink, FileTree.ask, FileTree.status_eq_ok_iff.mpr ⟨hfirst false, rfl⟩]
      · rw [FileTree.isLink, FileTree.ask, FileTree.status_eq_ok_iff.mpr ⟨hsecond false, rfl⟩]
    cases hnot.symm.trans hlink

end ReleasePackaging.Release
