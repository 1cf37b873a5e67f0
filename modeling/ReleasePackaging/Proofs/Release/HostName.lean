import ReleasePackaging.Proofs.OutputDirectory.Renewal
import ReleasePackaging.Proofs.Release.ArchivePlace
import ReleasePackaging.Proofs.Release.Outcome

/-!
# The name of the host in a release

The hook and the report are told the host as it has been configured or detected, and archives are named
for its platform. As a platform is found in any letter case, the two agree exactly if the host is spelled
in lower case, or if there are no archives.
-/
namespace ReleasePackaging.Release

variable {settings : Entries} {t : FileTree} {reported : String} {given : Option Hook} {r : Release}
  {e : Equipment} {target : EventTarget} {es : List Event} {a : Artifact} {w w' : World}

/-! ## Calls of the hook -/

/-- A step calls the hook for an artifact, or it does not call it. -/
theorem Step.hookCalls (h : Step r e w w') :
    w'.hookCalls = w.hookCalls ∨ ∃ a ∈ r.artifacts, w'.hookCalls = w.hookCalls ++ [r.hookCall a] := by
  cases h with
  | launched h =>
    cases h
    exact .inl rfl
  | reset | archived => exact .inl rfl
  | called hmem => exact .inr ⟨_, hmem, rfl⟩

/-- Along a trail the hook is called for artifacts of the release alone. -/
theorem hookCalls_of_trail (h : Trail (Step r e) target w es w') :
    ∃ called, called ⊆ r.artifacts ∧ w'.hookCalls = w.hookCalls ++ called.map r.hookCall := by
  induction h with
  | done => exact ⟨[], List.nil_subset _, by simp⟩
  | told event _ ih =>
    obtain ⟨called, hsub, hcalls⟩ := ih
    exact ⟨called, hsub, by rw [hcalls, World.hookCalls_told]⟩
  | stepped hstep _ ih =>
    obtain ⟨called, hsub, hcalls⟩ := ih
    rcases hstep.hookCalls with hsame | ⟨a, hmem, hone⟩
    · exact ⟨called, hsub, by rw [hcalls, hsame]⟩
    · refine ⟨a :: called, List.cons_subset.mpr ⟨hmem, hsub⟩, ?_⟩
      rw [hcalls, hone, List.append_assoc, List.map_cons, List.singleton_append]

/-! ## Names of archives -/

/-- The host that is read from the base name of an artifact is that of the release in lower case. -/
theorem PreparedFrom.parse_baseName (h : PreparedFrom settings t reported given r)
    (ha : a ∈ r.artifacts) :
    ∃ name, ArchiveName.parse a.baseName = .ok name ∧ name.host = Text.lower r.host := by
  obtain ⟨i, hi⟩ := List.mem_iff_getElem?.mp ha
  obtain ⟨p, template, hplatform, _, hsegmented, hname⟩ := h.baseName_eq hi
  rw [h.settled.2, hname]
  exact ⟨_, (ArchiveName.parse_render _).mpr hsegmented, Platform.name_eq_of_ofName? hplatform⟩

/-- Whether the host that is read from the base name of an artifact is the given one. -/
def IsNamedFor (host : String) (a : Artifact) : Prop :=
  ∃ name, ArchiveName.parse a.baseName = .ok name ∧ name.host = host

theorem PreparedFrom.isNamedFor_iff (h : PreparedFrom settings t reported given r)
    (ha : a ∈ r.artifacts) {host : String} : IsNamedFor host a ↔ Text.lower r.host = host := by
  obtain ⟨name, hparse, hhost⟩ := h.parse_baseName ha
  rw [← hhost]
  refine ⟨fun ⟨other, hother, hsame⟩ => ?_, fun hsame => ⟨name, hparse, hsame⟩⟩
  rw [hparse] at hother
  cases hother
  exact hsame

/-- However a build ends, its hook has been called with the host of the release. If it ends with a
report, that tells the host of the release, too, and the host in the base name of every artifact of the
report is that host in lower case. So all are the same host exactly if there are no artifacts or the host
of the release is in lower case. -/
theorem hosts_of_build (h : PreparedFrom settings t reported given r) (e : Equipment) (w : World) :
    (∃ calls, ((r.build e).run.run w).2.hookCalls = w.hookCalls ++ calls ∧
      ∀ call ∈ calls, call.host = r.config.resolvedHost reported) ∧
    ∀ report, ((r.build e).run.run w).1 = .ok report →
      report.host = r.config.resolvedHost reported ∧
      (∀ a ∈ report.artifacts, IsNamedFor (Text.lower report.host) a) ∧
      ((∀ a ∈ report.artifacts, IsNamedFor report.host a) ↔
        report.artifacts = [] ∨ Text.lower report.host = report.host) := by
  rw [← h.settled.2]
  refine ⟨?_, fun report hreport => ?_⟩
  · obtain ⟨es, htrail⟩ := exists_trail_build (e := e) h.isSound w
    obtain ⟨called, _, hcalls⟩ := hookCalls_of_trail htrail
    refine ⟨_, hcalls, fun call hcall => ?_⟩
    obtain ⟨a, _, rfl⟩ := List.mem_map.mp hcall
    rfl
  · obtain rfl := report_of_build (Prod.ext hreport rfl)
    refine ⟨rfl, fun a ha => (h.isNamedFor_iff ha).mpr rfl, fun hall => ?_, fun hcase a ha => ?_⟩
    · cases hartifacts : r.artifacts with
      | nil => exact .inl rfl
      | cons a rest =>
        have ha : a ∈ r.artifacts := hartifacts ▸ List.mem_cons_self
        exact .inr ((h.isNamedFor_iff ha).mp (hall a ha))
    · rcases hcase with hnone | hlower
      · exact absurd hnone (List.ne_nil_of_mem ha)
      · exact (h.isNamedFor_iff ha).mpr hlower

/-! ### A host that is spelled with a capital letter -/

def capitalSettings : Entries :=
  [(.str "version", .str "1.0"), (.str "build_root", .str "."), (.str "host_os", .str "Linux")]

def capitalRelease : Release :=
  ⟨{ Config.standard with version := some "1.0", buildRoot := .ofString ".", host := some "Linux" },
    "Linux", "1.0", .idle⟩

def capitalArtifact : Artifact :=
  ⟨[".", "target", "release", "libton_client.so"], "tonclient_1.0_linux"⟩

def capitalArchive : Path := archivePath "tonclient_1.0_linux" (.ofString "bin")

/-- A tree with the artifact and an output directory. -/
def builtTree : FileTree where
  nodes := [(["bin"], .directory), (["target"], .directory), (["target", "release"], .directory),
    (["target", "release", "libton_client.so"], .file 0 .empty)]
  workDir := []
  nextNumber := 1

/-- Equipment with a launcher under which every command is silent and ends well. -/
def silentEquipment : Equipment :=
  ⟨fun _ _ => pure ⟨0, .empty⟩, TreeAction.freeRemover, Archive.soundDevice, .recorder⟩

theorem preparedFrom_capital :
    PreparedFrom capitalSettings builtTree "darwin" none capitalRelease :=
  ⟨rfl, fun _ _ => pure none, _, rfl⟩

theorem hosts_of_build_capital :
    PreparedFrom capitalSettings builtTree "darwin" none capitalRelease ∧
      ∃ calls, ((capitalRelease.build silentEquipment).run.run
          ⟨builtTree, .initial default, [], []⟩).2.hookCalls = calls ∧
        ∀ call ∈ calls, call.host = "Linux" :=
  ⟨preparedFrom_capital, (hosts_of_build preparedFrom_capital silentEquipment _).1⟩

theorem isEntry_builtTree : FileTree.IsEntry "bin" ∧ FileTree.IsEntry "target" ∧
    FileTree.IsEntry "release" ∧ FileTree.IsEntry "libton_client.so" ∧
    FileTree.IsEntry "tonclient_1.0_linux.gz" := by
  refine ⟨?_, ?_, ?_, ?_, ?_⟩ <;> exact ⟨by decide, by decide, by decide⟩

theorem status_builtTree : builtTree.status true capitalArtifact.path.toString =
    .ok (["target", "release", "libton_client.so"], .file 0 .empty) := by
  have htext : capitalArtifact.path.toString = "target/release/libton_client.so" := by decide
  have hsteps : FileTree.stepsOf "target/release/libton_client.so" =
      ["target", "release", "libton_client.so"] := by decide
  obtain ⟨-, htarget, hrelease, hlibrary, -⟩ := isEntry_builtTree
  refine FileTree.status_eq_ok_iff.mpr ⟨?_, rfl⟩
  rw [htext, FileTree.locate_eq_walk rfl hsteps (by decide) (by decide),
    FileTree.walk_enter rfl htarget fun _ heq => (by cases heq),
    FileTree.walk_enter rfl hrelease fun _ heq => (by cases heq),
    FileTree.walk_enter rfl hlibrary fun _ heq => (by cases heq), FileTree.walk_nil]
  rfl

theorem openFor_builtTree : ∃ opened, builtTree.openFor false capitalArchive.toString =
    .ok (["bin", "tonclient_1.0_linux.gz"], 1, opened) := by
  have htext : capitalArchive.toString = "bin/tonclient_1.0_linux.gz" := by decide
  have hsteps : FileTree.stepsOf "bin/tonclient_1.0_linux.gz" =
      ["bin", "tonclient_1.0_linux.gz"] := by decide
  have hlocate : builtTree.locate true "bin/tonclient_1.0_linux.gz" =
      .ok ["bin", "tonclient_1.0_linux.gz"] := by
    obtain ⟨hbin, -, -, -, harchive⟩ := isEntry_builtTree
    rw [FileTree.locate_eq_walk rfl hsteps (by decide) (by decide),
      FileTree.walk_enter rfl hbin fun _ heq => (by cases heq),
      FileTree.walk_enter rfl harchive fun _ heq => (by cases heq), FileTree.walk_nil]
    rfl
  rw [htext, FileTree.openFor, hlocate]
  exact ⟨_, rfl⟩

/-- The output directory is empty, so resetting it leaves the tree as it is. -/
theorem reset_builtTree :
    (OutputDirectory.reset TreeAction.freeRemover (.ofString "bin")).run.run builtTree =
      (.ok (.ofString "bin"), builtTree) := by
  have hbin := isEntry_builtTree.1
  have hlocate (follow : Bool) :
      builtTree.locate follow (Path.ofString "bin").toString = .ok ["bin"] :=
    FileTree.locate_entry rfl hbin (by decide) (by decide) fun _ heq => by cases heq
  have hempty : ∀ l, ["bin"] <+: l → l ≠ ["bin"] → builtTree.node? l = none := by
    rintro _ ⟨rest, rfl⟩ hne
    have hrest : rest ≠ [] := by simpa using hne
    simp [builtTree, FileTree.node?, FileTree.lookup_cons_eq, hrest]
  have hfree : TreeAction.freeRemover ["bin"] = none := rfl
  have hclear := OutputDirectory.clear_of_empty hfree
    (fun follow => FileTree.status_eq_ok_iff.mpr ⟨hlocate follow, rfl⟩) hempty (by decide) hbin
  have hagain : (((builtTree.eraseBelow ["bin"]).erase ["bin"]).makeDirectory
      (Path.ofString "bin").toString) = .ok builtTree := by
    refine FileTree.makeDirectory_eq_ok_iff.mpr ⟨["bin"], ?_, rfl, rfl⟩
    exact FileTree.locate_entry rfl hbin (by decide) (by decide) fun _ heq => by cases heq
  rw [OutputDirectory.run_reset, OutputDirectory.run_renew, hclear]
  simp only [OutputDirectory.makeDirectories_of_ok _ hagain]

theorem run_capitalToolchain (es : List Event) : ∃ es',
    (capitalRelease.runToolchain silentEquipment).run.run
        ⟨builtTree, .initial default, es, []⟩ =
      (.ok (), ⟨builtTree, .initial default, es', []⟩) := by
  exact ⟨_, by with_unfolding_all rfl⟩

/-- The release up to the packaging of its artifact leaves the tree as it is. -/
theorem run_capitalStart : ∃ es,
    (do announce silentEquipment .info "Starting release build"
          [("library", .str libraryName), ("version", .str "1.0"), ("host_os", .str "Linux")]
        capitalRelease.runToolchain silentEquipment
        let _ ← capitalRelease.resetOutput silentEquipment
        capitalRelease.resolveArtifacts silentEquipment).run.run
      ⟨builtTree, .initial default, [], []⟩ =
        (.ok [capitalArtifact], ⟨builtTree, .initial default, es, []⟩) := by
  have htold (es : List Event) (event : Event) :
      World.told ⟨builtTree, .initial default, es, []⟩ silentEquipment.target event =
        ⟨builtTree, .initial default, es ++ [event], []⟩ := rfl
  have hreset (es : List Event) : ∃ es', (capitalRelease.resetOutput silentEquipment).run.run
      ⟨builtTree, .initial default, es, []⟩ =
        (.ok (.ofString "bin"), ⟨builtTree, .initial default, es', []⟩) := by
    rw [resetOutput, Action.run_bind_ok (run_announce (by simp [eventFields]) .info _),
      Action.run_onTree]
    exact ⟨_, congrArg (fun outcome => (outcome.1, World.mk outcome.2 _ _ _)) reset_builtTree⟩
  rw [Action.run_bind_ok (run_announce (by simp [eventFields]) .info _), htold]
  obtain ⟨built, hbuilt⟩ := run_capitalToolchain ([] ++ [_])
  obtain ⟨cleared, hcleared⟩ := hreset built
  obtain ⟨event, -, hresolved⟩ := run_resolveArtifacts capitalRelease silentEquipment
    ⟨builtTree, .initial default, cleared, []⟩
  rw [Action.run_bind_ok hbuilt, Action.run_bind_ok hcleared, hresolved, htold]
  exact ⟨_, rfl⟩

theorem packageArtifact_capital (es : List Event) : ∃ w',
    (capitalRelease.packageArtifact silentEquipment capitalArtifact).run.run
        ⟨builtTree, .initial default, es, []⟩ = (.ok capitalArchive, w') ∧
      w'.hookCalls = [capitalRelease.hookCall capitalArtifact] := by
  have happlied : (capitalRelease.applyHook capitalArtifact).run.run
      ⟨builtTree, .initial default, es, []⟩ =
        (.ok (), ⟨builtTree, .initial default, es, [capitalRelease.hookCall capitalArtifact]⟩) := by
    rw [run_applyHook, FileTree.isFile, FileTree.ask, status_builtTree]
    rfl
  obtain ⟨opened, hopen⟩ := openFor_builtTree
  obtain ⟨t', hwritten⟩ := Archive.exists_run_write status_builtTree hopen
  have harchived : (Action.onTree (Archive.write silentEquipment.device capitalArtifact.path
      capitalArtifact.baseName capitalRelease.config.outputDir)).run.run
        ⟨builtTree, .initial default, es, [capitalRelease.hookCall capitalArtifact]⟩ =
          (.ok capitalArchive, ⟨t', .initial default, es,
            [capitalRelease.hookCall capitalArtifact]⟩) := by
    exact congrArg (fun outcome => (outcome.1, World.mk outcome.2 _ _ _)) hwritten
  rw [packageArtifact, Action.run_bind_ok happlied, Action.run_bind_ok harchived,
    Action.run_bind_ok (run_announce (by simp [eventFields]) .info _)]
  exact ⟨_, rfl, World.hookCalls_told _ _ _⟩

/-- The hook and the report of that release are told the host as it is spelled, while its archive is
named for the host in lower case. -/
theorem build_capital :
    PreparedFrom capitalSettings builtTree "darwin" none capitalRelease ∧
      ∃ report w', (capitalRelease.build silentEquipment).run.run
          ⟨builtTree, .initial default, [], []⟩ = (.ok report, w') ∧
        w'.hookCalls.map HookCall.host = ["Linux"] ∧ report.host = "Linux" ∧
        report.artifacts.map (fun a => ArchiveName.parse a.baseName) =
          [.ok ⟨"tonclient", "1.0", "linux", ""⟩] := by
  obtain ⟨es, hstart⟩ := run_capitalStart
  obtain ⟨w', hpackaged, hcalls⟩ := packageArtifact_capital es
  have hall : (capitalRelease.packageAll silentEquipment [capitalArtifact]).run.run
      ⟨builtTree, .initial default, es, []⟩ = (.ok [capitalArchive], w') := by
    rw [packageAll, Action.run_bind_ok hpackaged]
    rfl
  have hsteps : (capitalRelease.takeSteps silentEquipment).run.run
      ⟨builtTree, .initial default, [], []⟩ =
        (.ok ⟨"Linux", "1.0", [capitalArtifact], [capitalArchive]⟩, w') := by
    have hfrom := Action.run_bind_ok (f := capitalRelease.packageAndReport silentEquipment) hstart
    rw [packageAndReport, Action.run_bind_ok hall] at hfrom
    simp only [bind_assoc] at hfrom
    exact hfrom
  refine ⟨preparedFrom_capital, _, _, by rw [build, run_conclude, hsteps], ?_, rfl, by decide⟩
  rw [World.hookCalls_told, hcalls]
  rfl

end ReleasePackaging.Release
