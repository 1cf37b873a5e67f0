import ReleasePackaging.Proofs.Release.Naming
import ReleasePackaging.Proofs.Release.PrefixLaw

/-!
# Where archives are put

An archive stands right in the output directory, under its base name, exactly if its base name holds no
slash. Only the product and the version of a release can bring one there, and no check keeps them from
it; so the archives of a release stay in its output directory exactly if neither of them holds a slash.
-/
namespace ReleasePackaging

variable {baseName : String} {outputDir : Path}

/-- A path leads to a name right in a directory. -/
structure Path.IsEntryOf (p dir : Path) (name : String) : Prop where
  parent : p.parent = dir
  name : p.name = name

theorem Path.slash_not_mem_name (p : Path) : '/' ∉ p.name.toList := by
  unfold Path.name
  rw [List.getLastD_eq_getLast?]
  cases hlast : p.components.getLast? with
  | none => simp
  | some name => exact (p.areNames name (List.mem_of_getLast? hlast)).2

/-- The path of an archive leads to its name right in the directory exactly if its base name holds no
slash. -/
theorem isEntryOf_archivePath_iff :
    (archivePath baseName outputDir).IsEntryOf outputDir (archiveName baseName) ↔
      '/' ∉ baseName.toList := by
  constructor
  · intro h hslash
    refine (archivePath baseName outputDir).slash_not_mem_name ?_
    rw [h.name, archiveName, String.toList_append]
    exact List.mem_append_left _ hslash
  · intro hslash
    obtain ⟨hroot, hcomponents⟩ := outputDir.div_of_isName (isName_archiveName hslash)
    change (outputDir / archiveName baseName).IsEntryOf outputDir (archiveName baseName)
    refine ⟨?_, ?_⟩
    · rw [Path.parent, Path.mk.injEq, hroot, hcomponents, List.dropLast_concat]
      exact ⟨rfl, rfl⟩
    · rw [Path.name, hcomponents, List.getLastD_concat]

namespace Release

variable {settings : Entries} {t : FileTree} {reported : String} {given : Option Hook} {r : Release}
  {e : Equipment} {a : Artifact} {as : List Artifact} {w w' : World}

theorem slash_not_mem_tag {p : Platform} {template : Template} (h : template ∈ p.templates) :
    '/' ∉ template.tag.toList := by
  have htags : ∀ template ∈ p.templates, '/' ∉ template.tag.toList := by
    cases p <;> decide
  exact htags template h

/-- Only the product and the version bring a slash into a base name. -/
theorem PreparedFrom.slash_not_mem_baseName_iff (h : PreparedFrom settings t reported given r)
    (ha : a ∈ r.artifacts) :
    '/' ∉ a.baseName.toList ↔ '/' ∉ r.config.product.toList ∧ '/' ∉ r.version.toList := by
  obtain ⟨i, hi⟩ := List.mem_iff_getElem?.mp ha
  obtain ⟨p, template, _, htemplate, _, hname⟩ := h.baseName_eq hi
  have htag := slash_not_mem_tag (List.mem_of_getElem? htemplate)
  have hdelimiter : ArchiveName.delimiter ≠ '/' := by decide
  rw [hname, ArchiveName.toList_render, ArchiveName.stem]
  split <;> simp [p.slash_not_mem_name, htag, hdelimiter.symm]

/-! ## What a build reports -/

theorem path_of_packageArtifact {path : Path}
    (h : (r.packageArtifact e a).run.run w = (.ok path, w')) :
    path = archivePath a.baseName r.config.outputDir := by
  obtain ⟨_, w₁, _, h⟩ := Action.run_bind_eq_ok_iff.mp h
  obtain ⟨target, w₂, hwrite, h⟩ := Action.run_bind_eq_ok_iff.mp h
  obtain ⟨_, w₃, _, h⟩ := Action.run_bind_eq_ok_iff.mp h
  rw [Action.run_onTree] at hwrite
  cases h
  exact (Archive.run_write_eq_ok_iff.mp (Prod.ext (Prod.mk.inj hwrite).1 rfl)).1

theorem paths_of_packageAll {paths : List Path}
    (h : (r.packageAll e as).run.run w = (.ok paths, w')) :
    paths = as.map fun a => archivePath a.baseName r.config.outputDir := by
  induction as generalizing w paths with
  | nil =>
    cases h
    rfl
  | cons a rest ih =>
    obtain ⟨path, w₁, hpath, h⟩ := Action.run_bind_eq_ok_iff.mp h
    obtain ⟨others, w₂, hothers, h⟩ := Action.run_bind_eq_ok_iff.mp h
    cases h
    rw [path_of_packageArtifact hpath, ih hothers, List.map_cons]

theorem steps_of_conclude {steps : Action Fault Report} {report : Report}
    (h : (conclude e steps).run.run w = (.ok report, w')) :
    ∃ w₁, steps.run.run w = (.ok report, w₁) := by
  obtain ⟨built, w₁, hsteps, h⟩ := Action.run_bind_eq_ok_iff.mp h
  obtain ⟨_, w₂, _, h⟩ := Action.run_bind_eq_ok_iff.mp h
  cases h
  rw [Action.run_tryCatch] at hsteps
  split at hsteps
  · next hrun =>
    cases hsteps
    exact ⟨_, hrun⟩
  · -- What handles a fault throws it again.
    obtain ⟨_, _, _, hthrow⟩ := Action.run_bind_eq_ok_iff.mp hsteps
    cases hthrow

theorem artifacts_of_resolveArtifacts {found : List Artifact}
    (h : (r.resolveArtifacts e).run.run w = (.ok found, w')) : found = r.artifacts := by
  unfold resolveArtifacts at h
  split at h
  all_goals
    obtain ⟨_, _, _, h⟩ := Action.run_bind_eq_ok_iff.mp h
    cases h
    rfl

/-- A build that ends well reports the host, the version and the artifacts of its release, and an
archive for each of the artifacts. -/
theorem report_of_build {report : Report} (h : (r.build e).run.run w = (.ok report, w')) :
    report = ⟨r.host, r.version, r.artifacts,
      r.artifacts.map fun a => archivePath a.baseName r.config.outputDir⟩ := by
  obtain ⟨w₁, h⟩ := steps_of_conclude h
  obtain ⟨_, w₂, _, h⟩ := Action.run_bind_eq_ok_iff.mp h
  obtain ⟨_, w₃, _, h⟩ := Action.run_bind_eq_ok_iff.mp h
  obtain ⟨_, w₄, _, h⟩ := Action.run_bind_eq_ok_iff.mp h
  obtain ⟨found, w₅, hfound, h⟩ := Action.run_bind_eq_ok_iff.mp h
  obtain ⟨paths, w₆, hpaths, h⟩ := Action.run_bind_eq_ok_iff.mp h
  cases h
  rw [paths_of_packageAll hpaths, artifacts_of_resolveArtifacts hfound]

theorem archives_of_build {report : Report} (h : (r.build e).run.run w = (.ok report, w')) :
    report.archives = r.artifacts.map fun a => archivePath a.baseName r.config.outputDir :=
  congrArg Report.archives (report_of_build h)

/-- An archive of a release is put right into the output directory under its base name exactly if
neither the product nor the version of the release holds a slash; and what a build reports are these
archives. -/
theorem archives_inside_iff (h : PreparedFrom settings t reported given r) :
    (∀ a ∈ r.artifacts,
      (archivePath a.baseName r.config.outputDir).IsEntryOf r.config.outputDir
          (a.baseName ++ ".gz") ↔
        '/' ∉ r.config.product.toList ∧ '/' ∉ r.version.toList) ∧
      ∀ e w report w', (r.build e).run.run w = (.ok report, w') →
        report.archives = r.artifacts.map fun a => archivePath a.baseName r.config.outputDir := by
  refine ⟨fun a ha => ?_, fun e w report w' hbuild => archives_of_build hbuild⟩
  exact isEntryOf_archivePath_iff.trans (h.slash_not_mem_baseName_iff ha)

def productSettings (product : String) : Entries :=
  [(.str "version", .str "1.0"), (.str "product_prefix", .str product)]

/-- The release that these settings give on Linux. -/
def productRelease (product : String) : Release :=
  ⟨{ Config.standard with version := some "1.0", product := product }, "linux", "1.0", .idle⟩

theorem archives_inside_iff_plainProduct :
    PreparedFrom (productSettings "demo") (.emptyAt []) "linux" none (productRelease "demo") ∧
      ∃ a ∈ (productRelease "demo").artifacts, a.baseName = "demo_1.0_linux" ∧
        (archivePath a.baseName (.ofString "bin")).IsEntryOf (.ofString "bin")
          "demo_1.0_linux.gz" := by
  have hprepared : PreparedFrom (productSettings "demo") (.emptyAt []) "linux" none
      (productRelease "demo") := ⟨rfl, fun _ _ => pure none, _, rfl⟩
  have hplain : '/' ∉ (productRelease "demo").config.product.toList ∧
      '/' ∉ (productRelease "demo").version.toList := by decide
  refine ⟨hprepared, _, List.mem_singleton_self _, rfl, ?_⟩
  exact ((archives_inside_iff hprepared).1 _ (List.mem_singleton_self _)).mpr hplain

/-- A product whose name begins with a step to the parent directory is accepted, and its archives are
put beside the output directory. -/
theorem archive_beside_outputDir :
    ∃ a : Artifact, PreparedFrom (productSettings "../demo") (.emptyAt []) "linux" none
        (productRelease "../demo") ∧
      a ∈ (productRelease "../demo").artifacts ∧
      (archivePath a.baseName (productRelease "../demo").config.outputDir).toString =
        "bin/../demo_1.0_linux.gz" ∧
      ¬ (archivePath a.baseName (productRelease "../demo").config.outputDir).IsEntryOf
        (productRelease "../demo").config.outputDir (a.baseName ++ ".gz") := by
  refine ⟨_, ⟨rfl, fun _ _ => pure none, _, rfl⟩, List.mem_singleton_self _, by decide, fun h => ?_⟩
  exact absurd h.parent (by decide)

end Release

end ReleasePackaging
