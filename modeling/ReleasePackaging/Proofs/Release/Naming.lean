import ReleasePackaging.Proofs.Action.Run
import ReleasePackaging.Proofs.Artifact.Resolve
import ReleasePackaging.Proofs.Config.Acceptance
import ReleasePackaging.Proofs.Manifest.Version
import ReleasePackaging.Release.Basic

/-!
# The names of a release

A release that has been prepared from accepted settings is named by parts in which no delimiter stands:
its product and its version have been checked, wherever the version comes from, and its host is named
by its platform. So the base name of each artifact tells all that it was made of.
-/
namespace ReleasePackaging

/-- The version that a manifest gives is a segment. -/
theorem Manifest.isSegment_of_version {t : FileTree} {path : Path} {version : String}
    (h : Manifest.version t path = .ok version) : Config.isSegment version = true :=
  Config.isSegment_iff.mpr (holds_of_version h).2

namespace Release

variable {settings settings' : Entries} {t t' : FileTree} {reported reported' : String}
  {given given' : Option Hook} {r r' : Release} {i i' : Nat} {a a' : Artifact}

/-- A release that has been prepared from accepted settings, in a tree, on a host that reports itself by
a name, with a given hook or the one that the settings ask for, among whatever modules there are. -/
structure PreparedFrom (settings : Entries) (t : FileTree) (reported : String) (given : Option Hook)
    (r : Release) : Prop where
  accepted : Config.ofEntries settings = .ok r.config
  prepared : ∃ modules t', (prepare modules reported r.config given).run.run t = (.ok r, t')

namespace PreparedFrom

theorem isSound (h : PreparedFrom settings t reported given r) : r.config.IsSound :=
  Config.isSound_of_ofEntries h.accepted

theorem settled (h : PreparedFrom settings t reported given r) :
    versionOf t r.config = .ok r.version ∧ r.host = r.config.resolvedHost reported := by
  obtain ⟨modules, t', hrun⟩ := h.prepared
  obtain ⟨version, _, hversion, hrest⟩ := Action.run_bind_eq_ok_iff.mp hrun
  obtain ⟨hook, _, _, hprepared⟩ := Action.run_bind_eq_ok_iff.mp hrest
  have hr : (⟨r.config, r.config.resolvedHost reported, version, hook⟩ : Release) = r :=
    Except.ok.inj (congrArg Prod.fst hprepared)
  have hread : versionOf t r.config = .ok version := congrArg Prod.fst hversion
  exact ⟨hread.trans (congrArg (fun r : Release => Except.ok r.version) hr),
    (congrArg Release.host hr).symm⟩

/-- The version of a release is a segment, whether it has been configured or read. -/
theorem isSegment_version (h : PreparedFrom settings t reported given r) :
    Config.isSegment r.version = true := by
  have hversion := h.settled.1
  unfold versionOf at hversion
  split at hversion
  · exact Manifest.isSegment_of_version hversion
  · exact Manifest.isSegment_of_version hversion
  · next hconfigured =>
    cases hversion
    exact h.isSound.version _ hconfigured

/-- The base name of an artifact is made of segments and the tag of its template. -/
theorem baseName_eq (h : PreparedFrom settings t reported given r) (ha : r.artifacts[i]? = some a) :
    ∃ p template, Platform.ofName? (r.config.resolvedHost reported) = some p ∧
      p.templates[i]? = some template ∧
      (ArchiveName.mk r.config.product r.version p.name template.tag).IsSegmented ∧
      a.baseName = (ArchiveName.mk r.config.product r.version p.name template.tag).render := by
  obtain ⟨p, template, hplatform, htemplate, hname⟩ := resolve_getElem? ha
  rw [h.settled.2] at hplatform
  exact ⟨p, template, hplatform, htemplate,
    ⟨(Config.isSegment_iff.mp h.isSound.product).2, (Config.isSegment_iff.mp h.isSegment_version).2,
      p.delimiter_not_mem_name⟩, hname⟩

end PreparedFrom

/-- The base name of an artifact is read as the product and the version of its release, the name of
the platform of its host, which is that of the host in lower case, and the tag of its template. So
releases that share a base name share all of these. -/
theorem baseName_identifies (h : PreparedFrom settings t reported given r)
    (h' : PreparedFrom settings' t' reported' given' r') :
    (∀ (i : Nat) (a : Artifact), r.artifacts[i]? = some a →
      ∃ (p : Platform) (template : Template),
        Platform.ofName? (r.config.resolvedHost reported) = some p ∧
        p.name = Text.lower (r.config.resolvedHost reported) ∧ p.templates[i]? = some template ∧
        ArchiveName.parse a.baseName =
          .ok ⟨r.config.product, r.version, p.name, template.tag⟩) ∧
      ∀ (i : Nat) (a : Artifact) (i' : Nat) (a' : Artifact), r.artifacts[i]? = some a →
        r'.artifacts[i']? = some a' → a.baseName = a'.baseName →
          r.config.product = r'.config.product ∧ r.version = r'.version ∧
            ∃ (p : Platform) (template template' : Template),
              Platform.ofName? (r.config.resolvedHost reported) = some p ∧
              Platform.ofName? (r'.config.resolvedHost reported') = some p ∧
              p.templates[i]? = some template ∧ p.templates[i']? = some template' ∧
              template.tag = template'.tag := by
  refine ⟨fun i a ha => ?_, fun i a i' a' ha ha' hsame => ?_⟩
  · obtain ⟨p, template, hplatform, htemplate, hsegmented, hname⟩ := h.baseName_eq ha
    refine ⟨p, template, hplatform, Platform.name_eq_of_ofName? hplatform, htemplate, ?_⟩
    rw [hname]
    exact (ArchiveName.parse_render _).mpr hsegmented
  · obtain ⟨p, template, hplatform, htemplate, hsegmented, hname⟩ := h.baseName_eq ha
    obtain ⟨p', template', hplatform', htemplate', hsegmented', hname'⟩ := h'.baseName_eq ha'
    -- Both names are read back from the one base name.
    have hread := (ArchiveName.parse_render _).mpr hsegmented
    rw [← hname, hsame, hname', (ArchiveName.parse_render _).mpr hsegmented'] at hread
    obtain ⟨hproduct, hversion, hhost, htag⟩ := ArchiveName.mk.inj (Except.ok.inj hread)
    obtain rfl := Platform.name_inj hhost
    exact ⟨hproduct.symm, hversion.symm, p', template, template', hplatform, hplatform', htemplate,
      htemplate', htag.symm⟩

/-- The settings of a release of a version for a host, if one is named. -/
def versionSettings (host : Option String) : Entries :=
  (.str "version", .str "1.0") :: host.toList.map fun text => (.str "host_os", .str text)

/-- The release that these settings give on a host that reports itself as a Windows. -/
def versionRelease (host : Option String) : Release :=
  ⟨{ Config.standard with version := some "1.0", host := host }, host.getD "win32", "1.0", .idle⟩

/-- A platform that has been spelled in some way names artifacts as one that has been detected. -/
theorem baseName_identifies_spelling :
    ∃ a a' : Artifact, (versionRelease (some "Win32")).artifacts[1]? = some a ∧
      (versionRelease none).artifacts[1]? = some a' ∧ a.baseName = a'.baseName ∧
      (∃ p template, Platform.ofName? "Win32" = some p ∧ p.name = Text.lower "Win32" ∧
        p.templates[1]? = some template ∧
        ArchiveName.parse a.baseName = .ok ⟨"tonclient", "1.0", p.name, template.tag⟩) ∧
      ∃ p template template', Platform.ofName? "Win32" = some p ∧ Platform.ofName? "win32" = some p ∧
        p.templates[1]? = some template ∧ p.templates[1]? = some template' ∧
        template.tag = template'.tag := by
  have hspelled : PreparedFrom (versionSettings (some "Win32")) (.emptyAt []) "linux" none
      (versionRelease (some "Win32")) := ⟨rfl, fun _ _ => pure none, _, rfl⟩
  have hdetected : PreparedFrom (versionSettings none) (.emptyAt []) "cygwin" none
      (versionRelease none) := ⟨rfl, fun _ _ => pure none, _, rfl⟩
  obtain ⟨hread, hshared⟩ := baseName_identifies hspelled hdetected
  exact ⟨_, _, rfl, rfl, rfl, hread 1 _ rfl, (hshared 1 _ 1 _ rfl rfl rfl).2.2⟩

end Release

end ReleasePackaging
