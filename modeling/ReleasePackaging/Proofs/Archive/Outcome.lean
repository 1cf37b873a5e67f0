import ReleasePackaging.Proofs.Archive.Write
import ReleasePackaging.Proofs.FileTree.Growth

/-!
# How archiving ends

Archiving ends well if the target can be opened and the device passes the archive without a fault; a
whole archive then stands where the target leads, and nothing else has changed. If it fails, what stands at
the end of the target's path is removed. This leaves everything else alone, unless the target is a link:
the file that it leads to has been rewritten by then. Where the target could not be opened and nothing
can be removed, the fault of removing it is passed on.
-/
namespace ReleasePackaging.Archive

open FileTree (ChangesFile IsVacant)

variable {device : Device} {source target : Path} {baseName : String} {outputDir : Path}
  {t t' : FileTree} {loc : Location}

/-! ## How archiving fails -/

/-- How archiving an artifact ends. It returns the target. The artifact is missing, and nothing has
changed. It fails with nothing left at the target and nothing else changed; or the target was a link, and
the file that this leads to holds what the device has passed. Or the fault of the question about the
artifact, or of removing a target that could not be opened, is passed on, and nothing has changed. -/
inductive WriteEnd (device : Device) (t : FileTree) (source target : Path) :
    Except Fault Path × FileTree → Prop where
  | returned {t' : FileTree} {loc : Location} {passed : List UInt8}
      (hpassed : Passes device t source target loc passed none) :
      WriteEnd device t source target (.ok target, t')
  | missing (hfile : t.isFile source = .ok false) :
      WriteEnd device t source target (.error (.failure (.missingArtifact source "archive")), t)
  | failed {t' : FileTree} {fault : AccessFault}
      (hcause : t.openFor false target.toString = .error fault ∨
        ∃ loc passed, Passes device t source target loc passed (some fault))
      (hvacant : IsVacant t' target.toString) (hwork : t'.workDir = t.workDir)
      (hkept : ∀ l, t.locate false target.toString ≠ .ok l → t'.node? l = t.node? l) :
      WriteEnd device t source target (.error (.failure (writeFailure source target fault)), t')
  | spoiled {t' : FileTree} {link loc : Location} {text : String} {number : Nat}
      {passed : List UInt8} {fault : AccessFault}
      (hcause : Passes device t source target loc passed (some fault))
      (hlink : t.status false target.toString = .ok (link, .link text))
      (hvacant : IsVacant t' target.toString) (hwork : t'.workDir = t.workDir)
      (hkept : ∀ l, l ≠ link → l ≠ loc → t'.node? l = t.node? l)
      (hspoiled : t'.node? loc = some (.file number ⟨passed.toArray⟩)) :
      WriteEnd device t source target (.error (.failure (writeFailure source target fault)), t')
  | unasked {fault : AccessFault} (hfile : t.isFile source = .error fault) :
      WriteEnd device t source target (.error (.access fault), t)
  | unremoved {other fault : AccessFault} (hopen : t.openFor false target.toString = .error other)
      (hunlink : t.unlink target.toString = .error fault)
      (hfault : ∀ text, fault ≠ .system .noEntry text) :
      WriteEnd device t source target (.error (.access fault), t)

/-- What has been removed from the end of a path is gone, and nothing else is. -/
theorem erase_spec {node : Node} (hstatus : t.status false target.toString = .ok (loc, node))
    (hnode : node ≠ .directory) :
    IsVacant (t.erase loc) target.toString ∧ ∀ l, l ≠ loc → (t.erase loc).node? l = t.node? l := by
  have hroot := FileTree.ne_root_of_status hstatus hnode
  refine ⟨FileTree.isVacant_erase hstatus hroot, fun l hl => ?_⟩
  rw [FileTree.node?_erase t hroot, if_neg hl]

theorem run_discard_of_status {node : Node}
    (hstatus : t.status false target.toString = .ok (loc, node)) (hnode : node ≠ .directory) :
    (discard target).run.run t = (.ok (), t.erase loc) := by
  rw [discard, TreeAction.run_change, FileTree.unlink_of_status hstatus hnode]

/-- Where what was written has been discarded: the file itself if the target is no link, and otherwise the
link, while the file stays as it was written. -/
theorem writeEnd_of_written {passed : List UInt8} {fault : AccessFault} {number : Nat}
    (hpassed : Passes device t source target loc passed (some fault)) (hchange : ChangesFile loc t t')
    (hfile : t'.node? loc = some (.file number ⟨passed.toArray⟩)) :
    ∃ t'', (discard target).run.run t' = (.ok (), t'') ∧
      WriteEnd device t source target
        (.error (.failure (writeFailure source target fault)), t'') := by
  have hframe := hchange.sameFrame hpassed.before
  have hstands := FileTree.status_eq_ok_iff.mpr ⟨hframe.locate hpassed.locate, hfile⟩
  rcases FileTree.status_keep hstands with hstatus | ⟨link, text, hstatus⟩
  · obtain ⟨hvacant, hothers⟩ := erase_spec hstatus (by simp)
    have hend := hframe.symm.locate (FileTree.status_eq_ok_iff.mp hstatus).1
    refine ⟨_, run_discard_of_status hstatus (by simp), .failed (.inr ⟨loc, passed, hpassed⟩) hvacant
      hchange.workDir fun l hl => ?_⟩
    have hne : l ≠ loc := fun heq => hl (heq ▸ hend)
    rw [hothers l hne, hchange.elsewhere l hne]
  · obtain ⟨hvacant, hothers⟩ := erase_spec hstatus (by simp)
    obtain ⟨hend, hlink⟩ := FileTree.status_eq_ok_iff.mp hstatus
    have hne : loc ≠ link := by
      rintro rfl
      rw [hfile] at hlink
      cases hlink
    have hbefore := FileTree.status_eq_ok_iff.mpr
      ⟨hframe.symm.locate hend, hframe.symm.link hlink⟩
    refine ⟨_, run_discard_of_status hstatus (by simp), .spoiled hpassed hbefore hvacant
      hchange.workDir (fun l hl hother => ?_) ((hothers loc hne).trans hfile)⟩
    rw [hothers l hl, hchange.elsewhere l hother]

/-- Where the target could not be opened, what stands at the end of its path is discarded, unless this is
refused. -/
theorem writeEnd_of_unopened {fault : AccessFault}
    (hopen : t.openFor false target.toString = .error fault) :
    WriteEnd device t source target
      (match (discard target).run.run t with
      | (.ok (), t') => (.error (.failure (writeFailure source target fault)), t')
      | (.error other, t') => (.error (.access other), t')) := by
  have hdiscarding := discarding t target
  generalize (discard target).run.run t = outcome at hdiscarding
  cases hdiscarding with
  | removed hstatus hnode =>
    obtain ⟨hvacant, hothers⟩ := erase_spec hstatus hnode
    refine .failed (.inl hopen) hvacant rfl fun l hl => hothers l ?_
    rintro rfl
    exact hl (FileTree.status_eq_ok_iff.mp hstatus).1
  | absent hstatus =>
    have hvacant : IsVacant t target.toString :=
      FileTree.isVacant_of_keep fun loc node => by simp [hstatus]
    exact .failed (.inl hopen) hvacant rfl fun _ _ => rfl
  | refused hunlink hfault => exact .unremoved hopen hunlink hfault

/-- Archiving returns the target; or reports that the artifact is missing, with nothing changed; or fails
with nothing left at the target, and with nothing else changed unless the target was a link. No other
fault leaves it, except that of a question that cannot be answered and that of a target that could
neither be opened nor removed. -/
theorem write_end (device : Device) (t : FileTree) (source : Path) (baseName : String)
    (outputDir : Path) :
    WriteEnd device t source (archivePath baseName outputDir)
      ((write device source baseName outputDir).run.run t) := by
  rw [run_write]
  simp only
  generalize archivePath baseName outputDir = target
  cases hfile : t.isFile source with
  | error fault => exact .unasked hfile
  | ok present =>
    cases present with
    | false => exact .missing hfile
    | true =>
      obtain ⟨place, n, content, hread⟩ := FileTree.exists_status_of_isFile hfile
      have hpacking := packing device t source target
      generalize (pack device source target).run.run t = outcome at hpacking
      cases hpacking with
      | unread hunread =>
        rw [FileTree.read_of_status hread] at hunread
        cases hunread
      | unopened hopen => exact writeEnd_of_unopened hopen
      | @written _ _ _ _ fault hpassed hchange hstands =>
        cases fault with
        | none => exact .returned hpassed
        | some fault =>
          obtain ⟨t'', hdiscard, hend⟩ := writeEnd_of_written hpassed hchange hstands
          simp only [Option.elim_some, hdiscard]
          exact hend

/-- A tree with a file to archive, a file in the place of a directory, and a directory with an old
archive. -/
def workshop : FileTree where
  nodes := [(["art"], .file 0 ⟨#[97]⟩), (["blocker"], .file 1 ⟨#[]⟩), (["bin"], .directory),
    (["bin", "n.gz"], .file 2 ⟨#[1, 2, 3]⟩)]
  workDir := []
  nextNumber := 3

theorem status_workshop (follow : Bool) :
    workshop.status follow (Path.ofString "art").toString = .ok (["art"], .file 0 ⟨#[97]⟩) := by
  have hname : (Path.ofString "art").toString = "art" := by decide
  rw [hname, FileTree.status_eq_ok_iff]
  exact ⟨FileTree.locate_entry rfl ⟨by decide, by decide, by decide⟩ (by decide) (by decide)
    fun _ heq => (by cases heq), rfl⟩

theorem run_pack_of_unopened {place : Location} {n : Nat} {content : ByteArray} {fault : AccessFault}
    (hread : t.status true source.toString = .ok (place, .file n content))
    (hopen : t.openFor false target.toString = .error fault) :
    (pack device source target).run.run t = (.error fault, t) := by
  simp only [pack, Action.run_bind, TreeAction.run_query, TreeAction.run_change,
    FileTree.read_of_status hread, hopen, Except.map]

/-- Where a file stands in the place of the output directory, the archive can neither be opened nor
removed, and the fault of removing it leaves the archiver. -/
theorem write_belowFile :
    (write soundDevice (.ofString "art") "n" (.ofString "blocker")).run.run workshop =
      (.error (.access (.system .notDirectory "blocker/n.gz")), workshop) := by
  have htarget : (archivePath "n" (.ofString "blocker")).toString = "blocker/n.gz" := by decide
  have hsteps : FileTree.stepsOf "blocker/n.gz" = ["blocker", "n.gz"] := by decide
  have hname : FileTree.IsEntry "blocker" := ⟨by decide, by decide, by decide⟩
  have hlocate (follow : Bool) :
      workshop.locate follow "blocker/n.gz" = .error (.system .notDirectory "blocker/n.gz") := by
    rw [FileTree.locate_eq_walk rfl hsteps (by decide) (by decide),
      FileTree.walk_enter rfl hname fun _ heq => (by cases heq), FileTree.walk_file rfl]
  have hopen : workshop.openFor false (archivePath "n" (.ofString "blocker")).toString =
      .error (.system .notDirectory "blocker/n.gz") := by
    rw [htarget, FileTree.openFor, hlocate]
    rfl
  have hfile : workshop.isFile (.ofString "art") = .ok true :=
    FileTree.ask_eq_true_iff.mpr ⟨_, _, status_workshop true, rfl⟩
  have hdiscard : (discard (archivePath "n" (.ofString "blocker"))).run.run workshop =
      (.error (.system .notDirectory "blocker/n.gz"), workshop) := by
    rw [discard, TreeAction.run_change, htarget, FileTree.unlink, FileTree.status, hlocate]
    rfl
  rw [run_write]
  simp only [hfile, run_pack_of_unopened (status_workshop true) hopen, hdiscard]

/-! ## Archives that are written -/

/-- A whole archive of some content stands where a path leads, and nothing else has changed. -/
structure IsArchived (t : FileTree) (target : Path) (loc : Location) (content : ByteArray)
    (t' : FileTree) : Prop where
  archive : ∃ number bytes, t'.status true target.toString = .ok (loc, .file number bytes) ∧
    readMember bytes.data.toList = some (content.data.toList, []) ∧
    decompress bytes.data.toList = some content.data.toList
  workDir : t'.workDir = t.workDir
  others : ∀ l, l ≠ loc → t'.node? l = t.node? l

/-- Packing succeeds if the device passes the archive without a fault. -/
theorem exists_pack_ok {passed : List UInt8} (h : Passes device t source target loc passed none) :
    ∃ t', (pack device source target).run.run t = (.ok (), t') := by
  obtain ⟨hlocate, hbefore, place, n, content, hread, hsent⟩ := h
  have hpacking := packing device t source target
  generalize (pack device source target).run.run t = outcome at hpacking
  cases hpacking with
  | unread hunread =>
    rw [FileTree.read_of_status hread] at hunread
    cases hunread
  | unopened hunopened =>
    obtain ⟨number, opened, hopen⟩ := FileTree.exists_openFor_ok false hlocate hbefore
    rw [hopen] at hunopened
    cases hunopened
  | written hpassed =>
    obtain ⟨hother, -, _, _, _, hagain, hresent⟩ := hpassed
    obtain ⟨rfl, hcontent⟩ := Prod.mk.inj (Except.ok.inj (hread.symm.trans hagain))
    obtain ⟨-, rfl⟩ := Node.file.inj hcontent
    obtain rfl := Except.ok.inj (hlocate.symm.trans hother)
    obtain ⟨-, rfl⟩ := Prod.mk.inj (hsent.symm.trans hresent)
    exact ⟨_, rfl⟩

def IsSeparate (t : FileTree) (source target : Path) : Prop :=
  ∀ l, t.locate true source.toString = .ok l → t.locate true target.toString ≠ .ok l

theorem IsSeparate.remaining_eq {place : Location} {n : Nat} {content : ByteArray}
    (h : IsSeparate t source target)
    (hread : t.status true source.toString = .ok (place, .file n content))
    (hlocate : t.locate true target.toString = .ok loc) :
    place ≠ loc ∧ remaining place loc content = content := by
  have hne : place ≠ loc := fun heq => h loc (heq ▸ (FileTree.status_eq_ok_iff.mp hread).1) hlocate
  exact ⟨hne, if_neg hne⟩

/-- Archiving returns exactly if the artifact can be read, the target leads to where nothing or a file
stands, and the device passes the archive of the artifact without a fault. -/
theorem exists_write_ok_iff (hapart : IsSeparate t source (archivePath baseName outputDir)) :
    (∃ path t', (write device source baseName outputDir).run.run t = (.ok path, t')) ↔
      ∃ content loc passed, t.read source.toString = .ok content ∧
        t.locate true (archivePath baseName outputDir).toString = .ok loc ∧ t.fixed? loc = none ∧
        device (compress content.data.toList) = (passed, none) := by
  constructor
  · rintro ⟨path, t', h⟩
    obtain ⟨-, -, hpack⟩ := run_write_eq_ok_iff.mp h
    obtain ⟨loc, -, passed, ⟨hlocate, hbefore, place, n, content, hread, hsent⟩, -, -⟩ :=
      Packing.of_ok (hpack ▸ packing device t source (archivePath baseName outputDir))
    rw [(hapart.remaining_eq hread hlocate).2] at hsent
    exact ⟨content, loc, passed, FileTree.read_of_status hread, hlocate, hbefore, hsent⟩
  · rintro ⟨content, loc, passed, hread, hlocate, hbefore, hsent⟩
    obtain ⟨place, n, hstatus⟩ := FileTree.exists_status_of_read hread
    rw [← (hapart.remaining_eq hstatus hlocate).2] at hsent
    obtain ⟨t', hpack⟩ := exists_pack_ok ⟨hlocate, hbefore, place, n, content, hstatus, hsent⟩
    have hfile : t.isFile source = .ok true :=
      FileTree.ask_eq_true_iff.mpr ⟨place, _, hstatus, rfl⟩
    exact ⟨_, t', run_write_eq_ok_iff.mpr ⟨rfl, hfile, hpack⟩⟩

/-- Archiving to another file than the artifact returns exactly if the artifact can be read, the target
can be opened and the device passes the archive without a fault. It then returns the path of the archive in the
output directory; one whole archive of what the artifact held stands there, the artifact holds this
still, and nothing else has changed. -/
theorem write_whole (hdevice : device.IsHonest)
    (hapart : IsSeparate t source (archivePath baseName outputDir)) :
    ((∃ path t', (write device source baseName outputDir).run.run t = (.ok path, t')) ↔
      ∃ content loc passed, t.read source.toString = .ok content ∧
        t.locate true (archivePath baseName outputDir).toString = .ok loc ∧ t.fixed? loc = none ∧
        device (compress content.data.toList) = (passed, none)) ∧
    ∀ path t', (write device source baseName outputDir).run.run t = (.ok path, t') →
      path = outputDir / (baseName ++ ".gz") ∧ ∃ content loc, t.read source.toString = .ok content ∧
        t'.read source.toString = .ok content ∧ IsArchived t path loc content t' := by
  refine ⟨exists_write_ok_iff hapart, fun path t' h => ?_⟩
  obtain ⟨rfl, -, hpack⟩ := run_write_eq_ok_iff.mp h
  obtain ⟨loc, number, passed, hpassed, hchange, hfile⟩ :=
    Packing.of_ok (hpack ▸ packing device t source (archivePath baseName outputDir))
  obtain ⟨hlocate, hbefore, place, n, content, hread, hsent⟩ := hpassed
  obtain ⟨hne, hwhole⟩ := hapart.remaining_eq hread hlocate
  obtain rfl := hdevice.eq_of_none hsent
  rw [hwhole] at hfile
  have hstands := FileTree.status_eq_ok_iff.mpr
    ⟨(hchange.sameFrame hbefore).locate hlocate, hfile⟩
  refine ⟨rfl, content, loc, FileTree.read_of_status hread,
    FileTree.read_of_status (hchange.status hbefore hne hread),
    ⟨number, _, hstands, ?_, ?_⟩, hchange.workDir, hchange.elsewhere⟩
  · rw [List.toList_toArray, readMember_compress]
  · rw [List.toList_toArray, decompress_compress]

theorem write_whole_oldArchive :
    ∃ path t', (write soundDevice (.ofString "art") "n" (.ofString "bin")).run.run workshop =
        (.ok path, t') ∧ path = .ofString "bin/n.gz" ∧
      ∃ content loc, workshop.read (Path.ofString "art").toString = .ok content ∧
        t'.read (Path.ofString "art").toString = .ok content ∧
        IsArchived workshop path loc content t' := by
  have htarget : (archivePath "n" (.ofString "bin")).toString = "bin/n.gz" := by decide
  have hsteps : FileTree.stepsOf "bin/n.gz" = ["bin", "n.gz"] := by decide
  have hlocate : workshop.locate true (archivePath "n" (.ofString "bin")).toString =
      .ok ["bin", "n.gz"] := by
    have hdirectory : FileTree.IsEntry "bin" := ⟨by decide, by decide, by decide⟩
    have hname : FileTree.IsEntry "n.gz" := ⟨by decide, by decide, by decide⟩
    rw [htarget, FileTree.locate_eq_walk rfl hsteps (by decide) (by decide),
      FileTree.walk_enter rfl hdirectory fun _ heq => (by cases heq),
      FileTree.walk_enter rfl hname fun _ heq => (by cases heq), FileTree.walk_nil]
    rfl
  have hread := FileTree.read_of_status (status_workshop true)
  have hapart : IsSeparate workshop (.ofString "art") (archivePath "n" (.ofString "bin")) := by
    intro l hl
    obtain rfl := Except.ok.inj
      ((FileTree.status_eq_ok_iff.mp (status_workshop true)).1.symm.trans hl)
    rw [hlocate]
    decide
  have hsound : Device.IsHonest soundDevice := fun _ _ => rfl
  obtain ⟨hreturns, hwhole⟩ := write_whole hsound hapart
  obtain ⟨path, t', hrun⟩ := hreturns.mpr ⟨_, _, _, hread, hlocate, rfl, rfl⟩
  obtain ⟨hpath, hend⟩ := hwhole path t' hrun
  exact ⟨path, t', hrun, hpath.trans (by decide), hend⟩

end ReleasePackaging.Archive
