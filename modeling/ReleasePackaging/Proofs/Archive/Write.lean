import ReleasePackaging.Archive.Basic
import ReleasePackaging.Proofs.Action.Result
import ReleasePackaging.Proofs.Action.Run
import ReleasePackaging.Proofs.Archive.RoundTrip
import ReleasePackaging.Proofs.Archive.Stream
import ReleasePackaging.Proofs.FileTree.Change
import ReleasePackaging.Proofs.FileTree.Directories

/-!
# What archiving an artifact changes

The path of an archive leads to its name below the output directory, if it leads anywhere. How packing
and discarding end is told for any target. At a place that is free, archiving changes that one file: a
whole archive stands there if it succeeds, and nothing if it ends with a failure of its own.
-/
namespace ReleasePackaging

open FileTree (ChangesFile SameFrame Leads)

/-! ## The place of an archive -/

section Place

variable {baseName : String} {outputDir : Path} {t : FileTree} {dir loc : Location}

def archiveName (baseName : String) : String := baseName ++ archiveEnding

theorem archiveName_ne (baseName : String) {text : String} (h : text.length < 3) :
    archiveName baseName ≠ text := by
  rintro rfl
  have hending : archiveEnding.length = 3 := by decide
  rw [archiveName, String.length_append, hending] at h
  omega

theorem isName_archiveName (hslash : '/' ∉ baseName.toList) : Path.IsName (archiveName baseName) := by
  have hempty : archiveName baseName ≠ "" := archiveName_ne baseName (by decide)
  have hdot : archiveName baseName ≠ "." := archiveName_ne baseName (by decide)
  refine ⟨by simp [Path.isComponent, hempty, hdot], ?_⟩
  simp [archiveName, archiveEnding, hslash]

/-- The path of an archive leads to its name below the output directory or nowhere; whether links
are followed does not matter. -/
theorem locate_archivePath (hslash : '/' ∉ baseName.toList)
    (houtput : t.locate true outputDir.toString = .ok dir) (hdir : t.node? dir = some .directory)
    (hlink : ∀ text, t.node? (dir ++ [archiveName baseName]) ≠ some (.link text)) :
    (∀ follow, t.locate follow (archivePath baseName outputDir).toString =
        .ok (dir ++ [archiveName baseName])) ∨
      ∃ fault, ∀ follow,
        t.locate follow (archivePath baseName outputDir).toString = .error fault := by
  obtain ⟨hroot, hcomponents⟩ := outputDir.div_of_isName (isName_archiveName hslash)
  have hleads := FileTree.leads_components (FileTree.leads_of_locate houtput)
  rw [FileTree.startOf_toString, ← hroot, ← FileTree.startOf_toString] at hleads
  have hwalk (follow : Bool) := hleads.walk_name hdir (archiveName_ne baseName (by decide))
    (archiveName_ne baseName (by decide)) hlink follow
  rw [← hcomponents] at hwalk
  have hsteps : FileTree.stepsOf (outputDir / archiveName baseName).toString =
      (outputDir / archiveName baseName).components := by
    rw [FileTree.stepsOf_toString, if_neg (by simp [hcomponents])]
  change (∀ follow, t.locate follow (outputDir / archiveName baseName).toString = _) ∨
    ∃ fault, ∀ follow, t.locate follow (outputDir / archiveName baseName).toString = _
  rcases FileTree.locate_cases t (FileTree.toString_ne_empty (outputDir / archiveName baseName)) with
    ⟨fault, -, hrefused⟩ | hlocate
  · exact .inr ⟨fault, hrefused⟩
  · simp only [hlocate, hsteps, hwalk]
    by_cases hlong : FileTree.nameLimit < (archiveName baseName).utf8ByteSize
    · exact .inr ⟨_, fun _ => by rw [if_pos hlong]⟩
    · exact .inl fun _ => by rw [if_neg hlong]

end Place

namespace Archive

variable {device : Device} {source target : Path} {t t' : FileTree} {loc : Location}

/-- A device that reports a fault if some bytes do not reach a file. -/
def Device.IsHonest (device : Device) : Prop :=
  ∀ bytes, (device bytes).2 = none → (device bytes).1 = bytes

/-- A path leads to a location at which nothing stands, or it leads nowhere. -/
structure IsFree (t : FileTree) (target : Path) (loc : Location) : Prop where
  none : t.node? loc = none
  leads : (∀ follow, t.locate follow target.toString = .ok loc) ∨
    ∃ fault, ∀ follow, t.locate follow target.toString = .error fault

def Holds (t : FileTree) (loc : Location) (content : ByteArray) : Prop :=
  ∃ number archive, t.node? loc = some (.file number archive) ∧
    decompress archive.data.toList = some content.data.toList

theorem IsFree.fixed?_eq_none (h : IsFree t target loc) : t.fixed? loc = .none := by
  simp [FileTree.fixed?, h.none]

/-- A place that can be found at all is found whether links are followed or not. -/
theorem IsFree.located {follow : Bool} {other : Location} (h : IsFree t target loc)
    (hlocate : t.locate follow target.toString = .ok other) :
    other = loc ∧ ∀ follow, t.locate follow target.toString = .ok loc := by
  rcases h.leads with hloc | ⟨fault, hfault⟩
  · rw [hloc follow] at hlocate
    exact ⟨(Except.ok.inj hlocate).symm, hloc⟩
  · rw [hfault follow] at hlocate
    cases hlocate

/-! ## Packing -/

/-- What is left of the content of a file at a place once the file at a location has been emptied. -/
def remaining (place loc : Location) (content : ByteArray) : ByteArray :=
  if place = loc then .empty else content

/-- A target can be opened, and a device passes some of the bytes of the archive of a source, with the
fault that it reports. What is archived is what is left of the source once the target is empty. -/
structure Passes (device : Device) (t : FileTree) (source target : Path) (loc : Location)
    (passed : List UInt8) (fault : Option AccessFault) : Prop where
  locate : t.locate true target.toString = .ok loc
  before : t.fixed? loc = none
  sent : ∃ place n content, t.status true source.toString = .ok (place, .file n content) ∧
    device (compress (remaining place loc content).data.toList) = (passed, fault)

/-- How packing ends. The source is not read or the target is not opened, and nothing has changed. Or
what the device has passed of the archive stands where the target leads. -/
inductive Packing (device : Device) (t : FileTree) (source target : Path) :
    Except AccessFault Unit × FileTree → Prop where
  | unread {fault : AccessFault} (hread : t.read source.toString = .error fault) :
      Packing device t source target (.error fault, t)
  | unopened {fault : AccessFault} (hopen : t.openFor false target.toString = .error fault) :
      Packing device t source target (.error fault, t)
  | written {t' : FileTree} {loc : Location} {number : Nat} {passed : List UInt8}
      {fault : Option AccessFault} (hpassed : Passes device t source target loc passed fault)
      (hchange : ChangesFile loc t t')
      (hfile : t'.node? loc = some (.file number ⟨passed.toArray⟩)) :
      Packing device t source target (fault.elim (.ok ()) .error, t')

/-- Once the target has been opened, what is left of the source is read. -/
theorem read_opened {opened : FileTree} {place : Location} {n number : Nat} {content : ByteArray}
    (hopen : t.openFor false target.toString = .ok (loc, number, opened))
    (hread : t.status true source.toString = .ok (place, .file n content)) :
    opened.read source.toString = .ok (remaining place loc content) := by
  have hbefore := FileTree.fixed?_eq_none_of_openFor hopen
  have hchange := (FileTree.openFor_ok hopen).2.1
  unfold remaining
  by_cases hplace : place = loc
  · rw [if_pos hplace]
    have hlocate := (hchange.sameFrame hbefore).locate (FileTree.status_eq_ok_iff.mp hread).1
    have hempty := hplace ▸ FileTree.openFor_empty hopen
    exact FileTree.read_of_status (FileTree.status_eq_ok_iff.mpr ⟨hlocate, hempty⟩)
  · rw [if_neg hplace]
    exact FileTree.read_of_status (hchange.status hbefore hplace hread)

theorem packing (device : Device) (t : FileTree) (source target : Path) :
    Packing device t source target ((pack device source target).run.run t) := by
  unfold pack
  simp only [Action.run_bind, TreeAction.run_query, TreeAction.run_change, Stream.finish_copy]
  cases hread : t.read source.toString with
  | error fault => exact .unread hread
  | ok content =>
    dsimp only
    cases hopen : t.openFor false target.toString with
    | error fault => exact .unopened hopen
    | ok opened =>
      obtain ⟨loc, number, t₁⟩ := opened
      obtain ⟨place, n, hstatus⟩ := FileTree.exists_status_of_read hread
      have hbefore := FileTree.fixed?_eq_none_of_openFor hopen
      obtain ⟨hlocate, hopened, -⟩ := FileTree.openFor_ok hopen
      have hagain := (hopened.sameFrame hbefore).locate hlocate
      simp only [Except.map, read_opened hopen hstatus]
      cases hdevice : device (compress (remaining place loc content).data.toList) with
      | mk passed fault =>
        cases hwrite : t₁.write target.toString ⟨passed.toArray⟩ with
        | error other =>
          -- The file that has been opened can be written.
          exact absurd hwrite (FileTree.write_ne_error hagain (FileTree.openFor_empty hopen) _ _)
        | ok t₂ =>
          obtain ⟨again, m, hrelocate, hwritten, hfile⟩ := FileTree.write_ok hwrite
          obtain rfl : again = loc := Except.ok.inj (hrelocate.symm.trans hagain)
          have hpassed : Passes device t source target again passed fault :=
            ⟨hlocate, hbefore, place, n, content, hstatus, hdevice⟩
          have hpacked := Packing.written hpassed (hopened.trans hwritten) hfile
          cases fault <;> exact hpacked

/-- Packing succeeds only if the device passes the archive without a fault. -/
theorem Packing.of_ok (h : Packing device t source target (.ok (), t')) :
    ∃ loc number passed, Passes device t source target loc passed none ∧ ChangesFile loc t t' ∧
      t'.node? loc = some (.file number ⟨passed.toArray⟩) := by
  generalize hend : ((.ok () : Except AccessFault Unit), t') = outcome at h
  cases h with
  | unread | unopened => cases hend
  | @written _ loc number passed fault hpassed hchange hfile =>
    cases fault with
    | some fault => cases hend
    | none =>
      cases hend
      exact ⟨loc, number, passed, hpassed, hchange, hfile⟩

/-- What an honest device passes without a fault is all of it. -/
theorem Device.IsHonest.eq_of_none {bytes passed : List UInt8} (h : device.IsHonest)
    (hdevice : device bytes = (passed, none)) : passed = bytes := by
  have hall := h bytes (by rw [hdevice])
  rwa [hdevice] at hall

/-- What packing into a free place does. -/
theorem pack_effect {result : Except AccessFault Unit} (hfree : IsFree t target loc)
    (hdevice : device.IsHonest) (h : (pack device source target).run.run t = (result, t')) :
    ChangesFile loc t t' ∧
      (t' = t ∨ ∀ follow, t.locate follow target.toString = .ok loc) ∧
      (result = .ok () → ∃ content, t.read source.toString = .ok content ∧ Holds t' loc content) := by
  have hpacking := packing device t source target
  rw [h] at hpacking
  have hheld (hok : result = .ok ()) :
      ∃ content, t.read source.toString = .ok content ∧ Holds t' loc content := by
    obtain ⟨other, number, passed, hpassed, -, hfile⟩ := Packing.of_ok (hok ▸ hpacking)
    obtain ⟨rfl, -⟩ := hfree.located hpassed.locate
    obtain ⟨place, n, content, hread, hsent⟩ := hpassed.sent
    obtain rfl := hdevice.eq_of_none hsent
    have hne : place ≠ other := by
      rintro rfl
      have hnode := (FileTree.status_eq_ok_iff.mp hread).2
      rw [hfree.none] at hnode
      cases hnode
    rw [remaining, if_neg hne] at hfile
    exact ⟨content, FileTree.read_of_status hread, number, _, hfile, by
      rw [List.toList_toArray, decompress_compress]⟩
  cases hpacking with
  | unread | unopened => exact ⟨.refl hfree.fixed?_eq_none, .inl rfl, hheld⟩
  | written hpassed hchange =>
    obtain ⟨rfl, hplace⟩ := hfree.located hpassed.locate
    exact ⟨hchange, .inr hplace, hheld⟩

/-! ## Discarding -/

/-- How discarding ends. The file or link at the end of the path is removed; or nothing is there; or
removing it is refused for another reason. -/
inductive Discarding (t : FileTree) (target : Path) : Except AccessFault Unit × FileTree → Prop where
  | removed {loc : Location} {node : Node} (hstatus : t.status false target.toString = .ok (loc, node))
      (hnode : node ≠ .directory) : Discarding t target (.ok (), t.erase loc)
  | absent {text : String} (hstatus : t.status false target.toString = .error (.system .noEntry text)) :
      Discarding t target (.ok (), t)
  | refused {fault : AccessFault} (hunlink : t.unlink target.toString = .error fault)
      (hfault : ∀ text, fault ≠ .system .noEntry text) : Discarding t target (.error fault, t)

theorem discarding (t : FileTree) (target : Path) :
    Discarding t target ((discard target).run.run t) := by
  unfold discard
  rw [TreeAction.run_change]
  cases hstatus : t.status false target.toString with
  | ok found =>
    obtain ⟨loc, node⟩ := found
    cases node with
    | directory =>
      have hunlink : t.unlink target.toString = .error (.system .isDirectory target.toString) := by
        rw [FileTree.unlink, hstatus]
        rfl
      rw [hunlink]
      exact .refused hunlink (by simp)
    | file | link =>
      rw [FileTree.unlink_of_status hstatus (by simp)]
      exact .removed hstatus (by simp)
  | error fault =>
    have hunlink : t.unlink target.toString = .error fault := by
      rw [FileTree.unlink, hstatus]
      rfl
    rw [hunlink]
    by_cases habsent : ∃ text, fault = .system .noEntry text
    · obtain ⟨text, rfl⟩ := habsent
      exact .absent hstatus
    · rw [not_exists] at habsent
      cases fault with
      | nullCharacter => exact .refused hunlink habsent
      | system cause text =>
        cases cause with
        | noEntry => exact absurd rfl (habsent text)
        | _ => exact .refused hunlink habsent

/-- What is discarded at the place of an archive is gone, unless a fault is passed on. -/
theorem discard_effect {result : Except AccessFault Unit} (hfixed : t.fixed? loc = none)
    (hplace : ∀ other, t.locate false target.toString = .ok other → other = loc)
    (hstands : t.node? loc ≠ none → t.locate false target.toString = .ok loc)
    (h : (discard target).run.run t = (result, t')) :
    ChangesFile loc t t' ∧ (result = .ok () → t'.node? loc = none) := by
  have hdiscarding := discarding t target
  rw [h] at hdiscarding
  cases hdiscarding with
  | @removed other node hstatus hnode =>
    obtain rfl : other = loc := hplace other (FileTree.status_eq_ok_iff.mp hstatus).1
    have hroot := FileTree.ne_root_of_status hstatus hnode
    exact ⟨FileTree.changesFile_erase t hroot, fun _ => by rw [FileTree.node?_erase t hroot, if_pos rfl]⟩
  | absent hstatus =>
    refine ⟨.refl hfixed, fun _ => Option.eq_none_iff_forall_ne_some.mpr fun node hnode => ?_⟩
    have hthere := FileTree.status_eq_ok_iff.mpr ⟨hstands (by simp [hnode]), hnode⟩
    rw [hstatus] at hthere
    cases hthere
  | refused => exact ⟨.refl hfixed, nofun⟩

/-! ## Archiving -/

def writeFailure (artifact target : Path) (fault : AccessFault) : Failure :=
  .archive s!"Failed to write {target}: {fault.message}" artifact target

/-- Archiving step by step. -/
theorem run_write (baseName : String) (outputDir : Path) :
    (write device source baseName outputDir).run.run t =
      let target := archivePath baseName outputDir
      match t.isFile source with
      | .error fault => (.error (.access fault), t)
      | .ok false => (.error (.failure (.missingArtifact source "archive")), t)
      | .ok true =>
        match (pack device source target).run.run t with
        | (.ok (), t') => (.ok target, t')
        | (.error fault, t') =>
          match (discard target).run.run t' with
          | (.ok (), t'') => (.error (.failure (writeFailure source target fault)), t'')
          | (.error other, t'') => (.error (.access other), t'') := by
  unfold write
  simp only [Action.run_bind, Action.run_adapt, TreeAction.run_query]
  cases t.isFile source with
  | error fault => rfl
  | ok present =>
    cases present with
    | false => rfl
    | true =>
      simp only [Result.mapError_ok, Bool.not_true, Bool.false_eq_true, if_false, Action.run_bind,
        Action.run_mk]
      cases (pack device source (archivePath baseName outputDir)).run.run t with
      | mk packed t₁ =>
        cases packed with
        | ok => rfl
        | error fault =>
          simp only [Action.run_bind, Action.run_adapt]
          cases (discard (archivePath baseName outputDir)).run.run t₁ with
          | mk discarded t₂ => cases discarded <;> rfl

/-- Archiving returns exactly if a file is packed. -/
theorem run_write_eq_ok_iff {baseName : String} {outputDir path : Path} :
    (write device source baseName outputDir).run.run t = (.ok path, t') ↔
      path = archivePath baseName outputDir ∧ t.isFile source = .ok true ∧
        (pack device source (archivePath baseName outputDir)).run.run t = (.ok (), t') := by
  rw [run_write]
  constructor
  · intro h
    simp only at h
    split at h
    · cases h
    · cases h
    · next hfile =>
      split at h
      · next hpack =>
        cases h
        exact ⟨rfl, hfile, hpack⟩
      · split at h <;> cases h
  · rintro ⟨rfl, hfile, hpack⟩
    simp only [hfile, hpack]

/-- Archiving on a sound device returns if the source is a file and the target can be opened. -/
theorem exists_run_write {opened : FileTree} {place : Location} {n number : Nat}
    {content : ByteArray} {baseName : String} {outputDir : Path}
    (hsource : t.status true source.toString = .ok (place, .file n content))
    (hopen : t.openFor false (archivePath baseName outputDir).toString = .ok (loc, number, opened)) :
    ∃ t', (write soundDevice source baseName outputDir).run.run t =
      (.ok (archivePath baseName outputDir), t') := by
  have hpacking := packing soundDevice t source (archivePath baseName outputDir)
  generalize hend :
    (pack soundDevice source (archivePath baseName outputDir)).run.run t = outcome at hpacking
  cases hpacking with
  | unread hread =>
    rw [FileTree.read, hsource] at hread
    cases hread
  | unopened hother => cases hopen.symm.trans hother
  | @written t' _ _ _ fault hpassed =>
    obtain ⟨_, _, _, _, hsent⟩ := hpassed.sent
    cases hsent
    have hfile : t.isFile source = .ok true := by rw [FileTree.isFile, FileTree.ask, hsource]
    exact ⟨t', run_write_eq_ok_iff.mpr ⟨rfl, hfile, hend⟩⟩

/-- What archiving an artifact into a free place does: at the place of the archive there is a whole
archive of the artifact if it succeeds, and nothing if it ends with a failure. -/
theorem write_effect {baseName : String} {outputDir : Path} {result : Except Fault Path}
    (hfree : IsFree t (archivePath baseName outputDir) loc) (hdevice : device.IsHonest)
    (h : (write device source baseName outputDir).run.run t = (result, t')) :
    ChangesFile loc t t' ∧
      (∀ path, result = .ok path → path = archivePath baseName outputDir ∧
        ∃ content, t.read source.toString = .ok content ∧ Holds t' loc content) ∧
      (∀ f, result = .error (.failure f) → t'.node? loc = none) := by
  have hsame : ChangesFile loc t t := .refl hfree.fixed?_eq_none
  rw [run_write] at h
  simp only at h
  split at h
  · obtain ⟨rfl, rfl⟩ := h
    exact ⟨hsame, nofun, nofun⟩
  · obtain ⟨rfl, rfl⟩ := h
    exact ⟨hsame, nofun, fun _ _ => hfree.none⟩
  · split at h
    · next t₁ hpack =>
      obtain ⟨rfl, rfl⟩ := h
      obtain ⟨hchange, _, hpacked⟩ := pack_effect hfree hdevice hpack
      exact ⟨hchange, fun path hok => ⟨(Except.ok.inj hok).symm, hpacked rfl⟩, nofun⟩
    · next fault t₁ hpack =>
      obtain ⟨hchange, hplace, _⟩ := pack_effect hfree hdevice hpack
      have hdiscard {r : Except AccessFault Unit} {t₂ : FileTree}
          (hrun : (discard (archivePath baseName outputDir)).run.run t₁ = (r, t₂)) :
          ChangesFile loc t t₂ ∧ (r = .ok () → t₂.node? loc = none) := by
        rcases hplace with rfl | hplace
        · exact discard_effect hfree.fixed?_eq_none (fun _ hlocate => (hfree.located hlocate).1)
            (fun hstands => absurd hfree.none hstands) hrun
        · have hlocate := (hchange.sameFrame hfree.fixed?_eq_none).locate (hplace false)
          obtain ⟨hdiscarded, hgone⟩ := discard_effect hchange.fixed?_eq_none
            (fun _ hother => Except.ok.inj (hother.symm.trans hlocate)) (fun _ => hlocate) hrun
          exact ⟨hchange.trans hdiscarded, hgone⟩
      split at h
      · next t₂ hrun =>
        obtain ⟨rfl, rfl⟩ := h
        exact ⟨(hdiscard hrun).1, nofun, fun _ _ => (hdiscard hrun).2 rfl⟩
      · next other t₂ hrun =>
        obtain ⟨rfl, rfl⟩ := h
        exact ⟨(hdiscard hrun).1, nofun, nofun⟩

end Archive

end ReleasePackaging
