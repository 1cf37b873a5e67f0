import ReleasePackaging.Logging.LogFile
import ReleasePackaging.Proofs.FileTree.Beside

/-!
# Where log files are written

A log file that has its own place and the places of its older files outside a directory is written
without any effect on the directory, even when it is put aside for a new one.
-/
namespace ReleasePackaging.Logging

open FileTree (IsNumbered IsApart Later Beside SameFrame)

variable {dir loc : Location} {t t' : FileTree} {text source target : String}

/-- Only a file that has nothing to do with a directory may stand at a path. -/
def IsLogPlace (dir : Location) (t : FileTree) (text : String) : Prop :=
  ∀ follow loc, t.locate follow text = .ok loc → ¬ dir <+: loc ∧
    ∀ node, t.node? loc = some node →
      ∃ number content, node = .file number content ∧ IsApart dir number t

namespace IsLogPlace

theorem later (h : IsLogPlace dir t text) (hlater : Later dir t t') : IsLogPlace dir t' text := by
  intro follow loc hloc
  obtain ⟨hout, hfile⟩ := h follow loc (hlater.frame.symm.locate hloc)
  refine ⟨hout, fun node hnode => ?_⟩
  have hnofix : t'.fixed? loc = none := by
    refine hlater.frame.fixed?_eq_none (FileTree.fixed?_eq_none_iff.mpr fun node hnode => ?_)
    obtain ⟨_, _, rfl, _⟩ := hfile node hnode
    rfl
  have hisfile := FileTree.fixed?_eq_none_iff.mp hnofix node hnode
  cases node with
  | directory | link => cases hisfile
  | file number content =>
    refine ⟨number, content, rfl, ?_⟩
    rcases hlater.outside loc number content hout hnode with hapart | ⟨old, hold⟩
    · exact hapart
    · obtain ⟨_, _, heq, hapart⟩ := hfile _ hold
      cases heq
      exact hlater.apart number hapart

theorem fixed?_eq_none (h : IsLogPlace dir t text) {follow : Bool}
    (hloc : t.locate follow text = .ok loc) : t.fixed? loc = none := by
  rw [FileTree.fixed?_eq_none_iff]
  intro node hnode
  obtain ⟨_, _, rfl, _⟩ := (h follow loc hloc).2 node hnode
  rfl

theorem unlink (h : IsLogPlace dir t text) (hnumbered : IsNumbered dir t)
    (hok : t.unlink text = .ok t') : Beside dir t t' := by
  obtain ⟨loc, hloc, hchange, _⟩ := FileTree.unlink_ok hok
  exact hchange.beside (h.fixed?_eq_none hloc) (h false loc hloc).1 hnumbered

/-- A file that is opened for a log has a number of its own. -/
theorem openFor {keep : Bool} {number : Nat} (h : IsLogPlace dir t text)
    (hnumbered : IsNumbered dir t) (hok : t.openFor keep text = .ok (loc, number, t')) :
    Beside dir t t' ∧ IsApart dir number t' := by
  obtain ⟨hloc, hchange, content, hfile⟩ := FileTree.openFor_ok hok
  have hbeside := hchange.beside (h.fixed?_eq_none hloc) (h true loc hloc).1 hnumbered
  refine ⟨hbeside, ?_⟩
  obtain ⟨_, _, heq, hapart⟩ := (h.later hbeside.toLater true loc
    (hbeside.frame.locate hloc)).2 _ hfile
  cases heq
  exact hapart

/-- What is renamed is a regular file, which then stands at the other place. -/
theorem renamed (hsource : IsLogPlace dir t source) (hok : t.rename source target = .ok t') :
    ∃ old new number content, t.locate false source = .ok old ∧ t.locate false target = .ok new ∧
      t.node? old = some (.file number content) ∧
      (t' = t ∨ t' = (t.erase old).put new (.file number content)) := by
  obtain ⟨⟨old, node⟩, hstatus, hok⟩ := Result.bind_eq_ok_iff.mp hok
  obtain ⟨hold, hnode⟩ := FileTree.status_eq_ok_iff.mp hstatus
  obtain ⟨new, hnew, hok⟩ := Result.bind_eq_ok_iff.mp hok
  obtain ⟨number, content, rfl, _⟩ := (hsource false old hold).2 node hnode
  refine ⟨old, new, number, content, hold, hnew, hnode, ?_⟩
  split at hok
  · cases hok
    exact .inl rfl
  · split at hok
    · next hdirectory => cases hdirectory
    · cases hok
    · cases hok
      exact .inr rfl

/-- A file that is renamed keeps its number. -/
theorem rename (hsource : IsLogPlace dir t source) (htarget : IsLogPlace dir t target)
    (hok : t.rename source target = .ok t') : Beside dir t t' := by
  obtain ⟨old, new, number, content, hold, hnew, hfile, heq⟩ := renamed hsource hok
  rcases heq with rfl | rfl
  · exact .refl dir t'
  obtain ⟨holdout, hnumber⟩ := hsource false old hold
  obtain ⟨_, _, hnode, hapart⟩ := hnumber _ hfile
  cases hnode
  have hnewout := (htarget false new hnew).1
  have hnewfix := htarget.fixed?_eq_none hnew
  have holdroot : old ≠ [] := by
    rintro rfl
    cases hfile
  have hnewroot : new ≠ [] := by
    rintro rfl
    cases hnewfix
  have herase := SameFrame.erase t holdroot (hsource.fixed?_eq_none hold)
  have hput := SameFrame.put_file (t.erase old) hnewroot (herase.fixed?_eq_none hnewfix) number content
  have hnode (l : Location) : ((t.erase old).put new (.file number content)).node? l =
      if l = new then some (.file number content) else if l = old then none else t.node? l := by
    rw [FileTree.node?_put _ hnewroot, FileTree.node?_erase _ holdroot]
  have hwithin (l : Location) (hl : dir <+: l) :
      ((t.erase old).put new (.file number content)).node? l = t.node? l := by
    have hneold : l ≠ old := fun heq => holdout (heq ▸ hl)
    have hnenew : l ≠ new := fun heq => hnewout (heq ▸ hl)
    rw [hnode, if_neg hnenew, if_neg hneold]
  refine .of_within (herase.trans hput) (Nat.le_refl _) hwithin fun l n c _ hstands => ?_
  rw [hnode] at hstands
  split at hstands
  · cases hstands
    exact .inl ⟨hapart.used, fun l' c' hl' => hwithin l' hl' ▸ hapart.absent l' c' hl'⟩
  · split at hstands
    · cases hstands
    · exact .inr ⟨c, hstands⟩

end IsLogPlace

namespace LogFile

/-- The paths that a log file uses: its own and those of its older files. -/
def Uses (f : LogFile) (text : String) : Prop :=
  text = f.path ∨ ∃ n, n ≤ f.backups.toNat ∧ text = f.backupPath n

/-- A log file that has nothing to do with a directory. -/
structure StaysOutside (f : LogFile) (dir : Location) (t : FileTree) : Prop where
  places : ∀ text, f.Uses text → IsLogPlace dir t text
  number : ∀ n, f.number = some n → IsApart dir n t

variable {f f' : LogFile}

theorem StaysOutside.later (h : f.StaysOutside dir t) (hlater : Later dir t t') :
    f.StaysOutside dir t' :=
  ⟨fun text huses => (h.places text huses).later hlater,
    fun n hn => hlater.apart n (h.number n hn)⟩

/-! ## Putting a log file aside -/

theorem displace_beside (hsource : IsLogPlace dir t source) (htarget : IsLogPlace dir t target)
    (hnumbered : IsNumbered dir t) (hok : displace source target t = .ok t') : Beside dir t t' := by
  unfold displace at hok
  split at hok
  · split at hok
    · obtain ⟨t₁, hunlink, hok⟩ := Result.bind_eq_ok_iff.mp hok
      have hbeside := htarget.unlink hnumbered hunlink
      exact hbeside.trans
        ((hsource.later hbeside.toLater).rename (htarget.later hbeside.toLater) hok)
    · exact hsource.rename htarget hok
  · cases hok
    exact .refl dir t

/-- Older files are moved among their own places. -/
theorem displaceAll_beside {ns : List Nat} (hplaces : ∀ text, f.Uses text → IsLogPlace dir t text)
    (hnumbered : IsNumbered dir t) (hns : ∀ n ∈ ns, n + 2 ≤ f.backups.toNat)
    (hok : ns.foldlM (fun t n => displace (f.backupPath (n + 1)) (f.backupPath (n + 2)) t) t = .ok t') :
    Beside dir t t' := by
  induction ns generalizing t with
  | nil =>
    cases hok
    exact .refl dir _
  | cons n ns ih =>
    rw [List.foldlM_cons] at hok
    obtain ⟨t₁, hstep, hok⟩ := Result.bind_eq_ok_iff.mp hok
    have hn := hns n List.mem_cons_self
    have hbeside := displace_beside (hplaces _ (.inr ⟨n + 1, by omega, rfl⟩))
      (hplaces _ (.inr ⟨n + 2, hn, rfl⟩)) hnumbered hstep
    exact hbeside.trans (ih (fun text huses => (hplaces text huses).later hbeside.toLater)
      (hbeside.numbered hnumbered) (fun m hm => hns m (List.mem_cons_of_mem _ hm)) hok)

/-- A log file that is there is moved to a place where nothing has to be removed. -/
theorem renameIfThere_beside (hsource : IsLogPlace dir t source) (htarget : IsLogPlace dir t target)
    (hok : (if t.stands (fun _ => true) source then t.rename source target else .ok t) = .ok t') :
    Beside dir t t' := by
  split at hok
  · exact hsource.rename htarget hok
  · cases hok
    exact .refl dir _

theorem putAside_beside (hplaces : ∀ text, f.Uses text → IsLogPlace dir t text)
    (hnumbered : IsNumbered dir t) (hok : f.putAside t = .ok t') : Beside dir t t' := by
  unfold putAside at hok
  split at hok
  · cases hok
    exact .refl dir t
  · next hbackups =>
    have hown : f.Uses f.path := .inl rfl
    have hfirst : f.Uses (f.backupPath 1) := .inr ⟨1, by omega, rfl⟩
    obtain ⟨t₁, hshift, hok⟩ := Result.bind_eq_ok_iff.mp hok
    have hmoved : Beside dir t t₁ := by
      refine displaceAll_beside hplaces hnumbered (fun n hn => ?_) hshift
      have hlt := List.mem_range.mp (List.mem_reverse.mp hn)
      omega
    have hplaces₁ (text : String) (huses : f.Uses text) :=
      (hplaces text huses).later hmoved.toLater
    refine hmoved.trans ?_
    dsimp only at hok
    split at hok
    · obtain ⟨t₂, hunlink, hok⟩ := Result.bind_eq_ok_iff.mp hok
      have hbeside := (hplaces₁ _ hfirst).unlink (hmoved.numbered hnumbered) hunlink
      exact hbeside.trans (renameIfThere_beside ((hplaces₁ _ hown).later hbeside.toLater)
        ((hplaces₁ _ hfirst).later hbeside.toLater) hok)
    · exact renameIfThere_beside (hplaces₁ _ hown) (hplaces₁ _ hfirst) hok

/-! ## Writing a line -/

theorem reopened_beside (hplaces : ∀ text, f.Uses text → IsLogPlace dir t text)
    (hnumbered : IsNumbered dir t) (hok : f.reopened t = .ok (f', t')) :
    Beside dir t t' ∧ f'.StaysOutside dir t' := by
  unfold reopened at hok
  obtain ⟨⟨loc, number, t₁⟩, hopen, hok⟩ := Result.bind_eq_ok_iff.mp hok
  cases hok
  obtain ⟨hbeside, hapart⟩ := (hplaces _ (.inl rfl)).openFor hnumbered hopen
  refine ⟨hbeside, fun text huses => (hplaces text huses).later hbeside.toLater, fun n hn => ?_⟩
  cases hn
  exact hapart

/-- A log file that cannot be opened stays as it is. -/
theorem reopenedOr_beside (h : f.StaysOutside dir t) (hnumbered : IsNumbered dir t) :
    Beside dir t ((f.reopened t).toOption.getD (f, t)).2 ∧
      ((f.reopened t).toOption.getD (f, t)).1.StaysOutside dir
        ((f.reopened t).toOption.getD (f, t)).2 := by
  cases hok : f.reopened t with
  | error fault => exact ⟨.refl dir t, h⟩
  | ok opened => exact reopened_beside h.places hnumbered hok

theorem reopen_beside (h : f.StaysOutside dir t) (hnumbered : IsNumbered dir t) :
    Beside dir t (f.reopen t).2 ∧ (f.reopen t).1.StaysOutside dir (f.reopen t).2 := by
  unfold reopen
  split
  · exact ⟨.refl dir t, h⟩
  · exact reopenedOr_beside h hnumbered

theorem rotate_beside (h : f.StaysOutside dir t) (hnumbered : IsNumbered dir t) :
    Beside dir t (f.rotate t).2 ∧ (f.rotate t).1.StaysOutside dir (f.rotate t).2 := by
  have hclosed : StaysOutside { f with number := none } dir t :=
    ⟨h.places, fun _ hn => nomatch hn⟩
  unfold rotate
  cases hok : f.putAside t with
  | error fault => exact ⟨.refl dir t, hclosed⟩
  | ok t₁ =>
    have hmoved := putAside_beside h.places hnumbered hok
    obtain ⟨hbeside, hout⟩ :=
      reopenedOr_beside (hclosed.later hmoved.toLater) (hmoved.numbered hnumbered)
    exact ⟨hmoved.trans hbeside, hout⟩

theorem append_beside (h : f.StaysOutside dir t) (line : String) :
    Beside dir t (f.append line t).2 ∧ (f.append line t).1.StaysOutside dir (f.append line t).2 := by
  unfold append
  split
  · exact ⟨.refl dir t, h⟩
  · next number hnumber =>
    split
    · next content _ =>
      have hbeside := FileTree.beside_setContent (h.number number hnumber)
        (content ++ line.toUTF8)
      exact ⟨hbeside, fun text huses => (h.places text huses).later hbeside.toLater,
        fun n hn => hbeside.apart n (h.number n hn)⟩
    · exact ⟨.refl dir t, h.places, h.number⟩

/-- Writing a line to a log file that has nothing to do with a directory leaves the directory
alone, and the log file goes on having nothing to do with it. -/
theorem write_beside (h : f.StaysOutside dir t) (hnumbered : IsNumbered dir t) (line : String) :
    Beside dir t (f.write line t).2 ∧ (f.write line t).1.StaysOutside dir (f.write line t).2 := by
  obtain ⟨hopen, hopened⟩ := reopen_beside h hnumbered
  unfold write
  generalize hreopen : f.reopen t = opened at hopen hopened
  obtain ⟨f₁, t₁⟩ := opened
  simp only
  split
  · obtain ⟨hrotate, hrotated⟩ := rotate_beside hopened (hopen.numbered hnumbered)
    obtain ⟨happend, happended⟩ := append_beside hrotated (line ++ "\n")
    exact ⟨hopen.trans (hrotate.trans happend), happended⟩
  · obtain ⟨happend, happended⟩ := append_beside hopened (line ++ "\n")
    exact ⟨hopen.trans happend, happended⟩

theorem receive_beside (h : f.StaysOutside dir t) (hnumbered : IsNumbered dir t)
    (line? : Option String) :
    Beside dir t (f.receive line? t).2 ∧
      (f.receive line? t).1.StaysOutside dir (f.receive line? t).2 := by
  cases line? with
  | some line => exact write_beside h hnumbered line
  | none => exact reopen_beside h hnumbered

end LogFile

end ReleasePackaging.Logging
