import ReleasePackaging.Proofs.Action.Run
import ReleasePackaging.Proofs.FileTree.Directories

/-!
# Making directories that are missing

A directory is made at a path after the directories on the way to it that are missing. Nothing that
stands is touched, and what is made are directories which the path itself and the paths on the way to it
denote afterwards. A path that takes no step upwards leads to a directory that was there before or to
one that is empty.
-/
namespace ReleasePackaging

/-- A path on the way to another one: a beginning of it, or the path itself. -/
structure Path.IsOnWayTo (q p : Path) : Prop where
  root : q.root = p.root
  components : q.components <+: p.components

namespace Path.IsOnWayTo

theorem refl (p : Path) : p.IsOnWayTo p := ⟨rfl, List.prefix_refl _⟩

theorem of_parent {q p : Path} (h : q.IsOnWayTo p.parent) : q.IsOnWayTo p :=
  ⟨h.root, h.components.trans (List.dropLast_prefix _)⟩

end Path.IsOnWayTo

namespace FileTree

variable {t t' t'' : FileTree} {loc dir : Location} {text : String} {p : Path} {fault : AccessFault}
  {outcome : Except AccessFault Unit × FileTree}

/-! ## One directory -/

theorem makeDirectory_eq_ok_iff :
    t.makeDirectory text = .ok t' ↔
      ∃ loc, t.locate false text = .ok loc ∧ t.node? loc = none ∧ t' = t.put loc .directory := by
  unfold makeDirectory
  rw [Result.bind_eq_ok_iff]
  refine exists_congr fun loc => and_congr_right fun _ => ?_
  cases t.node? loc with
  | some node => simp
  | none => simp [eq_comm]

theorem makeDirectory_eq_null_iff (t : FileTree) (text : String) :
    t.makeDirectory text = .error .nullCharacter ↔ '\x00' ∈ text.toList := by
  rw [← locate_eq_null_iff t false, makeDirectory, Result.bind_eq_error_iff]
  refine or_iff_left ?_
  rintro ⟨loc, -, h⟩
  split at h <;> cases h

theorem null_iff_of_error (h : t.makeDirectory text = .error fault) :
    fault = .nullCharacter ↔ '\x00' ∈ text.toList := by
  rw [← makeDirectory_eq_null_iff t, h, Except.error.injEq]

/-- A directory that is made stands at its path. -/
theorem status_put_directory (hlocate : t.locate false text = .ok loc) (hnone : t.node? loc = none)
    (follow : Bool) : (t.put loc .directory).status follow text = .ok (loc, .directory) := by
  have hloc : loc ≠ [] := by
    rintro rfl
    cases hnone
  have hnode : (t.put loc .directory).node? loc = some .directory := by
    rw [node?_put t hloc, if_pos rfl]
  have hthere : ∀ text, (t.put loc .directory).node? loc ≠ some (.link text) := by simp [hnode]
  have hext := Extends.put hnone .directory
  have hkept := hext.locate hlocate fun other hlink => absurd hlink (hthere other)
  refine status_eq_ok_iff.mpr ⟨?_, hnode⟩
  cases follow with
  | false => exact hkept
  | true => exact locate_of_leads hkept ((leads_of_locate hkept).following hthere)

theorem IsGrown.makeDirectory (h : t.IsGrown) (hmade : t.makeDirectory p.toString = .ok t') :
    t'.IsGrown := by
  obtain ⟨loc, hlocate, hnone, rfl⟩ := makeDirectory_eq_ok_iff.mp hmade
  rcases (leads_of_locate hlocate).last (stepsOf_toString_ne_nil p) with ⟨-, hdir⟩ | hentry
  · rw [hdir h] at hnone
    cases hnone
  · obtain ⟨dir, name, -, -, rfl, hdir⟩ := hentry
    exact h.put hdir hnone

/-- No directory is found at a vacant path. -/
theorem IsVacant.isDirectory (h : IsVacant t p.toString) : t.isDirectory p ≠ .ok true := by
  intro hfound
  obtain ⟨loc, hstatus⟩ := isDirectory_eq_true_iff.mp hfound
  exact h true loc .directory hstatus

/-- Where something is missing, no directory is found. -/
theorem isDirectory_of_missing
    (h : t.makeDirectory p.toString = .error (.system .noEntry text)) : t.isDirectory p ≠ .ok true := by
  refine (isVacant_of_keep fun l other hkeep => ?_).isDirectory
  obtain ⟨hlocate, hnode⟩ := status_eq_ok_iff.mp hkeep
  rw [makeDirectory, hlocate, Result.ok_bind, hnode] at h
  cases h

/-! ## Directories on the way -/

theorem components_ne_nil (h : p.parent ≠ p) : p.components ≠ [] := by
  intro hnone
  refine h ?_
  rw [Path.parent, Path.mk.injEq, hnone]
  exact ⟨rfl, rfl⟩

/-- An attempt at making a directory that may be there already: it is made, or it is found, or the
attempt is refused. -/
inductive Attempt (t : FileTree) (p : Path) : Except AccessFault Unit × FileTree → Prop where
  | made {t' : FileTree} (h : t.makeDirectory p.toString = .ok t') : Attempt t p (.ok (), t')
  | found {fault : AccessFault} (h : t.isDirectory p = .ok true)
      (hfault : t.makeDirectory p.toString = .error fault) : Attempt t p (.ok (), t)
  | refused {fault other : AccessFault} (hdirectory : t.isDirectory p ≠ .ok true)
      (hfault : t.makeDirectory p.toString = .error other)
      (h : fault = .nullCharacter ↔ '\x00' ∈ p.toString.toList) : Attempt t p (.error fault, t)

/-- Making the directory at a path: an attempt at it; but, where something on the way to it is missing, the
making of its parent and then another attempt. -/
inductive Making (t : FileTree) : Path → Except AccessFault Unit × FileTree → Prop where
  | attempt {p : Path} {outcome : Except AccessFault Unit × FileTree}
      (hhere : p.parent = p ∨ ∀ text, t.makeDirectory p.toString ≠ .error (.system .noEntry text))
      (h : Attempt t p outcome) : Making t p outcome
  | blocked {t₁ : FileTree} {p : Path} {text : String} {fault : AccessFault} (hname : p.parent ≠ p)
      (hmissing : t.makeDirectory p.toString = .error (.system .noEntry text))
      (hparent : Making t p.parent (.error fault, t₁)) : Making t p (.error fault, t₁)
  | retried {t₁ : FileTree} {p : Path} {text : String}
      {outcome : Except AccessFault Unit × FileTree} (hname : p.parent ≠ p)
      (hmissing : t.makeDirectory p.toString = .error (.system .noEntry text))
      (hparent : Making t p.parent (.ok (), t₁)) (h : Attempt t₁ p outcome) : Making t p outcome

/-- An attempt that fails is accepted where a directory is found. -/
theorem attempt_of_error (fault : AccessFault) :
    t.makeDirectory p.toString = .error fault →
      Attempt t p
        (match fault with
        | .nullCharacter => (.error fault, t)
        | .system _ _ =>
          match t.isDirectory p with
          | .ok true => (.ok (), t)
          | .ok false => (.error fault, t)
          | .error other => (.error other, t)) := by
  intro h
  have hnull := null_iff_of_error h
  split
  · refine .refused (fun hfound => ?_) h hnull
    obtain ⟨loc, hstatus⟩ := isDirectory_eq_true_iff.mp hfound
    exact null_not_mem_of_status hstatus (hnull.mp rfl)
  · have hplain := hnull.not.mp (by simp)
    split
    · next hfound => exact .found hfound h
    · next hask => exact .refused (by simp [hask]) h hnull
    · next other hask =>
      exact .refused (by simp [hask]) h (iff_of_false (plain_of_ask hask).1 hplain)

/-- With as many parents as a path has components, directories are made in this way. -/
theorem making {depth : Nat} (t : FileTree) (hdepth : p.components.length ≤ depth) :
    Making t p ((TreeAction.makeDirectories depth p).run.run t) := by
  induction depth generalizing t p with
  | zero =>
    have hroot : p.parent = p := by
      refine Classical.byContradiction fun hname => components_ne_nil hname ?_
      exact List.length_eq_zero_iff.mp (Nat.le_zero.mp hdepth)
    change Making t p (TreeAction.makeDirectories 0 p t)
    unfold TreeAction.makeDirectories
    split
    · next hmade => exact .attempt (.inl hroot) (.made hmade)
    · next hmissing =>
      exact .attempt (.inl hroot)
        (.refused (isDirectory_of_missing hmissing) hmissing (null_iff_of_error hmissing))
    · next hfault => exact .attempt (.inl hroot) (attempt_of_error _ hfault)
  | succ depth ih =>
    have hparent := ih t (p := p.parent) (by simp [Path.parent]; omega)
    change Making t p.parent (TreeAction.makeDirectories depth p.parent t) at hparent
    change Making t p (TreeAction.makeDirectories (depth + 1) p t)
    unfold TreeAction.makeDirectories
    split
    · next hmade => exact .attempt (.inr (by simp [hmade])) (.made hmade)
    · next hmissing =>
      dsimp only
      split
      · next hroot =>
        exact .attempt (.inl hroot)
          (.refused (isDirectory_of_missing hmissing) hmissing (null_iff_of_error hmissing))
      · next hname =>
        split
        · next hblocked =>
          rw [hblocked] at hparent
          exact .blocked hname hmissing hparent
        · next hrun =>
          rw [hrun] at hparent
          split
          · next hmade => exact .retried hname hmissing hparent (.made hmade)
          · next hfault => exact .retried hname hmissing hparent (attempt_of_error _ hfault)
    · next hother hfault =>
      refine .attempt (.inr fun text heq => ?_) (attempt_of_error _ hfault)
      rw [hfault] at heq
      exact hother text (Except.error.inj heq)

/-! ## What is made -/

/-- A tree holds, besides what another one holds, only directories that paths on the way to a path
denote. -/
structure AddsDirectories (p : Path) (t t' : FileTree) : Prop extends Extends t t' where
  added : ∀ l node, t'.node? l = some node → t.node? l = some node ∨
    node = .directory ∧ ∃ q : Path, q.IsOnWayTo p ∧ t'.status true q.toString = .ok (l, .directory)

theorem AddsDirectories.refl (p : Path) (t : FileTree) : AddsDirectories p t t :=
  ⟨.refl t, fun _ _ => .inl⟩

/-- What is added on the way to the parent of a path, and then to the path, is on the way to it. -/
theorem AddsDirectories.trans (h : AddsDirectories p.parent t t') (h' : AddsDirectories p t' t'') :
    AddsDirectories p t t'' := by
  refine ⟨h.toExtends.trans h'.toExtends, fun l node hnode => ?_⟩
  rcases h'.added l node hnode with hkept | hnew
  · rcases h.added l node hkept with hold | ⟨rfl, q, hq, hstatus⟩
    · exact .inl hold
    · exact .inr ⟨rfl, q, hq.of_parent, h'.status hstatus⟩
  · exact .inr hnew

theorem AddsDirectories.of_parent (h : AddsDirectories p.parent t t') : AddsDirectories p t t' :=
  h.trans (.refl p t')

theorem Attempt.adds (h : Attempt t p outcome) : AddsDirectories p t outcome.2 := by
  cases h with
  | made hmade =>
    obtain ⟨loc, hlocate, hnone, rfl⟩ := makeDirectory_eq_ok_iff.mp hmade
    have hext := Extends.put hnone .directory
    refine ⟨hext, fun l node hnode => ?_⟩
    have hloc : loc ≠ [] := by
      rintro rfl
      cases hnone
    rw [node?_put t hloc] at hnode
    split at hnode
    · next heq =>
      cases hnode
      exact .inr ⟨rfl, p, .refl p, heq ▸ status_put_directory hlocate hnone true⟩
    · exact .inl hnode
  | found | refused => exact .refl p t

/-- However the making of a directory ends, only directories on the way are added. -/
theorem Making.adds (h : Making t p outcome) : AddsDirectories p t outcome.2 := by
  induction h with
  | attempt _ h => exact h.adds
  | blocked _ _ _ ih => exact ih.of_parent
  | retried _ _ _ h ih => exact ih.trans h.adds

theorem Making.isGrown (h : Making t p outcome) (hgrown : t.IsGrown) : outcome.2.IsGrown := by
  induction h with
  | attempt _ h =>
    cases h with
    | made hmade => exact hgrown.makeDirectory hmade
    | found | refused => exact hgrown
  | blocked _ _ _ ih => exact ih
  | retried _ _ _ h ih =>
    cases h with
    | made hmade => exact ih.makeDirectory hmade
    | found | refused => exact ih

theorem null_mem_of_parent (h : '\x00' ∈ p.parent.toString.toList) :
    '\x00' ∈ p.toString.toList := by
  obtain ⟨name, hname, hnull⟩ := (Path.mem_toString (by decide) (by decide)).mp h
  exact (Path.mem_toString (by decide) (by decide)).mpr ⟨name, List.dropLast_subset _ hname, hnull⟩

/-- Making a directory is refused as no path exactly if the text is none. -/
theorem Making.null_iff (h : Making t p (.error fault, t')) :
    fault = .nullCharacter ↔ '\x00' ∈ p.toString.toList := by
  generalize hend : ((.error fault : Except AccessFault Unit), t') = outcome at h
  induction h with
  | attempt _ h =>
    cases h with
    | made | found => cases hend
    | refused _ _ h =>
      cases hend
      exact h
  | blocked _ hmissing _ ih =>
    cases hend
    have hplain := (null_iff_of_error hmissing).not.mp (by simp)
    exact ⟨fun h => null_mem_of_parent ((ih rfl).mp h), fun h => absurd h hplain⟩
  | retried _ _ _ h =>
    cases h with
    | made | found => cases hend
    | refused _ _ h =>
      cases hend
      exact h

/-- Nothing is made at a text that is no path. -/
theorem Making.eq_of_null (h : Making t p (.error fault, t')) (hnull : '\x00' ∈ p.toString.toList) :
    t' = t := by
  cases h with
  | attempt _ h =>
    cases h with
    | refused => rfl
  | blocked _ hmissing | retried _ hmissing =>
    exact absurd ((null_iff_of_error hmissing).mpr hnull) (by simp)

/-! ## Directories that are empty -/

/-- A directory at a path is the last thing that has been made. -/
def IsJustMade (p : Path) (t' : FileTree) : Prop :=
  ∃ t : FileTree, t.IsGrown ∧ t.makeDirectory p.toString = .ok t'

theorem IsJustMade.exists_empty (h : IsJustMade p t') :
    ∃ dir, (∀ follow, t'.status follow p.toString = .ok (dir, .directory)) ∧
      ∀ l, dir <+: l → l ≠ dir → t'.node? l = none := by
  obtain ⟨t, hgrown, hmade⟩ := h
  obtain ⟨loc, hlocate, hnone, rfl⟩ := makeDirectory_eq_ok_iff.mp hmade
  refine ⟨loc, status_put_directory hlocate hnone, fun l hbelow hne => ?_⟩
  have hloc : loc ≠ [] := by
    rintro rfl
    cases hnone
  rw [node?_put t hloc, if_neg hne]
  exact hgrown.node?_below (by simp [hnone]) l hbelow hne

/-- Something on the way to a path is missing only if its parent denotes no directory. -/
theorem parent_of_missing (hname : p.parent ≠ p)
    (hmissing : t.makeDirectory p.toString = .error (.system .noEntry text)) :
    t.status true p.parent.toString ≠ .ok (dir, .directory) := by
  intro hparent
  unfold makeDirectory at hmissing
  rcases locate_of_parent (components_ne_nil hname) hparent with hloc | ⟨fault, hfault, hother⟩
  · rw [hloc, Result.ok_bind] at hmissing
    split at hmissing <;> cases hmissing
  · rw [hfault, Result.error_bind, Except.error.injEq] at hmissing
    exact hother _ hmissing

/-- A name in an empty directory leads to where nothing stands. -/
theorem isDirectory_of_emptyParent (hname : p.parent ≠ p) (hdots : p.name ≠ "..")
    (hparent : t.status true p.parent.toString = .ok (dir, .directory))
    (hempty : ∀ l, dir <+: l → l ≠ dir → t.node? l = none) : t.isDirectory p ≠ .ok true := by
  refine (isVacant_of_keep fun l other hkeep => ?_).isDirectory
  obtain ⟨hlocate, hnode⟩ := status_eq_ok_iff.mp hkeep
  rcases locate_of_parent (components_ne_nil hname) hparent with hloc | ⟨fault, hfault, -⟩
  · rw [hloc, entryOf, if_neg hdots] at hlocate
    obtain rfl := Except.ok.inj hlocate
    rw [hempty _ (List.prefix_append _ _) (by simp)] at hnode
    cases hnode
  · rw [hfault] at hlocate
    cases hlocate

/-- Where a path takes no step upwards and no directory stands at it, it is the last that is made. -/
theorem Making.isJustMade (h : Making t p (.ok (), t')) (hgrown : t.IsGrown)
    (hdots : ".." ∉ p.components)
    (hnone : ∀ dir, t.status true p.toString ≠ .ok (dir, .directory)) : IsJustMade p t' := by
  generalize hend : ((.ok () : Except AccessFault Unit), t') = outcome at h
  induction h generalizing t' with
  | attempt _ h =>
    cases h with
    | made hmade =>
      cases hend
      exact ⟨_, hgrown, hmade⟩
    | found hfound =>
      obtain ⟨dir, hstatus⟩ := isDirectory_eq_true_iff.mp hfound
      exact absurd hstatus (hnone dir)
    | refused => cases hend
  | blocked => cases hend
  | retried hname hmissing hparent h ih =>
    cases h with
    | made hmade =>
      cases hend
      exact ⟨_, hparent.isGrown hgrown, hmade⟩
    | found hfound =>
      have hup : ".." ∉ _ := fun hmem => hdots (List.dropLast_subset _ hmem)
      obtain ⟨dir, hstatus, hempty⟩ :=
        (ih hup (fun _ => parent_of_missing hname hmissing) rfl).exists_empty
      refine absurd hfound (isDirectory_of_emptyParent hname (fun heq => hdots ?_) (hstatus true)
        hempty)
      rw [components_eq_of_ne_nil (components_ne_nil hname), ← heq]
      simp
    | refused => cases hend

/-- Where nothing stands at a path, the making of its directory ends well in one of two ways. The
directory is the last that is made; or it is there once the directories on the way are made, which takes
a step upwards and a parent that denoted no directory. -/
theorem Making.cases_ok (h : Making t p (.ok (), t')) (hgrown : t.IsGrown)
    (hvacant : IsVacant t p.toString) :
    IsJustMade p t' ∨
      ".." ∈ p.components ∧ (∀ dir, t.status true p.parent.toString ≠ .ok (dir, .directory)) ∧
        ∃ dir, t'.status true p.toString = .ok (dir, .directory) := by
  by_cases hdots : ".." ∈ p.components
  · cases h with
    | attempt _ h =>
      cases h with
      | made hmade => exact .inl ⟨t, hgrown, hmade⟩
      | found hfound => exact absurd hfound hvacant.isDirectory
    | retried hname hmissing hparent h =>
      cases h with
      | made hmade => exact .inl ⟨_, hparent.isGrown hgrown, hmade⟩
      | found hfound =>
        exact .inr ⟨hdots, fun _ => parent_of_missing hname hmissing,
          isDirectory_eq_true_iff.mp hfound⟩
  · exact .inl (h.isJustMade hgrown hdots fun dir => hvacant true dir .directory)

/-! ## The empty directory -/

theorem locate_here (follow : Bool) : (emptyAt []).locate follow "." = .ok [] := by
  rw [locate_eq_walk rfl (by decide : stepsOf "." = ["."]) (by decide) (by decide), walk_stay rfl,
    walk_nil]

/-- The empty directory is there. -/
theorem run_makeMissingDirectories_here :
    (TreeAction.makeMissingDirectories 1 (Path.ofString ".")).run.run (emptyAt []) =
      (.ok (), emptyAt []) := by
  have hmade : (emptyAt []).makeDirectory "." = .error (.system .exists ".") := by
    rw [makeDirectory, locate_here]
    rfl
  have hstands (question : Node → Bool) :
      (emptyAt []).stands question "." = question .directory := by
    rw [stands, status, locate_here]
    rfl
  have htext : (Path.ofString ".").toString = "." := by decide
  have hroot : (Path.ofString ".").components.isEmpty = true := by decide
  simp only [TreeAction.makeMissingDirectories, TreeAction.provideDirectory, hroot, htext,
    Action.run_bind, Action.run_get, Action.run_tryCatch, TreeAction.run_change, hmade, hstands,
    Bool.not_true, Bool.false_and, Bool.false_eq_true, if_false, Action.run_pure]

end FileTree

end ReleasePackaging
