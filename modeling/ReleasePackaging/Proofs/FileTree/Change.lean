import ReleasePackaging.Proofs.Action.Result
import ReleasePackaging.Proofs.FileTree.Walk

/-!
# Changes of files

An elementary change concerns one location. That it concerns no other one, and that what it leaves
there is a regular file or nothing, is said once for all of them; a file that stands there afterwards
stood there before under the same number, or has a number that was not given out before.
-/
namespace ReleasePackaging.FileTree

variable {t t' t'' : FileTree} {loc : Location} {text : String}

/-- Only the file at a location changes: it is removed, made or rewritten. -/
structure ChangesFile (loc : Location) (t t' : FileTree) : Prop where
  workDir : t'.workDir = t.workDir
  nextNumber : t.nextNumber ≤ t'.nextNumber
  elsewhere : ∀ l, l ≠ loc → t'.node? l = t.node? l
  left : ∀ node, t'.node? loc = some node → ∃ number content, node = .file number content ∧
    ((t.nextNumber ≤ number ∧ number < t'.nextNumber) ∨
      ∃ old, t.node? loc = some (.file number old))

namespace ChangesFile

theorem fixed?_eq_none (h : ChangesFile loc t t') : t'.fixed? loc = none := by
  rw [fixed?_eq_none_iff]
  intro node hnode
  obtain ⟨number, content, rfl, _⟩ := h.left node hnode
  rfl

theorem sameFrame (h : ChangesFile loc t t') (hbefore : t.fixed? loc = none) : SameFrame t t' :=
  .of_eq_elsewhere loc h.workDir h.elsewhere hbefore h.fixed?_eq_none

theorem refl (hbefore : t.fixed? loc = none) : ChangesFile loc t t := by
  refine ⟨rfl, Nat.le_refl _, fun _ _ => rfl, fun node hnode => ?_⟩
  have hfile := fixed?_eq_none_iff.mp hbefore node hnode
  cases node with
  | file number content => exact ⟨number, content, rfl, .inr ⟨content, hnode⟩⟩
  | directory | link => cases hfile

theorem trans (h : ChangesFile loc t t') (h' : ChangesFile loc t' t'') : ChangesFile loc t t'' := by
  refine ⟨h'.workDir.trans h.workDir, Nat.le_trans h.nextNumber h'.nextNumber,
    fun l hl => (h'.elsewhere l hl).trans (h.elsewhere l hl), fun node hnode => ?_⟩
  obtain ⟨number, content, rfl, hnumber⟩ := h'.left node hnode
  refine ⟨number, content, rfl, ?_⟩
  have hle := h.nextNumber
  have hle' := h'.nextNumber
  rcases hnumber with hfresh | ⟨old, hold⟩
  · exact .inl ⟨by omega, hfresh.2⟩
  · obtain ⟨_, _, heq, hnumber⟩ := h.left _ hold
    cases heq
    rcases hnumber with hfresh | hkept
    · exact .inl ⟨hfresh.1, by omega⟩
    · exact .inr hkept

/-- What stands at a path stays there unless it is the file that changes. -/
theorem status (h : ChangesFile loc t t') (hbefore : t.fixed? loc = none) {follow : Bool}
    {place : Location} {node : Node} (hne : place ≠ loc)
    (hstatus : t.status follow text = .ok (place, node)) :
    t'.status follow text = .ok (place, node) := by
  obtain ⟨hlocate, hnode⟩ := status_eq_ok_iff.mp hstatus
  exact status_eq_ok_iff.mpr ⟨(h.sameFrame hbefore).locate hlocate,
    (h.elsewhere place hne).trans hnode⟩

/-- A change of what the root holds changes nothing: the root is a directory. -/
theorem ne_root (h : ChangesFile loc t t') : loc ≠ [] := by
  rintro rfl
  obtain ⟨_, _, heq, _⟩ := h.left .directory rfl
  cases heq

end ChangesFile

/-! ## Elementary changes -/

theorem changesFile_erase (t : FileTree) (hloc : loc ≠ []) : ChangesFile loc t (t.erase loc) := by
  refine ⟨rfl, Nat.le_refl _, fun l hl => by rw [node?_erase t hloc, if_neg hl], ?_⟩
  intro node hnode
  rw [node?_erase t hloc, if_pos rfl] at hnode
  cases hnode

/-- A file that stands at a location may be rewritten. -/
theorem changesFile_put {number : Nat} {old : ByteArray} (hold : t.node? loc = some (.file number old))
    (content : ByteArray) : ChangesFile loc t (t.put loc (.file number content)) := by
  have hloc : loc ≠ [] := by
    rintro rfl
    cases hold
  refine ⟨rfl, Nat.le_refl _, fun l hl => by rw [node?_put t hloc, if_neg hl], ?_⟩
  intro node hnode
  rw [node?_put t hloc, if_pos rfl] at hnode
  exact ⟨number, content, (Option.some.inj hnode).symm, .inr ⟨old, hold⟩⟩

/-- A file may be made where nothing stands, with the next number. -/
theorem changesFile_make (hnone : t.node? loc = none) (content : ByteArray) :
    ChangesFile loc t
      { t.put loc (.file t.nextNumber content) with nextNumber := t.nextNumber + 1 } := by
  have hloc : loc ≠ [] := by
    rintro rfl
    cases hnone
  refine ⟨rfl, Nat.le_succ _, fun l hl => ?_, fun node hnode => ?_⟩
  · rw [node?_nextNumber, node?_put t hloc, if_neg hl]
  · rw [node?_nextNumber, node?_put t hloc, if_pos rfl] at hnode
    exact ⟨_, _, (Option.some.inj hnode).symm, .inl ⟨Nat.le_refl _, Nat.lt_succ_self _⟩⟩

/-- A file that is opened for writing is made at a free place, or stands there already. -/
theorem openFor_cases {keep : Bool} {number : Nat}
    (h : t.openFor keep text = .ok (loc, number, t')) :
    t.locate true text = .ok loc ∧
      ((t.node? loc = none ∧ number = t.nextNumber ∧
          t' = { t.put loc (.file number .empty) with nextNumber := t.nextNumber + 1 }) ∨
        ∃ content, t.node? loc = some (.file number content) ∧
          t' = if keep then t else t.put loc (.file number .empty)) := by
  obtain ⟨target, hloc, h⟩ := Result.bind_eq_ok_iff.mp h
  split at h
  · next hnone =>
    cases h
    exact ⟨hloc, .inl ⟨hnone, rfl, rfl⟩⟩
  · next n content hfile =>
    cases h
    refine ⟨hloc, .inr ⟨content, hfile, ?_⟩⟩
    cases keep <;> rfl
  · cases h
  · cases h

/-- Opening a file for writing changes that file alone, and it stands there afterwards. -/
theorem openFor_ok {keep : Bool} {number : Nat} (h : t.openFor keep text = .ok (loc, number, t')) :
    t.locate true text = .ok loc ∧ ChangesFile loc t t' ∧
      ∃ content, t'.node? loc = some (.file number content) := by
  obtain ⟨hloc, ⟨hnone, rfl, rfl⟩ | ⟨content, hfile, rfl⟩⟩ := openFor_cases h
  · have hmade := changesFile_make hnone .empty
    refine ⟨hloc, hmade, .empty, ?_⟩
    rw [node?_nextNumber, node?_put t hmade.ne_root, if_pos rfl]
  · have hput := changesFile_put hfile .empty
    cases keep with
    | true =>
      have hfixed : t.fixed? loc = none := by simp [fixed?, hfile, Node.isFile]
      exact ⟨hloc, .refl hfixed, content, hfile⟩
    | false =>
      refine ⟨hloc, hput, .empty, ?_⟩
      rw [if_neg Bool.false_ne_true, node?_put t hput.ne_root, if_pos rfl]

/-- A file that is opened for new content is empty. -/
theorem openFor_empty {number : Nat} (h : t.openFor false text = .ok (loc, number, t')) :
    t'.node? loc = some (.file number .empty) := by
  have hroot := (openFor_ok h).2.1.ne_root
  obtain ⟨-, ⟨-, rfl, rfl⟩ | ⟨content, -, rfl⟩⟩ := openFor_cases h
  · rw [node?_nextNumber, node?_put t hroot, if_pos rfl]
  · rw [if_neg Bool.false_ne_true, node?_put t hroot, if_pos rfl]

/-- No directory and no link is opened for writing. -/
theorem fixed?_eq_none_of_openFor {keep : Bool} {number : Nat}
    (h : t.openFor keep text = .ok (loc, number, t')) : t.fixed? loc = none := by
  obtain ⟨_, ⟨hnone, _, _⟩ | ⟨content, hfile, _⟩⟩ := openFor_cases h
  · simp [fixed?, hnone]
  · simp [fixed?, hfile, Node.isFile]

/-- Where nothing or a file stands, a file can be opened for writing. -/
theorem exists_openFor_ok (keep : Bool) (hlocate : t.locate true text = .ok loc)
    (hbefore : t.fixed? loc = none) : ∃ number t', t.openFor keep text = .ok (loc, number, t') := by
  unfold openFor
  rw [hlocate, Result.ok_bind]
  cases hnode : t.node? loc with
  | none => exact ⟨_, _, rfl⟩
  | some node =>
    have hfile := fixed?_eq_none_iff.mp hbefore node hnode
    cases node with
    | directory | link => cases hfile
    | file number content => exact ⟨_, _, rfl⟩

/-- A text that is written replaces the content of one file. -/
theorem write_ok {content : ByteArray} (h : t.write text content = .ok t') :
    ∃ loc number, t.locate true text = .ok loc ∧ ChangesFile loc t t' ∧
      t'.node? loc = some (.file number content) := by
  obtain ⟨⟨loc, number, t₁⟩, hopen, h⟩ := Result.bind_eq_ok_iff.mp h
  cases h
  obtain ⟨hloc, hopened, old, hold⟩ := openFor_ok hopen
  refine ⟨loc, number, hloc, hopened.trans (changesFile_put hold content), ?_⟩
  rw [node?_put t₁ hopened.ne_root, if_pos rfl]

/-- A file can be written where one stands. -/
theorem write_ne_error {number : Nat} {old : ByteArray} (hlocate : t.locate true text = .ok loc)
    (hfile : t.node? loc = some (.file number old)) (content : ByteArray) (fault : AccessFault) :
    t.write text content ≠ .error fault := by
  unfold write openFor
  rw [hlocate, Result.ok_bind, hfile]
  exact nofun

/-- A file or a link that stands at the end of a path is unlinked. -/
theorem unlink_of_status {node : Node} (h : t.status false text = .ok (loc, node))
    (hnode : node ≠ .directory) : t.unlink text = .ok (t.erase loc) := by
  rw [unlink, h, Result.ok_bind]
  cases node with
  | directory => exact absurd rfl hnode
  | file | link => rfl

/-- What is unlinked stood at the location that its path denotes and stands there no more. -/
theorem unlink_ok (h : t.unlink text = .ok t') :
    ∃ loc, t.locate false text = .ok loc ∧ ChangesFile loc t t' ∧ t'.node? loc = none := by
  obtain ⟨⟨loc, node⟩, hstatus, h⟩ := Result.bind_eq_ok_iff.mp h
  split at h
  · cases h
  · next hdirectory heq =>
    cases heq
    cases h
    have hroot := ne_root_of_status hstatus hdirectory
    refine ⟨loc, (status_eq_ok_iff.mp hstatus).1, changesFile_erase t hroot, ?_⟩
    rw [node?_erase t hroot, if_pos rfl]

/-! ## The content of a numbered file -/

/-- A node with its content replaced if it is the file with a number. -/
def withContent (number : Nat) (content : ByteArray) : Node → Node
  | .file n old => .file n (if n = number then content else old)
  | node => node

theorem nodes_setContent (t : FileTree) (number : Nat) (content : ByteArray) :
    (t.setContent number content).nodes =
      t.nodes.map fun entry => (entry.1, withContent number content entry.2) := by
  unfold setContent
  refine List.map_congr_left fun entry _ => ?_
  obtain ⟨k, node⟩ := entry
  cases node <;> rfl

theorem node?_setContent (t : FileTree) (number : Nat) (content : ByteArray) (l : Location) :
    (t.setContent number content).node? l = (t.node? l).map (withContent number content) := by
  by_cases hroot : l = []
  · simp [hroot, withContent]
  · simp only [node?, hroot, if_false, nodes_setContent]
    induction t.nodes with
    | nil => rfl
    | cons entry rest ih =>
      rw [List.map_cons, lookup_cons_eq, lookup_cons_eq, ih]
      split <;> rfl

/-- New content of a file leaves the directories and links alone. -/
theorem sameFrame_setContent (t : FileTree) (number : Nat) (content : ByteArray) :
    SameFrame t (t.setContent number content) := by
  refine ⟨rfl, fun l => ?_⟩
  unfold fixed?
  rw [node?_setContent]
  cases t.node? l with
  | none => rfl
  | some node => cases node <;> rfl

/-- What is put into a file that has been opened stands at the path it was opened by. -/
theorem status_setContent_of_openFor {keep : Bool} {number : Nat}
    (h : t.openFor keep text = .ok (loc, number, t')) (content : ByteArray) :
    (t'.setContent number content).status true text = .ok (loc, .file number content) := by
  obtain ⟨hloc, hopened, old, hold⟩ := openFor_ok h
  have hframe := (hopened.sameFrame (fixed?_eq_none_of_openFor h)).trans
    (sameFrame_setContent t' number content)
  refine status_eq_ok_iff.mpr ⟨hframe.locate hloc, ?_⟩
  rw [node?_setContent, hold]
  simp [withContent]

end ReleasePackaging.FileTree
