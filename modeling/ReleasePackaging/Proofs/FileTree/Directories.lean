import Mathlib.Data.List.Induction
import ReleasePackaging.Proofs.Action.Result
import ReleasePackaging.Proofs.FileTree.Growth
import ReleasePackaging.Proofs.Path.Text

/-!
# Directories that are made

In a tree that is grown from its root, nothing stands below a location at which there is no directory.
A path leads through its parent: where the parent denotes a directory, the path leads to an entry of
it.
-/
namespace ReleasePackaging

namespace FileTree

variable {t t' : FileTree} {follow : Bool} {links : Nat} {loc dir target : Location} {text : String}
  {name : String} {rest : List String} {p : Path}

/-! ## Grown trees -/

/-- Everything stands in a directory. -/
def IsGrown (t : FileTree) : Prop :=
  ∀ dir name, t.node? (dir ++ [name]) ≠ none → t.node? dir = some .directory

namespace IsGrown

/-- It is enough that every node that is kept stands in a directory. -/
theorem of_nodes
    (h : ∀ entry ∈ t.nodes, t.node? entry.1.dropLast = some .directory) : t.IsGrown := by
  intro dir name hstands
  rw [node?, if_neg (by simp)] at hstands
  obtain ⟨node, hnode⟩ := Option.ne_none_iff_exists'.mp hstands
  obtain ⟨before, after, hnodes, -⟩ := List.lookup_eq_some_iff.mp hnode
  have hdir := h (dir ++ [name], node) (by simp [hnodes])
  rwa [List.dropLast_concat] at hdir

/-- Nothing stands below what is no directory. -/
theorem node?_below (h : t.IsGrown) (hloc : t.node? loc ≠ some .directory) :
    ∀ l, loc <+: l → l ≠ loc → t.node? l = none := by
  rintro _ ⟨rest, rfl⟩
  induction rest using List.reverseRecOn with
  | nil => exact fun hne => absurd (List.append_nil loc) hne
  | append_singleton rest name ih =>
    intro _
    refine Classical.byContradiction fun hstands => ?_
    rw [← List.append_assoc] at hstands
    have hdir := h _ _ hstands
    by_cases hrest : rest = []
    · rw [hrest, List.append_nil] at hdir
      exact hloc hdir
    · rw [ih (by simpa using hrest)] at hdir
      cases hdir

theorem dropLast (h : t.IsGrown) (hloc : t.node? loc = some .directory) :
    t.node? loc.dropLast = some .directory := by
  induction loc using List.reverseRecOn with
  | nil => rfl
  | append_singleton dir name =>
    rw [List.dropLast_concat]
    exact h dir name (by simp [hloc])

/-- What is no directory, or an empty one, can be taken away. -/
theorem erase (h : t.IsGrown) (hloc : loc ≠ [])
    (hempty : ∀ l, loc <+: l → l ≠ loc → t.node? l = none) : (t.erase loc).IsGrown := by
  intro dir name hstands
  rw [node?_erase t hloc] at hstands ⊢
  have hbefore : t.node? (dir ++ [name]) ≠ none := fun hnone => hstands (by simp [hnone])
  have hne : dir ≠ loc := by
    rintro rfl
    exact hbefore (hempty _ (List.prefix_append _ _) (by simp))
  rw [if_neg hne]
  exact h dir name hbefore

theorem thin (h : t.IsGrown) (loc : Location) (staying : List Location) :
    (t.thin loc staying).IsGrown := by
  intro dir name hstands
  rw [node?_thin] at hstands ⊢
  have hbefore : t.node? (dir ++ [name]) ≠ none := fun hnone => hstands (by simp [hnone])
  have hkept : ¬((loc <+: dir ∧ dir ≠ loc) ∧ ∀ stay ∈ staying, ¬dir <+: stay) := by
    rintro ⟨⟨hbelow, hne⟩, hgone⟩
    refine hstands (if_pos ⟨⟨hbelow.trans (List.prefix_append _ _), ?_⟩, fun stay hstay hleads =>
      hgone stay hstay ((List.prefix_append _ _).trans hleads)⟩)
    rintro rfl
    exact hne (hbelow.eq_of_length_le (by simp)).symm
  rw [if_neg hkept]
  exact h dir name hbefore

/-- A directory can be made in a directory. -/
theorem put (h : t.IsGrown) (hdir : t.node? dir = some .directory)
    (hnone : t.node? (dir ++ [name]) = none) : (t.put (dir ++ [name]) .directory).IsGrown := by
  intro d n hstands
  have hext := Extends.put hnone .directory
  rw [node?_put t (by simp)] at hstands
  split at hstands
  · next heq =>
    obtain ⟨rfl, -⟩ := List.append_inj' heq rfl
    exact hext.keeps _ _ hdir
  · exact hext.keeps _ _ (h d n hstands)

end IsGrown

/-- Where the last step leads: a step that stays or goes up leads to a directory, and any other one to
an entry of a directory by its name. -/
theorem Leads.last (h : Leads t false links loc rest target) (hrest : rest ≠ []) :
    ((rest.getLast? = some "." ∨ rest.getLast? = some "..") ∧
        (t.IsGrown → t.node? target = some .directory)) ∨
      ∃ dir step, rest.getLast? = some step ∧ IsEntry step ∧ target = dir ++ [step] ∧
        t.node? dir = some .directory := by
  induction h with
  | stop => exact absurd rfl hrest
  | @stay _ _ _ rest hdir next ih =>
    by_cases hmore : rest = []
    · subst hmore
      cases next
      exact .inl ⟨.inl rfl, fun _ => hdir⟩
    · rw [List.getLast?_cons_of_ne_nil hmore]
      exact ih hmore
  | @up _ _ _ rest hdir next ih =>
    by_cases hmore : rest = []
    · subst hmore
      cases next
      exact .inl ⟨.inr rfl, fun hgrown => hgrown.dropLast hdir⟩
    · rw [List.getLast?_cons_of_ne_nil hmore]
      exact ih hmore
  | @enter _ _ _ _ rest hdir hstep _ next ih =>
    by_cases hmore : rest = []
    · subst hmore
      cases next
      exact .inr ⟨_, _, rfl, hstep, rfl, hdir⟩
    · rw [List.getLast?_cons_of_ne_nil hmore]
      exact ih hmore
  | keepLink hdir hstep => exact .inr ⟨_, _, rfl, hstep, rfl, hdir⟩
  | @followLink _ _ _ step text rest _ _ _ _ hfollow _ ih =>
    have hmore : rest ≠ [] := by
      rintro rfl
      cases hfollow
    have hlast : (stepsOf text ++ rest).getLast? = rest.getLast? := by
      rw [List.getLast?_append, Option.or_of_isSome (by simpa using hmore)]
    rw [List.getLast?_cons_of_ne_nil hmore, ← hlast]
    exact ih (by simp [hmore])

/-! ## Questions about paths -/

theorem locate_eq_null_iff (t : FileTree) (follow : Bool) :
    t.locate follow text = .error .nullCharacter ↔ '\x00' ∈ text.toList := by
  unfold locate
  by_cases hnull : '\x00' ∈ text.toList
  · simp [hnull]
  · simp only [hnull, List.contains_eq_mem, decide_false, Bool.false_eq_true, if_false, iff_false]
    split
    · exact nofun
    · split
      · exact nofun
      · split <;> exact nofun

theorem status_eq_null_iff (t : FileTree) (follow : Bool) :
    t.status follow text = .error .nullCharacter ↔ '\x00' ∈ text.toList := by
  rw [← locate_eq_null_iff t follow, status, Result.bind_eq_error_iff]
  refine or_iff_left ?_
  rintro ⟨loc, -, h⟩
  split at h <;> cases h

theorem null_not_mem_of_status {node : Node} (h : t.status follow text = .ok (loc, node)) :
    '\x00' ∉ text.toList := by
  rw [← status_eq_null_iff t follow, h]
  exact nofun

/-- A question is answered with yes exactly if something that it is true of stands at the path. -/
theorem ask_eq_true_iff {question : Node → Bool} :
    t.ask follow question p = .ok true ↔
      ∃ loc node, t.status follow p.toString = .ok (loc, node) ∧ question node = true := by
  unfold ask
  cases t.status follow p.toString with
  | ok found =>
    obtain ⟨loc, node⟩ := found
    simp
  | error fault =>
    simp only [reduceCtorEq, false_and, exists_false, iff_false]
    split <;> simp

/-- A directory is found at a path exactly if the path leads to one. -/
theorem isDirectory_eq_true_iff :
    t.isDirectory p = .ok true ↔ ∃ loc, t.status true p.toString = .ok (loc, .directory) := by
  refine ask_eq_true_iff.trans ⟨?_, ?_⟩
  · rintro ⟨loc, node, hstatus, hnode⟩
    cases node with
    | directory => exact ⟨loc, hstatus⟩
    | file | link => cases hnode
  · rintro ⟨loc, hstatus⟩
    exact ⟨loc, .directory, hstatus, rfl⟩

/-- Where a question is answered with no, it is false of what stands at the path. -/
theorem eq_false_of_ask {question : Node → Bool} {node : Node}
    (h : t.ask follow question p = .ok false)
    (hstatus : t.status follow p.toString = .ok (loc, node)) : question node = false := by
  rw [ask, hstatus] at h
  exact Except.ok.inj h

/-- A question about a text that is no path is answered with no. -/
theorem plain_of_ask {question : Node → Bool} {fault : AccessFault}
    (h : t.ask follow question p = .error fault) :
    fault ≠ .nullCharacter ∧ '\x00' ∉ p.toString.toList := by
  unfold ask at h
  split at h
  · cases h
  · next cause hstatus =>
    split at h
    · cases h
    · next habsent =>
      cases h
      have hne : fault ≠ .nullCharacter := by
        rintro rfl
        exact habsent rfl
      rw [← status_eq_null_iff t follow, hstatus, Except.error.injEq]
      exact ⟨hne, hne⟩

/-! ## Paths through their parents -/

/-- The steps of a path lead where those of its text lead. -/
theorem leads_components {start : Location}
    (h : Leads t follow links start (stepsOf p.toString) loc) :
    Leads t follow links start p.components loc := by
  rw [stepsOf_toString] at h
  split at h
  · next hnone =>
    rw [hnone]
    exact h.of_stay
  · exact h

theorem stepsOf_toString_ne_nil (p : Path) : stepsOf p.toString ≠ [] := by
  rw [stepsOf_toString]
  split
  · exact List.cons_ne_nil _ _
  · assumption

theorem toString_ne_empty (p : Path) : p.toString ≠ "" := by
  intro hempty
  refine stepsOf_toString_ne_nil p ?_
  rw [hempty]
  decide

theorem components_eq_of_ne_nil (h : p.components ≠ []) :
    p.components = p.parent.components ++ [p.name] := by
  rw [Path.name, List.getLastD_eq_getLast?, List.getLast?_eq_some_getLast h]
  exact (List.dropLast_concat_getLast h).symm

def entryOf (dir : Location) (name : String) : Location :=
  if name = ".." then dir.dropLast else dir ++ [name]

theorem walk_last (links : Nat) (hdir : t.node? dir = some .directory) (hdot : name ≠ ".") :
    t.walk false links dir [name] = .ok (entryOf dir name) ∨
      t.walk false links dir [name] = .error .nameTooLong := by
  unfold entryOf
  by_cases hdots : name = ".."
  · rw [hdots, walk_up hdir, walk_nil]
    exact .inl rfl
  · rw [if_neg hdots]
    by_cases hlong : nameLimit < name.utf8ByteSize
    · exact .inr (walk_tooLong hdir hdot hdots hlong)
    · have hstep : IsEntry name := ⟨hdot, hdots, Nat.le_of_not_lt hlong⟩
      by_cases hlink : ∃ text, t.node? (dir ++ [name]) = some (.link text)
      · obtain ⟨text, hlink⟩ := hlink
        exact .inl (walk_keepLink hdir hstep hlink)
      · exact .inl (by rw [walk_enter hdir hstep (not_exists.mp hlink), walk_nil])

/-- Where the parent of a path denotes a directory, the path leads to an entry of it, or is refused for
another reason than that something is missing. -/
theorem locate_of_parent (hname : p.components ≠ [])
    (hparent : t.status true p.parent.toString = .ok (dir, .directory)) :
    t.locate false p.toString = .ok (entryOf dir p.name) ∨
      ∃ fault, t.locate false p.toString = .error fault ∧
        ∀ text, fault ≠ .system .noEntry text := by
  obtain ⟨hlocate, hdir⟩ := status_eq_ok_iff.mp hparent
  have hleads := leads_components (leads_of_locate hlocate)
  have hstart : startOf t.workDir p.parent.toString = startOf t.workDir p.toString := by
    rw [startOf_toString, startOf_toString]
    rfl
  rw [hstart] at hleads
  obtain ⟨left, hwalk⟩ := hleads.walk_append (List.cons_ne_nil p.name []) false
  have hsteps : stepsOf p.toString = p.parent.components ++ [p.name] := by
    rw [stepsOf_toString, if_neg hname, ← components_eq_of_ne_nil hname]
  have hdot : p.name ≠ "." := by
    have hmem : p.name ∈ p.components := by
      rw [components_eq_of_ne_nil hname]
      simp
    exact (p.areNames _ hmem).ne_dot
  rcases locate_cases t (toString_ne_empty p) with ⟨fault, hfault, hrefused⟩ | hlocate
  · exact .inr ⟨fault, hrefused false, hfault⟩
  · rw [hlocate, hsteps, hwalk]
    rcases walk_last left hdir hdot with hlast | hlast
    · exact .inl (by rw [hlast])
    · exact .inr ⟨_, by rw [hlast], by simp⟩

end FileTree

end ReleasePackaging
