import ReleasePackaging.Proofs.FileTree.Frame

/-!
# Where steps lead

A walk that succeeds is described step by step: a step stays, goes up, enters what stands below, or
follows a link. Only directories and links decide where steps lead, so in trees with the same frame
they lead to the same locations. A name below a directory that is reached leads below it.
-/
namespace ReleasePackaging.FileTree

/-- A step that names an entry of a directory. -/
structure IsEntry (step : String) : Prop where
  ne_dot : step ≠ "."
  ne_dots : step ≠ ".."
  fits : step.utf8ByteSize ≤ nameLimit

variable {t : FileTree} {follow : Bool} {links : Nat} {loc target : Location} {step : String}
  {rest : List String}

/-! ## One step of a walk -/

@[simp] theorem walk_nil (t : FileTree) (follow : Bool) (links : Nat) (loc : Location) :
    t.walk follow links loc [] = .ok loc := by
  rw [walk]

theorem walk_stay (hdir : t.node? loc = some .directory) :
    t.walk follow links loc ("." :: rest) = t.walk follow links loc rest := by
  rw [walk, hdir]
  rfl

theorem walk_up (hdir : t.node? loc = some .directory) :
    t.walk follow links loc (".." :: rest) = t.walk follow links loc.dropLast rest := by
  rw [walk, hdir]
  rfl

theorem walk_missing (hnone : t.node? loc = none) :
    t.walk follow links loc (step :: rest) = .error .noEntry := by
  rw [walk, hnone]

theorem walk_file {number : Nat} {content : ByteArray}
    (hfile : t.node? loc = some (.file number content)) :
    t.walk follow links loc (step :: rest) = .error .notDirectory := by
  rw [walk, hfile]

theorem walk_tooLong (hdir : t.node? loc = some .directory) (hdot : step ≠ ".") (hdots : step ≠ "..")
    (hlong : nameLimit < step.utf8ByteSize) :
    t.walk follow links loc (step :: rest) = .error .nameTooLong := by
  rw [walk, hdir]
  simp [hdot, hdots, hlong]

/-- A step to where no link stands goes on from there, also if nothing stands there. -/
theorem walk_enter (hdir : t.node? loc = some .directory) (hstep : IsEntry step)
    (hlink : ∀ text, t.node? (loc ++ [step]) ≠ some (.link text)) :
    t.walk follow links loc (step :: rest) = t.walk follow links (loc ++ [step]) rest := by
  rw [walk, hdir]
  simp only [hstep.ne_dot, hstep.ne_dots, Nat.not_lt.mpr hstep.fits, if_false]
  split
  · next text h => exact absurd h (hlink text)
  · rfl
  · next h =>
    cases rest with
    | nil => simp
    | cons next rest =>
      rw [walk, h]
      rfl

/-- A text that can be a path denotes what its steps lead to. -/
theorem locate_of_plain {text : String} (hplain : text ≠ "" ∧ '\x00' ∉ text.toList)
    (hfits : text.utf8ByteSize ≤ pathLimit) :
    t.locate follow text =
      match t.walk follow linkLimit (startOf t.workDir text) (stepsOf text) with
      | .ok loc => .ok loc
      | .error cause => .error (.system cause text) := by
  have hlong : ¬pathLimit < text.utf8ByteSize := Nat.not_lt.mpr hfits
  cases hwalk : t.walk follow linkLimit (startOf t.workDir text) (stepsOf text) <;>
    simp [locate, hplain.1, hplain.2, hlong, hwalk]

/-- A text is refused as a path for what it is, or it denotes what its steps lead to. -/
theorem locate_cases (t : FileTree) {text : String} (hempty : text ≠ "") :
    (∃ fault, (∀ other, fault ≠ .system .noEntry other) ∧
        ∀ follow, t.locate follow text = .error fault) ∨
      ∀ follow, t.locate follow text =
        match t.walk follow linkLimit (startOf t.workDir text) (stepsOf text) with
        | .ok loc => .ok loc
        | .error cause => .error (.system cause text) := by
  by_cases hnull : '\x00' ∈ text.toList
  · exact .inl ⟨.nullCharacter, by simp, fun _ => by simp [locate, hnull]⟩
  · by_cases hlong : pathLimit < text.utf8ByteSize
    · exact .inl ⟨.system .nameTooLong text, by simp, fun _ => by simp [locate, hnull, hempty, hlong]⟩
    · exact .inr fun _ => locate_of_plain ⟨hempty, hnull⟩ (Nat.le_of_not_lt hlong)

/-- In a tree that is seen from its root, the steps of a text start at the root. -/
theorem locate_eq_walk {text : String} {steps : List String} (hwork : t.workDir = [])
    (hsteps : stepsOf text = steps) (hplain : text ≠ "" ∧ '\x00' ∉ text.toList)
    (hfits : text.utf8ByteSize ≤ pathLimit) :
    t.locate follow text =
      match t.walk follow linkLimit [] steps with
      | .ok loc => .ok loc
      | .error cause => .error (.system cause text) := by
  have hstart : startOf t.workDir text = [] := by
    rw [hwork]
    exact ite_self []
  rw [locate_of_plain hplain hfits, hstart, hsteps]

/-- A name in the root directory, where no link stands, is the location of that entry. -/
theorem locate_entry (hwork : t.workDir = []) (hstep : IsEntry step)
    (hsteps : stepsOf step = [step]) (hplain : step ≠ "" ∧ '\x00' ∉ step.toList)
    (hlink : ∀ text, t.node? [step] ≠ some (.link text)) : t.locate follow step = .ok [step] := by
  have hlimits : nameLimit ≤ pathLimit := by decide
  rw [locate_eq_walk hwork hsteps hplain (Nat.le_trans hstep.fits hlimits),
    walk_enter rfl hstep hlink, walk_nil]
  rfl

theorem walk_keepLink {text : String} (hdir : t.node? loc = some .directory) (hstep : IsEntry step)
    (hlink : t.node? (loc ++ [step]) = some (.link text)) :
    t.walk false links loc [step] = .ok (loc ++ [step]) := by
  rw [walk, hdir]
  simp [hstep.ne_dot, hstep.ne_dots, Nat.not_lt.mpr hstep.fits, hlink]

theorem walk_followLink {text : String} (hdir : t.node? loc = some .directory) (hstep : IsEntry step)
    (hlink : t.node? (loc ++ [step]) = some (.link text)) (htext : text ≠ "")
    (hfollow : (rest.isEmpty && !follow) = false) :
    t.walk follow (links + 1) loc (step :: rest) =
      t.walk follow links (startOf loc text) (stepsOf text ++ rest) := by
  rw [walk, hdir]
  simp [hstep.ne_dot, hstep.ne_dots, Nat.not_lt.mpr hstep.fits, hlink, htext, hfollow]

/-! ## Walks that succeed -/

/-- Steps lead from a location to a target, with a number of links that may be followed. -/
inductive Leads (t : FileTree) (follow : Bool) : Nat → Location → List String → Location → Prop where
  | stop (links : Nat) (loc : Location) : Leads t follow links loc [] loc
  | stay {links : Nat} {loc target : Location} {rest : List String}
      (hdir : t.node? loc = some .directory) (next : Leads t follow links loc rest target) :
      Leads t follow links loc ("." :: rest) target
  | up {links : Nat} {loc target : Location} {rest : List String}
      (hdir : t.node? loc = some .directory) (next : Leads t follow links loc.dropLast rest target) :
      Leads t follow links loc (".." :: rest) target
  | enter {links : Nat} {loc target : Location} {step : String} {rest : List String}
      (hdir : t.node? loc = some .directory) (hstep : IsEntry step)
      (hlink : ∀ text, t.node? (loc ++ [step]) ≠ some (.link text))
      (next : Leads t follow links (loc ++ [step]) rest target) :
      Leads t follow links loc (step :: rest) target
  | keepLink {links : Nat} {loc : Location} {step text : String}
      (hdir : t.node? loc = some .directory) (hstep : IsEntry step)
      (hlink : t.node? (loc ++ [step]) = some (.link text)) (hfollow : follow = false) :
      Leads t follow links loc [step] (loc ++ [step])
  | followLink {links : Nat} {loc target : Location} {step text : String} {rest : List String}
      (hdir : t.node? loc = some .directory) (hstep : IsEntry step)
      (hlink : t.node? (loc ++ [step]) = some (.link text)) (htext : text ≠ "")
      (hfollow : (rest.isEmpty && !follow) = false)
      (next : Leads t follow links (startOf loc text) (stepsOf text ++ rest) target) :
      Leads t follow (links + 1) loc (step :: rest) target

theorem Leads.walk (h : Leads t follow links loc rest target) :
    t.walk follow links loc rest = .ok target := by
  induction h with
  | stop links loc => exact walk_nil t follow links loc
  | stay hdir _ ih => rw [walk_stay hdir, ih]
  | up hdir _ ih => rw [walk_up hdir, ih]
  | enter hdir hstep hlink _ ih => rw [walk_enter hdir hstep hlink, ih]
  | keepLink hdir hstep hlink hfollow => rw [hfollow, walk_keepLink hdir hstep hlink]
  | followLink hdir hstep hlink htext hfollow _ ih =>
    rw [walk_followLink hdir hstep hlink htext hfollow, ih]

theorem leads_of_walk (h : t.walk follow links loc rest = .ok target) :
    Leads t follow links loc rest target := by
  fun_induction FileTree.walk t follow links loc rest with
  | case1 => exact Except.ok.inj h ▸ .stop _ _
  | case3 _ _ _ hdir ih => exact .stay hdir (ih h)
  | case4 _ _ _ hdir _ ih => exact .up hdir (ih h)
  | case6 _ _ _ _ hdir hdot hdots hfits text hlink hkeep =>
    simp only [Bool.and_eq_true, List.isEmpty_iff, Bool.not_eq_eq_eq_not, Bool.not_true] at hkeep
    obtain ⟨rfl, hfollow⟩ := hkeep
    exact Except.ok.inj h ▸ .keepLink hdir ⟨hdot, hdots, Nat.le_of_not_lt hfits⟩ hlink hfollow
  | case9 _ _ _ hdir hdot hdots hfits text hlink hfollow _ htext ih =>
    exact .followLink hdir ⟨hdot, hdots, Nat.le_of_not_lt hfits⟩ hlink htext
      (by simpa using hfollow) (ih h)
  | case10 _ _ _ _ hdir hdot hdots hfits node hlink hnode ih =>
    refine .enter hdir ⟨hdot, hdots, Nat.le_of_not_lt hfits⟩ (fun text heq => ?_) (ih h)
    exact hlink text (Option.some.inj (hnode.symm.trans heq))
  | case11 _ _ _ rest hdir hdot hdots hfits hnone hrest =>
    obtain rfl : rest = [] := by simpa using hrest
    exact Except.ok.inj h ▸ .enter hdir ⟨hdot, hdots, Nat.le_of_not_lt hfits⟩ (by simp [hnone])
      (.stop _ _)
  | case2 | case5 | case7 | case8 | case12 | case13 => cases h

theorem leads_of_locate {text : String} (h : t.locate follow text = .ok target) :
    Leads t follow linkLimit (startOf t.workDir text) (stepsOf text) target := by
  unfold locate at h
  split at h
  · cases h
  · split at h
    · cases h
    · split at h
      · cases h
      · split at h
        · next hwalk => exact Except.ok.inj h ▸ leads_of_walk hwalk
        · cases h

/-- A text that denotes a location at all denotes every location that its steps lead to. -/
theorem locate_of_leads {t' : FileTree} {follow' : Bool} {target' : Location} {text : String}
    (h : t.locate follow text = .ok target)
    (hleads : Leads t' follow' linkLimit (startOf t'.workDir text) (stepsOf text) target') :
    t'.locate follow' text = .ok target' := by
  unfold locate at h ⊢
  split at h
  · cases h
  · split at h
    · cases h
    · split at h
      · cases h
      · next hnull hempty hlong =>
        simp only [hnull, hempty, hlong, if_false, Bool.false_eq_true, hleads.walk]

/-- What stands at a path stands at the location that the path denotes. -/
theorem status_eq_ok_iff {text : String} {node : Node} :
    t.status follow text = .ok (loc, node) ↔
      t.locate follow text = .ok loc ∧ t.node? loc = some node := by
  unfold status
  cases t.locate follow text with
  | error fault => simp [bind, Except.bind]
  | ok place =>
    simp only [bind, Except.bind, Except.ok.injEq]
    constructor
    · intro h
      split at h
      · next hnode =>
        obtain ⟨rfl, rfl⟩ := h
        exact ⟨rfl, hnode⟩
      · cases h
    · rintro ⟨rfl, hnode⟩
      rw [hnode]

/-- What is no directory does not stand at the root. -/
theorem ne_root_of_status {text : String} {node : Node} (h : t.status follow text = .ok (loc, node))
    (hnode : node ≠ .directory) : loc ≠ [] := by
  rintro rfl
  exact hnode (Option.some.inj (status_eq_ok_iff.mp h).2).symm

/-- A regular file is found at a path that is said to lead to one. -/
theorem exists_status_of_isFile {p : Path} (h : t.isFile p = .ok true) :
    ∃ loc number content, t.status true p.toString = .ok (loc, .file number content) := by
  unfold isFile ask at h
  split at h
  · next loc node hstatus =>
    cases node with
    | directory | link => cases h
    | file number content => exact ⟨loc, number, content, hstatus⟩
  · split at h <;> cases h

/-- A regular file that is found can be read. -/
theorem read_of_status {text : String} {number : Nat} {content : ByteArray}
    (h : t.status true text = .ok (loc, .file number content)) : t.read text = .ok content := by
  rw [read, h]
  rfl

/-- Only a regular file is read. -/
theorem exists_status_of_read {text : String} {content : ByteArray} (h : t.read text = .ok content) :
    ∃ loc number, t.status true text = .ok (loc, .file number content) := by
  unfold read at h
  cases hstatus : t.status true text with
  | error fault =>
    rw [hstatus] at h
    cases h
  | ok found =>
    obtain ⟨loc, node⟩ := found
    rw [hstatus] at h
    cases node with
    | directory | link => cases h
    | file number other =>
      obtain rfl : other = content := Except.ok.inj h
      exact ⟨loc, number, rfl⟩

/-- A step that stays can be left out. -/
theorem Leads.of_stay (h : Leads t follow links loc ("." :: rest) target) :
    Leads t follow links loc rest target := by
  generalize hdot : "." :: rest = steps at h
  cases h with
  | stop => cases hdot
  | stay _ next => exact (List.cons.inj hdot).2 ▸ next
  | up => exact absurd (List.cons.inj hdot).1 (by decide)
  | enter _ hstep => exact absurd (List.cons.inj hdot).1.symm hstep.ne_dot
  | keepLink _ hstep => exact absurd (List.cons.inj hdot).1.symm hstep.ne_dot
  | followLink _ hstep => exact absurd (List.cons.inj hdot).1.symm hstep.ne_dot

/-- Where links are followed to a location, keeping the last one leads there or to a link. -/
theorem Leads.keep (h : Leads t true links loc rest target) :
    Leads t false links loc rest target ∨
      ∃ l text, Leads t false links loc rest l ∧ t.node? l = some (.link text) := by
  induction h with
  | stop => exact .inl (.stop _ _)
  | stay hdir _ ih =>
    rcases ih with next | ⟨l, text, next, hlink⟩
    · exact .inl (.stay hdir next)
    · exact .inr ⟨l, text, .stay hdir next, hlink⟩
  | up hdir _ ih =>
    rcases ih with next | ⟨l, text, next, hlink⟩
    · exact .inl (.up hdir next)
    · exact .inr ⟨l, text, .up hdir next, hlink⟩
  | enter hdir hstep hnolink _ ih =>
    rcases ih with next | ⟨l, text, next, hlink⟩
    · exact .inl (.enter hdir hstep hnolink next)
    · exact .inr ⟨l, text, .enter hdir hstep hnolink next, hlink⟩
  | keepLink _ _ _ hfollow => cases hfollow
  | @followLink links loc target step text rest hdir hstep hlink htext _ _ ih =>
    by_cases hrest : rest = []
    · subst hrest
      exact .inr ⟨loc ++ [step], text, .keepLink hdir hstep hlink rfl, hlink⟩
    · have hfollow : (rest.isEmpty && !false) = false := by simp [hrest]
      rcases ih with next | ⟨l, other, next, hother⟩
      · exact .inl (.followLink hdir hstep hlink htext hfollow next)
      · exact .inr ⟨l, other, .followLink hdir hstep hlink htext hfollow next, hother⟩

/-- What stands at the end of a path if links are followed stands there if they are not, or a link
does. -/
theorem status_keep {text : String} {node : Node} (h : t.status true text = .ok (loc, node)) :
    t.status false text = .ok (loc, node) ∨
      ∃ l other, t.status false text = .ok (l, .link other) := by
  obtain ⟨hlocate, hnode⟩ := status_eq_ok_iff.mp h
  rcases (leads_of_locate hlocate).keep with hkeep | ⟨l, other, hkeep, hlink⟩
  · exact .inl (status_eq_ok_iff.mpr ⟨locate_of_leads hlocate hkeep, hnode⟩)
  · exact .inr ⟨l, other, status_eq_ok_iff.mpr ⟨locate_of_leads hlocate hkeep, hlink⟩⟩

/-- A path that ends at no link denotes the same whether links are followed or not. -/
theorem status_of_not_link {p : Path} {node : Node} (hlink : t.isLink p ≠ .ok true)
    (h : t.status true p.toString = .ok (loc, node)) :
    t.status false p.toString = .ok (loc, node) := by
  rcases status_keep h with hkeep | ⟨l, other, hkeep⟩
  · exact hkeep
  · refine absurd ?_ hlink
    rw [isLink, ask, hkeep]

/-! ## Walks in trees with the same frame -/

/-- Only directories and links decide where steps lead. -/
theorem Leads.of_sameFrame {t' : FileTree} (hframe : SameFrame t t')
    (h : Leads t follow links loc rest target) : Leads t' follow links loc rest target := by
  have hnolink : ∀ l, (∀ text, t.node? l ≠ some (.link text)) →
      ∀ text, t'.node? l ≠ some (.link text) :=
    fun l hl text heq => hl text (hframe.symm.link heq)
  induction h with
  | stop => exact .stop _ _
  | stay hdir _ ih => exact .stay (hframe.directory hdir) ih
  | up hdir _ ih => exact .up (hframe.directory hdir) ih
  | enter hdir hstep hlink _ ih => exact .enter (hframe.directory hdir) hstep (hnolink _ hlink) ih
  | keepLink hdir hstep hlink hfollow =>
    exact .keepLink (hframe.directory hdir) hstep (hframe.link hlink) hfollow
  | followLink hdir hstep hlink htext hfollow _ ih =>
    exact .followLink (hframe.directory hdir) hstep (hframe.link hlink) htext hfollow ih

/-- What a text denotes as a path it denotes in every tree with the same frame. -/
theorem SameFrame.locate {t' : FileTree} (hframe : SameFrame t t') {text : String}
    (h : t.locate follow text = .ok target) : t'.locate follow text = .ok target := by
  have hleads := (leads_of_locate h).of_sameFrame hframe
  rw [← hframe.workDir] at hleads
  exact locate_of_leads h hleads

/-! ## A name below a directory -/

/-- Steps that follow others go on from where those lead. -/
theorem Leads.walk_append {dir : Location} {steps : List String}
    (h : Leads t true links loc steps dir) (hrest : rest ≠ []) (follow : Bool) :
    ∃ left, t.walk follow links loc (steps ++ rest) = t.walk follow left dir rest := by
  induction h with
  | stop links loc => exact ⟨links, rfl⟩
  | stay hdir _ ih => simpa only [List.cons_append, walk_stay hdir] using ih
  | up hdir _ ih => simpa only [List.cons_append, walk_up hdir] using ih
  | enter hdir hstep hlink _ ih =>
    simpa only [List.cons_append, walk_enter hdir hstep hlink] using ih
  | keepLink _ _ _ hfollow => cases hfollow
  | followLink hdir hstep hlink htext _ _ ih =>
    rw [List.cons_append, walk_followLink hdir hstep hlink htext (by simp [hrest]),
      ← List.append_assoc]
    exact ih

/-- A name after steps to a directory leads below it, unless it is too long. -/
theorem Leads.walk_name {dir : Location} {name : String} {steps : List String}
    (h : Leads t true links loc steps dir) (hdir : t.node? dir = some .directory)
    (hdot : name ≠ ".") (hdots : name ≠ "..")
    (hlink : ∀ text, t.node? (dir ++ [name]) ≠ some (.link text)) (follow : Bool) :
    t.walk follow links loc (steps ++ [name]) =
      if nameLimit < name.utf8ByteSize then .error .nameTooLong else .ok (dir ++ [name]) := by
  obtain ⟨left, hwalk⟩ := h.walk_append (List.cons_ne_nil name []) follow
  rw [hwalk]
  split
  · next hlong => exact walk_tooLong hdir hdot hdots hlong
  · next hfits => rw [walk_enter hdir ⟨hdot, hdots, Nat.le_of_not_lt hfits⟩ hlink, walk_nil]

end ReleasePackaging.FileTree
