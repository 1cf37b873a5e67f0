import ReleasePackaging.FileTree.Basic

/-!
# Paths and their texts

A path is read back from its text. As the text of a file access it starts from the root if the path
has one and takes the components as steps; a path without components takes one step to the directory
it starts from.
-/
namespace ReleasePackaging

namespace Path

/-- The parts between slashes, the first of them after what has been read of it. -/
theorem splitSlashes_eq (part cs : List Char) :
    splitSlashes part cs =
      ((cs.splitOn '/').modifyHead (part.reverse ++ ·)).map String.ofList := by
  fun_induction splitSlashes part cs with
  | case1 part => simp
  | case2 part rest ih =>
    have hsame : (rest.splitOn '/').modifyHead (fun cs => cs) = rest.splitOn '/' :=
      congrFun List.modifyHead_id _
    simp [List.splitOn_cons_eq_if_modifyHead, ih, hsame]
  | case3 part c rest hc ih =>
    rw [ih, List.splitOn_cons_eq_if_modifyHead]
    have hne : (c == '/') = false := beq_false_of_ne hc
    cases hsplit : rest.splitOn '/' with
    | nil => exact absurd hsplit (List.splitOn_ne_nil _ _)
    | cons first others => simp [hne]

/-- Names joined by slashes are read back. -/
theorem splitSlashes_intercalate {names : List String} (hne : names ≠ [])
    (hnames : ∀ name ∈ names, '/' ∉ name.toList) :
    splitSlashes [] ("/".intercalate names).toList = names := by
  have hslash : ∀ cs ∈ names.map String.toList, '/' ∉ cs := by
    intro cs hcs
    obtain ⟨name, hname, rfl⟩ := List.mem_map.mp hcs
    exact hnames name hname
  rw [splitSlashes_eq, String.toList_intercalate]
  have hsplit := List.splitOn_intercalate '/' hslash (by simpa using hne)
  simp only [show "/".toList = ['/'] from rfl, hsplit, List.modifyHead, List.reverse_nil,
    List.nil_append]
  cases names with
  | nil => exact absurd rfl hne
  | cons first others => simp [Function.comp_def]

theorem IsName.ne_empty {name : String} (h : IsName name) : name ≠ "" := by
  rintro rfl
  exact absurd h.1 (by decide)

theorem IsName.ne_dot {name : String} (h : IsName name) : name ≠ "." := by
  rintro rfl
  exact absurd h.1 (by decide)

/-- A text with a name at its end is neither empty nor a dot. -/
theorem isComponent_append (text : String) {name : String} (h : IsName name) :
    isComponent (text ++ name) = true := by
  have hempty : text ++ name ≠ "" := fun heq => h.ne_empty (String.append_eq_empty_iff.mp heq).2
  have hdot : text ++ name ≠ "." := by
    intro heq
    have hchars : text.toList ++ name.toList = ['.'] := by rw [← String.toList_append, heq]; rfl
    rcases List.append_eq_singleton_iff.mp hchars with ⟨_, hname⟩ | ⟨_, hname⟩
    · exact h.ne_dot (String.toList_inj.mp hname)
    · exact h.ne_empty (String.toList_inj.mp hname)
  simp [isComponent, hempty, hdot]

/-- The first character of joined names is no slash. -/
theorem head?_intercalate {names : List String} (hnames : ∀ name ∈ names, IsName name) :
    ("/".intercalate names).toList.head? ≠ some '/' := by
  cases names with
  | nil => simp
  | cons first others =>
    have hfirst := hnames first (by simp)
    intro hhead
    have hmem : '/' ∈ first.toList := by
      cases hcs : first.toList with
      | nil => exact absurd (String.toList_inj.mp hcs) hfirst.ne_empty
      | cons c cs =>
        rw [String.toList_intercalate, List.map_cons, hcs,
          List.intercalate_cons_cons_left] at hhead
        simp only [List.head?_cons, Option.some.injEq] at hhead
        simp [hhead]
    exact hfirst.2 hmem

theorem rootOf_append {cs : List Char} (root : Root) (hcs : cs.head? ≠ some '/') :
    rootOf (root.text.toList ++ cs) = root := by
  have hrun : cs.takeWhile (· == '/') = [] := by
    cases cs with
    | nil => rfl
    | cons c cs =>
      have hc : (c == '/') = false := beq_false_of_ne (by simpa using hcs)
      simp [hc]
  cases root <;> simp [rootOf, Root.text, hrun]

theorem toString_eq {p : Path} (h : p.isEmptyRelative = false) :
    p.toString = p.root.text ++ "/".intercalate p.components := by
  unfold toString
  split
  · next hroot hcomponents => simp [isEmptyRelative, hroot, hcomponents] at h
  · rfl

theorem toString_emptyRelative {p : Path} (h : p.isEmptyRelative = true) : p.toString = "." := by
  obtain ⟨hroot, hcomponents⟩ : p.root = .relative ∧ p.components = [] := by
    simpa [isEmptyRelative] using h
  simp [toString, hroot, hcomponents]

/-- The parts of a path's text that are not empty are its components. -/
theorem splitSlashes_root (root : Root) (cs : List Char) :
    (splitSlashes [] (root.text.toList ++ cs)).filter (· != "") =
      (splitSlashes [] cs).filter (· != "") := by
  cases root <;> simp [Root.text, splitSlashes]

theorem filter_splitSlashes_components (p : Path) :
    (splitSlashes [] ("/".intercalate p.components).toList).filter (· != "") = p.components := by
  cases hc : p.components with
  | nil => rfl
  | cons first others =>
    rw [← hc, splitSlashes_intercalate (by simp [hc]) fun name h => (p.areNames name h).2]
    exact List.filter_eq_self.mpr fun name h => by simpa using (p.areNames name h).ne_empty

/-- Leaving out what is no component also leaves out what is empty. -/
theorem filter_isComponent (names : List String) :
    names.filter isComponent = (names.filter (· != "")).filter isComponent := by
  rw [List.filter_filter]
  congr 1
  funext name
  cases h : name != "" <;> simp [isComponent, h]

/-- A path is read back from its text. -/
theorem ofString_toString (p : Path) : ofString p.toString = p := by
  have hcomponents : p.components.filter isComponent = p.components :=
    List.filter_eq_self.mpr fun name h => (p.areNames name h).1
  cases hempty : p.isEmptyRelative with
  | true =>
    obtain ⟨hroot, hnone⟩ : p.root = .relative ∧ p.components = [] := by
      simpa [isEmptyRelative] using hempty
    rw [toString_emptyRelative hempty, Path.mk.injEq, hroot, hnone]
    exact ⟨rfl, rfl⟩
  | false =>
    rw [toString_eq hempty, Path.mk.injEq]
    simp only [ofString, String.toList_append]
    refine ⟨rootOf_append p.root (head?_intercalate p.areNames), ?_⟩
    rw [filter_isComponent, splitSlashes_root, filter_splitSlashes_components, hcomponents]

/-- A name is read as the path that consists of it. -/
theorem ofString_of_isName {name : String} (h : IsName name) :
    ofString name = ⟨.relative, [name], fun _ hpart => List.mem_singleton.mp hpart ▸ h⟩ := by
  rw [← ofString_toString ⟨.relative, [name], fun _ hpart => List.mem_singleton.mp hpart ▸ h⟩,
    toString_eq (by simp [isEmptyRelative])]
  simp [Root.text]

/-- A name after a path is its last component. -/
theorem div_of_isName (p : Path) {name : String} (h : IsName name) :
    (p / name).root = p.root ∧ (p / name).components = p.components ++ [name] := by
  change (p.join (ofString name)).root = _ ∧ (p.join (ofString name)).components = _
  rw [ofString_of_isName h]
  exact ⟨rfl, rfl⟩

theorem ext_iff {p q : Path} : p = q ↔ p.root = q.root ∧ p.components = q.components := by
  cases p
  cases q
  rw [mk.injEq]

/-- Names that are joined to a path one after another are put after its components. -/
theorem foldl_join_names {names : List String} (hnames : ∀ name ∈ names, IsName name) (p : Path) :
    (names.foldl (fun p part => p.join (ofString part)) p).root = p.root ∧
      (names.foldl (fun p part => p.join (ofString part)) p).components =
        p.components ++ names := by
  induction names generalizing p with
  | nil => simp
  | cons name names ih =>
    obtain ⟨hname, hnames⟩ := List.forall_mem_cons.mp hnames
    obtain ⟨hroot, hcomponents⟩ := p.div_of_isName hname
    obtain ⟨ihroot, ihcomponents⟩ := ih hnames (p / name)
    have hassoc : (p / name).components ++ names = p.components ++ name :: names := by
      rw [hcomponents, List.append_assoc, List.singleton_append]
    exact ⟨ihroot.trans hroot, ihcomponents.trans hassoc⟩

/-- A path is what its parts denote. -/
theorem ofParts_parts (p : Path) : ofParts p.parts = p := by
  have hfold := foldl_join_names p.areNames
  rw [ext_iff, ofParts, parts]
  cases hroot : p.root with
  | relative => exact hfold default
  | single => exact hfold (ofString "/")
  | double => exact hfold (ofString "//")

/-- The empty path is the one part of a dot. -/
theorem ofParts_dot : ofParts ["."] = default := by
  rw [ext_iff]
  decide

/-- The text after the last slash is all of a split that depends on what follows without a slash. -/
theorem exists_splitSlashes_append (part cs : List Char) :
    ∃ before last, ∀ suffix : String, '/' ∉ suffix.toList →
      splitSlashes part (cs ++ suffix.toList) = before ++ [last ++ suffix] := by
  fun_induction splitSlashes part cs with
  | case1 part =>
    refine ⟨[], String.ofList part.reverse, fun suffix hsuffix => ?_⟩
    rw [splitSlashes_eq, List.nil_append, List.splitOn_eq_singleton hsuffix]
    simp
  | case2 part rest ih =>
    obtain ⟨before, last, hsplit⟩ := ih
    exact ⟨String.ofList part.reverse :: before, last, fun suffix hsuffix => by
      rw [List.cons_append, splitSlashes, hsplit suffix hsuffix, List.cons_append]⟩
  | case3 part c rest hc ih =>
    obtain ⟨before, last, hsplit⟩ := ih
    exact ⟨before, last, fun suffix hsuffix => by
      rw [List.cons_append, splitSlashes, hsplit suffix hsuffix]
      exact hc⟩

/-- Texts that differ in a name at their end are paths that differ in their last component. -/
theorem exists_name_ofString_append (text : String) :
    ∃ stem, ∀ suffix, IsName suffix → ∃ before,
      (ofString (text ++ suffix)).components = before ++ [stem ++ suffix] := by
  obtain ⟨before, stem, hsplit⟩ := exists_splitSlashes_append [] text.toList
  refine ⟨stem, fun suffix hsuffix => ⟨before.filter isComponent, ?_⟩⟩
  have hlast : isComponent (stem ++ suffix) = true := isComponent_append stem hsuffix
  simp [ofString, hsplit suffix hsuffix.2, hlast]

/-- The last component of a path is that of the text it has been continued by. -/
theorem getLast?_div {text : String} (p : Path) (h : (ofString text).components ≠ []) :
    (p / text).components.getLast? = (ofString text).components.getLast? := by
  change (p.join (ofString text)).components.getLast? = _
  unfold join
  split
  · exact List.getLast?_append.trans (Option.or_of_isSome (by simpa using h))
  · rfl

/-- The last character of joined names is no slash. -/
theorem getLast?_intercalate {names : List String} (hne : names ≠ [])
    (hnames : ∀ name ∈ names, IsName name) :
    ("/".intercalate names).toList.getLast? ≠ some '/' := by
  intro hlast
  obtain ⟨before, hbefore⟩ := List.getLast?_eq_some_iff.mp hlast
  have hsplit := splitSlashes_intercalate hne fun name h => (hnames name h).2
  rw [hbefore, splitSlashes_eq, List.splitOn_append_cons_self] at hsplit
  have hempty : "" ∈ names := by
    rw [← hsplit]
    cases hfirst : before.splitOn '/' with
    | nil => exact absurd hfirst (List.splitOn_ne_nil _ _)
    | cons first others => simp
  exact (hnames "" hempty).ne_empty rfl

theorem mem_intercalate {sep : List Char} {parts : List (List Char)} {c : Char} (hsep : c ∉ sep) :
    c ∈ sep.intercalate parts ↔ ∃ part ∈ parts, c ∈ part := by
  induction parts with
  | nil => simp
  | cons first others ih =>
    cases others with
    | nil => simp
    | cons second others =>
      rw [List.intercalate_cons_cons, List.mem_append, List.mem_append, ih]
      simp [hsep]

/-- A character that is neither a slash nor a dot stands in a path's text exactly if it stands in a
component. -/
theorem mem_toString {p : Path} {c : Char} (hslash : c ≠ '/') (hdot : c ≠ '.') :
    c ∈ p.toString.toList ↔ ∃ name ∈ p.components, c ∈ name.toList := by
  cases hempty : p.isEmptyRelative with
  | true =>
    have hnone : p.components = [] := by
      simp only [isEmptyRelative, Bool.and_eq_true, List.isEmpty_iff] at hempty
      exact hempty.2
    rw [toString_emptyRelative hempty, hnone]
    simpa using hdot
  | false =>
    have hroot : c ∉ p.root.text.toList := by cases p.root <;> simp [Root.text, hslash]
    rw [toString_eq hempty, String.toList_append, List.mem_append, String.toList_intercalate,
      mem_intercalate (by simpa using hslash)]
    simp only [hroot, false_or, List.mem_map]
    exact ⟨fun ⟨_, ⟨name, hname, heq⟩, hc⟩ => ⟨name, hname, heq ▸ hc⟩,
      fun ⟨name, hname, hc⟩ => ⟨_, ⟨name, hname, rfl⟩, hc⟩⟩

end Path

namespace FileTree

/-- The steps of a path's text: its components, or one to where it starts if there are none. -/
theorem stepsOf_toString (p : Path) :
    stepsOf p.toString = if p.components = [] then ["."] else p.components := by
  cases hempty : p.isEmptyRelative with
  | true =>
    have hnone : p.components = [] := by
      simp only [Path.isEmptyRelative, Bool.and_eq_true, List.isEmpty_iff] at hempty
      exact hempty.2
    rw [Path.toString_emptyRelative hempty, if_pos hnone]
    decide
  | false =>
    rw [Path.toString_eq hempty, stepsOf]
    simp only [String.toList_append, Path.splitSlashes_root, Path.filter_splitSlashes_components]
    by_cases hnone : p.components = []
    · have hroot : p.root ≠ .relative := by
        rintro hroot
        simp [Path.isEmptyRelative, hroot, hnone] at hempty
      cases hp : p.root <;> simp_all [Path.Root.text]
    · have hlast := Path.getLast?_intercalate hnone p.areNames
      have htext : ("/".intercalate p.components).toList ≠ [] := by
        intro hnil
        have hjoined := Path.splitSlashes_intercalate hnone fun name h => (p.areNames name h).2
        rw [hnil] at hjoined
        exact (p.areNames "" (by simp [← hjoined, Path.splitSlashes])).ne_empty rfl
      rw [List.getLast?_append, Option.or_of_isSome (by simpa using htext), if_neg hlast,
        if_neg hnone]

/-- A path's text starts from the root of the tree if the path has a root. -/
theorem startOf_toString (p : Path) (loc : Location) :
    startOf loc p.toString = if p.root = .relative then loc else [] := by
  cases hempty : p.isEmptyRelative with
  | true =>
    have hroot : p.root = .relative := by
      simp only [Path.isEmptyRelative, Bool.and_eq_true, beq_iff_eq] at hempty
      exact hempty.1
    rw [Path.toString_emptyRelative hempty, if_pos hroot, startOf]
    simp
  | false =>
    have hhead := Path.head?_intercalate p.areNames
    rw [Path.toString_eq hempty, startOf]
    cases hroot : p.root with
    | relative =>
      have hprefix : ¬ ['/'] <+: ("/".intercalate p.components).toList := by
        rintro ⟨rest, hrest⟩
        simp [← hrest] at hhead
      simp only [String.startsWith_string_iff, String.toList_append, Path.Root.text,
        show "/".toList = ['/'] from rfl, show "".toList = [] from rfl, List.nil_append, hprefix,
        if_false, if_true]
    | single | double => simp [Path.Root.text]

end FileTree

end ReleasePackaging
