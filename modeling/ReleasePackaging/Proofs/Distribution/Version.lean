import Mathlib.Data.List.Induction
import ReleasePackaging.Distribution.Metadata
import ReleasePackaging.Proofs.Action.Result

/-!
# The version of the distribution

A statement of the version file adds definitions of the names that its targets give, before those that
there were. So the last statement that gives the name of the version decides, and where none does the
version is the default one.
-/
namespace ReleasePackaging

namespace VersionFile

variable {ds ds' ds'' : Definitions} {p q : String → Bool} {name : String} {s : Statement}

/-! ## What an assignment adds -/

/-- Definitions of just the names with a property have been added. -/
def Adds (p : String → Bool) (ds ds' : Definitions) : Prop :=
  ∃ added : Definitions, ds' = added ++ ds ∧ ∀ name, (added.lookup name).isSome = p name

theorem Adds.refl (ds : Definitions) : Adds (fun _ => false) ds ds := ⟨[], rfl, fun _ => rfl⟩

theorem Adds.trans (h : Adds p ds ds') (h' : Adds q ds' ds'') :
    Adds (fun name => p name || q name) ds ds'' := by
  obtain ⟨first, rfl, hfirst⟩ := h
  obtain ⟨later, rfl, hlater⟩ := h'
  refine ⟨later ++ first, (List.append_assoc _ _ _).symm, fun name => ?_⟩
  rw [List.lookup_append, Option.isSome_or, hfirst, hlater, Bool.or_comm]

theorem Adds.lookup_of_not (h : Adds p ds ds') (hname : p name = false) :
    ds'.lookup name = ds.lookup name := by
  obtain ⟨added, rfl, hadded⟩ := h
  have hnone : added.lookup name = none :=
    Option.not_isSome_iff_eq_none.mp (by rw [hadded name, hname]; exact Bool.false_ne_true)
  rw [List.lookup_append, hnone, Option.none_or]

theorem Adds.exists_lookup (h : Adds p ds ds') (hname : p name = true) :
    ∃ v, ds'.lookup name = some v := by
  obtain ⟨added, rfl, hadded⟩ := h
  obtain ⟨v, hv⟩ := Option.isSome_iff_exists.mp ((hadded name).trans hname)
  exact ⟨v, by rw [List.lookup_append, hv, Option.some_or]⟩

mutual

theorem adds_assign : ∀ (target : Target) {ds ds' : Definitions} {v : Value},
    assign ds v target = .ok ds' → Adds (fun name => target.gives name) ds ds'
  | .name text, ds, ds', v, h => by
    rw [assign] at h
    cases h
    refine ⟨[(text, v)], rfl, fun name => ?_⟩
    rw [List.lookup_cons, List.lookup_nil, BEq.comm]
    simp only [Target.gives]
    cases text == name <;> rfl
  | .parts ts, ds, ds', v, h => by
    rw [assign] at h
    split at h
    · cases h
    · split at h
      · cases h
      · split at h
        · cases h
        · next hfew _ => exact adds_assignAll ts h (Nat.le_of_not_lt hfew)
  | .place ts, ds, ds', v, h => by
    rw [assign] at h
    obtain ⟨_, _, h⟩ := Result.bind_eq_ok_iff.mp h
    cases h

theorem adds_assignAll : ∀ (targets : List Target) {ds ds' : Definitions} {vs : List Value},
    assignAll ds vs targets = .ok ds' → targets.length ≤ vs.length →
      Adds (fun name => Target.gives.any name targets) ds ds'
  | [], ds, ds', vs, h, _ => by
    rw [assignAll] at h
    · cases h
      exact .refl ds
    · simp
  | target :: rest, ds, ds', vs, h, hlength => by
    cases vs with
    | nil => simp at hlength
    | cons v vs =>
      rw [assignAll] at h
      obtain ⟨middle, hmiddle, h⟩ := Result.bind_eq_ok_iff.mp h
      exact (adds_assign target hmiddle).trans (adds_assignAll rest h (Nat.le_of_succ_le_succ hlength))

end

/-! ## What statements add -/

/-- What steps add one by one is added by all of them. -/
theorem adds_foldlM {α : Type} {step : Definitions → α → Except Fault Definitions}
    {p : α → String → Bool} (hstep : ∀ a ds ds', step ds a = .ok ds' → Adds (p a) ds ds')
    {xs : List α} {ds ds' : Definitions} (h : xs.foldlM step ds = .ok ds') :
    Adds (fun name => xs.any (p · name)) ds ds' := by
  induction xs generalizing ds with
  | nil =>
    cases h
    exact .refl _
  | cons a rest ih =>
    rw [List.foldlM_cons] at h
    obtain ⟨middle, hmiddle, h⟩ := Result.bind_eq_ok_iff.mp h
    exact (hstep a ds middle hmiddle).trans (ih h)

/-- Whether a statement gives a name a value. -/
def Statement.gives (s : Statement) (name : String) : Bool :=
  s.term.isSome && s.targets.any (·.gives name)

/-- A statement has been gone through: its term, if it has one, has been given to its targets. -/
theorem define_eq_ok (h : define ds s = .ok ds') :
    (s.term = none ∧ ds' = ds) ∨ ∃ t v, s.term = some t ∧ evaluate ds t = .ok v ∧
      s.targets.foldlM (fun ds target => assign ds v target) ds = .ok ds' := by
  unfold define at h
  simp only at h
  split at h
  · next hterm =>
    obtain ⟨middle, hmiddle, h⟩ := Result.bind_eq_ok_iff.mp h
    obtain ⟨_, _, h⟩ := Result.bind_eq_ok_iff.mp h
    cases hmiddle
    cases h
    exact .inl ⟨hterm, rfl⟩
  · next t hterm =>
    obtain ⟨v, hv, h⟩ := Result.bind_eq_ok_iff.mp h
    obtain ⟨middle, hmiddle, h⟩ := Result.bind_eq_ok_iff.mp h
    obtain ⟨_, _, h⟩ := Result.bind_eq_ok_iff.mp h
    cases h
    exact .inr ⟨t, v, hterm, hv, hmiddle⟩

theorem adds_define (h : define ds s = .ok ds') : Adds s.gives ds ds' := by
  rcases define_eq_ok h with ⟨hterm, rfl⟩ | ⟨t, v, hterm, -, hassigned⟩
  · have hnone : s.gives = fun _ => false := by
      funext name
      rw [Statement.gives, hterm]
      rfl
    exact hnone ▸ .refl _
  · have hsome : s.gives = fun name => s.targets.any (·.gives name) := by
      funext name
      rw [Statement.gives, hterm]
      rfl
    exact hsome ▸ adds_foldlM (fun target _ _ h => adds_assign target h) hassigned

/-! ## The statement that decides -/

/-- Where the value of a name comes from in some statements: none of them gives it one, or the last one
that does gives it that value, with the definitions that the statements before it have left. -/
inductive GivenBy (name : String) : List Statement → Option Value → Prop where
  | none {ss : List Statement} (h : ∀ s ∈ ss, s.gives name = false) : GivenBy name ss none
  | last {before after : List Statement} {s : Statement} {ds ds' : Definitions} {v : Value}
      (hbefore : before.foldlM define [] = .ok ds) (hdefine : define ds s = .ok ds')
      (hs : s.gives name = true) (hv : ds'.lookup name = some v)
      (hafter : ∀ s' ∈ after, s'.gives name = false) :
      GivenBy name (before ++ s :: after) (some v)

/-- A statement that does not give the name leaves its value. -/
theorem GivenBy.concat {ss : List Statement} {value : Option Value} (h : GivenBy name ss value)
    (hs : s.gives name = false) : GivenBy name (ss ++ [s]) value := by
  cases h with
  | none h =>
    refine .none fun s' hmem => ?_
    rcases List.mem_append.mp hmem with hold | hnew
    · exact h s' hold
    · exact List.mem_singleton.mp hnew ▸ hs
  | last hbefore hdefine hgives hv hafter =>
    rw [List.append_assoc, List.cons_append]
    refine .last hbefore hdefine hgives hv fun s' hmem => ?_
    rcases List.mem_append.mp hmem with hold | hnew
    · exact hafter s' hold
    · exact List.mem_singleton.mp hnew ▸ hs

/-- The last statement that gives a name a value decides. -/
theorem givenBy_lookup {ss : List Statement} (h : ss.foldlM define [] = .ok ds) :
    GivenBy name ss (ds.lookup name) := by
  induction ss using List.reverseRecOn generalizing ds with
  | nil =>
    cases h
    exact .none nofun
  | append_singleton ss s ih =>
    rw [List.foldlM_append] at h
    obtain ⟨middle, hmiddle, h⟩ := Result.bind_eq_ok_iff.mp h
    have hdefine : define middle s = .ok ds := by simpa using h
    have hadds := adds_define hdefine
    cases hs : s.gives name with
    | false => exact (hadds.lookup_of_not hs) ▸ (ih hmiddle).concat hs
    | true =>
      obtain ⟨v, hv⟩ := hadds.exists_lookup hs
      rw [hv]
      exact .last hmiddle hdefine hs hv nofun

/-- A statement with a name for its only target gives it the value of its term. -/
theorem lookup_define_name {t : Term} (h : define ds s = .ok ds') (hterm : s.term = some t)
    (htargets : s.targets = [.name name]) :
    ∃ v, evaluate ds t = .ok v ∧ ds'.lookup name = some v := by
  rcases define_eq_ok h with ⟨hnone, -⟩ | ⟨t', v, hterm', hv, hassigned⟩
  · rw [hterm] at hnone
    cases hnone
  · rw [hterm] at hterm'
    cases hterm'
    rw [htargets] at hassigned
    cases hassigned
    exact ⟨v, hv, List.lookup_cons_self⟩

end VersionFile

namespace Distribution

/-- The version in the metadata is the value that the last statement of the version file with its name
among its targets gives it, and the default one if there is no such statement. -/
theorem metadata_version {t : FileTree} {es : Entries} (h : metadata t = .ok es) :
    ∃ cs ss value, textAt t versionFile = .ok cs ∧ VersionFile.statements cs = .ok ss ∧
      VersionFile.GivenBy versionName ss value ∧
      es.field? "version" = some (value.getD defaultVersion) := by
  obtain ⟨description, -, h⟩ := Result.bind_eq_ok_iff.mp h
  obtain ⟨cs, hcs, h⟩ := Result.bind_eq_ok_iff.mp h
  obtain ⟨version, hversion, h⟩ := Result.bind_eq_ok_iff.mp h
  cases h
  obtain ⟨ds, hds, hlookup⟩ := Result.bind_eq_ok_iff.mp (Result.mapError_eq_ok_iff.mp hversion)
  cases hlookup
  obtain ⟨ss, hss, hrun⟩ := Result.bind_eq_ok_iff.mp hds
  exact ⟨cs, ss, _, hcs, hss, VersionFile.givenBy_lookup hrun, rfl⟩

/-- A later statement decides, also with other targets beside the name. -/
example : versionIn "__version__ = '1.0'\na, __version__ = 1, '2.0'\nb = a\n".toList =
    .ok (.str "2.0") := by decide +kernel

end Distribution

end ReleasePackaging
