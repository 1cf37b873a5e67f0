import ReleasePackaging.Proofs.Config.Layers
import ReleasePackaging.Proofs.Config.RoundTrip
import ReleasePackaging.Proofs.Config.Sources

/-!
# Precedence of sources

A configuration is made from the settings of four sources, each before the ones it gives way to: what
the caller gives, the environment, a file and the defaults. At a path of keys where no source holds a
mapping while another holds something else, the last source that holds something decides, whatever
the others mention around it.
-/
namespace ReleasePackaging.Config

open Value (valueAt?)

/-- The settings of the sources: the defaults, a file if there is one, the environment and what the
caller gives. -/
def sources (file : Option Entries) (settings overrides : Entries) : List Entries :=
  [standardEntries, file.getD [], settings, given overrides]

theorem assemble_layers (file : Option Entries) (settings overrides : Entries) :
    assemble (layers file settings overrides) =
      [file.getD [], settings, given overrides].foldl merge standardEntries := by
  cases file <;> rfl

variable {t : FileTree} {path : Option Path} {environment : List (String × String)}
  {overrides settings : Entries} {file : Option Entries}

/-- The settings of every source are keyed. -/
theorem isKeyed_sources (hfile : path.mapM (settingsAt t) = .ok file)
    (hsettings : fromEnvironment variableStart environment = .ok settings)
    (hoverrides : (Value.map overrides).IsKeyed) :
    ∀ layer ∈ [file.getD [], settings, given overrides], (Value.map layer).IsKeyed := by
  have hread : (Value.map (file.getD [])).IsKeyed := by
    cases path with
    | none =>
      cases hfile
      exact Value.isKeyed_nil
    | some p =>
      obtain ⟨entries, hentries, hsome⟩ := Result.map_eq_ok_iff.mp hfile
      rw [← hsome]
      exact isKeyed_of_settingsAt hentries
  intro layer hlayer
  simp only [List.mem_cons, List.not_mem_nil, or_false] at hlayer
  rcases hlayer with rfl | rfl | rfl
  · exact hread
  · exact isKeyed_of_fromEnvironment hsettings
  · exact hoverrides.filter _

/-- A run is configured by the settings assembled from its sources. At a path without conflicts these
hold what is no mapping exactly if some source does, and then what the last source holds that holds
something there; sources that do not mention the path leave it to those below. -/
theorem load_precedence (hfile : path.mapM (settingsAt t) = .ok file)
    (hsettings : fromEnvironment variableStart environment = .ok settings)
    (hoverrides : (Value.map overrides).IsKeyed) :
    load t path environment overrides =
        ofEntries (assemble (layers file settings overrides)) ∧
      ∀ keys, Unconflicted (sources file settings overrides) keys →
        ((∃ v, valueAt? keys (.map (assemble (layers file settings overrides))) = some v ∧
            v.isMap = false) ↔
          ∃ layer ∈ sources file settings overrides, ∃ v,
            valueAt? keys (.map layer) = some v ∧ v.isMap = false) ∧
        (∀ v, v.isMap = false →
          (valueAt? keys (.map (assemble (layers file settings overrides))) = some v ↔
            lastAt? keys (sources file settings overrides) = some v)) ∧
        ∀ lower higher, sources file settings overrides = lower ++ higher →
          (∀ layer ∈ higher, valueAt? keys (.map layer) = none) →
            ∀ v, v.isMap = false →
              (valueAt? keys (.map (assemble (layers file settings overrides))) = some v ↔
                lastAt? keys lower = some v) := by
  refine ⟨?_, fun keys hkeys => ?_⟩
  · rw [load, hfile, hsettings]
    rfl
  have hlast {v : Value} (hv : v.isMap = false) :
      valueAt? keys (.map (assemble (layers file settings overrides))) = some v ↔
        lastAt? keys (sources file settings overrides) = some v := by
    rw [assemble_layers]
    exact valueAt?_foldl_merge _ _ isKeyed_standardEntries
      (isKeyed_sources hfile hsettings hoverrides) hkeys hv
  refine ⟨?_, fun v hv => hlast hv, fun lower higher hsplit hhigher v hv => ?_⟩
  · rw [← exists_lastAt?_iff hkeys]
    exact exists_congr fun v => and_congr_left fun hv => hlast hv
  · rw [hlast hv, hsplit, lastAt?_append hhigher]

theorem groupKeys_singleton (known : Value) (key : String) : groupKeys known [key] = [key] := by
  have hcount : longestKey known [key] 1 = 1 := by
    unfold longestKey
    split
    · split <;> rfl
    · rfl
  have hend (inner : Value) : groupKeys inner [] = [] := by
    unfold groupKeys
    rfl
  unfold groupKeys
  simp only [List.length_nil, Nat.zero_add, hcount]
  exact congrArg _ (hend _)

/-- A variable of the logging section with one part gives that setting of the section. -/
theorem fromEnvironment_logging {name lowered key text : String} {v : Value}
    (hstart : variableStart.toList.isPrefixOf name.toList = true)
    (hname : Text.lower (String.ofList (name.toList.drop variableStart.length)) = lowered)
    (hsetting : lowered ∉ settingNames)
    (hcut : Text.cut '_' lowered = ("logging", some key)) (hsplit : Text.splitAll '_' key = [key])
    (hkey : key ≠ "") (hvalue : readVariable text = .ok v) :
    fromEnvironment variableStart [(name, text)] =
      .ok [(.str "logging", .map [(.str key, v)])] := by
  have hpath : variablePath? lowered = some ["logging", key] := by
    unfold variablePath?
    rw [if_neg (by simpa using hsetting), hcut]
    simp only [hsplit, groupKeys_singleton]
    exact if_pos (by simp [hkey]; decide)
  simp only [fromEnvironment, List.foldlM_cons, List.foldlM_nil, hstart, if_true, hname, hpath,
    variableValue, hvalue, bind, Except.bind, pure, Except.pure]
  rfl

/-- A level is taken from the environment, a format and a product from a file, a version from the
caller, who gives null for the product, and whether the log is shown from the defaults. -/
theorem load_precedence_logging :
    ∃ (t : FileTree) (file : Option Entries) (settings : Entries),
      (some (Path.ofString "release.JSON")).mapM (settingsAt t) = .ok file ∧
      fromEnvironment variableStart [("TONPACK_LOGGING_LEVEL", "warning")] = .ok settings ∧
      (Value.map [(.str "version", .str "1.2.0"), (.str "product_prefix", .null)]).IsKeyed ∧
      ∀ entry ∈ [([.str "logging", .str "level"], .str "warning"),
          ([.str "logging", .str "format"], .str "json"),
          ([.str "logging", .str "console", .str "enabled"], .bool true),
          ([.str "product_prefix"], .str "demo"), ([.str "version"], .str "1.2.0")],
        valueAt? entry.1 (.map (assemble (layers file settings
          [(.str "version", .str "1.2.0"), (.str "product_prefix", .null)]))) = some entry.2 := by
  let document : Entries := [(.str "product_prefix", .str "demo"),
    (.str "logging", .map [(.str "level", .str "DEBUG"), (.str "format", .str "json")])]
  have hplain : (Value.map document).IsPlain :=
    ⟨⟨["product_prefix", "logging"], by decide, rfl⟩, trivial,
      ⟨⟨["level", "format"], by decide, rfl⟩, trivial, trivial, trivial⟩, trivial⟩
  obtain ⟨⟨loc, number, t⟩, hopen⟩ := exists_openFor_emptyAt
  have hfile := settingsAt_eq_ok hplain (by decide : isJson (Path.ofString "release.JSON") = true)
    (FileTree.status_setContent_of_openFor hopen
      (Json.valueText Json.fileLayout 0 (.map document)).toUTF8)
  have hread : (some (Path.ofString "release.JSON")).mapM (settingsAt (t.setContent number
      (Json.valueText Json.fileLayout 0 (.map document)).toUTF8)) = .ok (some document) :=
    congrArg (Functor.map some) hfile
  have hsettings : fromEnvironment variableStart [("TONPACK_LOGGING_LEVEL", "warning")] =
      .ok [(.str "logging", .map [(.str "level", .str "warning")])] :=
    fromEnvironment_logging (by decide) rfl (by decide) (by decide) (by decide) (by decide) rfl
  have hoverrides :
      (Value.map [(.str "version", .str "1.2.0"), (.str "product_prefix", .null)]).IsKeyed :=
    Value.isKeyed_of_isPlain _
      ⟨⟨["version", "product_prefix"], by decide, rfl⟩, trivial, trivial, trivial⟩
  refine ⟨_, _, _, hread, hsettings, hoverrides, ?_⟩
  have hlaw := (load_precedence hread hsettings hoverrides).2
  intro entry hentry
  simp only [List.mem_cons, List.not_mem_nil, or_false] at hentry
  rcases hentry with rfl | rfl | rfl | rfl | rfl
  all_goals exact ((hlaw _ (by decide)).2.1 _ rfl).mpr rfl

end ReleasePackaging.Config
