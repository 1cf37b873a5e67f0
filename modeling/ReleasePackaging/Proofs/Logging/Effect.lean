import ReleasePackaging.Proofs.FileTree.Making
import ReleasePackaging.Proofs.Logging.SetUp

/-!
# Effective settings

A manager takes from its settings a level, the name of a format, whether there is a handler for the
console and one for a log file, and what is given for that file. Settings from which it takes the
same set up logging in the same way.
-/
namespace ReleasePackaging.Logging.Manager

/-- What a section of the settings gives for a log file: its path, its limit and how many backups of
it are kept. -/
def fileSettings (entries : Entries) : Value × Value × Value :=
  ((entries.field? "path").getD (.str "logs/tonpack.log"),
    (entries.field? "max_bytes").getD (.int (10 * 1024 * 1024)),
    (entries.field? "backup_count").getD (.int 5))

/-- Whether managers take the same from some settings and from others. A section that is no mapping
is one in both, and of the same kind. -/
structure SameEffect (settings other : Entries) : Prop where
  level : (ofEntries settings).level = (ofEntries other).level
  formatName : (ofEntries settings).formatName = (ofEntries other).formatName
  console : ((ofEntries settings).part "console").map (isEnabled · true) =
    ((ofEntries other).part "console").map (isEnabled · true)
  file : ((ofEntries settings).part "file").map (fun s => (isEnabled s false, fileSettings s)) =
    ((ofEntries other).part "file").map (fun s => (isEnabled s false, fileSettings s))

/-- Whether managers set up logging alike under some settings and under others: with the same
result, the same handlers made and the same world afterwards. -/
def SetsUpAlike (settings other : Entries) : Prop := ∀ w,
  (ofEntries other).setUp.run.run w =
    (((ofEntries settings).setUp.run.run w).1.map
      (fun (m, result) => ({ m with settings := other }, result)),
      ((ofEntries settings).setUp.run.run w).2)

def withSettings (m : Manager) (settings : Entries) : Manager := { m with settings := settings }

variable {m : Manager} {settings other : Entries}

theorem SameEffect.refl (settings : Entries) : SameEffect settings settings :=
  ⟨rfl, rfl, rfl, rfl⟩

/-- Only the path, the limit and the backups that a section gives matter for its log file. -/
theorem openLogFile_congr {entries entries' : Entries}
    (h : fileSettings entries = fileSettings entries') :
    openLogFile entries = openLogFile entries' := by
  simp only [fileSettings, Prod.mk.injEq] at h
  obtain ⟨hpath, hlimit, hbackups⟩ := h
  simp only [openLogFile, logFile, hpath, hlimit, hbackups]

theorem SameEffect.format (h : SameEffect m.settings other) :
    (m.withSettings other).format = m.format := by
  have hname : (m.withSettings other).formatName = m.formatName := h.formatName.symm
  rw [Manager.format, Manager.format, hname]

theorem run_setUpConsole_withSettings (h : SameEffect m.settings other) (level : Level)
    (format : Format) (w : World) :
    ((m.withSettings other).setUpConsole level format).run.run w =
      (((m.setUpConsole level format).run.run w).1.map (·.withSettings other),
        ((m.setUpConsole level format).run.run w).2) := by
  have hconsole : (m.part "console").map (isEnabled · true) =
      ((m.withSettings other).part "console").map (isEnabled · true) := h.console
  rw [run_setUpConsole, run_setUpConsole]
  cases hpart : m.part "console" <;> cases hother : (m.withSettings other).part "console" <;>
    rw [hpart, hother] at hconsole
  · cases hconsole
    rfl
  · cases hconsole
  · cases hconsole
  · simp only [Except.map, Except.ok.injEq] at hconsole
    simp only [hconsole]
    rfl

theorem run_setUpFile_withSettings (h : SameEffect m.settings other) (level : Level)
    (format : Format) (w : World) :
    ((m.withSettings other).setUpFile level format).run.run w =
      (((m.setUpFile level format).run.run w).1.map (·.withSettings other),
        ((m.setUpFile level format).run.run w).2) := by
  have hfile : (m.part "file").map (fun s => (isEnabled s false, fileSettings s)) =
      ((m.withSettings other).part "file").map (fun s => (isEnabled s false, fileSettings s)) :=
    h.file
  rw [run_setUpFile, run_setUpFile]
  cases hpart : m.part "file" <;> cases hother : (m.withSettings other).part "file" <;>
    rw [hpart, hother] at hfile
  · cases hfile
    rfl
  · cases hfile
  · cases hfile
  · simp only [Except.map, Except.ok.injEq, Prod.mk.injEq] at hfile
    simp only [hfile.1, openLogFile_congr hfile.2]
    split
    · split <;> rfl
    · rfl

theorem settings_of_setUpConsole {level : Level} {format : Format} {m' : Manager} {w w' : World}
    (hrun : (m.setUpConsole level format).run.run w = (.ok m', w')) : m'.settings = m.settings := by
  rcases m.setUpConsole_effect level format w with ⟨fault, hfailed⟩ | ⟨console, _, hmade⟩
  · rw [hfailed] at hrun
    cases hrun
  · rw [hmade] at hrun
    cases hrun
    rfl

theorem run_setUpHandlers_withSettings (h : SameEffect m.settings other) (level : Level)
    (format : Format) (w : World) :
    ((m.withSettings other).setUpHandlers level format).run.run w =
      (((m.setUpHandlers level format).run.run w).1.map
          (fun (after, result) => (after.withSettings other, result)),
        ((m.setUpHandlers level format).run.run w).2) := by
  rw [run_setUpHandlers, run_setUpHandlers, run_setUpConsole_withSettings h]
  cases hconsole : (m.setUpConsole level format).run.run w with
  | mk result w₁ =>
    cases result with
    | error fault => rfl
    | ok m₁ =>
      have h₁ : SameEffect m₁.settings other := settings_of_setUpConsole hconsole ▸ h
      simp only [Except.map, run_setUpFile_withSettings h₁]
      cases (m₁.setUpFile level format).run.run w₁ with
      | mk result w₂ => cases result <;> rfl

/-- Setting up under settings with the same effect ends in the same world with the same result and
the same handlers made. -/
theorem run_setUp_withSettings (h : SameEffect m.settings other) (w : World) :
    (m.withSettings other).setUp.run.run w =
      ((m.setUp.run.run w).1.map (fun (after, result) => (after.withSettings other, result)),
        (m.setUp.run.run w).2) := by
  have hlevel : (m.withSettings other).level = m.level := h.level.symm
  have hbegun : ({ m.withSettings other with isBegun := true } : Manager) =
      withSettings { m with isBegun := true } other := rfl
  have h₀ : SameEffect ({ m with isBegun := true } : Manager).settings other := h
  rw [run_setUp, run_setUp, hlevel, h.format]
  cases m.level with
  | error fault => rfl
  | ok level =>
    cases m.format with
    | error fault => rfl
    | ok format => simp only [hbegun, run_setUpHandlers_withSettings h₀]

theorem SameEffect.setsUpAlike (h : SameEffect settings other) : SetsUpAlike settings other :=
  fun w => run_setUp_withSettings (m := ofEntries settings) h w

/-! ## The limit of a log file -/

variable {entries : Entries} {w w' : World} {f : LogFile} {limit backups : Int}

/-- A log file that a section describes has what the section gives for its limit and its backups. -/
theorem limits_of_logFile {workDir : Location} {p : Path} (h : logFile entries workDir p = .ok f) :
    (fileSettings entries).2.1.asInteger = .ok f.limit ∧
      (fileSettings entries).2.2.asInteger = .ok f.backups := by
  obtain ⟨limit, hlimit, h⟩ := Result.bind_eq_ok_iff.mp h
  obtain ⟨backups, hbackups, h⟩ := Result.bind_eq_ok_iff.mp h
  cases h
  exact ⟨Result.mapError_eq_ok_iff.mp hlimit, Result.mapError_eq_ok_iff.mp hbackups⟩

theorem limits_of_reopened {opened : LogFile} {t t' : FileTree}
    (h : f.reopened t = .ok (opened, t')) :
    opened.limit = f.limit ∧ opened.backups = f.backups := by
  obtain ⟨_, _, h⟩ := Result.bind_eq_ok_iff.mp h
  cases h
  exact ⟨rfl, rfl⟩

/-- A log file that is opened has what its section gives for its limit and its backups. -/
theorem limits_of_openLogFile (h : (openLogFile entries).run.run w = (.ok f, w')) :
    (fileSettings entries).2.1.asInteger = .ok f.limit ∧
      (fileSettings entries).2.2.asInteger = .ok f.backups := by
  unfold openLogFile at h
  simp only [Action.run_bind_eq_ok_iff, Action.run_ofResult] at h
  obtain ⟨p, _, _, _, _, _, w₁, _, _, described, _, hdescribed, _, _, _, ⟨opened, tree⟩, _, hopened,
    _, _, _, hf⟩ := h
  cases hf
  obtain ⟨hlimit, hbackups⟩ := limits_of_reopened
    (Result.mapError_eq_ok_iff.mp (Prod.mk.inj hopened).1)
  rw [hlimit, hbackups]
  exact limits_of_logFile (Prod.mk.inj hdescribed).1

/-- Opening a log file step by step. -/
theorem run_openLogFile {p : Path} {opened : LogFile} {t t' : FileTree}
    (hpath : (fileSettings entries).1.asPath = .ok p)
    (hdirectory : (TreeAction.makeMissingDirectories p.components.length p.parent).run.run w.tree =
      (.ok (), t))
    (hdescribed : logFile entries t.workDir p = .ok f) (hopened : f.reopened t = .ok (opened, t')) :
    (openLogFile entries).run.run w = (.ok opened, { w with tree := t' }) := by
  simp only [fileSettings] at hpath
  simp only [openLogFile, Action.run_bind, Action.run_ofResult, hpath, Action.run_onTree,
    Action.run_adapt, hdirectory, Result.mapError_ok, Action.run_get, hdescribed, hopened,
    Action.run_modify, Action.run_pure]

/-- In the empty directory a log file with a plain name is opened. -/
theorem exists_openLogFile_here (hw : w.tree = .emptyAt [])
    (hpath : (fileSettings entries).1.asPath = .ok (Path.ofString "ton.log"))
    (hlimit : (fileSettings entries).2.1.asInteger = .ok limit)
    (hbackups : (fileSettings entries).2.2.asInteger = .ok backups) :
    ∃ f w', (openLogFile entries).run.run w = (.ok f, w') := by
  have hlocate : (FileTree.emptyAt []).locate true "/ton.log" = .ok ["ton.log"] := by
    rw [FileTree.locate_eq_walk rfl (by decide : FileTree.stepsOf "/ton.log" = ["ton.log"])
      (by decide) (by decide), FileTree.walk_enter rfl ⟨by decide, by decide, by decide⟩
      (fun _ heq => by cases heq), FileTree.walk_nil]
    rfl
  have hopen : ∃ opened, (⟨"/ton.log", limit, backups, none, 0⟩ : LogFile).reopened
      (.emptyAt []) = .ok opened := by
    rw [LogFile.reopened, FileTree.openFor, hlocate]
    exact ⟨_, rfl⟩
  obtain ⟨⟨f, t⟩, hopen⟩ := hopen
  have hparent : (Path.ofString "ton.log").parent = Path.ofString "." := by decide
  have hlength : (Path.ofString "ton.log").components.length = 1 := by decide
  have habsolute : LogFile.absolute [] (Path.ofString "ton.log") = "/ton.log" := by
    decide +kernel
  refine ⟨f, _, run_openLogFile hpath ?_ ?_ hopen⟩
  · rw [hparent, hlength, hw]
    exact FileTree.run_makeMissingDirectories_here
  · simp only [fileSettings] at hlimit hbackups
    rw [← habsolute]
    simp only [logFile, hlimit, hbackups]
    rfl

/-- Setting up does not fail if the level and the format can be read, the sections are mappings and the
log file can be opened. -/
theorem exists_setUp_ok {m : Manager} {level : Level} {format : Format} {console : Entries}
    (hlevel : m.level = .ok level) (hformat : m.format = .ok format)
    (hconsole : m.part "console" = .ok console) (hfile : m.part "file" = .ok entries)
    (hopens : ∀ w₁ : World, w₁.tree = w.tree →
      ∃ f w₂, (openLogFile entries).run.run w₁ = (.ok f, w₂)) :
    ∃ m' w', m.setUp.run.run w = (.ok (m', .ok ()), w') := by
  obtain ⟨m₁, w₁, hrun, htree⟩ : ∃ m₁ w₁,
      (setUpConsole { m with isBegun := true } level format).run.run
        { w with logging := { w.logging.detachAll with level := level } } = (.ok m₁, w₁) ∧
        w₁.tree = w.tree := by
    have hbegun : ({ m with isBegun := true } : Manager).part "console" = .ok console := hconsole
    rw [run_setUpConsole, hbegun]
    exact ⟨_, _, rfl, rfl⟩
  have hpart : m₁.part "file" = .ok entries := by
    rw [part, settings_of_setUpConsole hrun]
    exact hfile
  obtain ⟨m₂, w₂, hrunFile⟩ : ∃ m₂ w₂, (m₁.setUpFile level format).run.run w₁ = (.ok m₂, w₂) := by
    obtain ⟨f, w₂, hopened⟩ := hopens w₁ htree
    rw [run_setUpFile, hpart]
    simp only [hopened]
    split <;> exact ⟨_, _, rfl⟩
  rw [run_setUp, hlevel, hformat]
  simp only [run_setUpHandlers, hrun, hrunFile]
  exact ⟨_, _, rfl⟩

/-- Whether setting up under some settings, wherever it is done, gives each log file of a handler that
it makes a limit and a number of backups, and makes one unless it fails. It makes no handlers and
detaches none if the level cannot be read. -/
def LogsWith (settings : Entries) (limit backups : Int) : Prop :=
  ∀ w, ∃ m result w' made, (ofEntries settings).setUp.run.run w = (.ok (m, result), w') ∧
    (w'.logging.handlers = w.logging.detachAll.handlers ++ made ∨
      made = [] ∧ w'.logging = w.logging) ∧
    (∀ h ∈ made, ∀ f, h.sink = .file f → f.limit = limit ∧ f.backups = backups) ∧
    (result = .ok () → ∃ h ∈ made, ∃ f, h.sink = .file f)

/-- Settings with a file section that is enabled log with what it gives. -/
theorem logsWith_of_file (hfile : settings.field? "file" = some (.map entries))
    (henabled : isEnabled entries false = true)
    (hlimit : (fileSettings entries).2.1.asInteger = .ok limit)
    (hbackups : (fileSettings entries).2.2.asInteger = .ok backups) :
    LogsWith settings limit backups := by
  have hpart : (ofEntries settings).part "file" = .ok entries := by
    rw [part, ofEntries, hfile]
  have hwanted : ((ofEntries settings).part "file").map (isEnabled · false) = .ok true := by
    rw [hpart, Except.map, henabled]
  intro w
  cases hlevel : (ofEntries settings).level with
  | error fault =>
    exact ⟨_, _, _, [], run_setUp_of_noLevel hlevel w, .inr ⟨rfl, rfl⟩, nofun, nofun⟩
  | ok level =>
    obtain ⟨format, sinks, result, tree, hrun, hattaches, _⟩ := setUp_effect hlevel w
    have hsinks := map_sink_newHandlers level format w.logging.detachAll.handlers.length sinks
    refine ⟨_, result, _, _, hrun, .inl rfl, fun h hmem f hsink => ?_, fun hresult => ?_⟩
    · have hfile : .file f ∈ sinks := by
        rw [← hsinks, ← hsink]
        exact List.mem_map_of_mem hmem
      obtain ⟨own, w₁, w₂, hown, hopened⟩ := hattaches.opens f hfile
      cases hpart.symm.trans hown
      obtain ⟨hown, hownBackups⟩ := limits_of_openLogFile hopened
      exact ⟨Except.ok.inj (hown.symm.trans hlimit), Except.ok.inj (hownBackups.symm.trans hbackups)⟩
    · obtain ⟨console, file, hasks, rfl⟩ := hattaches.wanted hresult
      obtain ⟨f, rfl⟩ := Option.isSome_iff_exists.mp (Except.ok.inj (hasks.file.symm.trans hwanted))
      have hfile : .file f ∈ wantedSinks console (some f) := file_mem_wantedSinks.mpr rfl
      rw [← hsinks] at hfile
      obtain ⟨h, hmem, hsink⟩ := List.mem_map.mp hfile
      exact ⟨h, hmem, f, hsink⟩

/-- Settings under which setting up succeeds somewhere log with one limit and one number of backups. -/
theorem LogsWith.unique {m : Manager} {limit' backups' : Int} (h : LogsWith settings limit backups)
    (h' : LogsWith settings limit' backups')
    (hok : (ofEntries settings).setUp.run.run w = (.ok (m, .ok ()), w')) :
    limit = limit' ∧ backups = backups' := by
  obtain ⟨_, _, _, made, hrun, hhandlers, hlimits, hmade⟩ := h w
  obtain ⟨_, _, _, made', hrun', hhandlers', hlimits', hmade'⟩ := h' w
  cases hok.symm.trans hrun
  cases hok.symm.trans hrun'
  obtain ⟨handler, hmem, f, hsink⟩ := hmade rfl
  obtain ⟨handler', hmem', -⟩ := hmade' rfl
  -- Both make a handler, so neither has left the handlers alone.
  have hnew := hhandlers.resolve_right fun hnone => by
    rw [hnone.1] at hmem
    cases hmem
  have hnew' := hhandlers'.resolve_right fun hnone => by
    rw [hnone.1] at hmem'
    cases hmem'
  obtain rfl := List.append_cancel_left (hnew.symm.trans hnew')
  obtain ⟨hlimit, hbackups⟩ := hlimits handler hmem f hsink
  obtain ⟨hlimit', hbackups'⟩ := hlimits' handler hmem f hsink
  exact ⟨hlimit.symm.trans hlimit', hbackups.symm.trans hbackups'⟩

end ReleasePackaging.Logging.Manager
