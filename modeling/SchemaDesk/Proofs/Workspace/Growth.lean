import SchemaDesk.Proofs.Settings.Loading
import SchemaDesk.Proofs.Workspace.Files
import SchemaDesk.Settings.Logger
import SchemaDesk.Storage.Basic

/-!
# Setting up loses no file

A workspace grows if everything stays where it stood. Settings are read and
logging is set up in this way: directories are made where nothing stood, a log
file is made where none stood, and one that is there keeps its bytes. So what
loads from a file before logging is set up loads from it afterwards. Logging can
be set up exactly if there are settings, with a known level and a log file that
can be opened.
-/

namespace SchemaDesk

namespace Workspace

/-- The current directory is the same, and what stood at a place still stands there. -/
structure Grows (before after : Workspace) : Prop where
  directory : after.directory = before.directory
  kept : ∀ {place : Place} {node : Node}, before.node? place = some node →
    after.node? place = some node

theorem Grows.refl (workspace : Workspace) : workspace.Grows workspace := ⟨rfl, id⟩

theorem Grows.trans {before middle after : Workspace} (first : before.Grows middle)
    (second : middle.Grows after) : before.Grows after :=
  ⟨second.directory.trans first.directory, fun found => second.kept (first.kept found)⟩

/-- A workspace grows when something is put where nothing stood, or where it stood already. -/
theorem grows_put {workspace : Workspace} {place : Place} {node : Node}
    (free : ∀ found, workspace.node? place = some found → found = node) :
    workspace.Grows (workspace.put place node) where
  directory := rfl
  kept {other found} standing := by
    by_cases here : other = place
    · subst here
      obtain rfl := free found standing
      by_cases root : other = []
      · subst root
        exact standing
      · exact node?_put workspace other found root
    · rw [node?_put_of_ne workspace node here]
      exact standing

variable {before after workspace : Workspace} {path : FilePath}

/-- The directories on a way stay, so the way leads where it led. -/
theorem Grows.follow (grows : before.Grows after) {place target : Place} {names : List String}
    (leads : before.follow place names = .ok target) :
    after.follow place names = .ok target := by
  induction names generalizing place with
  | nil => exact leads
  | cons name names ih =>
    rw [Workspace.follow] at leads ⊢
    cases entered : before.enter place name with
    | error fault => simp [entered] at leads
    | ok next =>
      have directory := node?_of_enter entered
      rw [enter_congr ((grows.kept directory).trans directory.symm), entered]
      rw [entered] at leads
      exact ih leads

theorem Grows.resolve (grows : before.Grows after) {target : Place}
    (leads : before.resolve path = .ok target) : after.resolve path = .ok target := by
  have start : after.startOf path = before.startOf path := by
    rw [startOf, startOf, grows.directory]
  unfold Workspace.resolve at leads ⊢
  split at leads
  · cases leads
  · rw [start]
    exact grows.follow leads

theorem Grows.fileBytes (grows : before.Grows after) {bytes : List UInt8}
    (read : before.fileBytes path = .ok bytes) : after.fileBytes path = .ok bytes := by
  obtain ⟨place, leads, found⟩ := fileBytes_eq_ok_iff.mp read
  exact fileBytes_eq_ok_iff.mpr ⟨place, grows.resolve leads, grows.kept found⟩

/-- A file that loads goes on to do so. -/
theorem Grows.load (grows : before.Grows after) {ids : FreshIds} {schema : Schema}
    (loaded : before.load ids path = .ok schema) : after.load ids path = .ok schema := by
  unfold Workspace.load at loaded ⊢
  cases read : before.fileBytes path with
  | error error => simp [read] at loaded
  | ok bytes =>
    rw [grows.fileBytes read]
    rwa [read] at loaded

/-- Adding nothing to a file makes it if it is missing, and else leaves it as it is. -/
theorem grows_appendFile_nil {next : Workspace} (done : workspace.appendFile path [] = .ok next) :
    workspace.Grows next := by
  unfold appendFile at done
  cases read : workspace.fileBytes path with
  | ok earlier =>
    obtain ⟨place, leads, found⟩ := fileBytes_eq_ok_iff.mp read
    rw [read] at done
    obtain ⟨written, leads', -, rfl⟩ := writeFile_eq_ok_iff.mp done
    cases leads.symm.trans leads'
    refine grows_put fun other standing => ?_
    rw [found] at standing
    cases standing
    rw [List.append_nil]
  | error error =>
    rw [read] at done
    obtain ⟨place, leads, free, rfl⟩ := writeFile_eq_ok_iff.mp done
    refine grows_put fun other standing => ?_
    cases other with
    | directory => exact absurd standing free
    | file bytes =>
      rw [fileBytes_eq_ok_iff.mpr ⟨place, leads, standing⟩] at read
      cases read

theorem grows_makeWay (workspace : Workspace) (anchor : Anchor) (place : Place)
    (walked names : List String) :
    workspace.Grows (workspace.makeWay anchor place walked names).2 := by
  induction names generalizing workspace place walked with
  | nil => exact .refl workspace
  | cons name names ih =>
    unfold makeWay
    split
    · exact .refl workspace
    · next next entered =>
      split
      · exact ih workspace next _
      · exact .refl workspace
      · next vacant =>
        have made : workspace.Grows (workspace.put next .directory) :=
          grows_put fun found standing => by simp [vacant] at standing
        exact made.trans (ih _ next _)

theorem grows_makeDirectories (workspace : Workspace) (path : FilePath) :
    workspace.Grows (workspace.makeDirectories path).2 := by
  unfold makeDirectories
  split
  · exact grows_makeWay workspace _ _ _ _
  · exact .refl workspace
  · split
    · exact .refl workspace
    · exact .refl workspace
    · next vacant => exact grows_put fun found standing => by simp [vacant] at standing

end Workspace

/-- An environment file changes nothing but variables. -/
theorem EnvFile.exists_environment_load (workspace : Workspace) :
    ∃ environment, (load workspace).2 = { workspace with environment } :=
  ⟨_, (load_spec workspace).1⟩

theorem EnvFile.grows_load (workspace : Workspace) : workspace.Grows (load workspace).2 := by
  obtain ⟨environment, same⟩ := exists_environment_load workspace
  rw [same]
  exact ⟨rfl, id⟩

namespace Configuration

theorem grows_read (configuration : Configuration) (given : Settings.Given) :
    configuration.workspace.Grows (configuration.read given).2.workspace := by
  have loaded := EnvFile.grows_load configuration.workspace
  unfold read
  split
  · next done => rwa [done] at loaded
  · next workspace done =>
    rw [done] at loaded
    split
    · exact loaded
    · next settings _ =>
      have made : workspace.Grows (settings.makeLogDirectory workspace).2 := by
        unfold Settings.makeLogDirectory
        split
        · exact .refl workspace
        · exact workspace.grows_makeDirectories _
      split
      · next directory => rw [directory] at made; exact loaded.trans made
      · next directory => rw [directory] at made; exact loaded.trans made

theorem grows_get (configuration : Configuration) :
    configuration.workspace.Grows configuration.get.2.workspace := by
  unfold get
  split
  · exact .refl _
  · have grows := configuration.grows_read []
    split
    · next read => rwa [read] at grows
    · exact grows

end Configuration

/-- A text is read as a level exactly if it is the name of one in some letter case. -/
theorem Level.parse_eq_ok_iff {text : String} {level : Level} :
    Level.parse text = .ok level ↔ Level.ofName? (upperCase text) = some level := by
  unfold Level.parse
  split <;> simp_all

namespace Logging

theorem grows_restart (logging : Logging) (level : Level) (format : String)
    (file? : Option FilePath) :
    logging.configuration.workspace.Grows
      (logging.restart level format file?).2.configuration.workspace := by
  unfold restart
  dsimp only
  split
  · exact .refl _
  · split
    · exact .refl _
    · next opened =>
      unfold openFile at opened
      split at opened
      · cases opened
        exact .refl _
      · split at opened
        · next done =>
          cases opened
          exact Workspace.grows_appendFile_nil done
        · cases opened

/-- However setting up ends, everything stays where it stood. -/
theorem grows_setUp (logging : Logging) (level? file? format? : Option String) :
    logging.configuration.workspace.Grows
      (logging.setUp level? file? format?).2.configuration.workspace := by
  have read := logging.configuration.grows_get
  unfold setUp
  split
  · next done => rwa [done] at read
  · next settings configuration done =>
    rw [done] at read
    dsimp only at read ⊢
    split
    · exact read
    · exact read.trans (grows_restart { logging with configuration } _ _ _)

/-- The handlers after logging was set up under some settings, with the given file or else the one of
the settings: the file is kept under its path from the root, and it is there. -/
structure IsSetUpFor (prepared : Logging) (configuration : Configuration) (file? : Option FilePath) :
    Prop where
  configured : ∃ workspace, prepared.configuration = { configuration with workspace } ∧
    openFile configuration.workspace (file?.map (·.absolute configuration.workspace.directory)) =
      .ok workspace
  handled : ∃ level layout?, prepared.handlers =
    handlersFor level layout? (file?.map (·.absolute configuration.workspace.directory))

/-- Setting logging up reads the settings and opens the log file. -/
theorem exists_settings_of_setUp {logging prepared : Logging} {level? file? format? : Option String}
    (ready : logging.setUp level? file? format? = (.ok (), prepared)) :
    ∃ settings configuration, logging.configuration.get = (.ok settings, configuration) ∧
      prepared.IsSetUpFor configuration
        (((givenText? file?).map FilePath.ofText).or settings.logFile?) := by
  unfold setUp at ready
  split at ready
  · cases ready
  · next settings configuration read =>
    refine ⟨settings, configuration, read, ?_⟩
    dsimp only at ready
    split at ready
    · cases ready
    · unfold restart at ready
      dsimp only at ready
      split at ready
      · cases ready
      · split at ready
        · cases ready
        · next opened =>
          cases ready
          exact ⟨⟨_, rfl, opened⟩, _, _, rfl⟩

theorem exists_openFile_iff (workspace : Workspace) (file? : Option FilePath) :
    (∃ next, openFile workspace file? = .ok next) ↔
      ∀ path, file? = some path → workspace.CanOpen path := by
  cases file? with
  | none => exact ⟨nofun, fun _ => ⟨workspace, rfl⟩⟩
  | some path =>
    simp only [Option.some.injEq, forall_eq', ← Workspace.exists_appendFile_iff [], openFile]
    cases done : workspace.appendFile path [] <;> simp

/-- The handlers can be replaced exactly if the format may be used and the file can be opened. -/
theorem restart_eq_ok_iff (logging : Logging) (level : Level) (format : String)
    (file? : Option FilePath) :
    (logging.restart level format file?).1 = .ok () ↔
      LogFormat.isAcceptable format = true ∧ ∀ path, file? = some path →
        logging.configuration.workspace.CanOpen
          (path.absolute logging.configuration.workspace.directory) := by
  have opens := exists_openFile_iff logging.configuration.workspace
    (file?.map (·.absolute logging.configuration.workspace.directory))
  simp only [Option.map_eq_some_iff, forall_exists_index, and_imp, forall_apply_eq_imp_iff₂]
    at opens
  rw [← opens, restart]
  cases acceptable : LogFormat.isAcceptable format with
  | false => simp
  | true =>
    dsimp only
    rw [if_neg (by decide)]
    split
    · next refused => simp [refused]
    · next opened => simp [opened]

/-- Logging can be set up: the settings can be read, their level is the name of one in some letter
case, and the log file, if there is one, can be opened then. -/
def CanSetUp (logging : Logging) : Prop :=
  ∃ settings configuration, logging.configuration.get = (.ok settings, configuration) ∧
    (∃ level, Level.ofName? (upperCase settings.logLevel) = some level) ∧
    ∀ path, settings.logFile? = some path →
      configuration.workspace.CanOpen (path.absolute configuration.workspace.directory)

theorem setUp_eq_ok_iff (logging : Logging) :
    (logging.setUp none none none).1 = .ok () ↔ logging.CanSetUp := by
  have standard : LogFormat.isAcceptable LogFormat.standard = true := by decide +kernel
  unfold setUp CanSetUp
  split
  · next refused => simp [refused]
  · next settings configuration read =>
    simp only [read, Prod.mk.injEq, Except.ok.injEq, exists_and_left, exists_eq_left', givenText?,
      Option.filter_none, Option.getD_none, Option.map_none, Option.none_or, and_assoc,
      ← Level.parse_eq_ok_iff]
    cases parsed : Level.parse settings.logLevel with
    | error error => simp
    | ok level => simp [restart_eq_ok_iff, standard]

/-- Where logging was set up, the settings are kept. -/
theorem settings?_of_setUp {logging prepared : Logging} {level? file? format? : Option String}
    (ready : logging.setUp level? file? format? = (.ok (), prepared)) :
    ∃ settings, prepared.configuration.settings? = some settings := by
  obtain ⟨settings, configuration, read, setUp⟩ := exists_settings_of_setUp ready
  obtain ⟨workspace, configured, -⟩ := setUp.configured
  have kept := Configuration.settings?_of_get read
  exact ⟨settings, configured ▸ kept⟩

end Logging

end SchemaDesk
