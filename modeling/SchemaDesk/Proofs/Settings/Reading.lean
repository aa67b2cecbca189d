import Mathlib.Data.List.Induction
import Mathlib.Data.List.TakeWhile
import SchemaDesk.Proofs.Settings.Loading

/-!
# Settings that are read

Nothing that variables say is refused, so reading settings gives what the
variables say and defaults for the rest. It fails only if the environment file
cannot be loaded or the directory of the log file cannot be made.
-/

namespace SchemaDesk

namespace Settings

/-- The last entry under a name, in any letter case. -/
def last? (entries : List (String × String)) (name : String) : Option String :=
  lookup? entries.reverse name

/-- The entry is under the name, in some letter case. -/
def Spells (entry : String × String) (name : String) : Prop :=
  foldCase entry.1 = name

instance (entry : String × String) (name : String) : Decidable (Spells entry name) :=
  inferInstanceAs (Decidable (_ = _))

theorem last?_append (first second : List (String × String)) (name : String) :
    last? (first ++ second) name = (last? second name).or (last? first name) := by
  simp [last?, lookup?, Option.map_or]

section Last

variable {entries : List (String × String)} {name : String}

theorem last?_eq_none_iff :
    last? entries name = none ↔ ∀ entry ∈ entries, ¬ Spells entry name := by
  simp [last?, lookup?, Spells]

/-- The last entry under a name, with those before it and behind it. -/
theorem last?_eq_some_iff {value : String} :
    last? entries name = some value ↔ ∃ before entry behind, entries = before ++ entry :: behind ∧
      Spells entry name ∧ entry.2 = value ∧ ∀ other ∈ behind, ¬ Spells other name := by
  rw [last?, lookup?, Option.map_eq_some_iff]
  simp only [List.find?_eq_some_iff_append, beq_iff_eq, List.reverse_eq_iff]
  constructor
  · rintro ⟨entry, ⟨spells, behind, before, rfl, others⟩, same⟩
    exact ⟨before.reverse, entry, behind.reverse, by simp, spells, same,
      by simpa [Spells] using others⟩
  · rintro ⟨before, entry, behind, rfl, spells, same, others⟩
    exact ⟨entry, ⟨spells, behind.reverse, before.reverse, by simp,
      by simpa [Spells] using others⟩, same⟩

/-- Entries that are not under the name do not count. -/
theorem last?_filter {kept : String × String → Bool}
    (others : ∀ entry ∈ entries, Spells entry name → kept entry = true) :
    last? (entries.filter kept) name = last? entries name := by
  induction entries using List.reverseRecOn with
  | nil => rfl
  | append_singleton front entry ih =>
    simp only [List.forall_mem_append, List.forall_mem_singleton] at others
    have single : last? ([entry].filter kept) name = last? [entry] name := by
      cases keeps : kept entry with
      | true => simp [keeps]
      | false =>
        have apart : ¬ Spells entry name := fun spells => by simp [others.2 spells] at keeps
        have unsaid : last? [entry] name = none := last?_eq_none_iff.mpr (by simpa using apart)
        have dropped : [entry].filter kept = [] := by simp [keeps]
        rw [unsaid, dropped]
        rfl
    rw [List.filter_append, last?_append, last?_append, ih others.1, single]

/-- The last entry under the name stays so if it is kept. -/
theorem last?_filter_of_last {before behind : List (String × String)} {last : String × String}
    {kept : String × String → Bool} (spells : Spells last name)
    (others : ∀ other ∈ behind, ¬ Spells other name) (keeps : kept last = true) :
    last? ((before ++ last :: behind).filter kept) name = some last.2 := by
  rw [List.filter_append, List.filter_cons_of_pos keeps]
  exact last?_eq_some_iff.mpr ⟨before.filter kept, last, behind.filter kept, rfl, spells, rfl,
    fun other inside => others other (List.mem_filter.mp inside).1⟩

end Last

/-- What variables say, with defaults for the rest. -/
def ofVariables (environment : List (String × String)) : Settings where
  provider := (last? environment "datasource_provider").getD Preamble.default.provider
  urlVariable := (last? environment "database_url_env").getD Preamble.default.urlVariable
  clientProvider := (last? environment "generator_provider").getD Preamble.default.clientProvider
  logLevel := (last? environment "log_level").getD standardLevel
  logFile? := (last? environment "log_file").map FilePath.ofText

theorem readTextSetting_eq (environment : List (String × String)) (name standard : String) :
    readTextSetting [] environment name standard =
      Reading.accept ((last? environment name).getD standard) := by
  rw [readTextSetting, said?, last?]
  cases lookup? environment.reverse name with
  | none => rfl
  | some value => rfl

theorem readPathSetting_eq (environment : List (String × String)) (name : String) :
    readPathSetting [] environment name =
      Reading.accept ((last? environment name).map FilePath.ofText) := by
  rw [readPathSetting, said?, last?]
  cases lookup? environment.reverse name with
  | none => rfl
  | some value => rfl

/-- Nothing that variables say is refused. -/
theorem reading_eq (environment : List (String × String)) :
    reading [] environment = Reading.accept (ofVariables environment) := by
  simp only [reading, readTextSetting_eq, readPathSetting_eq]
  rfl

/-- The settings that are texts. -/
inductive TextSetting where
  | provider
  | urlVariable
  | clientProvider
  | logLevel
deriving DecidableEq, Repr

namespace TextSetting

/-- The name of the variables, in lower case. -/
def name : TextSetting → String
  | provider => "datasource_provider"
  | urlVariable => "database_url_env"
  | clientProvider => "generator_provider"
  | logLevel => "log_level"

def default : TextSetting → String
  | provider => Preamble.default.provider
  | urlVariable => Preamble.default.urlVariable
  | clientProvider => Preamble.default.clientProvider
  | logLevel => standardLevel

def valueIn (settings : Settings) : TextSetting → String
  | provider => settings.provider
  | urlVariable => settings.urlVariable
  | clientProvider => settings.clientProvider
  | logLevel => settings.logLevel

theorem valueIn_ofVariables (setting : TextSetting) (environment : List (String × String)) :
    setting.valueIn (ofVariables environment) =
      (last? environment setting.name).getD setting.default := by
  cases setting <;> rfl

end TextSetting

end Settings

namespace Workspace

theorem environment_makeWay (workspace : Workspace) (anchor : Anchor) (place : Place)
    (walked names : List String) :
    (workspace.makeWay anchor place walked names).2.environment = workspace.environment := by
  induction names generalizing workspace place walked with
  | nil => rfl
  | cons name names ih =>
    rw [makeWay]
    split
    · rfl
    · split
      · exact ih workspace _ _
      · rfl
      · exact ih (workspace.put _ _) _ _

/-- Making directories leaves variables as they are. -/
theorem environment_makeDirectories (workspace : Workspace) (path : FilePath) :
    (workspace.makeDirectories path).2.environment = workspace.environment := by
  unfold makeDirectories
  split
  · exact environment_makeWay workspace _ _ _ _
  · rfl
  · split
    · rfl
    · rfl
    · rfl

end Workspace

theorem Settings.environment_makeLogDirectory (settings : Settings) (workspace : Workspace) :
    (settings.makeLogDirectory workspace).2.environment = workspace.environment := by
  unfold makeLogDirectory
  split
  · rfl
  · exact workspace.environment_makeDirectories _

namespace Configuration

/-- Settings can be read: the environment file is a text, what it adds can be variables, and the
directory of the log file can be made. -/
structure CanRead (workspace : Workspace) : Prop where
  legible : EnvFile.IsLegible workspace
  settable : ∀ entry ∈ EnvFile.additions workspace, EnvFile.isSettable entry = true
  recordable : ((Settings.ofVariables (EnvFile.loaded workspace)).makeLogDirectory
    { workspace with environment := EnvFile.loaded workspace }).1 = .ok ()

variable {configuration : Configuration}

/-- Once the environment file is loaded, reading settings only makes the directory of the log
file. -/
theorem read_of_load_ok {workspace : Workspace}
    (loaded : EnvFile.load configuration.workspace = (.ok (), workspace)) :
    (configuration.read []).2.workspace.environment = workspace.environment ∧
      ∀ settings, (configuration.read []).1 = .ok settings ↔
        ((Settings.ofVariables workspace.environment).makeLogDirectory workspace).1 = .ok () ∧
          settings = Settings.ofVariables workspace.environment := by
  have environment := Settings.environment_makeLogDirectory
    (Settings.ofVariables workspace.environment) workspace
  simp only [read, loaded, Settings.reading_eq, Reading.run, Reading.accept]
  split
  · next error next failed =>
    rw [failed] at environment ⊢
    exact ⟨environment, fun settings => ⟨nofun, fun done => nomatch done.1⟩⟩
  · next next made =>
    rw [made] at environment ⊢
    refine ⟨environment, fun settings => ⟨fun done => ?_, fun done => by rw [done.2]⟩⟩
    cases done
    exact ⟨rfl, rfl⟩

/-- Reading settings does what loading the environment file and making the directory of the log
file do. -/
theorem read_spec (configuration : Configuration) :
    (configuration.read []).2.workspace.environment =
        configuration.workspace.environment ++ EnvFile.added configuration.workspace ∧
      ∀ settings, (configuration.read []).1 = .ok settings ↔
        CanRead configuration.workspace ∧
          settings = Settings.ofVariables (EnvFile.loaded configuration.workspace) := by
  obtain ⟨environment, success⟩ := EnvFile.load_spec configuration.workspace
  rcases outcome : EnvFile.load configuration.workspace with ⟨error | done, workspace⟩
  · rw [outcome] at environment success
    rw [read, outcome]
    refine ⟨congrArg Workspace.environment environment, fun settings => ⟨nofun, fun able => ?_⟩⟩
    cases success.mpr ⟨able.1.legible, able.1.settable⟩
  · rw [outcome] at environment success
    obtain ⟨legible, settable⟩ := success.mp rfl
    have whole : EnvFile.added configuration.workspace =
        EnvFile.additions configuration.workspace := List.takeWhile_eq_self_iff.mpr settable
    rw [whole] at environment ⊢
    change workspace = { configuration.workspace with
      environment := EnvFile.loaded configuration.workspace } at environment
    obtain ⟨unchanged, given⟩ := read_of_load_ok outcome
    subst environment
    refine ⟨unchanged, fun settings => (given settings).trans (and_congr_left' ?_)⟩
    exact ⟨fun recordable => ⟨legible, settable, recordable⟩, CanRead.recordable⟩

/-- What getting settings does to the variables and gives, when none are kept. -/
theorem get_spec (forgotten : configuration.settings? = none) :
    configuration.get.2.workspace.environment =
        configuration.workspace.environment ++ EnvFile.added configuration.workspace ∧
      ∀ settings, configuration.get.1 = .ok settings ↔
        CanRead configuration.workspace ∧
          settings = Settings.ofVariables (EnvFile.loaded configuration.workspace) := by
  have spec := configuration.read_spec
  simp only [get, forgotten]
  split
  · next done => simpa [done] using spec
  · next failed => exact spec

end Configuration

end SchemaDesk
