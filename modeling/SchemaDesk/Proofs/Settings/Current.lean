import SchemaDesk.Proofs.Settings.History

/-!
# Settings after a reset

The first settings that are got after a reset are those of the users' variables
and of the environment file as they are then, unless something that an earlier
reading left bears on them, or the file spells a name in another way than a
variable does. They are given until the next reset.
-/

namespace SchemaDesk

namespace Configuration

variable {configuration start : Configuration} {events : List Event} {name : String}

/-- The variables that users have set. -/
def ownVariables (start : Configuration) (events : List Event) : List (String × String) :=
  (start.after events).workspace.environment.filter fun entry =>
    (own? start.workspace.environment events entry.1).isSome

/-- The values that the environment file gives where only the variables of users are known. -/
def fileValues (start : Configuration) (events : List Event) : List (String × String) :=
  EnvFile.found { (start.after events).workspace with environment := ownVariables start events }

/-- What is said about a setting: by a variable that users have set, or else by the file. -/
def current? (start : Configuration) (events : List Event) (name : String) : Option String :=
  (Settings.last? (ownVariables start events) name).or
    (Settings.last? (fileValues start events) name)

/-- What earlier readings left bears on a setting: a variable that is not the users' says something
else about it, or no variable says anything and the file says something else than it would without
such variables. -/
def IsStale (start : Configuration) (events : List Event) (name : String) : Prop :=
  (∃ entry ∈ (start.after events).workspace.environment,
    own? start.workspace.environment events entry.1 = none ∧ Settings.Spells entry name ∧
      current? start events name ≠ some entry.2) ∨
  (∀ entry ∈ (start.after events).workspace.environment, ¬ Settings.Spells entry name) ∧
    Settings.last? (EnvFile.found (start.after events).workspace) name ≠
      Settings.last? (fileValues start events) name

instance (start : Configuration) (events : List Event) (name : String) :
    Decidable (IsStale start events name) :=
  inferInstanceAs (Decidable (_ ∨ _))

/-- There is a variable for a setting, and the file adds another one, whose name has other
letter case. -/
def IsRespelled (workspace : Workspace) (name : String) : Prop :=
  (∃ entry ∈ workspace.environment, Settings.Spells entry name) ∧
    ∃ entry ∈ EnvFile.additions workspace, Settings.Spells entry name

instance (workspace : Workspace) (name : String) : Decidable (IsRespelled workspace name) :=
  inferInstanceAs (Decidable (_ ∧ _))

/-- Without variables that were left nothing is stale. -/
theorem exists_isLeft_of_isStale (distinct : (start.workspace.environment.map (·.1)).Nodup)
    (stale : IsStale start events name) : ∃ entry, IsLeft start events entry := by
  rcases stale with ⟨entry, inside, disowned, -⟩ | ⟨-, differs⟩
  · exact ⟨entry, isLeft_of_mem distinct inside disowned⟩
  · by_contra! none
    have whole : ownVariables start events = (start.after events).workspace.environment := by
      refine List.filter_eq_self.mpr fun entry inside => ?_
      have own := ((mem_environment_after_iff distinct).mp inside).resolve_right (none entry)
      rw [own]
      rfl
    rw [fileValues, whole] at differs
    exact differs rfl

/-- A variable that is not stale says what is said about a setting. -/
theorem last?_environment (fresh : ¬ IsStale start events name)
    (known : ∃ entry ∈ (start.after events).workspace.environment, Settings.Spells entry name) :
    Settings.last? (start.after events).workspace.environment name =
      current? start events name := by
  obtain ⟨value, said⟩ := Option.ne_none_iff_exists'.mp fun unsaid =>
    have ⟨entry, inside, spells⟩ := known
    Settings.last?_eq_none_iff.mp unsaid entry inside spells
  obtain ⟨before, last, behind, split, spells, rfl, others⟩ := Settings.last?_eq_some_iff.mp said
  have inside : last ∈ (start.after events).workspace.environment := by simp [split]
  rw [said]
  cases own : own? start.workspace.environment events last.1 with
  | some value =>
    -- Nothing behind it spells the setting, so it is also the last of the users' variables.
    have ownSaid : Settings.last? (ownVariables start events) name = some last.2 := by
      rw [ownVariables, split]
      exact Settings.last?_filter_of_last spells others (by rw [own]; rfl)
    rw [current?, ownSaid, Option.some_or]
  | none =>
    by_contra differs
    exact fresh (.inl ⟨last, inside, own, spells, Ne.symm differs⟩)

/-- Where no variable says anything about a setting, the file does. -/
theorem last?_additions (fresh : ¬ IsStale start events name)
    (unknown : ∀ entry ∈ (start.after events).workspace.environment,
      ¬ Settings.Spells entry name) :
    Settings.last? (EnvFile.additions (start.after events).workspace) name =
      current? start events name := by
  have ownUnsaid : Settings.last? (ownVariables start events) name = none :=
    Settings.last?_eq_none_iff.mpr fun entry inside =>
      unknown entry (List.mem_filter.mp inside).1
  have whole : Settings.last? (EnvFile.additions (start.after events).workspace) name =
      Settings.last? (EnvFile.found (start.after events).workspace) name := by
    refine Settings.last?_filter fun entry _ spells => ?_
    rw [Option.isNone_iff_eq_none, Workspace.valueOf?, List.lookup_eq_none_iff]
    intro other inside
    have apart : entry.1 ≠ other.1 := fun same =>
      unknown other inside (by rwa [Settings.Spells, ← same])
    simpa using apart
  rw [whole, current?, ownUnsaid, Option.none_or]
  by_contra differs
  exact fresh (.inr ⟨unknown, differs⟩)

/-- What is read about a setting is what is said about it, if nothing is stale and no variable is
spelled in two ways. -/
theorem last?_loaded (fresh : ¬ IsStale start events name)
    (once : ¬ IsRespelled (start.after events).workspace name) :
    Settings.last? (EnvFile.loaded (start.after events).workspace) name =
      current? start events name := by
  rw [EnvFile.loaded, Settings.last?_append]
  by_cases known : ∃ entry ∈ (start.after events).workspace.environment,
      Settings.Spells entry name
  · have unsaid : Settings.last? (EnvFile.additions (start.after events).workspace) name = none :=
      Settings.last?_eq_none_iff.mpr fun entry inside spells =>
        once ⟨known, entry, inside, spells⟩
    rw [unsaid, Option.none_or, last?_environment fresh known]
  · have unknown : ∀ entry ∈ (start.after events).workspace.environment,
        ¬ Settings.Spells entry name := fun entry inside spells => known ⟨entry, inside, spells⟩
    rw [Settings.last?_eq_none_iff.mpr unknown, Option.or_none, last?_additions fresh unknown]

/-! ## Getting settings after a reset -/

/-- What getting settings gives after some events, when none are kept. -/
structure ReadsAfresh (start : Configuration) (events : List Event) : Prop where
  /-- The variables are those that users have set and those that earlier readings left. -/
  known : ∀ entry, entry ∈ (start.after events).workspace.environment ↔
    own? start.workspace.environment events entry.1 = some entry.2 ∨ IsLeft start events entry
  /-- What earlier readings left is not the users' own. -/
  apart : ∀ entry, IsLeft start events entry →
    own? start.workspace.environment events entry.1 = none
  /-- The file is that of the current directory, if other directories that are searched have
  none. -/
  nearest : (∀ place ∈ EnvFile.candidates (start.after events).workspace.directory,
      place ≠ (start.after events).workspace.directory ++ [EnvFile.fileName] →
        (start.after events).workspace.node? place = none) →
    EnvFile.bytes? (start.after events).workspace =
      match (start.after events).workspace.node?
        ((start.after events).workspace.directory ++ [EnvFile.fileName]) with
      | some (.file bytes) => some bytes
      | _ => none
  /-- Settings are given exactly if they can be read. -/
  success : (∃ settings, (start.after events).get.1 = .ok settings) ↔
    CanRead (start.after events).workspace
  /-- They are what the last variables say, those of the file behind the others. -/
  value : ∀ settings, (start.after events).get.1 = .ok settings → ∀ setting : Settings.TextSetting,
    setting.valueIn settings =
      (Settings.last? (EnvFile.loaded (start.after events).workspace) setting.name).getD
        setting.default
  /-- This is what users' variables say, or else the file, unless it is stale or respelled. -/
  current : ∀ settings, (start.after events).get.1 = .ok settings →
    ∀ setting : Settings.TextSetting, ¬ IsStale start events setting.name →
      ¬ IsRespelled (start.after events).workspace setting.name →
        setting.valueIn settings = (current? start events setting.name).getD setting.default
  /-- Nothing is stale before a reading has left something. -/
  stale : ∀ name, IsStale start events name → ∃ entry, IsLeft start events entry
  /-- The same settings are given until they are reset. -/
  kept : ∀ settings, (start.after events).get.1 = .ok settings → ∀ later, .reset ∉ later →
    ((start.after events).get.2.after later).get.1 = .ok settings

/-- The first settings that are got after a reset reflect the variables and the environment file as
they are then, apart from what earlier readings left and from names in two spellings. They are given
until the next reset. -/
theorem readsAfresh_after_reset (distinct : (start.workspace.environment.map (·.1)).Nodup)
    (earlier : List Event) {between : List Event} (ungot : .get ∉ between) :
    ReadsAfresh start (earlier ++ .reset :: between) := by
  have forgotten : (start.after (earlier ++ .reset :: between)).settings? = none :=
    settings?_after_reset earlier ungot
  generalize earlier ++ .reset :: between = events at forgotten ⊢
  obtain ⟨-, given⟩ := get_spec forgotten
  have value : ∀ settings, (start.after events).get.1 = .ok settings →
      ∀ setting : Settings.TextSetting, setting.valueIn settings =
        (Settings.last? (EnvFile.loaded (start.after events).workspace) setting.name).getD
          setting.default := by
    intro settings got setting
    rw [((given settings).mp got).2, Settings.TextSetting.valueIn_ofVariables]
  exact {
    known := fun entry => mem_environment_after_iff distinct
    apart := fun entry left => own?_of_isLeft left
    nearest := EnvFile.bytes?_of_alone
    success := ⟨fun ⟨settings, got⟩ => ((given settings).mp got).1,
      fun able => ⟨_, (given _).mpr ⟨able, rfl⟩⟩⟩
    value := value
    current := fun settings got setting fresh once => by
      rw [value settings got setting, last?_loaded fresh once]
    stale := fun name => exists_isLeft_of_isStale distinct
    kept := fun settings got later unreset => by
      have next : (start.after events).get = (.ok settings, (start.after events).get.2) :=
        Prod.ext got rfl
      have known := settings?_after_of_kept (settings?_of_get next) unreset
      rw [get_of_kept known] }

/-- A home directory without an environment file. -/
def home : Configuration :=
  ⟨⟨[(["home"], .directory)], ["home"], []⟩, none⟩

/-- The environment file at home is written. -/
def written (text : String) : Event :=
  .arrange [(["home"], .directory), (["home", ".env"], .file (Text.Utf8.encode text.toList))]
    ["home"]

/-- A variable that was left does no harm while the file says the same, and a variable of the users
goes before the file. -/
theorem readsAfresh_after_reset_home :
    let earlier := [.load, written "DATASOURCE_PROVIDER=mysql\n", .get]
    let between := [.set "Log_Level" "DEBUG",
      written "DATASOURCE_PROVIDER=mysql\nDATABASE_URL_ENV=MAIN_URL\n"]
    let events := earlier ++ .reset :: between
    (home.workspace.environment.map (·.1)).Nodup ∧ .get ∉ between ∧ ReadsAfresh home events ∧
      (∀ setting : Settings.TextSetting, ¬ IsStale home events setting.name ∧
        ¬ IsRespelled (home.after events).workspace setting.name) ∧
      (home.after events).get.1 =
        .ok ⟨"mysql", "MAIN_URL", "prisma-client-js", "DEBUG", none⟩ := by
  intro earlier between events
  have distinct : (home.workspace.environment.map (·.1)).Nodup := by decide
  have ungot : .get ∉ between := by decide
  have settled : ∀ setting : Settings.TextSetting, ¬ IsStale home events setting.name ∧
      ¬ IsRespelled (home.after events).workspace setting.name := by
    intro setting
    cases setting <;> decide +kernel
  exact ⟨distinct, ungot, readsAfresh_after_reset distinct earlier ungot, settled,
    by decide +kernel⟩

/-- Settings do not always reflect what is said about them: a value that the file had before stays
behind, and a value of the file goes before a variable in other letter case. -/
theorem not_current_home :
    let rewritten := [written "LOG_LEVEL=DEBUG\n", .get, written "LOG_LEVEL=ERROR\n", .reset]
    let respelled := [.reset, .set "LOG_LEVEL" "DEBUG", written "log_level=ERROR\n"]
    ((home.after rewritten).get.1 = .ok { Settings.ofVariables [] with logLevel := "DEBUG" } ∧
        current? home rewritten "log_level" = some "ERROR") ∧
      (home.after respelled).get.1 = .ok { Settings.ofVariables [] with logLevel := "ERROR" } ∧
        current? home respelled "log_level" = some "DEBUG" := by
  decide +kernel

end Configuration

end SchemaDesk
