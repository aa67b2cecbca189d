import SchemaDesk.Proofs.Workspace.Growth
import SchemaDesk.Proofs.Workspace.Preparation

/-!
# Places that logging does not touch

Setting logging up makes directories where nothing stood, on the way to the
directory of the log file, and the log file itself; records are added to that
file. Every other place stays as it was. The way is the one that is written: with
a step back it also leads through directories that do not hold the log file.
-/

namespace SchemaDesk

namespace Settings

variable {settings : Settings} {workspace : Workspace} {place : Place}

/-- The place is that of the log file. -/
def IsLogPlace (settings : Settings) (workspace : Workspace) (place : Place) : Prop :=
  ∃ path, settings.logFile? = some path ∧
    place = workspace.placeOf (path.absolute workspace.directory)

/-- The place is passed on the way to the directory of the log file, as it is written. -/
def LogPasses (settings : Settings) (workspace : Workspace) (place : Place) : Prop :=
  ∃ path, settings.logFile? = some path ∧ workspace.Passes path.parent place

end Settings

/-- From one workspace to the other, nothing changes but the log file and the directories on its
way. -/
def Settings.OnlyLogs (settings : Settings) (origin : Workspace) : Workspace → Workspace → Prop :=
  Workspace.Prepares (settings.LogPasses origin) (settings.IsLogPlace origin)

open Workspace (Prepares)

section Logs

variable {settings : Settings} {origin : Workspace}

theorem Settings.onlyLogs_makeLogDirectory {workspace : Workspace}
    (same : workspace.directory = origin.directory) :
    settings.OnlyLogs origin workspace (settings.makeLogDirectory workspace).2 := by
  unfold makeLogDirectory
  split
  · exact .refl workspace
  · next path given =>
    refine Workspace.prepares_makeDirectories fun place passed => ?_
    obtain ⟨front, inside, rfl⟩ := passed
    refine ⟨path, given, front, inside, ?_⟩
    rw [Workspace.startOf, Workspace.startOf, same]

/-- Reading settings prepares the directory of the log file. -/
theorem Configuration.onlyLogs_get {configuration next : Configuration}
    (read : configuration.get = (.ok settings, next)) :
    settings.OnlyLogs configuration.workspace configuration.workspace next.workspace := by
  unfold get at read
  split at read
  · cases read
    exact .refl _
  · split at read
    · next settings' next' fresh =>
      cases read
      obtain ⟨environment, same⟩ := EnvFile.exists_environment_load configuration.workspace
      unfold Configuration.read at fresh
      split at fresh
      · cases fresh
      · next workspace loaded =>
        rw [loaded] at same
        dsimp only at same
        subst same
        split at fresh
        · cases fresh
        · split at fresh
          · cases fresh
          · next made =>
            cases fresh
            have directory : settings.OnlyLogs configuration.workspace
                { configuration.workspace with environment } _ :=
              Settings.onlyLogs_makeLogDirectory rfl
            rw [made] at directory
            exact (Prepares.withEnvironment _ environment).trans directory
    · next failed => exact absurd read (failed _ _)

/-- A path from the root walks, in any workspace, the names of the place that the path names. -/
theorem Workspace.placeOf_absolute (workspace origin : Workspace) (path : FilePath) :
    workspace.placeOf (path.absolute origin.directory) =
      FilePath.collapse [] (origin.placeOf path) := by
  obtain ⟨anchor, names⟩ := path
  cases anchor <;> rfl

/-- The file is the log file of the settings, under its path from the root. -/
def Settings.IsLogFile (settings : Settings) (origin : Workspace) (path : FilePath) : Prop :=
  settings.logFile?.map (·.absolute origin.directory) = some path

theorem Settings.IsLogFile.isLogPlace {path : FilePath} (ours : settings.IsLogFile origin path)
    (workspace : Workspace) : settings.IsLogPlace origin (workspace.placeOf path) := by
  obtain ⟨given, named, rfl⟩ := Option.map_eq_some_iff.mp ours
  refine ⟨given, named, ?_⟩
  rw [workspace.placeOf_absolute, origin.placeOf_absolute]

/-- The log file, if there is one, does not lie below a place. -/
def Settings.LogsOutside (settings : Settings) (workspace : Workspace) (top : Place) : Prop :=
  ∀ place, settings.IsLogPlace workspace place → ¬ top <+: place

/-- The path does not pass the place of the log file, and the way to the directory of the log file
does not pass the place of the path. -/
structure Settings.LogsApartFrom (settings : Settings) (workspace : Workspace) (path : FilePath) :
    Prop where
  file : ∀ place, settings.IsLogPlace workspace place → ¬ workspace.Passes path place
  directories : ¬ settings.LogPasses workspace (workspace.placeOf path)

/-- Neither the current directory nor the path leads back to a directory above. -/
structure Workspace.GoesOn (workspace : Workspace) (path : FilePath) : Prop where
  directory : ∀ name ∈ workspace.directory, name ≠ FilePath.above
  names : ∀ name ∈ path.names, name ≠ FilePath.above

namespace Workspace.GoesOn

variable {workspace : Workspace} {path : FilePath} {place top : Place}

theorem placeOf_eq (goesOn : workspace.GoesOn path) :
    workspace.placeOf path = workspace.startOf path ++ path.names :=
  FilePath.collapse_of_ne_above goesOn.names

theorem ne_above_of_mem_placeOf (goesOn : workspace.GoesOn path) :
    ∀ name ∈ workspace.placeOf path, name ≠ FilePath.above := by
  rw [goesOn.placeOf_eq, List.forall_mem_append]
  refine ⟨fun name inside => ?_, goesOn.names⟩
  unfold startOf at inside
  split at inside
  · exact goesOn.directory name inside
  · cases inside

theorem placeOf_absolute_eq (goesOn : workspace.GoesOn path) :
    workspace.placeOf (path.absolute workspace.directory) = workspace.placeOf path := by
  rw [workspace.placeOf_absolute, FilePath.collapse_of_ne_above goesOn.ne_above_of_mem_placeOf,
    List.nil_append]

/-- The path passes only places above the one it names. -/
theorem prefix_of_passes (goesOn : workspace.GoesOn path) (passed : workspace.Passes path place) :
    place <+: workspace.placeOf path := by
  obtain ⟨front, inside, rfl⟩ := passed
  rw [FilePath.collapse_of_ne_above fun name here => goesOn.names name (inside.subset here),
    goesOn.placeOf_eq, List.prefix_append_right_inj]
  exact inside

/-- The directory of a path that goes on is passed before its place. -/
theorem parent (goesOn : workspace.GoesOn path) : workspace.GoesOn path.parent where
  directory := goesOn.directory
  names := fun name inside => goesOn.names name ((List.dropLast_sublist _).subset inside)

/-- The log file stands where its path leads. -/
theorem isLogPlace_iff (goesOn : workspace.GoesOn path) (given : settings.logFile? = some path) :
    settings.IsLogPlace workspace place ↔ place = workspace.placeOf path := by
  unfold Settings.IsLogPlace
  constructor
  · rintro ⟨path', given', rfl⟩
    cases given.symm.trans given'
    exact goesOn.placeOf_absolute_eq
  · rintro rfl
    exact ⟨path, given, goesOn.placeOf_absolute_eq.symm⟩

/-- Where the log file lies outside a place, so does the way to its directory. -/
theorem not_logPasses (goesOn : workspace.GoesOn path) (given : settings.logFile? = some path)
    (outside : settings.LogsOutside workspace top) (below : top <+: place) :
    ¬ settings.LogPasses workspace place := by
  rintro ⟨path', given', passed⟩
  cases given.symm.trans given'
  have above : workspace.placeOf path.parent <+: workspace.placeOf path := by
    rw [goesOn.parent.placeOf_eq, goesOn.placeOf_eq]
    exact (List.prefix_append_right_inj _).mpr (List.dropLast_prefix _)
  exact outside _ ((goesOn.isLogPlace_iff given).mpr rfl)
    ((below.trans (goesOn.parent.prefix_of_passes passed)).trans above)

end Workspace.GoesOn

/-- What lies below a place outside which the log file lies stays, except that directories may be
made where nothing stood, on the way to the directory of the log file. -/
theorem Settings.OnlyLogs.stays_or_made {before after : Workspace} {top place : Place}
    (only : settings.OnlyLogs origin before after) (outside : settings.LogsOutside origin top)
    (below : top <+: place) :
    after.node? place = before.node? place ∨
      (settings.LogPasses origin place ∧ before.node? place = none ∧
        after.node? place = some .directory) :=
  Workspace.Prepares.others only place fun here => outside place here below

/-- A path can still be written if logging keeps apart from it. -/
theorem Settings.OnlyLogs.canHold {after : Workspace} {path : FilePath}
    (only : settings.OnlyLogs origin origin after) (holds : origin.CanHold path)
    (apart : settings.LogsApartFrom origin path) : after.CanHold path :=
  Workspace.Prepares.canHold only holds (fun _ passed here => apart.file _ here passed)
    apart.directories

namespace Logging

/-- Records go to the error stream and to the log file of the settings only. -/
def LogsTo (logging : Logging) (settings : Settings) (origin : Workspace) : Prop :=
  ∀ handler ∈ logging.handlers, ∀ path, handler.file? = some path →
    settings.IsLogFile origin path

theorem onlyLogs_write {file? : Option FilePath}
    (ours : ∀ path, file? = some path → settings.IsLogFile origin path) (logging : Logging)
    (line : String) :
    settings.OnlyLogs origin logging.configuration.workspace
      (logging.write file? line).configuration.workspace := by
  unfold write
  split
  · exact .refl _
  · next path =>
    split
    · next done =>
      exact Workspace.prepares_appendFile ((ours path rfl).isLogPlace _) done
    · exact .refl _

theorem onlyLogs_handle {handler : LogHandler}
    (ours : ∀ path, handler.file? = some path → settings.IsLogFile origin path) (time : String)
    (record : LogRecord) (logging : Logging) :
    settings.OnlyLogs origin logging.configuration.workspace
      (handle time record logging handler).configuration.workspace := by
  unfold handle
  split
  · exact .refl _
  · split
    · exact onlyLogs_write ours logging _
    · exact .refl _

theorem handlers_handle (time : String) (record : LogRecord) (logging : Logging)
    (handler : LogHandler) : (handle time record logging handler).handlers = logging.handlers := by
  unfold handle write
  split
  · rfl
  · split
    · split
      · rfl
      · split <;> rfl
    · rfl

/-- Handing a record to handlers keeps the handlers and changes nothing but the log file. -/
theorem onlyLogs_foldl_handle {handlers : List LogHandler}
    (ours : ∀ handler ∈ handlers, ∀ path, handler.file? = some path →
      settings.IsLogFile origin path) (time : String) (record : LogRecord) (logging : Logging) :
    settings.OnlyLogs origin logging.configuration.workspace
        (handlers.foldl (handle time record) logging).configuration.workspace ∧
      (handlers.foldl (handle time record) logging).handlers = logging.handlers := by
  induction handlers generalizing logging with
  | nil => exact ⟨.refl _, rfl⟩
  | cons handler handlers ih =>
    rw [List.forall_mem_cons] at ours
    obtain ⟨later, kept⟩ := ih ours.2 (handle time record logging handler)
    have here := onlyLogs_handle ours.1 time record logging
    exact ⟨here.trans later, kept.trans (handlers_handle time record logging handler)⟩

theorem onlyLogs_record {logging : Logging} (ours : logging.LogsTo settings origin) (time : String)
    (record : LogRecord) :
    settings.OnlyLogs origin logging.configuration.workspace
        (logging.record time record).configuration.workspace ∧
      (logging.record time record).handlers = logging.handlers := by
  unfold Logging.record
  split
  · exact onlyLogs_foldl_handle ours time record logging
  · exact ⟨.refl _, rfl⟩

/-- Records change nothing but the log file. -/
theorem onlyLogs_recordAll {logging : Logging} (ours : logging.LogsTo settings origin)
    (time : String) (records : List LogRecord) :
    settings.OnlyLogs origin logging.configuration.workspace
      (logging.recordAll time records).configuration.workspace := by
  induction records generalizing logging with
  | nil => exact .refl _
  | cons record records ih =>
    obtain ⟨here, kept⟩ := onlyLogs_record ours time record
    have ours' : (logging.record time record).LogsTo settings origin := by
      rwa [LogsTo, kept]
    exact here.trans (ih ours')

theorem onlyLogs_openFile {file? : Option FilePath} {workspace next : Workspace}
    (ours : ∀ path, file? = some path → settings.IsLogFile origin path)
    (opened : openFile workspace file? = .ok next) : settings.OnlyLogs origin workspace next := by
  unfold openFile at opened
  split at opened
  · cases opened
    exact .refl _
  · next path =>
    split at opened
    · next done =>
      cases opened
      exact Workspace.prepares_appendFile ((ours path rfl).isLogPlace _) done
    · cases opened

/-- Setting logging up prepares the log file and nothing else, and records go there. -/
theorem onlyLogs_setUp {logging prepared : Logging}
    (ready : logging.setUp none none none = (.ok (), prepared))
    (kept : prepared.configuration.settings? = some settings) :
    settings.OnlyLogs logging.configuration.workspace logging.configuration.workspace
        prepared.configuration.workspace ∧
      prepared.LogsTo settings logging.configuration.workspace := by
  obtain ⟨settings', configuration, read, setUp⟩ := exists_settings_of_setUp ready
  obtain ⟨workspace, configured, opened⟩ := setUp.configured
  obtain ⟨level, layout?, handled⟩ := setUp.handled
  -- The settings that were read are those that are kept.
  have same := Configuration.settings?_of_get read
  rw [configured] at kept ⊢
  cases same.symm.trans kept
  have directory := Configuration.onlyLogs_get read
  have ours : ∀ path, settings.logFile?.map (·.absolute configuration.workspace.directory) =
      some path → settings.IsLogFile logging.configuration.workspace path := by
    intro path named
    rwa [directory.directory] at named
  constructor
  · exact directory.trans (onlyLogs_openFile ours opened)
  · intro handler inside path named
    rw [handled] at inside
    rcases List.mem_cons.mp inside with rfl | ofFile
    · cases named
    · obtain ⟨file, listed, rfl⟩ := List.mem_map.mp ofFile
      cases named
      exact ours path (Option.mem_toList.mp listed)

end Logging

end Logs

end SchemaDesk
