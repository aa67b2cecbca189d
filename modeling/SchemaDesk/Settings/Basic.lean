import SchemaDesk.Document.Basic
import SchemaDesk.Payload.Scalar
import SchemaDesk.Settings.EnvFile
import SchemaDesk.Text.Case
import SchemaDesk.Text.Blank
import SchemaDesk.Workspace.Environment
import SchemaDesk.Workspace.Files

/-!
# Settings

What the environment says about documents and logging. A setting is given
directly, or by a variable of the environment, or it has its default; the
letter case of names does not matter. Before settings are read, the nearest
environment file adds its bindings to the variables, without changing a
variable that is set; a variable can turn this off. Settings are read once and
kept until they are reset.
-/

namespace SchemaDesk

structure Settings where
  provider : String
  urlVariable : String
  clientProvider : String
  logLevel : String
  logFile? : Option FilePath
deriving DecidableEq, Repr

/-- The preamble of documents under the settings. -/
def Settings.preamble (settings : Settings) : Preamble :=
  ⟨settings.provider, settings.urlVariable, settings.clientProvider⟩

/-- Why settings cannot be read. -/
inductive SettingsError where
  | rejected (rejection : Rejection)
  | undecodable (malformed : Text.Utf8.Malformed)
  | unsettable (error : VariableError)
  | file (error : FileError)
deriving DecidableEq, Repr

def SettingsError.message : SettingsError → String
  | .rejected rejection => rejection.title
  | .undecodable malformed => malformed.message
  | .unsettable error => error.message
  | .file error => error.message

namespace EnvFile

/-- The name of environment files. -/
def fileName : String := ".env"

/-- How many directories are searched, the current one first. -/
def searchDepth : Nat := 4

/-- The places where an environment file may stand, the nearest first. The program goes on from its
own directory if none stands there; a workspace does not hold the program, so that search is left
out. -/
def candidates (directory : Place) : List Place :=
  ((List.range (directory.length + 1)).map fun up => directory.take (directory.length - up)).take
    searchDepth |>.map (· ++ [fileName])

/-- The place of the nearest environment file. -/
def find? (workspace : Workspace) : Option Place :=
  (candidates workspace.directory).find? fun place => (workspace.node? place).isSome

/-- The bindings of a text, expanded, each key once. -/
def bindingsOf (environment : List (String × String)) (text : List Char) : List Binding :=
  lastValues (resolve environment [] (bindings (Text.unifyNewlines text)))

/-- Adds bindings to the variables that are not set. A binding that cannot be a variable ends this;
those before it stay. -/
def addBindings (workspace : Workspace) : List Binding → Except VariableError Unit × Workspace
  | [] => (.ok (), workspace)
  | binding :: rest =>
    match workspace.valueOf? binding.1, binding.2 with
    | none, some value =>
      match workspace.setVariable binding.1 value with
      | .ok next => addBindings next rest
      | .error error => (.error error, workspace)
    | _, _ => addBindings workspace rest

/-- The variable that turns environment files off. -/
def switchName : String := "PYTHON_DOTENV_DISABLED"

/-- The words that turn something off, in upper case. -/
def switchWords : List String := ["1", "TRUE", "T", "YES", "Y"]

/-- Environment files are turned off. -/
def isDisabled (workspace : Workspace) : Bool :=
  match workspace.valueOf? switchName with
  | some value => switchWords.contains (String.ofList (Text.upper value.toList))
  | none => false

/-- Adds what a file binds to the variables. -/
def loadBytes (workspace : Workspace) (bytes : List UInt8) :
    Except SettingsError Unit × Workspace :=
  match Text.Utf8.decode bytes with
  | .error malformed => (.error (.undecodable malformed), workspace)
  | .ok text =>
    match addBindings workspace (bindingsOf workspace.environment text) with
    | (.error error, next) => (.error (.unsettable error), next)
    | (.ok _, next) => (.ok (), next)

/-- Adds what the nearest environment file binds to the variables. Anything but a file there binds
nothing. -/
def load (workspace : Workspace) : Except SettingsError Unit × Workspace :=
  match (find? workspace).bind workspace.node? with
  | some (.file bytes) =>
    if isDisabled workspace then (.ok (), workspace) else loadBytes workspace bytes
  | _ => (.ok (), workspace)

end EnvFile

namespace Settings

/-- Values given directly, by name. -/
abbrev Given := List (String × Payload)

/-- The text in lower case, where only ASCII letters change. -/
def foldCase (text : String) : String :=
  String.ofList (text.toList.map Char.toLower)

/-- The first entry under a name, in any letter case. -/
def lookup? {α : Type} (entries : List (String × α)) (name : String) : Option α :=
  (entries.find? fun entry => foldCase entry.1 == name).map (·.2)

/-- What is said about a setting: directly, or else by the environment. Of two names that differ in
letter case only, the first counts that was given directly, and the last variable. -/
def said? (given : Given) (environment : List (String × String)) (name : String) : Option Payload :=
  match lookup? given name with
  | some payload => some payload
  | none => (lookup? environment.reverse name).map .text

/-- A setting that is a text. -/
def readTextSetting (given : Given) (environment : List (String × String))
    (name standard : String) : Reading String :=
  match said? given environment name with
  | some payload => (readText payload).under (.key name)
  | none => Reading.accept standard

/-- A path or nothing. -/
def readPath? : Payload → Reading (Option FilePath)
  | .null => Reading.accept none
  | .text text => Reading.accept (some (.ofText text))
  | .leaf (.cardinality value) => Reading.accept (some (.ofText value.name))
  | _ => Reading.reject .notPath

/-- A setting that is a path. -/
def readPathSetting (given : Given) (environment : List (String × String)) (name : String) :
    Reading (Option FilePath) :=
  match said? given environment name with
  | some payload => (readPath? payload).under (.key name)
  | none => Reading.accept none

/-- The level that is logged unless something else is said. -/
def standardLevel : String := "INFO"

/-- All settings. -/
def reading (given : Given) (environment : List (String × String)) : Reading Settings :=
  Settings.mk
    <$> readTextSetting given environment "datasource_provider" Preamble.default.provider
    <*> readTextSetting given environment "database_url_env" Preamble.default.urlVariable
    <*> readTextSetting given environment "generator_provider" Preamble.default.clientProvider
    <*> readTextSetting given environment "log_level" standardLevel
    <*> readPathSetting given environment "log_file"

/-- Makes the directory that the log file needs. -/
def makeLogDirectory (settings : Settings) (workspace : Workspace) :
    Except FileError Unit × Workspace :=
  match settings.logFile? with
  | none => (.ok (), workspace)
  | some path => workspace.makeDirectories path.parent

end Settings

/-- A workspace, and the settings that were read from it. -/
structure Configuration where
  workspace : Workspace
  settings? : Option Settings
deriving Repr

namespace Configuration

/-- Reads settings afresh. What this has added to the workspace stays, also when reading fails. -/
def read (configuration : Configuration) (given : Settings.Given) :
    Except SettingsError Settings × Configuration :=
  match EnvFile.load configuration.workspace with
  | (.error error, workspace) => (.error error, { configuration with workspace })
  | (.ok _, workspace) =>
    match (Settings.reading given workspace.environment).run with
    | .error issues => (.error (.rejected ⟨"Settings", issues⟩), { configuration with workspace })
    | .ok settings =>
      match settings.makeLogDirectory workspace with
      | (.error error, workspace) => (.error (.file error), { configuration with workspace })
      | (.ok _, workspace) => (.ok settings, { configuration with workspace })

/-- The settings that are kept, or else settings read afresh, which are then kept. -/
def get (configuration : Configuration) : Except SettingsError Settings × Configuration :=
  match configuration.settings? with
  | some settings => (.ok settings, configuration)
  | none =>
    match configuration.read [] with
    | (.ok settings, next) => (.ok settings, { next with settings? := some settings })
    | failed => failed

/-- Forgets the settings. -/
def reset (configuration : Configuration) : Configuration :=
  { configuration with settings? := none }

/-- Settings that are kept do not depend on the workspace. -/
theorem get_of_kept {configuration : Configuration} {settings : Settings}
    (kept : configuration.settings? = some settings) :
    configuration.get = (.ok settings, configuration) := by
  simp [get, kept]

/-- Settings that were read are kept. -/
theorem settings?_of_get {configuration next : Configuration} {settings : Settings}
    (read : configuration.get = (.ok settings, next)) : next.settings? = some settings := by
  unfold get at read
  split at read
  · next kept => cases read; exact kept
  · split at read
    · cases read; rfl
    · next failed => exact absurd read (by intro same; exact failed _ _ same)

end Configuration

end SchemaDesk
