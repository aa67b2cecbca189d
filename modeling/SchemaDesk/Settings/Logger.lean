import SchemaDesk.Log.Format
import SchemaDesk.Log
import SchemaDesk.Settings.Basic
import SchemaDesk.Text.Case

/-!
# Logging

Records go to the error stream and, if a file is set, to that file. Setting up
replaces both. A record passes if its level reaches that of the logger and that
of the handler; a logger without a level of its own takes warnings.
-/

namespace SchemaDesk

/-- Where records go: to the error stream, or to a file. Without a layout no record is written. -/
structure LogHandler where
  level : Level
  layout? : Option LogLayout
  file? : Option FilePath
deriving DecidableEq, Repr

/-- The state of logging: the level and the handlers of the package, the origins that were used, and
what was written to the error stream. -/
structure Logging where
  configuration : Configuration
  level : Level
  handlers : List LogHandler
  origins : List String
  errorStream : String

/-- Words that are reserved for something else than a level: the short format of lines, and the
table of the styles of formats. -/
inductive ReservedWord where
  | shortFormat
  | styles
deriving DecidableEq, Repr

namespace ReservedWord

/-- The reserved word that a text is. -/
def ofText? (text : String) : Option ReservedWord :=
  if text = "BASIC_FORMAT" then some shortFormat
  else if text = "_STYLES" then some styles
  else none

/-- What the word stands for, as messages show it. -/
def meaning : ReservedWord → String
  | shortFormat => "'%(levelname)s:%(name)s:%(message)s'"
  | styles =>
    "\x7b'%': (<class 'logging.PercentStyle'>, '%(levelname)s:%(name)s:%(message)s'), " ++
    "'\x7b': (<class 'logging.StrFormatStyle'>, " ++
    "'\x7blevelname\x7d:\x7bname\x7d:\x7bmessage\x7d'), " ++
    "'$': (<class 'logging.StringTemplateStyle'>, " ++
    "'$\x7blevelname\x7d:$\x7bname\x7d:$\x7bmessage\x7d')\x7d"

def message (word : ReservedWord) : String :=
  match word with
  | shortFormat => "Unknown level: " ++ word.meaning
  | styles => "Level not an integer or a valid string: " ++ word.meaning

end ReservedWord

/-- Why logging cannot be set up. -/
inductive LoggingError where
  | settings (error : SettingsError)
  | unknownLevel (name : String)
  | reservedWord (word : ReservedWord)
  | invalidFormat (format : String)
  | file (error : FileError)
deriving DecidableEq, Repr

def LoggingError.message : LoggingError → String
  | .settings error => error.message
  | .unknownLevel name => "module 'logging' has no attribute '" ++ name ++ "'"
  | .reservedWord word => word.message
  | .invalidFormat format => "Invalid format '" ++ format ++ "' for '%' style"
  | .file error => error.message

/-- The text in upper case. -/
def upperCase (text : String) : String :=
  String.ofList (Text.upper text.toList)

/-- The level that a text names in any letter case. -/
def Level.parse (text : String) : Except LoggingError Level :=
  match Level.ofName? (upperCase text), ReservedWord.ofText? (upperCase text) with
  | some level, _ => .ok level
  | none, some word => .error (.reservedWord word)
  | none, none => .error (.unknownLevel (upperCase text))

/-- A given text counts unless it is empty. -/
def givenText? (text? : Option String) : Option String :=
  text?.filter fun text => !text.isEmpty

namespace Logging

/-- The same state of logging in a workspace that has changed. -/
def inWorkspace (logging : Logging) (workspace : Workspace) : Logging :=
  { logging with configuration := { logging.configuration with workspace } }

/-- Makes the file of a handler if it is missing. -/
def openFile (workspace : Workspace) : Option FilePath → Except LoggingError Workspace
  | none => .ok workspace
  | some path =>
    match workspace.appendFile path [] with
    | .ok workspace => .ok workspace
    | .error error => .error (.file error)

/-- The handlers of a layout at a level: one for the error stream, and one for the file if there is
one. -/
def handlersFor (level : Level) (layout? : Option LogLayout) (file? : Option FilePath) :
    List LogHandler :=
  ⟨level, layout?, none⟩ :: file?.toList.map fun path => ⟨level, layout?, some path⟩

/-- Replaces the level and the handlers. A format that is not acceptable leaves no handler, and a
file that cannot be opened leaves only the one for the error stream. The file is kept under its path
from the root. -/
def restart (logging : Logging) (level : Level) (format : String) (file? : Option FilePath) :
    Except LoggingError Unit × Logging :=
  let workspace := logging.configuration.workspace
  let file? := file?.map (FilePath.absolute workspace.directory)
  if !LogFormat.isAcceptable format then
    (.error (.invalidFormat format), { logging with level, handlers := [] })
  else
    match openFile workspace file? with
    | .error error =>
      (.error error,
        { logging with level, handlers := handlersFor level (LogFormat.layout? format) none })
    | .ok workspace =>
      (.ok (), { logging.inWorkspace workspace with
        level
        handlers := handlersFor level (LogFormat.layout? format) file? })

/-- Sets logging up. What is not given is taken from the settings. Without settings or with an
unknown level, everything stays as it was but for the settings that were read. -/
def setUp (logging : Logging) (level? file? format? : Option String) :
    Except LoggingError Unit × Logging :=
  match logging.configuration.get with
  | (.error error, configuration) => (.error (.settings error), { logging with configuration })
  | (.ok settings, configuration) =>
    let logging := { logging with configuration }
    match Level.parse ((givenText? level?).getD settings.logLevel) with
    | .error error => (.error error, logging)
    | .ok level =>
      logging.restart level (format?.getD LogFormat.standard)
        (((givenText? file?).map FilePath.ofText).or settings.logFile?)

/-- The level that records need; without one of its own, the package takes warnings. -/
def effectiveLevel (logging : Logging) : Level :=
  if logging.level = .notset then .warning else logging.level

/-- Writes a line where a handler writes. A file that cannot be written is passed over. -/
def write (logging : Logging) (file? : Option FilePath) (line : String) : Logging :=
  match file? with
  | none => { logging with errorStream := logging.errorStream ++ line }
  | some path =>
    match logging.configuration.workspace.appendFile path (Text.Utf8.encode line.toList) with
    | .ok workspace => logging.inWorkspace workspace
    | .error _ => logging

/-- Hands a record to one handler. A record without a line is passed over. -/
def handle (time : String) (record : LogRecord) (logging : Logging) (handler : LogHandler) :
    Logging :=
  if record.level.value < handler.level.value then logging
  else
    match handler.layout?.bind (·.render? time record) with
    | some line => logging.write handler.file? line
    | none => logging

/-- Hands a record to every handler that takes it, if its origin reaches the package. -/
def record (logging : Logging) (time : String) (record : LogRecord) : Logging :=
  if Origin.reachesPackage logging.origins record.origin &&
      logging.effectiveLevel.value ≤ record.level.value then
    logging.handlers.foldl (handle time record) logging
  else logging

/-- Hands several records on, in their order. -/
def recordAll (logging : Logging) (time : String) (records : List LogRecord) : Logging :=
  records.foldl (fun logging report => logging.record time report) logging

/-- Makes sure that there are handlers, as asking for an origin does. -/
def ensureSetUp (logging : Logging) : Except LoggingError Unit × Logging :=
  if logging.handlers.isEmpty then logging.setUp none none none else (.ok (), logging)

/-- The full name of an origin that is asked for, which counts as used from then on. -/
def useOrigin (logging : Logging) (name : String) : Except LoggingError String × Logging :=
  match logging.ensureSetUp with
  | (.error error, logging) => (.error error, logging)
  | (.ok _, logging) =>
    let origin := Origin.fullName name
    (.ok origin, { logging with origins := origin :: logging.origins })

end Logging

end SchemaDesk
