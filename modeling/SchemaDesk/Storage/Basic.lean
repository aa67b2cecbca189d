import SchemaDesk.Json.Reader
import SchemaDesk.Payload.Entities
import SchemaDesk.Storage.Layout
import SchemaDesk.Text.Blank
import SchemaDesk.Workspace.Files

/-!
# Saving and loading

A schema is kept in a file of its own. Loading decodes the file, ignores blanks
around its text and reads the schema; every part may be missing that has a
default.
-/

namespace SchemaDesk

/-- Why a file does not load. -/
inductive LoadError where
  | notFound (path : FilePath)
  | unreadable (error : FileError)
  | undecodable (malformed : Text.Utf8.Malformed)
  | empty (path : FilePath)
  | malformed (path : FilePath) (issues : List Issue)
deriving DecidableEq, Repr

/-- The number of issues, in words. -/
def issueCount (issues : List Issue) : String :=
  toString issues.length ++ if issues.length = 1 then " validation error" else " validation errors"

namespace LoadError

/-- What is told of the error. A malformed file is told of by this title alone; the program lists the
single issues on further lines. -/
def message : LoadError → String
  | notFound path => "State file not found: " ++ path.text
  | unreadable error => error.message
  | undecodable fault => fault.message
  | empty path => "State file is empty: " ++ path.text
  | malformed path issues =>
    "Failed to load schema state from " ++ path.text ++ ": " ++ issueCount issues ++ " for " ++
      EntityKind.schema.title

/-- A command reports the error and ends; other errors escape from it. -/
def isReported : LoadError → Bool
  | unreadable _ => false
  | _ => true

end LoadError

/-- The issue of a text that is not JSON. -/
def invalidJson : List Issue := [⟨[], .invalidJson⟩]

/-- Reads a JSON text. -/
def readJsonText {α : Type} (read : Payload → Reading α) (text : List Char) : Reading α :=
  match Json.read? text with
  | some payload => read payload
  | none => Reading.rejectAll invalidJson

/-- The schema that a text saves. -/
def parseSchema (ids : FreshIds) (text : List Char) : Except (List Issue) Schema :=
  (readJsonText (readSchema ids .json) text).run

/-- The schema that the bytes of a file save. -/
def decodeSchema (ids : FreshIds) (path : FilePath) (bytes : List UInt8) :
    Except LoadError Schema :=
  match Text.Utf8.decode bytes with
  | .error malformed => .error (.undecodable malformed)
  | .ok text =>
    let content := Text.strip (Text.unifyNewlines text)
    if content.isEmpty then .error (.empty path)
    else
      match parseSchema ids content with
      | .ok schema => .ok schema
      | .error issues => .error (.malformed path issues)

/-- Loads a schema from a file. -/
def Workspace.load (workspace : Workspace) (ids : FreshIds) (path : FilePath) :
    Except LoadError Schema :=
  match workspace.fileBytes path with
  | .ok bytes => decodeSchema ids path bytes
  | .error error => .error (if error.fault.meansNothing then .notFound path else .unreadable error)

/-- Saves a schema in a file, and makes the directories above it. -/
def Workspace.save (workspace : Workspace) (path : FilePath) (schema : Schema) :
    Except FileError Unit × Workspace :=
  workspace.saveText path schema.saved

/-- A default that is a number but not a finite one is saved as if there were none. -/
def DefaultValue.isSavable : DefaultValue → Bool
  | .float x => x.isFinite
  | _ => true

end SchemaDesk
