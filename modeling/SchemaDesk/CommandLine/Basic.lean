import SchemaDesk.CommandLine.Arguments
import SchemaDesk.Edit.Journal
import SchemaDesk.Settings.Logger
import SchemaDesk.Storage.Basic
import SchemaDesk.Text.ControlSequence

/-!
# The command line

What every command prints, writes and answers as its exit status. A file that
does not load is reported on the error stream and ends the command with status
1; an error that no command expects escapes from it. What is printed holds no
control sequences; a document in a file keeps them.
-/

namespace SchemaDesk

/-- An error that escapes from a command. -/
inductive CommandError where
  | logging (error : LoggingError)
  | load (error : LoadError)
  | file (error : FileError)
  | unchecked (failure : ValidationFailure)
  | document (error : DocumentError)
deriving DecidableEq, Repr

def CommandError.message : CommandError → String
  | .logging error => error.message
  | .load error => error.message
  | .file error => error.message
  | .unchecked failure => failure.message
  | .document error => error.message

/-- What a command leaves: its exit status, its output and the state of logging, which holds the
workspace and the error stream. -/
structure Outcome where
  status : Nat
  output : String
  logging : Logging
  escaped? : Option CommandError

namespace Outcome

/-- The text as it is printed: the output goes to no terminal. -/
def printed (text : String) : String :=
  String.ofList (Text.dropControlSequences text.toList)

/-- The command has succeeded and printed something. -/
def done (logging : Logging) (output : String) : Outcome := ⟨0, printed output, logging, none⟩

/-- The command has failed; it printed something and says why on the error stream. -/
def failed (logging : Logging) (output reason : String) : Outcome :=
  ⟨1, printed output,
    { logging with errorStream := logging.errorStream ++ printed reason ++ "\n" }, none⟩

/-- An error has escaped from the command. -/
def escaped (logging : Logging) (error : CommandError) : Outcome := ⟨1, "", logging, some error⟩

/-- The arguments make no command. -/
def usage (logging : Logging) : Outcome := ⟨2, "", logging, none⟩

def workspace (outcome : Outcome) : Workspace := outcome.logging.configuration.workspace

def errorStream (outcome : Outcome) : String := outcome.logging.errorStream

end Outcome

/-- The state of logging before a command: only critical records pass. -/
def Logging.start (workspace : Workspace) : Logging where
  configuration := ⟨workspace, none⟩
  level := .critical
  handlers := [⟨.critical, LogFormat.layout? LogFormat.standard, none⟩]
  origins := []
  errorStream := ""

/-- What a command takes from outside: ids for entities that have none, and the time of day. -/
structure Surroundings where
  ids : FreshIds
  time : String

/-- The line of a word and its description. -/
def wordLine (width : Nat) (word description : String) : String :=
  "  " ++ String.ofList (Text.alignLeft width word.toList) ++ " " ++ description ++ "\n"

/-- The output of the command that lists the vocabulary. -/
def vocabularyText : String :=
  "Scalar types:\n" ++
    String.join (ScalarType.all.map fun type => wordLine 10 type.name type.description) ++
  "Relation types:\n" ++
    String.join (Cardinality.all.map fun value => wordLine 13 value.name value.description) ++
  "Referential actions:\n" ++
    String.join (ReferentialAction.all.map fun action => wordLine 12 action.name action.description)

/-- The label of a severity at the start of a line. -/
def Severity.label : Severity → String
  | .error => "ERROR"
  | .warning => "WARNING"

/-- The line that reports a diagnostic. -/
def OwnedDiagnostic.line (owned : OwnedDiagnostic) : String :=
  let place :=
    match owned.diagnostic.location? with
    | some location => " (" ++ location.text ++ ")"
    | none => ""
  owned.diagnostic.severity.label ++ ": " ++ owned.owner ++ place ++ ": " ++
    owned.diagnostic.message ++ "\n"

/-- The last line of a validation without errors. -/
def validLine (warnings : Nat) : String :=
  "✓ Schema is valid (" ++ toString warnings ++ " warning(s))\n"

/-- The last line of a validation with errors. -/
def invalidLine : String := "✗ Schema has errors"

/-- The line that confirms a written document. -/
def writtenLine (path : FilePath) : String :=
  "✓ Schema written to " ++ path.text ++ "\n"

/-- The output of the command that shows a saved schema. -/
def inspectionText (schema : Schema) : String :=
  "Models (" ++ toString schema.models.length ++ ")\n" ++
  "Relationships (" ++ toString schema.relationships.length ++ ")\n" ++
  schema.saved ++ "\n"

/-- What a validated schema is answered with. -/
def validationOutcome (logging : Logging) (diagnostics : List OwnedDiagnostic) : Outcome :=
  let report := String.join (diagnostics.map OwnedDiagnostic.line)
  if hasErrors (diagnostics.map (·.diagnostic)) then .failed logging report invalidLine
  else .done logging (report ++ validLine diagnostics.length)

/-- Validates a schema. -/
def validateCommand (surroundings : Surroundings) (logging : Logging) (schema : Schema) : Outcome :=
  let logging := logging.recordAll surroundings.time schema.journal
  match schema.diagnostics with
  | .error failure => .escaped logging (.unchecked failure)
  | .ok diagnostics => validationOutcome logging diagnostics

/-- Puts a document out: prints it, or writes it into a file. -/
def putOut (logging : Logging) (document : String) : Option FilePath → Outcome
  | none => .done logging document
  | some path =>
    match logging.configuration.workspace.saveText path document with
    | (.error error, workspace) => .escaped (logging.inWorkspace workspace) (.file error)
    | (.ok _, workspace) => .done (logging.inWorkspace workspace) (writtenLine path)

/-- Generates the document of a schema. A document that cannot be written leaves no record. -/
def generateCommand (surroundings : Surroundings) (settings : Settings) (out? : Option FilePath)
    (logging : Logging) (schema : Schema) : Outcome :=
  match Document.write settings.preamble schema with
  | .error error => .escaped logging (.document error)
  | .ok document =>
    putOut (logging.recordAll surroundings.time schema.documentJournal) document out?

/-- Loads a schema and goes on with it, or reports why it does not load. -/
def withSchema (surroundings : Surroundings) (logging : Logging) (file : String)
    (next : Schema → Outcome) : Outcome :=
  match logging.configuration.workspace.load surroundings.ids (.ofText file) with
  | .ok schema => next schema
  | .error error =>
    if error.isReported then
      .failed (logging.record surroundings.time (.ofCommandLine error.message)) ""
        ("Error: " ++ error.message)
    else .escaped logging (.load error)

/-- Sets logging up and goes on with the settings. -/
def withSettings (logging : Logging) (next : Settings → Logging → Outcome) : Outcome :=
  match logging.setUp none none none with
  | (.error error, logging) => .escaped logging (.logging error)
  | (.ok _, logging) =>
    match logging.configuration.get with
    | (.error error, _) => .escaped logging (.logging (.settings error))
    | (.ok settings, configuration) => next settings { logging with configuration }

/-- Carries a command out. -/
def Command.run (surroundings : Surroundings) (logging : Logging) : Command → Outcome
  | generate file out? =>
    withSettings logging fun settings logging =>
      withSchema surroundings logging file
        (generateCommand surroundings settings (out?.map .ofText) logging)
  | validate file =>
    withSettings logging fun _ logging =>
      withSchema surroundings logging file (validateCommand surroundings logging)
  | inspect file =>
    withSettings logging fun _ logging =>
      withSchema surroundings logging file fun schema => .done logging (inspectionText schema)
  | vocabulary => .done logging vocabularyText

/-- Carries out what the arguments ask for. -/
def runArguments (surroundings : Surroundings) (workspace : Workspace) (arguments : List String) :
    Outcome :=
  let logging := Logging.start workspace
  match Command.ofArguments? arguments with
  | some command => command.run surroundings logging
  | none => .usage logging

end SchemaDesk
