import SchemaDesk.Main
import SchemaDesk.Proofs.Validation.Model
import SchemaDesk.Proofs.Validation.Relationship
import SchemaDesk.Proofs.Validation.Name
import SchemaDesk.Proofs.Validation.Report
import SchemaDesk.Proofs.Validation.ModelReport
import SchemaDesk.Proofs.Validation.RelationshipReport
import SchemaDesk.Proofs.Validation.Field
import SchemaDesk.Proofs.Validation.Failure
import SchemaDesk.Proofs.Edit.Proposal
import SchemaDesk.Proofs.Edit.Position
import SchemaDesk.Proofs.Edit.Run
import SchemaDesk.Proofs.Edit.Soundness
import SchemaDesk.Proofs.Edit.Validity
import SchemaDesk.Proofs.Edit.Refusal
import SchemaDesk.Proofs.Edit.Effect
import SchemaDesk.Proofs.Document.FreeName
import SchemaDesk.Proofs.Document.Relation
import SchemaDesk.Proofs.Document.RelationLines
import SchemaDesk.Proofs.Number.Decimal
import SchemaDesk.Proofs.Number.Notation
import SchemaDesk.Proofs.Number.Shortest
import SchemaDesk.Proofs.Number.Range
import SchemaDesk.Proofs.Json.Notation
import SchemaDesk.Proofs.Json.RoundTrip
import SchemaDesk.Proofs.Storage.Layout
import SchemaDesk.Proofs.Text.Utf8
import SchemaDesk.Proofs.Text.Run
import SchemaDesk.Proofs.Text.ControlSequence
import SchemaDesk.Proofs.Json.Characters
import SchemaDesk.Proofs.Workspace.Files
import SchemaDesk.Proofs.Workspace.Growth
import SchemaDesk.Proofs.CommandLine.Verdict
import SchemaDesk.Proofs.Storage.Saving
import SchemaDesk.Proofs.Document.FieldLine
import SchemaDesk.Proofs.Document.Legible
import SchemaDesk.Proofs.Document.RelationText
import SchemaDesk.Proofs.Document.Reading
import SchemaDesk.Proofs.Document.Declaration
import SchemaDesk.Proofs.Edit.Independence
import SchemaDesk.Proofs.Document.Locality
import SchemaDesk.Proofs.Document.RelationName
import SchemaDesk.Proofs.Number.Literal
import SchemaDesk.Proofs.Document.DefaultLiteral
import SchemaDesk.Proofs.Validation.Identifier
import SchemaDesk.Proofs.Document.Identifier
import SchemaDesk.Proofs.Storage.Lossless
import SchemaDesk.Proofs.Storage.Writable
import SchemaDesk.Proofs.Payload.Description
import SchemaDesk.Proofs.Payload.Change
import SchemaDesk.Proofs.Edit.Error
import SchemaDesk.Proofs.Edit.Update
import SchemaDesk.Proofs.Edit.Undo
import SchemaDesk.Proofs.Validation.Order
import SchemaDesk.Proofs.Diagnostic.Location
import SchemaDesk.Proofs.Validation.Location
import SchemaDesk.Proofs.Workspace.Frame
import SchemaDesk.Proofs.Payload.Spelling
import SchemaDesk.Proofs.Storage.Loading
import SchemaDesk.Proofs.Document.MemberName
import SchemaDesk.Proofs.Document.QuotedDefault
import SchemaDesk.Proofs.Calendar.Date
import SchemaDesk.Proofs.Calendar.Instant
import SchemaDesk.Proofs.Validation.DateTime
import SchemaDesk.Proofs.Settings.Loading
import SchemaDesk.Proofs.Settings.Reading
import SchemaDesk.Proofs.Settings.History
import SchemaDesk.Proofs.Settings.Current
import SchemaDesk.Proofs.CommandLine.Generation
