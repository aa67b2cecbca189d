/-!
# Diagnostics

What validation may find in a schema, how severe it is, where it is and how it
is worded. Errors block an edit; warnings are only reported. A location names a
part of an entity by a path of keys and positions. Its text writes keys with
points between them and positions in brackets, as in `fields[0].name`.
-/

namespace SchemaDesk

/-! ## Locations -/

/-- One step of a path: the value under a key, or the entry at a position. -/
inductive Segment where
  | key (name : String)
  | index (position : Int)
deriving DecidableEq, Repr

/-- A part of an entity, such as a model or a field. -/
structure Location where
  entity : String
  path : List Segment
deriving DecidableEq, Repr

namespace Location

/-- The same part, seen from an entity that holds the first one under the given path. -/
def rebase (location : Location) (entity : String) (path : List Segment) : Location :=
  ⟨entity, path ++ location.path⟩

/-- The text of a path that follows an earlier text; a key is set off by a point unless it is the
first thing in the text. -/
def textAfter (earlier : String) : List Segment → String
  | [] => earlier
  | .index position :: path => textAfter (earlier ++ "[" ++ toString position ++ "]") path
  | .key name :: path =>
    textAfter (if earlier.isEmpty then name else earlier ++ "." ++ name) path

/-- The text of a location. -/
def text (location : Location) : String :=
  textAfter "" location.path

end Location

/-! ## Findings -/

inductive Severity where
  | error
  | warning
deriving DecidableEq, Repr

def Severity.name : Severity → String
  | .error => "error"
  | .warning => "warning"

/-- What is wrong with a model, a field, an attribute or a relationship. -/
inductive Finding where
  | modelNameMissing
  | modelNameMalformed
  | noFields
  | duplicateField (name : String)
  | duplicateBlockAttribute (name : String)
  | repeatedBlockAttribute (name : String)
  | fieldNameMissing
  | fieldNameMalformed
  | typeMissing
  | typeUnknown (type : String)
  | defaultUnfit (type : String)
  | defaultNotBoolean
  | defaultNotDate
  | fieldAttributeUnknown (token : String)
  | duplicateFieldAttribute (token : String)
  | uniqueImplied
  | listAsId
  | blockAttributeUnknown (name : String)
  | valueRequired (name : String)
  | sourceNotFound
  | targetNotFound
  | selfReference
  | noMapping
  | sourceFieldNotFound (name : String)
  | targetFieldNotFound (name : String)
  | duplicateMapping
deriving DecidableEq, Repr

namespace Finding

/-- A model without fields, a superfluous attribute and a self reference are only warned of. -/
def severity : Finding → Severity
  | noFields | uniqueImplied | selfReference => .warning
  | _ => .error

def message : Finding → String
  | modelNameMissing => "Model name is required"
  | modelNameMalformed => "Model name must start with a capital letter and contain only letters"
  | noFields => "Model should have at least one field"
  | duplicateField name => "Duplicate field name: " ++ name
  | duplicateBlockAttribute name => "Duplicate model attribute: " ++ name
  | repeatedBlockAttribute name => name ++ " may only appear once per model"
  | fieldNameMissing => "Field name is required"
  | fieldNameMalformed => "Field name must start with a lowercase letter and contain only letters"
  | typeMissing => "Field type is required"
  | typeUnknown type => "Unknown field type: " ++ type
  | defaultUnfit type => "Default value must be a valid " ++ type
  | defaultNotBoolean => "Default value must be a boolean"
  | defaultNotDate => "Default value must be a valid date"
  | fieldAttributeUnknown token => "Unknown field attribute: @" ++ token
  | duplicateFieldAttribute token => "Duplicate field attribute: @" ++ token
  | uniqueImplied => "@id already implies @unique"
  | listAsId => "A list field cannot be an @id"
  | blockAttributeUnknown name => "Unknown model attribute: " ++ name
  | valueRequired name => name ++ " requires a value"
  | sourceNotFound => "fromModel not found"
  | targetNotFound => "toModel not found"
  | selfReference => "Self-referential relationship detected"
  | noMapping => "At least one field mapping is required"
  | sourceFieldNotFound name => "Field \"" ++ name ++ "\" not found in source model"
  | targetFieldNotFound name => "Field \"" ++ name ++ "\" not found in target model"
  | duplicateMapping => "Duplicate field mapping"

end Finding

/-- A finding and the place it was made at; some findings concern an entity as a whole. -/
structure Diagnostic where
  finding : Finding
  location? : Option Location
deriving DecidableEq, Repr

namespace Diagnostic

def severity (diagnostic : Diagnostic) : Severity :=
  diagnostic.finding.severity

def message (diagnostic : Diagnostic) : String :=
  diagnostic.finding.message

def isError (diagnostic : Diagnostic) : Bool :=
  diagnostic.severity == .error

/-- A finding about a whole entity. -/
def whole (finding : Finding) : Diagnostic :=
  ⟨finding, none⟩

/-- A finding about a part of an entity. -/
def located (finding : Finding) (entity : String) (path : List Segment) : Diagnostic :=
  ⟨finding, some ⟨entity, path⟩⟩

/-- A diagnostic of a part, seen from the entity that holds the part under the given path. One that
concerned the whole part is then located at that path. -/
def rebase (diagnostic : Diagnostic) (entity : String) (path : List Segment) : Diagnostic :=
  match diagnostic.location? with
  | some location => ⟨diagnostic.finding, some (location.rebase entity path)⟩
  | none => ⟨diagnostic.finding, some ⟨entity, path⟩⟩

theorem finding_rebase (diagnostic : Diagnostic) (entity : String) (path : List Segment) :
    (diagnostic.rebase entity path).finding = diagnostic.finding := by
  unfold rebase
  split <;> rfl

theorem isError_rebase (diagnostic : Diagnostic) (entity : String) (path : List Segment) :
    (diagnostic.rebase entity path).isError = diagnostic.isError := by
  simp [isError, severity, finding_rebase]

end Diagnostic

/-- Some diagnostic blocks an edit. -/
def hasErrors (diagnostics : List Diagnostic) : Bool :=
  diagnostics.any Diagnostic.isError

/-- The diagnostics that block an edit. -/
def errors (diagnostics : List Diagnostic) : List Diagnostic :=
  diagnostics.filter Diagnostic.isError

/-- The diagnostics that are only reported. -/
def warnings (diagnostics : List Diagnostic) : List Diagnostic :=
  diagnostics.filter fun diagnostic => !diagnostic.isError

/-- Two lists have an error together if one of them has. -/
theorem hasErrors_append (first second : List Diagnostic) :
    hasErrors (first ++ second) = (hasErrors first || hasErrors second) := by
  simp [hasErrors]

end SchemaDesk
