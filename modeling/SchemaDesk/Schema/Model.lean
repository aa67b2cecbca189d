import SchemaDesk.Number.Binary64
import SchemaDesk.Vocabulary

/-!
# Models and fields

A model is a table: a named list of fields with attributes of its own. Its id
is opaque and does not change when the model is renamed. A field is a named
column. Its type and its attributes are free texts, so that a draft may hold
anything and validation can report it. A default keeps the kind of value it was
given.
-/

namespace SchemaDesk

/-- The value of a field that is given none. -/
inductive DefaultValue where
  | boolean (value : Bool)
  | integer (value : Int)
  | float (value : Number.Binary64)
  | text (value : String)
deriving DecidableEq, Repr

/-- A column of a model. -/
structure Field where
  name : String
  type : String
  isRequired : Bool
  isList : Bool
  attributes : List String
  default? : Option DefaultValue
deriving DecidableEq, Repr

namespace Field

/-- The scalar type that the field's type spells. -/
def scalarType? (field : Field) : Option ScalarType :=
  ScalarType.ofName? field.type

/-- The field has a default. -/
def hasDefault (field : Field) : Bool :=
  field.default?.isSome

end Field

/-- An attribute of a whole model, with its argument if there is one. -/
structure BlockAttribute where
  name : String
  value? : Option String
deriving DecidableEq, Repr

namespace BlockAttribute

/-- The argument as a text; an absent argument counts as an empty one. -/
def value (mark : BlockAttribute) : String :=
  mark.value?.getD ""

/-- The known attribute that the name spells. -/
def kind? (mark : BlockAttribute) : Option BlockAttributeKind :=
  BlockAttributeKind.ofName? mark.name

end BlockAttribute

/-- A table of the schema. -/
structure Model where
  id : String
  name : String
  fields : List Field
  attributes : List BlockAttribute
deriving DecidableEq, Repr

namespace Model

/-- The names of the fields, in their order. -/
def fieldNames (model : Model) : List String :=
  model.fields.map (·.name)

/-- The first field of the given name. -/
def field? (model : Model) (name : String) : Option Field :=
  model.fields.find? fun field => field.name == name

end Model

end SchemaDesk
