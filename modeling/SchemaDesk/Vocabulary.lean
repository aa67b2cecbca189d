/-!
# The vocabulary of schema documents

The words with a fixed meaning: scalar types, attributes of fields and of
models, cardinalities of relationships and referential actions, each with its
spelling and its description. A schema stores types and attributes as free
texts; `ofName?` finds the word that a text spells.
-/

namespace SchemaDesk

/-- The types of a column. -/
inductive ScalarType where
  | string | int | float | boolean | dateTime | bigInt | decimal | json | bytes
deriving DecidableEq, Repr

namespace ScalarType

def all : List ScalarType :=
  [string, int, float, boolean, dateTime, bigInt, decimal, json, bytes]

def name : ScalarType → String
  | string => "String"
  | int => "Int"
  | float => "Float"
  | boolean => "Boolean"
  | dateTime => "DateTime"
  | bigInt => "BigInt"
  | decimal => "Decimal"
  | json => "Json"
  | bytes => "Bytes"

def description : ScalarType → String
  | string => "Text values"
  | int => "Integer numbers"
  | float => "Decimal numbers"
  | boolean => "True/false values"
  | dateTime => "Date and time values"
  | bigInt => "Large integer numbers"
  | decimal => "Precise decimal numbers"
  | json => "JSON data"
  | bytes => "Binary data"

/-- The type that a text spells. -/
def ofName? (text : String) : Option ScalarType :=
  all.find? fun type => type.name == text

/-- A default of this type is written between double quotes. -/
def quotesDefault : ScalarType → Bool
  | string | dateTime | json | bytes => true
  | _ => false

theorem ofName?_name (type : ScalarType) : ofName? type.name = some type := by
  cases type <;> decide

theorem name_of_ofName? {text : String} {type : ScalarType} (found : ofName? text = some type) :
    type.name = text := by
  simpa using List.find?_some found

end ScalarType

/-- The attributes that a field may have, without their leading sign. -/
def fieldAttributes : List String :=
  ["id", "unique", "default", "map", "updatedAt", "db.Text", "db.VarChar"]

/-- The attributes that a model block may have. -/
inductive BlockAttributeKind where
  | map | id | unique | index | fulltext | ignore
deriving DecidableEq, Repr

namespace BlockAttributeKind

def all : List BlockAttributeKind :=
  [map, id, unique, index, fulltext, ignore]

def name : BlockAttributeKind → String
  | map => "@@map"
  | id => "@@id"
  | unique => "@@unique"
  | index => "@@index"
  | fulltext => "@@fulltext"
  | ignore => "@@ignore"

def description : BlockAttributeKind → String
  | map => "Map model to a different table name"
  | id => "Define composite ID"
  | unique => "Define composite unique constraint"
  | index => "Define database index"
  | fulltext => "Define full-text search index"
  | ignore => "Ignore model in SQL schema"

/-- Only the mark of an ignored model stands without a value. -/
def requiresValue : BlockAttributeKind → Bool
  | ignore => false
  | _ => true

/-- The attribute may appear at most once in a block. -/
def single : BlockAttributeKind → Bool
  | map | ignore => true
  | _ => false

/-- The attribute that a text spells. -/
def ofName? (text : String) : Option BlockAttributeKind :=
  all.find? fun kind => kind.name == text

theorem ofName?_name (kind : BlockAttributeKind) : ofName? kind.name = some kind := by
  cases kind <;> decide

theorem name_of_ofName? {text : String} {kind : BlockAttributeKind}
    (found : ofName? text = some kind) : kind.name = text := by
  simpa using List.find?_some found

end BlockAttributeKind

/-- How many records either side of a relationship has. -/
inductive Cardinality where
  | oneToOne | oneToMany | manyToMany
deriving DecidableEq, Repr

namespace Cardinality

def all : List Cardinality :=
  [oneToOne, oneToMany, manyToMany]

def name : Cardinality → String
  | oneToOne => "ONE_TO_ONE"
  | oneToMany => "ONE_TO_MANY"
  | manyToMany => "MANY_TO_MANY"

def description : Cardinality → String
  | oneToOne => "Each record in model A has exactly one matching record in model B"
  | oneToMany => "Each record in model A has many matching records in model B"
  | manyToMany => "Multiple records in model A can match multiple records in model B"

/-- A relation field of this cardinality holds a list. -/
def isList : Cardinality → Bool
  | oneToOne => false
  | oneToMany | manyToMany => true

/-- The cardinality that a text spells. -/
def ofName? (text : String) : Option Cardinality :=
  all.find? fun cardinality => cardinality.name == text

theorem ofName?_name (cardinality : Cardinality) :
    ofName? cardinality.name = some cardinality := by
  cases cardinality <;> decide

theorem name_of_ofName? {text : String} {cardinality : Cardinality}
    (found : ofName? text = some cardinality) : cardinality.name = text := by
  simpa using List.find?_some found

end Cardinality

/-- What happens to dependent rows when the row they refer to changes. -/
inductive ReferentialAction where
  | cascade | restrict | noAction | setNull | setDefault
deriving DecidableEq, Repr

namespace ReferentialAction

def all : List ReferentialAction :=
  [cascade, restrict, noAction, setNull, setDefault]

def name : ReferentialAction → String
  | cascade => "CASCADE"
  | restrict => "RESTRICT"
  | noAction => "NO_ACTION"
  | setNull => "SET_NULL"
  | setDefault => "SET_DEFAULT"

def description : ReferentialAction → String
  | cascade => "Delete or update related records"
  | restrict => "Prevent deletion or update if related records exist"
  | noAction => "Similar to RESTRICT, but deferred until transaction commit"
  | setNull => "Set foreign key to NULL"
  | setDefault => "Set foreign key to its default value"

/-- The spelling inside a relation clause. -/
def keyword : ReferentialAction → String
  | cascade => "Cascade"
  | restrict => "Restrict"
  | noAction => "NoAction"
  | setNull => "SetNull"
  | setDefault => "SetDefault"

/-- The action that a text spells. -/
def ofName? (text : String) : Option ReferentialAction :=
  all.find? fun action => action.name == text

theorem ofName?_name (action : ReferentialAction) : ofName? action.name = some action := by
  cases action <;> decide

theorem name_of_ofName? {text : String} {action : ReferentialAction}
    (found : ofName? text = some action) : action.name = text := by
  simpa using List.find?_some found

end ReferentialAction

end SchemaDesk
