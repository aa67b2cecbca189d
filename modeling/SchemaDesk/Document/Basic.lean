import SchemaDesk.Document.Relation

/-!
# Schema documents

The text of a schema: a block for the data source, a block for the client and a
block for every model, separated by empty lines. Nothing is validated; an id
that does not resolve is written as it is. A document is not written if one of
its fields shows a whole number of too many digits.
-/

namespace SchemaDesk

/-- What the first two blocks of a document say. -/
structure Preamble where
  provider : String
  urlVariable : String
  clientProvider : String
deriving DecidableEq, Repr

/-- The preamble for a database of the usual kind. -/
def Preamble.default : Preamble := ⟨"postgresql", "DATABASE_URL", "prisma-client-js"⟩

namespace Document

/-- The lines with line feeds between them. -/
def joinLines (lines : List String) : String :=
  "\n".intercalate lines

/-- The block that says where the database is. -/
def dataSourceBlock (preamble : Preamble) : String :=
  joinLines ["datasource db \x7b", "  provider = \"" ++ preamble.provider ++ "\"",
    "  url      = env(\"" ++ preamble.urlVariable ++ "\")", "\x7d"]

/-- The block that says which client is generated. -/
def clientBlock (preamble : Preamble) : String :=
  joinLines ["generator client \x7b", "  provider = \"" ++ preamble.clientProvider ++ "\"", "\x7d"]

/-- The line of an ordinary field. -/
def fieldLine (field : Field) : String :=
  "  " ++ field.name ++ " " ++ field.typeExpression ++ field.attributesText

/-- The lines of the relation members, set off from the fields by an empty line. -/
def relationLines (model : Model) (members : List RelationMember) : List String :=
  let lines := members.map RelationMember.render
  if members.isEmpty || model.fields.isEmpty then lines else "" :: lines

/-- The lines of a model block; its attributes stand before its header. -/
def modelLines (model : Model) (members : List RelationMember) : List String :=
  model.attributes.map BlockAttribute.render ++ ["model " ++ model.name ++ " \x7b"] ++
    model.fields.map fieldLine ++ relationLines model members ++ ["\x7d"]

/-- The block of a model. -/
def modelBlock (model : Model) (relationships : List Relationship) (names : NameTable) : String :=
  joinLines (modelLines model (model.relationMembers relationships names))

/-- The blocks of a document. -/
def blocks (preamble : Preamble) (schema : Schema) : List String :=
  dataSourceBlock preamble :: clientBlock preamble ::
    schema.models.map fun model =>
      modelBlock model schema.relationships (nameTable schema.models)

/-- The text of the document of a schema, where it can be written. -/
def render (preamble : Preamble) (schema : Schema) : String :=
  "\n\n".intercalate (blocks preamble schema) ++ "\n"

/-- The defaults that the block of a model shows. -/
def shownDefaults (model : Model) : List DefaultValue :=
  model.fields.flatMap Field.shownDefaults

/-- Writes the block of a model. -/
def writeModel (model : Model) (relationships : List Relationship) (names : NameTable) :
    Except DocumentError String :=
  writeShowing (shownDefaults model) (modelBlock model relationships names)

/-- Writes the document of a schema. -/
def write (preamble : Preamble) (schema : Schema) : Except DocumentError String :=
  writeShowing (schema.models.flatMap shownDefaults) (render preamble schema)

/-- A document is not written exactly if a field with the default attribute has a whole number of too
many digits as its default. -/
theorem write_eq_error_iff {preamble : Preamble} {schema : Schema} {error : DocumentError} :
    write preamble schema = .error error ↔
      ∃ model ∈ schema.models, ∃ field ∈ model.fields, "default" ∈ field.attributes ∧
        ∃ n, field.default? = some (.integer n) ∧ Number.isWritable n = false := by
  rw [write, writeShowing_eq_error_iff]
  simp only [List.mem_flatMap, shownDefaults, Field.mem_shownDefaults_iff]
  constructor
  · rintro ⟨n, ⟨model, inside, field, listed, shows, given⟩, long⟩
    exact ⟨model, inside, field, listed, shows, n, given, long⟩
  · rintro ⟨model, inside, field, listed, shows, n, given, long⟩
    exact ⟨n, ⟨model, inside, field, listed, shows, given⟩, long⟩

end Document

end SchemaDesk
