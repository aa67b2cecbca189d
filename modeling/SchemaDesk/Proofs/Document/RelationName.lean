import SchemaDesk.Proofs.Document.Reading
import SchemaDesk.Proofs.Document.RelationLines
import SchemaDesk.Proofs.Text.Quoted

/-!
# Names of relations

Only many-to-many relations are named in a document, by the quoted id of their
relationship. The name stands in two places: last among the arguments of each
mapping, and alone on the far side. A quoted text is told from its end, so a
line carries one name at most; and ids are distinct, so a name pairs the lines
of one relationship and no others.
-/

namespace SchemaDesk

open Text

/-- Where a relation attribute names its relation: behind its other arguments, or alone. -/
inductive NamePlace where
  | last
  | sole
deriving DecidableEq, Repr

namespace NamePlace

/-- What stands before a name at the place. -/
def opening : NamePlace → String
  | last => ", name: "
  | sole => " @relation("

/-- The line ends with the quoted name at the place. -/
def Names (place : NamePlace) (line name : String) : Prop :=
  (place.opening ++ quotedLiteral name ++ ")").toList <:+ line.toList

instance (place : NamePlace) (line name : String) : Decidable (place.Names line name) :=
  inferInstanceAs (Decidable (_ <:+ _))

end NamePlace

/-- The position of the relationship that a line was made for. -/
def LineOrigin.relationship : LineOrigin → Nat
  | mapping relationship _ => relationship
  | farSide relationship => relationship

/-- The relation lines of a document, each with what it was made for. -/
def Schema.relationLines (schema : Schema) : List (LineOrigin × String) :=
  schema.models.flatMap fun model =>
    (model.lineOrigins schema.relationships).zip (schema.relationLinesOf model)

/-! ## Names at the end of a line -/

namespace NamePlace

end NamePlace

namespace Relationship

variable {relationship : Relationship} {place : NamePlace}

end Relationship

/-! ## Lines and the relationships they were made for -/

namespace Schema

variable {schema : Schema}

end Schema

/-! ## How often a name stands in a block -/

namespace Relationship

variable {relationship : Relationship} {names : NameTable} {place : NamePlace}

end Relationship

namespace Schema

variable {schema : Schema}

end Schema

end SchemaDesk
