import SchemaDesk.Document.Literal
import SchemaDesk.Schema.Basic
import SchemaDesk.Text.Case

/-!
# Relation members

A model block ends with the members that its relationships ask for: one for
each mapping of a relationship that the model owns, then one for each
many-to-many relationship that leads to it. The name of a member is derived
from the mapped field or from the other model, and varied when it is taken.
-/

namespace SchemaDesk

/-! ## Free names

A name that is taken is varied by a suffix: `name`, `nameRelated`, `nameRelated2`, `nameRelated3`
and so on. The first variant that is free is chosen. Among one more variants than there are taken
names, one is free. -/

/-- The variants of a name, the name itself first. -/
def nameVariant (name : String) : Nat → String
  | 0 => name
  | 1 => name ++ "Related"
  | n => name ++ "Related" ++ toString n

/-- The first free variant from the given one on, among as many as are to be tried. -/
def freeVariantFrom (taken : List String) (name : String) : Nat → Nat → String
  | 0, n => nameVariant name n
  | tries + 1, n =>
    if nameVariant name n ∈ taken then freeVariantFrom taken name tries (n + 1)
    else nameVariant name n

/-- The first free variant of a name. -/
def freeName (taken : List String) (name : String) : String :=
  freeVariantFrom taken name taken.length 0

/-- A free name is not varied. -/
theorem freeName_eq_self (taken : List String) (name : String) (free : name ∉ taken) :
    freeName taken name = name := by
  unfold freeName
  cases taken.length with
  | zero => rfl
  | succ tries => simp [freeVariantFrom, nameVariant, free]

/-! ## Arguments and members -/

/-- The arguments of a relation attribute. The owning side names the mapped fields; the other side
of a many-to-many relationship names only the relation. -/
inductive RelationArguments where
  | owning (mapping : FieldMapping) (onDelete? onUpdate? : Option ReferentialAction)
      (relationName? : Option String)
  | inverse (relationName : String)
deriving DecidableEq, Repr

namespace RelationArguments

/-- An argument for an action, if there is one. -/
def actionArgument (key : String) : Option ReferentialAction → List String
  | some action => [key ++ ": " ++ action.keyword]
  | none => []

/-- The single arguments. -/
def parts : RelationArguments → List String
  | owning mapping onDelete? onUpdate? relationName? =>
    ["fields: [" ++ mapping.fieldName ++ "]", "references: [" ++ mapping.referencedField ++ "]"] ++
      actionArgument "onDelete" onDelete? ++ actionArgument "onUpdate" onUpdate? ++
      relationName?.toList.map fun name => "name: " ++ quotedLiteral name
  | inverse relationName => [quotedLiteral relationName]

/-- The arguments with commas between them. -/
def render (arguments : RelationArguments) : String :=
  ", ".intercalate arguments.parts

end RelationArguments

/-- A member that stands for a relation. Before names are chosen, `name` is the wish. -/
structure RelationMember where
  name : String
  type : String
  isList : Bool
  arguments : RelationArguments
deriving DecidableEq, Repr

/-- The line of a relation member. -/
def RelationMember.render (member : RelationMember) : String :=
  "  " ++ member.name ++ " " ++ member.type ++ (if member.isList then "[]" else "") ++
    " @relation(" ++ member.arguments.render ++ ")"

/-- The text with its first character in lower case. -/
def lowerFirst (text : String) : String :=
  String.ofList (Text.lowerFirst text.toList)

/-- The endings of field names that hold a reference. -/
def referenceEndings : List String := ["_id", "Id", "ID"]

/-- The text before an ending, unless nothing would be left. -/
def dropEnding? (ending text : List Char) : Option (List Char) :=
  if ending.isSuffixOf text && ending.length < text.length then
    some (text.take (text.length - ending.length))
  else none

/-- The wished name of a member: the mapped field without its ending, as in `authorId` and
`author`, or else the name of the other model. -/
def wishedName (mapping : FieldMapping) (target : String) : String :=
  match referenceEndings.findSome? fun ending =>
      dropEnding? ending.toList mapping.fieldName.toList with
  | some stem => String.ofList stem
  | none => lowerFirst target

namespace Relationship

/-- The name of the relation in a document; only many-to-many relations are named. -/
def relationName? (relationship : Relationship) : Option String :=
  if relationship.cardinality = .manyToMany then some relationship.id else none

/-- The members of the owning side, one for each mapping. -/
def owningMembers (relationship : Relationship) (names : NameTable) : List RelationMember :=
  let target := names.nameOf relationship.target
  relationship.mappings.map fun mapping =>
    ⟨wishedName mapping target, target, relationship.cardinality.isList,
      .owning mapping relationship.clause.onDelete? relationship.clause.onUpdate?
        relationship.relationName?⟩

/-- The member of the other side. -/
def inverseMember (relationship : Relationship) (names : NameTable) : RelationMember :=
  let source := names.nameOf relationship.source
  ⟨lowerFirst source, source, true, .inverse relationship.id⟩

end Relationship

namespace Model

/-- The relationships that the model owns. -/
def owned (model : Model) (relationships : List Relationship) : List Relationship :=
  relationships.filter fun relationship => relationship.source == model.id

/-- The many-to-many relationships that lead to the model. -/
def incoming (model : Model) (relationships : List Relationship) : List Relationship :=
  relationships.filter fun relationship =>
    relationship.target == model.id && relationship.cardinality == .manyToMany

/-- The members of a model with the names that they wish for. -/
def wishedMembers (model : Model) (relationships : List Relationship) (names : NameTable) :
    List RelationMember :=
  (model.owned relationships).flatMap (·.owningMembers names) ++
    (model.incoming relationships).map (·.inverseMember names)

end Model

/-- Gives every member in turn the first free variant of the name it wishes for. -/
def nameMembers (taken : List String) : List RelationMember → List RelationMember
  | [] => []
  | member :: members =>
    let name := freeName taken member.name
    { member with name } :: nameMembers (name :: taken) members

/-- The relation members of a model; no name is one of an ordinary field or of another member. -/
def Model.relationMembers (model : Model) (relationships : List Relationship)
    (names : NameTable) : List RelationMember :=
  nameMembers model.fieldNames (model.wishedMembers relationships names)

end SchemaDesk
