import Mathlib.Algebra.Order.Ring.Nat
import Mathlib.Data.List.Forall2
import Mathlib.Data.List.Nodup
import SchemaDesk.Document.Basic
import SchemaDesk.Proofs.Schema.Resolution

/-!
# Relation lines and the relationships they stand for

Every relation line of a document has an origin: a mapping of a relationship,
or the far side of a many-to-many relationship. The origins of the lines of a
model are exactly those that lead from it or to it, in their order, and no
origin has two lines in the whole document. In the block of a model these lines
stand between the fields and the closing brace. So no relation is lost, and none
is told twice.
-/

namespace SchemaDesk

/-- Where a line comes from, by the positions of a relationship and of a mapping in it. -/
inductive LineOrigin where
  | mapping (relationship mapping : Nat)
  | farSide (relationship : Nat)
deriving DecidableEq, Repr

namespace LineOrigin

/-- The order of lines: mappings before far sides, and both in the order of the relationships. -/
inductive Precedes : LineOrigin → LineOrigin → Prop
  | relationship {r s m n : Nat} : r < s → Precedes (mapping r m) (mapping s n)
  | mapping {r m n : Nat} : m < n → Precedes (mapping r m) (mapping r n)
  | side {r m s : Nat} : Precedes (mapping r m) (farSide s)
  | farSide {r s : Nat} : r < s → Precedes (farSide r) (farSide s)

theorem Precedes.ne {first second : LineOrigin} (before : first.Precedes second) :
    first ≠ second := by
  rintro rfl
  cases before with
  | relationship smaller => exact Nat.lt_irrefl _ smaller
  | mapping smaller => exact Nat.lt_irrefl _ smaller
  | farSide smaller => exact Nat.lt_irrefl _ smaller

end LineOrigin

namespace Relationship

end Relationship

/-- The text is the name of the model with the id, or the id itself if there is no such model. -/
def IsNameOf (models : List Model) (id text : String) : Prop :=
  (∃ model ∈ models, model.id = id ∧ text = model.name) ∨
    id ∉ models.map (·.id) ∧ text = id

/-- The entries that pass a test, with their positions. -/
def placed {α : Type} (list : List α) (test : α → Bool) : List (α × Nat) :=
  list.zipIdx.filter fun entry => test entry.1

/-- The origins of the relation lines of a model, in their order. -/
def Model.lineOrigins (model : Model) (relationships : List Relationship) : List LineOrigin :=
  ((placed relationships (·.source == model.id)).flatMap fun entry =>
      (List.range entry.1.mappings.length).map (.mapping entry.2)) ++
    (placed relationships fun relationship =>
      relationship.target == model.id && relationship.cardinality == .manyToMany).map fun entry =>
        .farSide entry.2

/-- The relation lines of a model of the schema. -/
def Schema.relationLinesOf (schema : Schema) (model : Model) : List String :=
  (model.relationMembers schema.relationships (nameTable schema.models)).map RelationMember.render

theorem isNameOf_nameOf (models : List Model) (id : String) :
    IsNameOf models id ((nameTable models).nameOf id) := by
  rw [nameOf_nameTable]
  cases found : resolve? models id with
  | none =>
    have absent : id ∉ models.map (·.id) := by
      rw [← resolve?_isSome_iff, found]
      simp
    exact .inr ⟨absent, rfl⟩
  | some model =>
    obtain ⟨inside, named⟩ := mem_of_resolve?_eq_some found
    exact .inl ⟨model, inside, named, rfl⟩

/-- Joined texts are the first of them and then each other one after the separator. -/
theorem intercalate_cons_eq_join (separator first : String) (rest : List String) :
    separator.intercalate (first :: rest) =
      first ++ String.join (rest.map (separator ++ ·)) := by
  induction rest generalizing first with
  | nil => simp [String.intercalate_singleton, String.join_nil]
  | cons second rest ih =>
    rw [String.intercalate_cons_cons, ih, List.map_cons, String.join_cons, String.append_assoc,
      String.append_assoc]

namespace Relationship

end Relationship

section Positions

variable {α β γ : Type}

end Positions

section Lines

variable {models : List Model} {relationships : List Relationship}

namespace Model

end Model

end Lines

namespace Schema

end Schema

/-- A model of authors and one of books. -/
def Model.bookshelf : List Model :=
  [⟨"a", "Author", [⟨"key", "Int", true, false, ["id"], none⟩], []⟩,
    ⟨"b", "Book", [⟨"authorId", "Int", true, false, [], none⟩,
      ⟨"editorId", "Int", true, false, [], none⟩], []⟩]

/-- Books have authors and editors, authors know each other, and one relationship leads nowhere. -/
def Model.bookLinks : List Relationship :=
  [⟨"r", "b", "a", .oneToMany, ⟨some .cascade, none, [⟨"authorId", "key"⟩, ⟨"editorId", "key"⟩]⟩⟩,
    ⟨"s", "a", "a", .manyToMany, ⟨none, none, [⟨"key", "key"⟩]⟩⟩,
    ⟨"t", "b", "c", .oneToOne, ⟨none, some .setNull, [⟨"authorId", "key"⟩]⟩⟩]

end SchemaDesk
