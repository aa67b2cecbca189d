import SchemaDesk.Document.Relation
import SchemaDesk.Proofs.Schema.Resolution
import SchemaDesk.Proofs.Text.Run

/-!
# Legible schemas

Validation lets a name end in a line feed, and it does not look into the value
of an attribute. A document can be read without doubt only if names consist of
letters and the texts that are written as they are hold no line feed. Names
that are derived from such names consist of letters too.
-/

namespace SchemaDesk

open Text

/-- The value is no text with a line feed. -/
def DefaultValue.HasNoFeed : DefaultValue → Prop
  | .text content => '\n' ∉ content.toList
  | _ => True

instance : DecidablePred DefaultValue.HasNoFeed
  | .text content => inferInstanceAs (Decidable ('\n' ∉ content.toList))
  | .boolean _ | .integer _ | .float _ => inferInstanceAs (Decidable True)

/-- The name consists of ASCII letters, and the default of a number is no text with a line feed. -/
@[mk_iff]
structure Field.IsLegible (field : Field) : Prop where
  name : AreLetters field.name.toList
  numeral : field.type ∈ ["Int", "BigInt", "Float", "Decimal"] →
    ∀ value ∈ field.default?, value.HasNoFeed

/-- The name consists of ASCII letters, the fields are legible, and the values of the attributes
hold no line feed. -/
@[mk_iff]
structure Model.IsLegible (model : Model) : Prop where
  name : AreLetters model.name.toList
  fields : ∀ field ∈ model.fields, field.IsLegible
  attributes : ∀ mark ∈ model.attributes, '\n' ∉ mark.value.toList

/-- The models are legible, and no two of them share an id. -/
@[mk_iff]
structure Schema.IsLegible (schema : Schema) : Prop where
  distinct : (schema.models.map (·.id)).Nodup
  models : ∀ model ∈ schema.models, model.IsLegible

instance : DecidablePred Field.IsLegible :=
  fun field => decidable_of_iff _ field.isLegible_iff.symm

instance : DecidablePred Model.IsLegible :=
  fun model => decidable_of_iff _ model.isLegible_iff.symm

instance : DecidablePred Schema.IsLegible :=
  fun schema => decidable_of_iff _ schema.isLegible_iff.symm

theorem Model.IsLegible.letters_of_mem_fieldNames {model : Model} (legible : model.IsLegible)
    {name : String} (listed : name ∈ model.fieldNames) : AreLetters name.toList := by
  obtain ⟨field, inside, rfl⟩ := List.mem_map.mp listed
  exact (legible.fields field inside).name

/-- An id of a legible schema stands for a name of letters. -/
theorem Schema.IsLegible.letters_nameOf {schema : Schema} (legible : schema.IsLegible) {id : String}
    (listed : id ∈ schema.models.map (·.id)) :
    AreLetters ((nameTable schema.models).nameOf id).toList := by
  obtain ⟨model, found⟩ := exists_resolve?_of_mem listed
  obtain ⟨inside, -⟩ := mem_of_resolve?_eq_some found
  rw [nameOf_nameTable, found]
  exact (legible.models model inside).name

namespace Text

/-- What is to hold of all ASCII letters need only be tried on the ASCII codes. -/
theorem forall_isAlpha {P : Char → Prop}
    (all : ∀ code : Fin 128, (Char.ofNat code).isAlpha = true → P (Char.ofNat code)) :
    ∀ c : Char, c.isAlpha = true → P c := by
  intro c letter
  have small : c.toNat < 128 := by
    -- The codes of both kinds of letters are bounded.
    rcases Bool.or_eq_true_iff.mp letter with upper | lower
    · have high := (of_decide_eq_true upper).2
      exact Nat.lt_of_le_of_lt (UInt32.le_iff_toNat_le.mp high) (by decide)
    · have high := of_decide_eq_true (Bool.and_eq_true_iff.mp lower).2
      exact Nat.lt_of_le_of_lt (UInt32.le_iff_toNat_le.mp high) (by decide)
  have here := all ⟨c.toNat, small⟩
  rw [Char.ofNat_toNat] at here
  exact here letter

/-- A letter has a letter for its lower case. -/
theorem areLetters_lowerMapping {c : Char} (letter : c.isAlpha = true) :
    AreLetters (lowerMapping.apply c) :=
  forall_isAlpha (P := fun c => AreLetters (lowerMapping.apply c)) (by decide +kernel) c letter

theorem AreLetters.lowerFirst {text : List Char} (letters : AreLetters text) :
    AreLetters (lowerFirst text) := by
  cases text with
  | nil => exact nofun
  | cons c rest =>
    obtain ⟨letter, others⟩ := List.forall_mem_cons.mp letters
    exact List.forall_mem_append.mpr ⟨areLetters_lowerMapping letter, others⟩

end Text

theorem letters_lowerFirst {text : String} (letters : AreLetters text.toList) :
    AreLetters (lowerFirst text).toList := by
  rw [lowerFirst, String.toList_ofList]
  exact letters.lowerFirst

/-- The wished name is what is left of the field name, which is something, or the name of the other
model in lower case. -/
theorem wishedName_eq (mapping : FieldMapping) (target : String) :
    (∃ count, 0 < count ∧
      wishedName mapping target = String.ofList (mapping.fieldName.toList.take count)) ∨
      wishedName mapping target = lowerFirst target := by
  unfold wishedName
  split
  · next stem found =>
    obtain ⟨ending, -, dropped⟩ := List.exists_of_findSome?_eq_some found
    unfold dropEnding? at dropped
    split at dropped
    · next ends =>
      -- The ending is shorter than the name.
      have shorter := of_decide_eq_true (Bool.and_eq_true_iff.mp ends).2
      cases dropped
      exact .inl ⟨_, Nat.sub_pos_of_lt shorter, rfl⟩
    · cases dropped
  · exact .inr rfl

/-- The wished name of a member is made of the letters of the field or of the other model. -/
theorem letters_wishedName {mapping : FieldMapping} {target : String}
    (field : AreLetters mapping.fieldName.toList) (model : AreLetters target.toList) :
    AreLetters (wishedName mapping target).toList := by
  rcases wishedName_eq mapping target with ⟨count, -, stem⟩ | lowered
  · rw [stem, String.toList_ofList]
    exact fun c inside => field c (List.mem_of_mem_take inside)
  · rw [lowered]
    exact letters_lowerFirst model

end SchemaDesk
