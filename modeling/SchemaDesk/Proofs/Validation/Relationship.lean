import Mathlib.Data.List.Nodup
import SchemaDesk.Proofs.Validation.Model

/-!
# What a valid relationship is

Validation accepts a relationship between given models exactly if it is sound
and complete: sound means that both ends are there and that it has mappings
without repetition, complete that every mapped field is there on its side. A
relationship that is only sound has no other errors than missing fields.
-/

namespace SchemaDesk

theorem FieldMapping.pair_injective : Function.Injective FieldMapping.pair := by
  rintro ⟨fieldName, referencedField⟩ ⟨otherName, otherField⟩ same
  cases same
  rfl

namespace Relationship

/-- Both ends are among the models, and there are mappings, no two of them alike. -/
structure IsSound (relationship : Relationship) (models : List Model) : Prop where
  source : relationship.source ∈ models.map (·.id)
  target : relationship.target ∈ models.map (·.id)
  mapped : relationship.mappings ≠ []
  distinct : (relationship.mappings.map FieldMapping.pair).Nodup

/-- Every mapping names a field of the source and a field of the target, as far as these are
known. -/
def IsComplete (relationship : Relationship) (models : List Model) : Prop :=
  ∀ mapping ∈ relationship.mappings,
    (∀ source, resolve? models relationship.source = some source →
      mapping.fieldName ∈ source.fieldNames) ∧
    ∀ target, resolve? models relationship.target = some target →
      mapping.referencedField ∈ target.fieldNames

/-- The diagnostic says that a mapped field is missing. -/
def ReportsMissingField (diagnostic : Diagnostic) : Prop :=
  ∃ name, diagnostic.finding = .sourceFieldNotFound name ∨
    diagnostic.finding = .targetFieldNotFound name

theorem hasErrors_endFindings_eq_false_iff (relationship : Relationship)
    (source? target? : Option Model) :
    hasErrors (relationship.endFindings source? target?) = false ↔
      source?.isSome = true ∧ target?.isSome = true := by
  cases source? <;> cases target? <;> cases self : relationship.isSelfReference <;>
    simp [endFindings, self] <;> decide

theorem hasErrors_emptinessFindings_eq_false_iff (relationship : Relationship) :
    hasErrors relationship.emptinessFindings = false ↔ relationship.mappings ≠ [] := by
  unfold emptinessFindings
  rw [hasErrors_ite_eq_false_iff rfl]
  simp

theorem lacksField_eq_false_iff (model? : Option Model) (name : String) :
    lacksField model? name = false ↔ ∀ model, model? = some model → name ∈ model.fieldNames := by
  cases model? <;> simp [lacksField]

theorem hasErrors_mappingFindings_eq_false_iff (source? target? : Option Model) (position : Nat)
    (mappings : List FieldMapping) :
    hasErrors (mappingFindings source? target? position mappings) = false ↔
      ∀ mapping ∈ mappings, lacksField source? mapping.fieldName = false ∧
        lacksField target? mapping.referencedField = false := by
  induction mappings generalizing position with
  | nil => simp [mappingFindings, hasErrors]
  | cons mapping mappings ih =>
    simp only [mappingFindings, hasErrors_append, Bool.or_eq_false_iff, ih, List.forall_mem_cons]
    rw [hasErrors_ite_eq_false_iff rfl, hasErrors_ite_eq_false_iff rfl, Bool.not_eq_true,
      Bool.not_eq_true]

/-- Whatever is wrong with the mappings is a missing field. -/
theorem reportsMissingField_of_mem_mappingFindings {source? target? : Option Model}
    {position : Nat} {mappings : List FieldMapping} {diagnostic : Diagnostic}
    (reported : diagnostic ∈ mappingFindings source? target? position mappings) :
    ReportsMissingField diagnostic := by
  induction mappings generalizing position with
  | nil => simp [mappingFindings] at reported
  | cons mapping mappings ih =>
    simp only [mappingFindings, List.mem_append] at reported
    rcases reported with (atSource | atTarget) | later
    · split at atSource
      · rw [List.mem_singleton.mp atSource]
        exact ⟨mapping.fieldName, .inl rfl⟩
      · simp at atSource
    · split at atTarget
      · rw [List.mem_singleton.mp atTarget]
        exact ⟨mapping.referencedField, .inr rfl⟩
      · simp at atTarget
    · exact ih later

theorem hasErrors_repeatedMappings_eq_false_iff (earlier mappings : List FieldMapping)
    (position : Nat) :
    hasErrors (repeatedMappings earlier position mappings) = false ↔
      mappings.Nodup ∧ ∀ mapping ∈ mappings, ∀ other ∈ earlier, other ≠ mapping := by
  induction mappings generalizing earlier position with
  | nil => simp [repeatedMappings, hasErrors]
  | cons mapping mappings ih =>
    simp only [repeatedMappings, hasErrors_append, Bool.or_eq_false_iff, ih]
    rw [hasErrors_ite_eq_false_iff rfl, List.contains_iff_mem, ← List.forall_mem_ne']
    exact pairwise_cons_and_apart_iff (· ≠ ·)

/-- Validation accepts exactly the relationships that are sound and complete. -/
theorem hasErrors_validate_eq_false_iff (relationship : Relationship) (models : List Model) :
    hasErrors (relationship.validate models) = false ↔
      relationship.IsSound models ∧ relationship.IsComplete models := by
  simp only [validate, hasErrors_append, Bool.or_eq_false_iff,
    hasErrors_endFindings_eq_false_iff, hasErrors_emptinessFindings_eq_false_iff,
    hasErrors_mappingFindings_eq_false_iff, hasErrors_repeatedMappings_eq_false_iff,
    lacksField_eq_false_iff, resolve?_isSome_iff]
  constructor
  · rintro ⟨⟨⟨⟨source, target⟩, mapped⟩, complete⟩, distinct, -⟩
    exact ⟨⟨source, target, mapped, distinct.map FieldMapping.pair_injective⟩, complete⟩
  · rintro ⟨sound, complete⟩
    exact ⟨⟨⟨⟨sound.source, sound.target⟩, sound.mapped⟩, complete⟩,
      sound.distinct.of_map FieldMapping.pair, by simp⟩

/-- What is wrong with a sound relationship is a missing field. -/
theorem reportsMissingField_of_isSound {relationship : Relationship} {models : List Model}
    (sound : relationship.IsSound models) {diagnostic : Diagnostic}
    (reported : diagnostic ∈ relationship.validate models) (blocking : diagnostic.isError = true) :
    ReportsMissingField diagnostic := by
  -- Three of the four checks find no error, so the diagnostic is from the one of the fields.
  have harmless {others : List Diagnostic} (clean : hasErrors others = false)
      (inside : diagnostic ∈ others) : ReportsMissingField diagnostic := by
    rw [hasErrors_eq_false_iff.mp clean diagnostic inside] at blocking
    cases blocking
  simp only [validate, List.mem_append] at reported
  rcases reported with ((atEnds | empty) | missing) | repeated
  · refine harmless ((hasErrors_endFindings_eq_false_iff _ _ _).mpr ?_) atEnds
    exact ⟨(resolve?_isSome_iff _ _).mpr sound.source, (resolve?_isSome_iff _ _).mpr sound.target⟩
  · exact harmless ((hasErrors_emptinessFindings_eq_false_iff _).mpr sound.mapped) empty
  · exact reportsMissingField_of_mem_mappingFindings missing
  · refine harmless ((hasErrors_repeatedMappings_eq_false_iff _ _ _).mpr ?_) repeated
    exact ⟨sound.distinct.of_map FieldMapping.pair, by simp⟩

end Relationship

end SchemaDesk
