import SchemaDesk.Proofs.Schema.Resolution
import SchemaDesk.Proofs.Validation.Relationship
import SchemaDesk.Proofs.Validation.Report

/-!
# The report on a relationship

Everything that validation says about a relationship, told without going
through its mappings. An end is either denoted by its id or reported; only the
mapped fields of an end that is denoted are looked for; and an error stands at
a mapping exactly if an earlier one is the same pair.
-/

namespace SchemaDesk

/-- The id denotes some model. -/
def Resolves (models : List Model) (id : String) : Prop :=
  ∃ model, ResolvesTo models id model

/-- The id denotes a model, and this one has no field of the name. -/
def LacksField (models : List Model) (id name : String) : Prop :=
  ∃ model, ResolvesTo models id model ∧ name ∉ model.fieldNames

/-- The id denotes a model, and this one has a field of the name. -/
def HasField (models : List Model) (id name : String) : Prop :=
  ∃ model, ResolvesTo models id model ∧ name ∈ model.fieldNames

theorem isSome_resolve?_iff_resolves {models : List Model} {id : String} :
    (resolve? models id).isSome = true ↔ Resolves models id := by
  simp only [Option.isSome_iff_exists, resolve?_eq_some_iff, Resolves]

namespace Relationship

theorem lacksField_resolve?_iff {models : List Model} {id name : String} :
    lacksField (resolve? models id) name = true ↔ SchemaDesk.LacksField models id name := by
  simp only [SchemaDesk.LacksField, ← resolve?_eq_some_iff]
  cases resolve? models id <;> simp [lacksField]

instance (models : List Model) (id : String) : Decidable (Resolves models id) :=
  decidable_of_iff _ isSome_resolve?_iff_resolves

instance (models : List Model) (id name : String) : Decidable (LacksField models id name) :=
  decidable_of_iff _ lacksField_resolve?_iff

/-- Ends that denote no model are errors, and a self reference is warned of. -/
def endReport (relationship : Relationship) (models : List Model) : List Notice :=
  (if ¬ Resolves models relationship.source then
    [.errorAt "fromModel not found" "relationship" [.key "fromModel"]] else []) ++
  (if ¬ Resolves models relationship.target then
    [.errorAt "toModel not found" "relationship" [.key "toModel"]] else []) ++
  (if Resolves models relationship.source ∧ relationship.source = relationship.target then
    [.warning "Self-referential relationship detected"] else [])

/-- A relationship needs a mapping. -/
def emptinessReport (relationship : Relationship) : List Notice :=
  if relationship.mappings = [] then
    [.errorAt "At least one field mapping is required" "relationship" [.key "fields"]] else []

/-- The mapping at position `i` names a field that its side lacks, the source before the target. -/
def missingFieldReport (relationship : Relationship) (models : List Model) : List Notice :=
  eachPosition relationship.mappings fun i =>
    (if LacksField models relationship.source relationship.mappings[i].fieldName then
      [.errorAt ("Field \"" ++ relationship.mappings[i].fieldName ++
        "\" not found in source model") "relationship"
          [.key "fields", .index i, .key "fieldName"]] else []) ++
    (if LacksField models relationship.target relationship.mappings[i].referencedField then
      [.errorAt ("Field \"" ++ relationship.mappings[i].referencedField ++
        "\" not found in target model") "relationship"
          [.key "fields", .index i, .key "referencedField"]] else [])

/-- The mapping at position `i` is the same pair as an earlier one. -/
def duplicateMappingReport (relationship : Relationship) : List Notice :=
  eachPosition relationship.mappings fun i =>
    if HasEarlier (fun other mapping => other.pair = mapping.pair) relationship.mappings i then
      [.errorAt "Duplicate field mapping" "relationship" [.key "fields", .index i]]
    else []

theorem map_notice_endFindings (relationship : Relationship) (models : List Model) :
    (relationship.endFindings (resolve? models relationship.source)
      (resolve? models relationship.target)).map Diagnostic.notice =
        relationship.endReport models := by
  simp only [endFindings, endReport, isSelfReference, ← Option.not_isSome, Bool.not_eq_true',
    ← Bool.not_eq_true, Bool.and_eq_true, beq_iff_eq, isSome_resolve?_iff_resolves,
    List.map_append]
  congr 1
  · congr 1
    · split <;> rfl
    · split <;> rfl
  · split <;> rfl

theorem map_notice_emptinessFindings (relationship : Relationship) :
    relationship.emptinessFindings.map Diagnostic.notice = relationship.emptinessReport := by
  unfold emptinessFindings emptinessReport
  simp only [List.isEmpty_iff]
  split <;> rfl

theorem mappingFindings_eq_sweep (source? target? : Option Model)
    (earlier mappings : List FieldMapping) (position : Nat) :
    mappingFindings source? target? position mappings =
      sweep (fun _ position mapping =>
        (if lacksField source? mapping.fieldName then
          [reportAt (.sourceFieldNotFound mapping.fieldName)
            [.key "fields", .index position, .key "fieldName"]] else []) ++
        (if lacksField target? mapping.referencedField then
          [reportAt (.targetFieldNotFound mapping.referencedField)
            [.key "fields", .index position, .key "referencedField"]] else []))
        earlier position mappings := by
  induction mappings generalizing earlier position with
  | nil => rfl
  | cons mapping mappings ih => rw [mappingFindings, ih (mapping :: earlier), sweep]

theorem map_notice_mappingFindings (relationship : Relationship) (models : List Model) :
    (mappingFindings (resolve? models relationship.source) (resolve? models relationship.target) 0
      relationship.mappings).map Diagnostic.notice = relationship.missingFieldReport models := by
  rw [mappingFindings_eq_sweep _ _ [], sweep_eq_eachPosition, map_eachPosition, missingFieldReport]
  refine congrArg (eachPosition relationship.mappings) (funext fun i => ?_)
  simp only [lacksField_resolve?_iff, List.map_append]
  congr 1
  · split <;> rfl
  · split <;> rfl

theorem repeatedMappings_eq_sweep (earlier mappings : List FieldMapping) (position : Nat) :
    repeatedMappings earlier position mappings =
      sweep (fun earlier position mapping =>
        if earlier.contains mapping then
          [reportAt .duplicateMapping [.key "fields", .index position]]
        else []) earlier position mappings := by
  induction mappings generalizing earlier position with
  | nil => rfl
  | cons mapping mappings ih => rw [repeatedMappings, ih, sweep]

theorem map_notice_repeatedMappings (relationship : Relationship) :
    (repeatedMappings [] 0 relationship.mappings).map Diagnostic.notice =
      relationship.duplicateMappingReport := by
  rw [repeatedMappings_eq_sweep, sweep_eq_eachPosition, map_eachPosition, duplicateMappingReport]
  refine congrArg (eachPosition relationship.mappings) (funext fun i => ?_)
  -- Two mappings are the same if and only if they are the same pair.
  have earlier := exists_mem_take_iff_hasEarlier
    (fun other mapping : FieldMapping => other.pair = mapping.pair) relationship.mappings i
  simp only [FieldMapping.pair_injective.eq_iff, exists_eq_right] at earlier
  simp only [List.contains_iff_mem, earlier, FieldMapping.pair_injective.eq_iff]
  split <;> rfl

theorem isComplete_iff_hasField {relationship : Relationship} {models : List Model}
    (source : Resolves models relationship.source) (target : Resolves models relationship.target) :
    relationship.IsComplete models ↔
      ∀ mapping ∈ relationship.mappings,
        HasField models relationship.source mapping.fieldName ∧
          HasField models relationship.target mapping.referencedField := by
  simp only [Resolves, HasField, IsComplete, ← resolve?_eq_some_iff] at *
  obtain ⟨source, atSource⟩ := source
  obtain ⟨target, atTarget⟩ := target
  simp [atSource, atTarget]

/-- The diagnostics of a relationship are these and no others: its ends, the lack of mappings,
missing fields in the order of the mappings, then repeated mappings. So there is no error among them
exactly if both ends are denoted, there are mappings, every mapped field is there on its side, and
no pair is repeated. -/
theorem map_notice_validate (relationship : Relationship) (models : List Model) :
    (relationship.validate models).map Diagnostic.notice =
        relationship.endReport models ++ relationship.emptinessReport ++
          relationship.missingFieldReport models ++ relationship.duplicateMappingReport ∧
      (hasErrors (relationship.validate models) = false ↔
        Resolves models relationship.source ∧ Resolves models relationship.target ∧
          relationship.mappings ≠ [] ∧
          (∀ mapping ∈ relationship.mappings,
            HasField models relationship.source mapping.fieldName ∧
              HasField models relationship.target mapping.referencedField) ∧
          (relationship.mappings.map FieldMapping.pair).Nodup) := by
  constructor
  · simp only [validate, List.map_append, map_notice_endFindings, map_notice_emptinessFindings,
      map_notice_mappingFindings, map_notice_repeatedMappings]
  · rw [hasErrors_validate_eq_false_iff]
    constructor
    · rintro ⟨sound, complete⟩
      have source := isSome_resolve?_iff_resolves.mp ((resolve?_isSome_iff _ _).mpr sound.source)
      have target := isSome_resolve?_iff_resolves.mp ((resolve?_isSome_iff _ _).mpr sound.target)
      exact ⟨source, target, sound.mapped, (isComplete_iff_hasField source target).mp complete,
        sound.distinct⟩
    · rintro ⟨source, target, mapped, present, distinct⟩
      refine ⟨⟨?_, ?_, mapped, distinct⟩, (isComplete_iff_hasField source target).mpr present⟩
      · exact (resolve?_isSome_iff _ _).mp (isSome_resolve?_iff_resolves.mpr source)
      · exact (resolve?_isSome_iff _ _).mp (isSome_resolve?_iff_resolves.mpr target)

end Relationship

end SchemaDesk
