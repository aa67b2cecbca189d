import Mathlib.Data.List.Perm.Basic
import SchemaDesk.Proofs.Edit.Soundness
import SchemaDesk.Proofs.Validation.Failure
import SchemaDesk.Proofs.Validation.ModelReport
import SchemaDesk.Proofs.Validation.RelationshipReport

/-!
# Validation and the order of entries

Which entry is blamed for a repetition depends on the order of the entries, and
how often something is told does not. So a model whose fields, attributes and
attributes of fields are put in another order gets the same findings, and so
does a relationship with its mappings, or among models, in another order.
Moving a field never decides whether its model is accepted.
-/

namespace SchemaDesk

variable {α β γ : Type}

/-- What is told along a list at each entry, given the entries before it, the last one first. -/
def account (told : List α → α → List β) (earlier : List α) : List α → List β
  | [] => []
  | entry :: entries => told earlier entry ++ account told (entry :: earlier) entries

/-- What is told of an entry depends on the entries before it, but not on their order, and of two
entries next to each other the same is told whichever comes first. -/
structure IsOrderless (told : List α → α → List β) : Prop where
  forgets : ∀ {earlier others : List α}, earlier.Perm others →
    ∀ entry, told earlier entry = told others entry
  swaps : ∀ earlier first second,
    (told earlier first ++ told (first :: earlier) second).Perm
      (told earlier second ++ told (second :: earlier) first)

namespace IsOrderless

variable {told : List α → α → List β}

theorem account_eq (orderless : IsOrderless told) {earlier others : List α}
    (perm : earlier.Perm others) (entries : List α) :
    account told earlier entries = account told others entries := by
  induction entries generalizing earlier others with
  | nil => rfl
  | cons entry entries ih =>
    rw [account, account, orderless.forgets perm entry, ih (perm.cons entry)]

/-- The order of a list does not change what is told along it, nor how often. -/
theorem account_perm (orderless : IsOrderless told) {entries others : List α}
    (perm : entries.Perm others) (earlier : List α) :
    (account told earlier entries).Perm (account told earlier others) := by
  induction perm generalizing earlier with
  | nil => exact .refl _
  | cons entry _ ih => exact .append (.refl _) (ih (entry :: earlier))
  | swap first second entries =>
    show (told earlier second ++ (told (second :: earlier) first ++
        account told (first :: second :: earlier) entries)).Perm
      (told earlier first ++ (told (first :: earlier) second ++
        account told (second :: first :: earlier) entries))
    rw [← List.append_assoc, ← List.append_assoc,
      orderless.account_eq (List.Perm.swap second first earlier) entries]
    exact (orderless.swaps earlier second first).append (.refl _)
  | trans _ _ ih ih' => exact (ih earlier).trans (ih' earlier)

/-- Telling one thing of an entry that occurred before and another thing of one that did not. -/
theorem ofRepetition [DecidableEq α] (again anew : α → List β) :
    IsOrderless fun earlier entry => if earlier.contains entry then again entry else anew entry where
  forgets perm entry := by rw [perm.contains_eq]
  swaps earlier first second := by
    by_cases same : first = second
    · rw [same]
    · have apart : (first :: earlier).contains second = earlier.contains second := by
        simp [Ne.symm same]
      have apart' : (second :: earlier).contains first = earlier.contains first := by
        simp [same]
      rw [apart, apart']
      exact List.perm_append_comm

/-- What is told of an entry by itself. -/
theorem ofEntry (told : α → List β) : IsOrderless fun _ entry => told entry where
  forgets _ _ := rfl
  swaps _ _ _ := List.perm_append_comm

end IsOrderless

/-- What a check finds along a list, with its positions left out. -/
theorem map_sweep {check : List α → Nat → α → List β} {view : β → γ}
    {told : List α → α → List γ}
    (seen : ∀ earlier position entry, (check earlier position entry).map view = told earlier entry)
    (earlier : List α) (position : Nat) (entries : List α) :
    (sweep check earlier position entries).map view = account told earlier entries := by
  induction entries generalizing earlier position with
  | nil => rfl
  | cons entry entries ih => rw [sweep, account, List.map_append, seen, ih]

/-- A diagnostic apart from its place: how severe it is and how it is worded. -/
def Diagnostic.wording (diagnostic : Diagnostic) : Severity × String :=
  (diagnostic.severity, diagnostic.message)

/-- The findings of the one list are those of the other, each as often. -/
def FindTheSame (found others : List Diagnostic) : Prop :=
  (found.map (·.finding)).Perm (others.map (·.finding))

/-- Both validations fail alike, or both word the same diagnostics, each as often. -/
inductive Verdict.Agrees : Verdict → Verdict → Prop
  | found {found others : List Diagnostic}
      (same : (found.map Diagnostic.wording).Perm (others.map Diagnostic.wording)) :
      Agrees (.ok found) (.ok others)
  | failed (failure : ValidationFailure) : Agrees (.error failure) (.error failure)

/-- Validations that agree let the same pass. -/
theorem Verdict.Agrees.passes_iff {verdict other : Verdict} (agrees : verdict.Agrees other) :
    verdict.Passes ↔ other.Passes := by
  cases agrees with
  | failed failure => exact Iff.rfl
  | found same =>
    have blocked (diagnostics : List Diagnostic) :
        hasErrors diagnostics = (diagnostics.map Diagnostic.wording).any (·.1 == .error) := by
      rw [List.any_map]
      rfl
    rw [passes_ok_iff, passes_ok_iff, blocked, blocked, same.any_eq]

namespace FindTheSame

variable {found found' others others' : List Diagnostic}

theorem refl (found : List Diagnostic) : FindTheSame found found :=
  List.Perm.refl _

theorem append (front : FindTheSame found others) (back : FindTheSame found' others') :
    FindTheSame (found ++ found') (others ++ others') := by
  unfold FindTheSame at *
  rw [List.map_append, List.map_append]
  exact List.Perm.append front back

theorem wording (same : FindTheSame found others) :
    (found.map Diagnostic.wording).Perm (others.map Diagnostic.wording) := by
  have worded := List.Perm.map (fun finding => (finding.severity, finding.message)) same
  rwa [List.map_map, List.map_map] at worded

/-- Sweeping through a list in another order finds the same, where what is told of an entry does
not depend on the order of those before it. -/
theorem sweep {check : List α → Nat → α → List Diagnostic} {told : List α → α → List Finding}
    (orderless : IsOrderless told)
    (seen : ∀ earlier position entry,
      (check earlier position entry).map (·.finding) = told earlier entry)
    {entries others : List α} (perm : entries.Perm others) :
    FindTheSame (SchemaDesk.sweep check [] 0 entries) (SchemaDesk.sweep check [] 0 others) := by
  unfold FindTheSame
  rw [map_sweep seen, map_sweep seen]
  exact orderless.account_perm perm []

end FindTheSame

namespace Field

/-- The fields differ at most in the order of their attributes. -/
def Reorders (field other : Field) : Prop :=
  ∃ attributes, field.attributes.Perm attributes ∧ other = { field with attributes }

theorem tokenFindings_eq_sweep (earlier tokens : List String) (position : Nat) :
    tokenFindings earlier position tokens =
      sweep (fun earlier position token =>
        if !fieldAttributes.contains token then
          [reportAt (.fieldAttributeUnknown token) [.key "attributes", .index position]]
        else if earlier.contains token then
          [reportAt (.duplicateFieldAttribute token) [.key "attributes", .index position]]
        else []) earlier position tokens := by
  induction tokens generalizing earlier position with
  | nil => rfl
  | cons token tokens ih => rw [tokenFindings, ih, sweep]

theorem tokenFindings_perm {tokens others : List String} (perm : tokens.Perm others) :
    FindTheSame (tokenFindings [] 0 tokens) (tokenFindings [] 0 others) := by
  rw [tokenFindings_eq_sweep, tokenFindings_eq_sweep]
  -- An unknown token is told of every time, a known one only when it was there before.
  refine .sweep (.ofRepetition
    (fun token => if !fieldAttributes.contains token then [.fieldAttributeUnknown token]
      else [.duplicateFieldAttribute token])
    (fun token => if !fieldAttributes.contains token then [.fieldAttributeUnknown token]
      else [])) (fun earlier position token => ?_) perm
  by_cases unknown : !fieldAttributes.contains token
  · rw [if_pos unknown, if_pos unknown, if_pos unknown, ite_self]
    rfl
  · rw [if_neg unknown, if_neg unknown, if_neg unknown]
    split <;> rfl

namespace Reorders

variable {field other : Field}

/-- The order of its attributes plays no part in the validation of a field. -/
theorem validate_eq_ok (reordered : field.Reorders other) {found : List Diagnostic}
    (validated : field.validate = .ok found) :
    ∃ others, other.validate = .ok others ∧ FindTheSame found others := by
  obtain ⟨attributes, perm, rfl⟩ := reordered
  obtain ⟨defaults, checked, made⟩ := bind_eq_ok_iff.mp validated
  cases made
  have together : attributeFindings { field with attributes } = field.attributeFindings := by
    simp only [attributeFindings, perm.contains_eq]
  refine ⟨_, bind_eq_ok_iff.mpr ⟨defaults, checked, rfl⟩, ?_⟩
  rw [together]
  exact .append (.append (.refl _) (tokenFindings_perm perm)) (.refl _)

/-- What does not depend on the attributes of a field is the same along both lists. -/
theorem map_eq_of_forall₂ {part : Field → α} (kept : ∀ {field other : Field},
    field.Reorders other → part field = part other) {fields others : List Field}
    (reordered : List.Forall₂ Field.Reorders fields others) :
    fields.map part = others.map part := by
  rw [← List.forall₂_eq_eq_eq, List.forall₂_map_left_iff, List.forall₂_map_right_iff]
  exact reordered.imp fun _ _ here => kept here

end Reorders

end Field

namespace Model

/-- The models differ at most in the order of their fields, of their attributes and of the
attributes of each field. -/
structure Reorders (model other : Model) : Prop where
  name : other.name = model.name
  fields : ∃ fields, List.Forall₂ Field.Reorders model.fields fields ∧ fields.Perm other.fields
  attributes : model.attributes.Perm other.attributes

/-- What is told of an attribute, given those before it. -/
def repetition (earlier : List BlockAttribute) (mark : BlockAttribute) : List Finding :=
  if earlier.any fun other => other.name == mark.name && other.value == mark.value then
    [.duplicateBlockAttribute mark.name]
  else if mark.kind?.any BlockAttributeKind.single &&
      earlier.any fun other => other.name == mark.name then
    [.repeatedBlockAttribute mark.name]
  else []

/-- An attribute of another name does not count. -/
theorem repetition_cons_of_ne (earlier : List BlockAttribute) {other mark : BlockAttribute}
    (named : other.name ≠ mark.name) :
    repetition (other :: earlier) mark = repetition earlier mark := by
  have apart : (other.name == mark.name) = false := by simpa using named
  simp only [repetition, List.any_cons, apart, Bool.false_and, Bool.false_or]

theorem isOrderless_repetition : IsOrderless repetition where
  forgets perm mark := by simp only [repetition, perm.any_eq]
  swaps earlier first second := by
    have single : first.name = second.name →
        first.kind?.any BlockAttributeKind.single = second.kind?.any BlockAttributeKind.single :=
      fun named => by rw [BlockAttribute.kind?, BlockAttribute.kind?, named]
    by_cases named : first.name = second.name
    · by_cases valued : first.value = second.value
      · -- The two cannot be told apart.
        simp only [repetition, List.any_cons, named, valued, single named]
        exact .refl _
      · have apart : (first.value == second.value) = false := by simpa using valued
        have apart' : (second.value == first.value) = false := by simpa using Ne.symm valued
        simp only [repetition, List.any_cons, named, single named, apart, apart', beq_self_eq_true,
          Bool.and_false, Bool.false_or, Bool.true_or, Bool.and_true]
        -- Each repeats the name of the other, which counts only if no earlier one has the name.
        cases before : earlier.any fun other => other.name == second.name with
        | true =>
          simp only [Bool.and_true]
          exact List.perm_append_comm
        | false =>
          have anew (value : String) :
              (earlier.any fun other => other.name == second.name && other.value == value) =
                false := by
            rw [List.any_eq_false] at before ⊢
            intro other inside
            rw [Bool.and_eq_true, not_and]
            exact fun alike => absurd alike (before other inside)
          simp only [anew, Bool.and_false]
          exact .refl _
    · rw [repetition_cons_of_ne earlier named, repetition_cons_of_ne earlier (Ne.symm named)]
      exact List.perm_append_comm

theorem repeatedNames_perm {names others : List String} (perm : names.Perm others) :
    FindTheSame (repeatedNames [] 0 names) (repeatedNames [] 0 others) := by
  rw [repeatedNames_eq_sweep, repeatedNames_eq_sweep]
  refine .sweep (.ofRepetition (fun name => [.duplicateField name]) fun _ => [])
    (fun earlier position name => ?_) perm
  split <;> rfl

theorem repeatedAttributes_perm {marks others : List BlockAttribute} (perm : marks.Perm others) :
    FindTheSame (repeatedAttributes [] 0 marks) (repeatedAttributes [] 0 others) := by
  rw [repeatedAttributes_eq_sweep, repeatedAttributes_eq_sweep]
  refine .sweep isOrderless_repetition (fun earlier position mark => ?_) perm
  unfold repetition
  split
  · rfl
  · split <;> rfl

theorem attributeFindings_perm {marks others : List BlockAttribute} (perm : marks.Perm others) :
    FindTheSame (attributeFindings 0 marks) (attributeFindings 0 others) := by
  rw [attributeFindings_eq_sweep [], attributeFindings_eq_sweep []]
  refine .sweep (.ofEntry fun mark => mark.validate.map (·.finding))
    (fun earlier position mark => ?_) perm
  simp only [List.map_map, Function.comp_def, Diagnostic.finding_rebase]

theorem sweep_fields_perm (found : Field → List Diagnostic) {fields others : List Field}
    (perm : fields.Perm others) :
    FindTheSame
      (sweep (fun _ position field =>
        (found field).map (·.rebase "model" [.key "fields", .index position])) [] 0 fields)
      (sweep (fun _ position field =>
        (found field).map (·.rebase "model" [.key "fields", .index position])) [] 0 others) := by
  refine .sweep (.ofEntry fun field => (found field).map (·.finding))
    (fun earlier position field => ?_) perm
  simp only [List.map_map, Function.comp_def, Diagnostic.finding_rebase]

/-- Fields with their attributes in another order, each at its place, are found the same faults. -/
theorem fieldFindings_forall₂ {fields others : List Field} (position : Nat)
    (reordered : List.Forall₂ Field.Reorders fields others) {found : List Diagnostic}
    (validated : fieldFindings position fields = .ok found) :
    ∃ found', fieldFindings position others = .ok found' ∧ FindTheSame found found' := by
  induction reordered generalizing position found with
  | nil => exact ⟨found, validated, .refl _⟩
  | cons here _ ih =>
    simp only [fieldFindings, bind_eq_ok_iff] at validated
    obtain ⟨first, checked, later, rest, made⟩ := validated
    cases made
    obtain ⟨first', checked', same⟩ := here.validate_eq_ok checked
    obtain ⟨later', rest', same'⟩ := ih (position + 1) rest
    refine ⟨_, bind_eq_ok_iff.mpr ⟨first', checked', bind_eq_ok_iff.mpr ⟨later', rest', rfl⟩⟩,
      .append ?_ same'⟩
    simpa only [FindTheSame, List.map_map, Function.comp_def, Diagnostic.finding_rebase] using same

/-- Fields in another order are found the same faults. -/
theorem fieldFindings_perm {fields others : List Field} (perm : fields.Perm others)
    {found : List Diagnostic} (validated : fieldFindings 0 fields = .ok found) :
    ∃ found', fieldFindings 0 others = .ok found' ∧ FindTheSame found found' := by
  have fits := (exists_fieldFindings_iff 0 fields).mp ⟨found, validated⟩
  have checked : ∀ field ∈ fields, field.validate = .ok (field.validate.toOption.getD []) := by
    intro field inside
    obtain ⟨diagnostics, done⟩ := field.exists_validate_iff.mpr (fits field inside)
    rw [done]
    rfl
  have checked' : ∀ field ∈ others, field.validate = .ok (field.validate.toOption.getD []) :=
    fun field inside => checked field (perm.mem_iff.mpr inside)
  rw [fieldFindings_eq_sweep checked []] at validated
  cases validated
  exact ⟨_, fieldFindings_eq_sweep checked' [] 0, sweep_fields_perm _ perm⟩

namespace Reorders

variable {model other : Model}

theorem fieldNames_perm (reordered : model.Reorders other) :
    model.fieldNames.Perm other.fieldNames := by
  obtain ⟨fields, eachField, perm⟩ := reordered.fields
  have named : model.fields.map (·.name) = fields.map (·.name) :=
    Field.Reorders.map_eq_of_forall₂ (fun ⟨_, _, same⟩ => by rw [same]) eachField
  rw [fieldNames, named]
  exact perm.map _

theorem hasOversizedDefault_iff (reordered : model.Reorders other) :
    (∀ field ∈ model.fields, ¬ field.HasOversizedDefault) ↔
      ∀ field ∈ other.fields, ¬ field.HasOversizedDefault := by
  obtain ⟨fields, eachField, perm⟩ := reordered.fields
  have oversized : model.fields.map Field.HasOversizedDefault =
      fields.map Field.HasOversizedDefault :=
    Field.Reorders.map_eq_of_forall₂ (fun ⟨_, _, same⟩ => by rw [same]; rfl) eachField
  rw [← List.forall_mem_map (P := Not), oversized, List.forall_mem_map]
  exact forall_congr' fun field => by rw [perm.mem_iff]

/-- What validation finds in a model does not depend on the order of its parts. -/
theorem validate_eq_ok (reordered : model.Reorders other) {found : List Diagnostic}
    (validated : model.validate = .ok found) :
    ∃ others, other.validate = .ok others ∧ FindTheSame found others := by
  obtain ⟨inFields, checked, made⟩ := bind_eq_ok_iff.mp validated
  cases made
  obtain ⟨fields, eachField, perm⟩ := reordered.fields
  obtain ⟨inFields', checked', attributes⟩ := fieldFindings_forall₂ 0 eachField checked
  obtain ⟨inFields'', checked'', order⟩ := fieldFindings_perm perm checked'
  have name : model.nameFindings = other.nameFindings := by
    rw [nameFindings, nameFindings, reordered.name]
  have emptiness : model.emptinessFindings = other.emptinessFindings := by
    have none := reordered.fieldNames_perm.isEmpty_eq
    rw [fieldNames, fieldNames, List.isEmpty_map, List.isEmpty_map] at none
    rw [emptinessFindings, emptinessFindings, none]
  refine ⟨_, bind_eq_ok_iff.mpr ⟨inFields'', checked'', rfl⟩, ?_⟩
  rw [name, emptiness]
  exact .append (.append (.append (.append (.refl _) (repeatedNames_perm reordered.fieldNames_perm))
    (repeatedAttributes_perm reordered.attributes)) (attributes.trans order))
    (attributeFindings_perm reordered.attributes)

/-- Validation of a model does not depend on the order of its parts. -/
theorem agrees (reordered : model.Reorders other) : model.validate.Agrees other.validate := by
  cases validated : model.validate with
  | ok found =>
    obtain ⟨others, validated', same⟩ := reordered.validate_eq_ok validated
    rw [validated']
    exact .found same.wording
  | error failure =>
    cases validated' : other.validate with
    | error failure' =>
      cases failure
      cases failure'
      exact .failed _
    | ok others =>
      -- The same default would make both fail.
      have fits := reordered.hasOversizedDefault_iff.mpr
        (other.exists_validate_iff.mp ⟨others, validated'⟩)
      obtain ⟨found, done⟩ := model.exists_validate_iff.mpr fits
      rw [validated] at done
      cases done

end Reorders

end Model

/-- Where ids are distinct, an id denotes the same model in every order of the models. -/
theorem resolve?_eq_of_perm {models others : List Model} (distinct : (models.map (·.id)).Nodup)
    (perm : models.Perm others) (id : String) : resolve? models id = resolve? others id := by
  have distinct' : (others.map (·.id)).Nodup := (perm.map _).nodup_iff.mp distinct
  refine Option.ext fun model => ⟨fun found => ?_, fun found => ?_⟩
  · obtain ⟨inside, rfl⟩ := mem_of_resolve?_eq_some found
    exact resolve?_eq_some_of_mem distinct' (perm.mem_iff.mp inside)
  · obtain ⟨inside, rfl⟩ := mem_of_resolve?_eq_some found
    exact resolve?_eq_some_of_mem distinct (perm.mem_iff.mpr inside)

namespace Relationship

/-- The relationships differ at most in the order of their mappings. -/
structure Reorders (relationship other : Relationship) : Prop where
  source : other.source = relationship.source
  target : other.target = relationship.target
  mappings : relationship.mappings.Perm other.mappings

theorem mappingFindings_perm (source? target? : Option Model) {mappings others : List FieldMapping}
    (perm : mappings.Perm others) :
    FindTheSame (mappingFindings source? target? 0 mappings)
      (mappingFindings source? target? 0 others) := by
  rw [mappingFindings_eq_sweep _ _ [], mappingFindings_eq_sweep _ _ []]
  refine .sweep (.ofEntry fun mapping =>
    (if lacksField source? mapping.fieldName then [.sourceFieldNotFound mapping.fieldName]
      else []) ++
    (if lacksField target? mapping.referencedField then
      [.targetFieldNotFound mapping.referencedField] else []))
    (fun earlier position mapping => ?_) perm
  rw [List.map_append]
  congr 1
  · split <;> rfl
  · split <;> rfl

theorem repeatedMappings_perm {mappings others : List FieldMapping}
    (perm : mappings.Perm others) :
    FindTheSame (repeatedMappings [] 0 mappings) (repeatedMappings [] 0 others) := by
  rw [repeatedMappings_eq_sweep, repeatedMappings_eq_sweep]
  refine .sweep (.ofRepetition (fun _ => [.duplicateMapping]) fun _ => [])
    (fun earlier position mapping => ?_) perm
  split <;> rfl

/-- What validation finds in a relationship depends neither on the order of its mappings nor on that
of the models. -/
theorem Reorders.findTheSame {relationship other : Relationship}
    (reordered : relationship.Reorders other) {models others : List Model}
    (distinct : (models.map (·.id)).Nodup) (perm : models.Perm others) :
    FindTheSame (relationship.validate models) (other.validate others) := by
  have source := resolve?_eq_of_perm distinct perm relationship.source
  have target := resolve?_eq_of_perm distinct perm relationship.target
  have ends (source? target? : Option Model) :
      relationship.endFindings source? target? = other.endFindings source? target? := by
    rw [endFindings, endFindings, isSelfReference, isSelfReference, reordered.source,
      reordered.target]
  have emptiness : relationship.emptinessFindings = other.emptinessFindings := by
    rw [emptinessFindings, emptinessFindings, reordered.mappings.isEmpty_eq]
  simp only [validate]
  rw [reordered.source, reordered.target, source, target, ends, emptiness]
  exact .append (.append (.refl _) (mappingFindings_perm _ _ reordered.mappings))
    (repeatedMappings_perm reordered.mappings)

end Relationship

/-- Moving a field reorders its model. -/
theorem Edit.reorders_of_moveField {schema next : Schema} {newId id : String} {source target : Int}
    (made : (Edit.moveField id source target).apply schema newId = .ok next) :
    ∃ old new, schema.model? id = some old ∧ next.model? id = some new ∧ old.Reorders new := by
  obtain ⟨gate, proposed, -⟩ := apply_eq_ok_iff.mp made
  cases propose_eq_ok_iff.mp proposed with
  | @moveField _ old _ _ fields found _ moved =>
    have named := (Schema.model?_eq_some found).2
    have unchanged : List.Forall₂ Field.Reorders old.fields old.fields :=
      List.forall₂_same.mpr fun field _ => ⟨field.attributes, .refl _, rfl⟩
    exact ⟨old, { old with fields }, found, Schema.model?_replaceModel_self found named,
      { name := rfl
        fields := ⟨old.fields, unchanged, (Position.move?_perm moved).symm⟩
        attributes := .refl _ }⟩

/-- Validation depends on no order. A model with its fields, its attributes and the attributes of
its fields in another order gets the same diagnostics but for their places, each as often, or
neither can be validated. So does a relationship with its mappings in another order and among models
in another order, where ids are distinct. Hence a model one of whose fields was moved may be
committed exactly if it could be before. -/
theorem validation_ignores_order :
    (∀ model other : Model, model.Reorders other → model.validate.Agrees other.validate) ∧
    (∀ relationship other : Relationship, relationship.Reorders other →
      ∀ models others : List Model, (models.map (·.id)).Nodup → models.Perm others →
        ((relationship.validate models).map Diagnostic.wording).Perm
          ((other.validate others).map Diagnostic.wording)) ∧
    ∀ (schema next : Schema) (newId id : String) (source target : Int),
      (Edit.moveField id source target).apply schema newId = .ok next →
      ∃ old new, schema.model? id = some old ∧ next.model? id = some new ∧ old.Reorders new ∧
        ∀ models,
          (Gate.model old).check models = .ok () ↔ (Gate.model new).check models = .ok () := by
  refine ⟨fun model other reordered => reordered.agrees, ?_, ?_⟩
  · intro relationship other reordered models others distinct perm
    exact (reordered.findTheSame distinct perm).wording
  · intro schema next newId id source target made
    obtain ⟨old, new, found, found', reordered⟩ := Edit.reorders_of_moveField made
    refine ⟨old, new, found, found', reordered, fun models => ?_⟩
    rw [Gate.check_model_eq_ok_iff, Gate.check_model_eq_ok_iff]
    exact reordered.agrees.passes_iff

/-- The crowded model in another order. Here the `@@map` that repeats a name comes last. -/
def Model.shuffled : Model where
  id := "m"
  name := "crowd"
  fields :=
    [⟨"b", "Text", true, true, ["id"], none⟩, ⟨"a", "Int", true, false, [], none⟩,
      ⟨"a", "Int", true, false, [], none⟩]
  attributes :=
    [⟨"@@index", none⟩, ⟨"@@ignore", some ""⟩, ⟨"@@map", some "x"⟩, ⟨"@@map", some "x"⟩,
      ⟨"@@ignore", none⟩, ⟨"@@map", some "y"⟩]

/-- A relationship from the crowded model to a room, with the given mappings. -/
def Relationship.ofMappings (mappings : List FieldMapping) : Relationship :=
  ⟨"r", "m", "n", .oneToOne, ⟨none, none, mappings⟩⟩

/-- The crowded model agrees with itself in another order, a relationship that maps one pair twice
with itself in another order, and moving the first field of the crowded model to the end keeps it
out. -/
theorem validation_ignores_order_crowded :
    Model.crowded.validate.Agrees Model.shuffled.validate ∧
      (((Relationship.ofMappings [⟨"a", "b"⟩, ⟨"c", "b"⟩, ⟨"a", "b"⟩]).validate
          [Model.crowded, ⟨"n", "Room", [], []⟩]).map Diagnostic.wording).Perm
        (((Relationship.ofMappings [⟨"a", "b"⟩, ⟨"a", "b"⟩, ⟨"c", "b"⟩]).validate
          [⟨"n", "Room", [], []⟩, Model.crowded]).map Diagnostic.wording) ∧
      ∃ next new,
        (Edit.moveField "m" 0 (-1)).apply ⟨[Model.crowded], []⟩ "x" = .ok next ∧
          next.model? "m" = some new ∧ new ≠ Model.crowded ∧
          (Gate.model new).check [] ≠ .ok () := by
  obtain ⟨models, relationships, moves⟩ := validation_ignores_order
  have reordered : Model.crowded.Reorders Model.shuffled :=
    { name := rfl
      fields := ⟨Model.crowded.fields,
        List.forall₂_same.mpr fun field _ => ⟨field.attributes, .refl _, rfl⟩, by decide⟩
      attributes := by decide }
  have remapped : (Relationship.ofMappings [⟨"a", "b"⟩, ⟨"c", "b"⟩, ⟨"a", "b"⟩]).Reorders
      (Relationship.ofMappings [⟨"a", "b"⟩, ⟨"a", "b"⟩, ⟨"c", "b"⟩]) := ⟨rfl, rfl, by decide⟩
  have distinct : ([Model.crowded, ⟨"n", "Room", [], []⟩].map (·.id)).Nodup := by decide
  refine ⟨models _ _ reordered, relationships _ _ remapped _ _ distinct (.swap _ _ _), ?_⟩
  obtain ⟨next, made⟩ : ∃ next,
      (Edit.moveField "m" 0 (-1)).apply ⟨[Model.crowded], []⟩ "x" = .ok next := ⟨_, rfl⟩
  obtain ⟨old, new, found, found', -, same⟩ := moves _ next "x" "m" 0 (-1) made
  cases found
  refine ⟨next, new, made, found', ?_, ?_⟩
  · rintro rfl
    cases made
    exact absurd found' (by decide)
  · rw [Ne, ← same]
    decide

end SchemaDesk
