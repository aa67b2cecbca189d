import SchemaDesk.Validation.Schema

/-!
# What a valid model is

Validation accepts a model exactly if its name has the shape of a model name,
its field names are distinct, no two of its attributes clash, and every field
and every attribute is accepted. Each function of the validation has one lemma
that says when it finds no error.
-/

namespace SchemaDesk

/-- The validation ends, and none of its diagnostics is an error. -/
def Verdict.Passes (verdict : Verdict) : Prop :=
  ∃ diagnostics, verdict = .ok diagnostics ∧ hasErrors diagnostics = false

theorem Verdict.passes_ok_iff {diagnostics : List Diagnostic} :
    Verdict.Passes (.ok diagnostics) ↔ hasErrors diagnostics = false := by
  simp [Verdict.Passes]

theorem hasErrors_eq_false_iff {diagnostics : List Diagnostic} :
    hasErrors diagnostics = false ↔ ∀ diagnostic ∈ diagnostics, diagnostic.isError = false := by
  simp [hasErrors]

/-- A single error that is reported under a condition is missing exactly if the condition fails. -/
theorem hasErrors_ite_eq_false_iff {condition : Prop} [Decidable condition]
    {diagnostic : Diagnostic} (blocking : diagnostic.isError = true) :
    hasErrors (if condition then [diagnostic] else []) = false ↔ ¬ condition := by
  split
  · next holds => simp [hasErrors, blocking, holds]
  · next fails => simp [hasErrors, fails]

/-- Of two conditions with an error each, neither may hold. -/
theorem hasErrors_ite_ite_eq_false_iff {condition other : Prop} [Decidable condition]
    [Decidable other] {diagnostic second : Diagnostic} (blocking : diagnostic.isError = true)
    (blockingToo : second.isError = true) :
    hasErrors (if condition then [diagnostic] else if other then [second] else []) = false ↔
      ¬ condition ∧ ¬ other := by
  by_cases holds : condition
  · simp [hasErrors, blocking, holds]
  · rw [if_neg holds, hasErrors_ite_eq_false_iff blockingToo]
    simp [holds]

/-- A name is tested for a shape; one that is missing is reported in words of its own. -/
theorem hasErrors_shapeFindings_eq_false_iff {missing malformed : Diagnostic}
    (blocking : missing.isError = true) (blockingToo : malformed.isError = true)
    {hasShape : List Char → Bool} (nonempty : hasShape [] = false) (name : String) :
    hasErrors (if name.isEmpty then [missing]
      else if hasShape name.toList then [] else [malformed]) = false ↔
        hasShape name.toList = true := by
  by_cases empty : name.isEmpty
  · have blank : name.toList = [] := by
      rw [String.isEmpty_iff.mp empty]
      rfl
    simp [empty, blank, nonempty, hasErrors, blocking]
  · rw [if_neg empty]
    split
    · next wellFormed => simp [wellFormed, hasErrors]
    · next other => simp [other, hasErrors, blockingToo]

/-- Diagnostics that are seen from a larger entity are errors as before. -/
theorem hasErrors_map_rebase (diagnostics : List Diagnostic) (entity : String)
    (path : List Segment) :
    hasErrors (diagnostics.map (·.rebase entity path)) = hasErrors diagnostics := by
  induction diagnostics with
  | nil => rfl
  | cons diagnostic rest ih =>
    simp only [hasErrors, List.map_cons, List.any_cons, Diagnostic.isError_rebase] at ih ⊢
    rw [ih]

/-- Checking the entries of a list one after another, each against all before it, is checking every
pair once. -/
theorem pairwise_cons_and_apart_iff {α : Type} (related : α → α → Prop) {head : α}
    {earlier rest : List α} :
    ((∀ other ∈ earlier, related other head) ∧ rest.Pairwise related ∧
        ∀ entry ∈ rest, ∀ other ∈ head :: earlier, related other entry) ↔
      (head :: rest).Pairwise related ∧
        ∀ entry ∈ head :: rest, ∀ other ∈ earlier, related other entry := by
  rw [List.pairwise_cons, List.forall_mem_cons]
  constructor
  · rintro ⟨first, pairs, apart⟩
    exact ⟨⟨fun entry inside => apart entry inside head (by simp), pairs⟩, first,
      fun entry inside other old => apart entry inside other (by simp [old])⟩
  · rintro ⟨⟨single, pairs⟩, first, apart⟩
    refine ⟨first, pairs, fun entry inside other old => ?_⟩
    rcases List.mem_cons.mp old with same | old
    · exact same ▸ single entry inside
    · exact apart entry inside other old

/-- Two attributes that one model may not have together: they share their name, and their value as
well or else a name that may appear once. -/
def BlockAttribute.Clash (first second : BlockAttribute) : Prop :=
  first.name = second.name ∧
    (first.value = second.value ∨ second.kind?.any BlockAttributeKind.single = true)

namespace Model

theorem hasErrors_nameFindings_eq_false_iff (model : Model) :
    hasErrors model.nameFindings = false ↔ Validation.isModelName model.name.toList = true :=
  hasErrors_shapeFindings_eq_false_iff rfl rfl (by decide) model.name

/-- A model without fields is only warned of. -/
theorem hasErrors_emptinessFindings (model : Model) :
    hasErrors model.emptinessFindings = false := by
  unfold emptinessFindings
  split <;> rfl

theorem hasErrors_repeatedNames_eq_false_iff (earlier names : List String) (position : Nat) :
    hasErrors (repeatedNames earlier position names) = false ↔
      names.Nodup ∧ ∀ name ∈ names, ∀ other ∈ earlier, other ≠ name := by
  induction names generalizing earlier position with
  | nil => simp [repeatedNames, hasErrors]
  | cons name names ih =>
    simp only [repeatedNames, hasErrors_append, Bool.or_eq_false_iff, ih]
    rw [hasErrors_ite_eq_false_iff rfl, List.contains_iff_mem, ← List.forall_mem_ne']
    exact pairwise_cons_and_apart_iff (· ≠ ·)

/-- The two tests for an attribute fail together exactly if it clashes with no earlier one. -/
theorem clashesWithNone_iff (earlier : List BlockAttribute) (mark : BlockAttribute) :
    (¬ (earlier.any fun other => other.name == mark.name && other.value == mark.value) = true ∧
      ¬ (mark.kind?.any BlockAttributeKind.single &&
        earlier.any fun other => other.name == mark.name) = true) ↔
      ∀ other ∈ earlier, ¬ other.Clash mark := by
  simp only [List.any_eq_true, Bool.and_eq_true, beq_iff_eq, not_exists, not_and,
    BlockAttribute.Clash, not_or]
  constructor
  · rintro ⟨unequal, unshared⟩ other inside named
    exact ⟨unequal other inside named, fun single => unshared single other inside named⟩
  · intro apart
    exact ⟨fun other inside named => (apart other inside named).1,
      fun single other inside named => (apart other inside named).2 single⟩

theorem hasErrors_repeatedAttributes_eq_false_iff (earlier marks : List BlockAttribute)
    (position : Nat) :
    hasErrors (repeatedAttributes earlier position marks) = false ↔
      marks.Pairwise (fun first second => ¬ first.Clash second) ∧
        ∀ mark ∈ marks, ∀ other ∈ earlier, ¬ other.Clash mark := by
  induction marks generalizing earlier position with
  | nil => simp [repeatedAttributes, hasErrors]
  | cons mark marks ih =>
    simp only [repeatedAttributes, hasErrors_append, Bool.or_eq_false_iff, ih]
    rw [hasErrors_ite_ite_eq_false_iff rfl rfl, clashesWithNone_iff]
    exact pairwise_cons_and_apart_iff fun first second : BlockAttribute => ¬ first.Clash second

theorem passes_fieldFindings_iff (position : Nat) (fields : List Field) :
    (fieldFindings position fields).Passes ↔ ∀ field ∈ fields, field.validate.Passes := by
  induction fields generalizing position with
  | nil => simp [fieldFindings, Verdict.passes_ok_iff, hasErrors]
  | cons field fields ih =>
    rw [List.forall_mem_cons, ← ih (position + 1)]
    cases checked : field.validate with
    | error failure => simp [fieldFindings, checked, bind, Except.bind, Verdict.Passes]
    | ok here =>
      cases rest : fieldFindings (position + 1) fields with
      | error failure => simp [fieldFindings, checked, rest, bind, Except.bind, Verdict.Passes]
      | ok later =>
        simp only [fieldFindings, checked, rest, bind, Except.bind, Verdict.passes_ok_iff,
          hasErrors_append, hasErrors_map_rebase, Bool.or_eq_false_iff]

theorem hasErrors_attributeFindings_eq_false_iff (position : Nat) (marks : List BlockAttribute) :
    hasErrors (attributeFindings position marks) = false ↔
      ∀ mark ∈ marks, hasErrors mark.validate = false := by
  induction marks generalizing position with
  | nil => simp [attributeFindings, hasErrors]
  | cons mark marks ih =>
    simp only [attributeFindings, hasErrors_append, hasErrors_map_rebase, Bool.or_eq_false_iff, ih,
      List.forall_mem_cons]

/-- What validation asks of a model. -/
structure IsAcceptable (model : Model) : Prop where
  name : Validation.isModelName model.name.toList = true
  fieldNames : model.fieldNames.Nodup
  attributes : model.attributes.Pairwise fun first second => ¬ first.Clash second
  eachField : ∀ field ∈ model.fields, field.validate.Passes
  eachAttribute : ∀ mark ∈ model.attributes, hasErrors mark.validate = false

/-- Validation accepts exactly the acceptable models. -/
theorem passes_validate_iff (model : Model) : model.validate.Passes ↔ model.IsAcceptable := by
  have fields := passes_fieldFindings_iff 0 model.fields
  -- Only the check of a field can fail to end.
  cases checked : fieldFindings 0 model.fields with
  | error failure =>
    rw [checked] at fields
    have blocked : ¬ ∀ field ∈ model.fields, field.validate.Passes :=
      fun accepted => by simpa [Verdict.Passes] using fields.mpr accepted
    simp only [validate, checked, bind, Except.bind, Verdict.Passes, reduceCtorEq, false_and,
      exists_false, false_iff]
    exact fun acceptable => blocked acceptable.eachField
  | ok found =>
    rw [checked, Verdict.passes_ok_iff] at fields
    simp only [validate, checked, bind, Except.bind, Verdict.passes_ok_iff, hasErrors_append,
      Bool.or_eq_false_iff, hasErrors_nameFindings_eq_false_iff, hasErrors_emptinessFindings,
      hasErrors_repeatedNames_eq_false_iff, hasErrors_repeatedAttributes_eq_false_iff,
      hasErrors_attributeFindings_eq_false_iff, fields]
    constructor
    · rintro ⟨⟨⟨⟨⟨name, -⟩, names, -⟩, marks, -⟩, eachField⟩, eachMark⟩
      exact ⟨name, names, marks, eachField, eachMark⟩
    · rintro ⟨name, names, marks, eachField, eachMark⟩
      exact ⟨⟨⟨⟨⟨name, trivial⟩, names, by simp⟩, marks, by simp⟩, eachField⟩, eachMark⟩

end Model

end SchemaDesk
