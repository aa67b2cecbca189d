import SchemaDesk.Edit.Basic

/-!
# Runs of edits

A run makes one edit after another; an edit that fails is skipped. What every
successful edit preserves holds after every run, also if edits preserve it only
where they are allowed by the schema that they are made from.
-/

namespace SchemaDesk

/-- An edit, and the id that an entity takes if the edit adds one. -/
structure Edit.Step where
  edit : Edit
  newId : String

namespace Schema

/-- The schema after a run. -/
def after (schema : Schema) (steps : List Edit.Step) : Schema :=
  steps.foldl (fun current step => step.edit.applyOrKeep current step.newId) schema

/-- Every step of a run is allowed by the schema that it is made from. -/
def AllowedAlong (allowed : Schema → Edit.Step → Prop) (schema : Schema) : List Edit.Step → Prop
  | [] => True
  | step :: steps =>
    allowed schema step ∧ AllowedAlong allowed (step.edit.applyOrKeep schema step.newId) steps

instance decidableAllowedAlong (allowed : Schema → Edit.Step → Prop)
    [∀ schema step, Decidable (allowed schema step)] (schema : Schema) :
    (steps : List Edit.Step) → Decidable (schema.AllowedAlong allowed steps)
  | [] => inferInstanceAs (Decidable True)
  | step :: steps =>
    have := decidableAllowedAlong allowed (step.edit.applyOrKeep schema step.newId) steps
    inferInstanceAs (Decidable (_ ∧ _))

/-- What does not depend on the schema holds along a run if it holds of every step. -/
theorem allowedAlong_of_forall {allowed : Edit.Step → Prop} (schema : Schema)
    {steps : List Edit.Step} (each : ∀ step ∈ steps, allowed step) :
    schema.AllowedAlong (fun _ => allowed) steps := by
  induction steps generalizing schema with
  | nil => trivial
  | cons step steps ih =>
    rw [List.forall_mem_cons] at each
    exact ⟨each.1, ih _ each.2⟩

/-- A property that successful edits preserve where they are allowed is kept by runs in which they
are. -/
theorem after_induction_along {holds : Schema → Prop} {allowed : Schema → Edit.Step → Prop}
    (preserved : ∀ {schema next : Schema} {step : Edit.Step}, holds schema → allowed schema step →
      step.edit.apply schema step.newId = .ok next → holds next)
    {schema : Schema} (start : holds schema) (steps : List Edit.Step)
    (permitted : schema.AllowedAlong allowed steps) : holds (schema.after steps) := by
  induction steps generalizing schema with
  | nil => exact start
  | cons step steps ih =>
    refine ih ?_ permitted.2
    -- An edit that fails leaves the schema as it was.
    cases made : step.edit.apply schema step.newId with
    | error problem => simpa [Edit.applyOrKeep, made] using start
    | ok next => simpa [Edit.applyOrKeep, made] using preserved start permitted.1 made

/-- A property that every successful edit of some kind preserves is kept by runs of such edits. -/
theorem after_induction {holds : Schema → Prop} {allowed : Edit → Prop}
    (preserved : ∀ {schema next : Schema} {newId : String} {edit : Edit},
      holds schema → allowed edit → edit.apply schema newId = .ok next → holds next)
    {schema : Schema} (start : holds schema) (steps : List Edit.Step)
    (permitted : ∀ step ∈ steps, allowed step.edit) : holds (schema.after steps) :=
  after_induction_along (fun kept known made => preserved kept known made) start steps
    (allowedAlong_of_forall schema permitted)

end Schema

end SchemaDesk
