import SchemaDesk.Diagnostic.Basic
import SchemaDesk.Payload.Basic

/-!
# Readings

Reading a payload gives an entity or the list of all issues, in the order of
the parts that have them. An entity without an id takes the next fresh one, so
a reading also counts the ids it has used.
-/

namespace SchemaDesk

/-- Payloads are given as values or come from JSON texts; two wordings depend on it. -/
inductive Source where
  | value
  | json
deriving DecidableEq, Repr

/-- What is wrong with a part of a payload. -/
inductive Issue.Cause where
  | missing
  | notText
  | notBoolean
  | unclearBoolean
  | notInteger
  | notNumber
  | notList (source : Source)
  | notEntity (source : Source) (kind : EntityKind)
  | notCardinality
  | notAction
  | notPath
  | invalidJson
deriving DecidableEq, Repr

/-- The code of a cause. -/
def Issue.Cause.code : Issue.Cause → String
  | .missing => "missing"
  | .notText => "string_type"
  | .notBoolean => "bool_type"
  | .unclearBoolean => "bool_parsing"
  | .notInteger => "int_type"
  | .notNumber => "float_type"
  | .notList _ => "list_type"
  | .notEntity _ _ => "model_type"
  | .notCardinality => "enum"
  | .notAction => "enum"
  | .notPath => "path_type"
  | .invalidJson => "json_invalid"

/-- The wording of a cause. -/
def Issue.Cause.message : Issue.Cause → String
  | .missing => "Field required"
  | .notText => "Input should be a valid string"
  | .notBoolean => "Input should be a valid boolean"
  | .unclearBoolean => "Input should be a valid boolean, unable to interpret input"
  | .notInteger => "Input should be a valid integer"
  | .notNumber => "Input should be a valid number"
  | .notList .value => "Input should be a valid list"
  | .notList .json => "Input should be a valid array"
  | .notEntity .value kind => "Input should be a valid dictionary or instance of " ++ kind.title
  | .notEntity .json _ => "Input should be an object"
  | .notCardinality => "Input should be 'ONE_TO_ONE', 'ONE_TO_MANY' or 'MANY_TO_MANY'"
  | .notAction =>
    "Input should be 'CASCADE', 'RESTRICT', 'NO_ACTION', 'SET_NULL' or 'SET_DEFAULT'"
  | .notPath => "Input is not a valid path for <class 'pathlib.Path'>"
  | .invalidJson => "Invalid JSON"

/-- Something wrong with the part of a payload that a path names. -/
structure Issue where
  path : List Segment
  cause : Issue.Cause
deriving DecidableEq, Repr

/-- The issue of a part, seen from the whole that holds the part under the given step. -/
def Issue.under (step : Segment) (issue : Issue) : Issue :=
  ⟨step :: issue.path, issue.cause⟩

/-- A refused payload: what was to be read, and every issue. -/
structure Rejection where
  title : String
  issues : List Issue
deriving DecidableEq, Repr

/-- A supply of ids, numbered from one. -/
abbrev FreshIds := Nat → String

/-- A reading counts the fresh ids that were used, and gives a value or all issues. -/
def Reading (α : Type) := Nat → Except (List Issue) α × Nat

namespace Reading

variable {α β : Type}

/-- A reading that finds a value. -/
def accept (value : α) : Reading α := fun used => (.ok value, used)

/-- A reading that finds one issue, at the place it looks at. -/
def reject (cause : Issue.Cause) : Reading α := fun used => (.error [⟨[], cause⟩], used)

/-- A reading that finds several issues. -/
def rejectAll (issues : List Issue) : Reading α := fun used => (.error issues, used)

/-- The next fresh id. -/
def fresh (ids : FreshIds) : Reading String := fun used => (.ok (ids (used + 1)), used + 1)

/-- The issues of two results, or the first result applied to the second. -/
def combine : Except (List Issue) (α → β) → Except (List Issue) α → Except (List Issue) β
  | .ok f, .ok value => .ok (f value)
  | .ok _, .error issues => .error issues
  | .error issues, .ok _ => .error issues
  | .error first, .error second => .error (first ++ second)

/-- Two readings one after the other; the issues of both are kept. -/
def both (first : Reading (α → β)) (second : Reading α) : Reading β := fun used =>
  let (f, used) := first used
  let (value, used) := second used
  (combine f value, used)

def map (f : α → β) (reading : Reading α) : Reading β := both (accept f) reading

instance : Functor Reading where
  map := map

instance : Seq Reading where
  seq first second := both first (second ())

/-- The reading of a part, whose issues are reported under the given step. -/
def under (step : Segment) (reading : Reading α) : Reading α := fun used =>
  match reading used with
  | (.ok value, used) => (.ok value, used)
  | (.error issues, used) => (.error (issues.map (Issue.under step)), used)

/-- The readings of the items of a list, from the given position on. -/
def items (read : Payload → Reading α) (position : Nat) : List Payload → Reading (List α)
  | [] => accept []
  | item :: rest =>
    both (map List.cons ((read item).under (.index position))) (items read (position + 1) rest)

/-- The result of a reading that may use fresh ids from the first on. -/
def run (reading : Reading α) : Except (List Issue) α :=
  (reading 0).1

end Reading

end SchemaDesk
