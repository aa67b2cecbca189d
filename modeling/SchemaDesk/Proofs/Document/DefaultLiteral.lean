import SchemaDesk.Proofs.Document.Literal
import SchemaDesk.Proofs.Number.Literal
import SchemaDesk.Proofs.Text.Quoted
import SchemaDesk.Proofs.Validation.Field

/-!
# Accepted defaults are literals of their type

Validation tells defaults apart by the type of the field and then by the kind of
value, a document by truth values first and then by the types that are quoted.
Where validation accepts a default, the document has a literal of the field's
type for it. The types that are quoted are not checked for truth values; these
are written bare under every type. Validation takes a text for a number also if
a line feed ends it or its digits are those of another script, so of such texts
nothing is said.
-/

namespace SchemaDesk

open Text

/-- The literal is one of the type, and a quoted one is read as the text of the default. -/
def IsLiteralOf (value : DefaultValue) (literal : List Char) : ScalarType → Prop
  | .boolean => literal = "true".toList ∨ literal = "false".toList
  | .int | .bigInt => Number.IsIntegerLiteral literal
  | .float | .decimal => Number.IsDecimalLiteral literal
  | .string | .dateTime | .json | .bytes =>
    (∀ c ∈ literal, Quoted.IsVisible c) ∧
      Quoted.read literal = some (value.shown.toList, [])

theorem toList_quotedLiteral (text : String) :
    (quotedLiteral text).toList = Quoted.write .ascii text.toList :=
  String.toList_ofList

/-- A quoted text is read back wherever it stands. -/
theorem read_quotedLiteral_append (text : String) (rest : List Char) :
    Quoted.read ((quotedLiteral text).toList ++ rest) = some (text.toList, rest) := by
  rw [toList_quotedLiteral, Quoted.write_append]
  exact Quoted.readRest_write Quoted.Style.sound_ascii text.toList rest

theorem read_quotedLiteral (text : String) :
    Quoted.read (quotedLiteral text).toList = some (text.toList, []) := by
  rw [← List.append_nil (quotedLiteral text).toList]
  exact read_quotedLiteral_append text []

namespace DefaultValue

/-- Truth values are accepted where a truth value is asked for or nothing is checked. -/
theorem type_of_boolean_fits {truth : Bool} {type : ScalarType}
    (fits : (boolean truth).misfit? type = .ok none) :
    type ∈ [.boolean, .string, .json, .bytes] := by
  cases type with
  | int | bigInt => simp [misfit?, fitsInteger] at fits
  | float | decimal => simp [misfit?, fitsDecimal, bind, Except.bind] at fits
  | dateTime => simp [misfit?, isInstant] at fits
  | boolean | string | json | bytes => decide

theorem isIntegerLiteral_shown {value : DefaultValue} (fits : value.fitsInteger = true)
    (line : ∀ content, value = text content → Number.IsAsciiLine content.toList) :
    Number.IsIntegerLiteral value.shown.toList := by
  cases value with
  | boolean _ => cases fits
  | integer n =>
    rw [shown, String.toList_ofList]
    exact Number.isIntegerLiteral_intText n
  | float _ => cases fits
  | text content => exact (line content rfl).isIntegerLiteral fits

theorem isDecimalLiteral_shown {value : DefaultValue} (fits : value.fitsDecimal = .ok true)
    (line : ∀ content, value = text content → Number.IsAsciiLine content.toList) :
    Number.IsDecimalLiteral value.shown.toList := by
  cases value with
  | boolean _ => cases fits
  | integer n =>
    rw [shown, String.toList_ofList]
    exact (Number.isIntegerLiteral_intText n).isDecimalLiteral
  | float x =>
    rw [shown, String.toList_ofList]
    cases x with
    | finite negative magnitude => exact Number.isDecimalLiteral_finiteText .shown negative magnitude
    | infinite _ => cases fits
    | nan => cases fits
  | text content => exact (line content rfl).isDecimalLiteral (Except.ok.inj fits)

theorem fitsDecimal_of_misfit? {value : DefaultValue} {type : ScalarType}
    (fractional : type = .float ∨ type = .decimal) (fits : value.misfit? type = .ok none) :
    value.fitsDecimal = .ok true := by
  rcases fractional with rfl | rfl
  all_goals
    cases checked : value.fitsDecimal with
    | error failure => simp [misfit?, checked, bind, Except.bind] at fits
    | ok accepted => cases accepted <;> simp [misfit?, checked, bind, Except.bind] at fits ⊢

end DefaultValue

namespace Field

variable {field : Field} {value : DefaultValue} {type : ScalarType}

/-- A default that fits its type and is no truth value is written as a literal of the type. -/
theorem isLiteralOf_defaultLiteral (set : field.default? = some value)
    (known : field.scalarType? = some type) (fits : value.misfit? type = .ok none)
    (other : ∀ truth, value ≠ .boolean truth)
    (line : type.quotesDefault = false → ∀ content, value = .text content →
      Number.IsAsciiLine content.toList) :
    IsLiteralOf value field.defaultLiteral.toList type := by
  rw [defaultLiteral_of_ne_boolean set known other]
  cases type with
  | boolean =>
    cases value with
    | boolean truth => exact absurd rfl (other truth)
    | integer _ | float _ | text _ => cases fits
  | int | bigInt =>
    have whole : value.fitsInteger = true := by
      simpa [DefaultValue.misfit?] using fits
    exact DefaultValue.isIntegerLiteral_shown whole (line rfl)
  | float | decimal =>
    have fitting := DefaultValue.fitsDecimal_of_misfit? (by simp) fits
    exact DefaultValue.isDecimalLiteral_shown fitting (line rfl)
  | string | dateTime | json | bytes =>
    refine ⟨fun c inside => ?_, read_quotedLiteral value.shown⟩
    rw [if_pos (show ScalarType.quotesDefault _ = true from rfl), toList_quotedLiteral] at inside
    exact Quoted.isVisible_of_mem_write _ c inside

/-- The default of a field without errors is written as a literal of the field's type: a truth value
bare, under the types that accept one; any other value of a type that is quoted as a quoted string
that is read as the value's text; and any other value of a number as a number, where a text is a
single line of ASCII. -/
theorem defaultLiteral_of_passes {field : Field} (accepted : field.validate.Passes)
    {value : DefaultValue} (set : field.default? = some value)
    (line : field.type ∈ ["Int", "BigInt", "Float", "Decimal"] →
      ∀ content, value = .text content → Number.IsAsciiLine content.toList) :
    ∃ type, field.scalarType? = some type ∧
      (∀ truth, value = .boolean truth →
        type ∈ [.boolean, .string, .json, .bytes] ∧
          field.defaultLiteral = if truth then "true" else "false") ∧
      ((∀ truth, value ≠ .boolean truth) → type ≠ .boolean ∧
        IsLiteralOf value field.defaultLiteral.toList type) := by
  have acceptable := field.passes_validate_iff.mp accepted
  obtain ⟨type, known⟩ := Option.isSome_iff_exists.mp acceptable.type
  have fits : value.misfit? type = .ok none := acceptable.default value type set known
  refine ⟨type, known, ?_, fun other => ⟨?_, ?_⟩⟩
  · rintro truth rfl
    exact ⟨DefaultValue.type_of_boolean_fits fits, defaultLiteral_boolean set⟩
  · rintro rfl
    cases value with
    | boolean truth => exact other truth rfl
    | integer _ | float _ | text _ => cases fits
  · refine isLiteralOf_defaultLiteral set known fits other fun bare content given => ?_
    refine line ?_ content given
    rw [← ScalarType.name_of_ofName? known]
    cases type with
    | int | bigInt | float | decimal => decide
    | boolean => subst given; cases fits
    | string | dateTime | json | bytes => cases bare

/-- A field of a type with a default, which its attributes ask for. -/
def withDefault (type : String) (value : DefaultValue) : Field :=
  ⟨"value", type, true, false, ["default"], some value⟩

/-- A text of two lines is quoted, half of one is a number, and a truth value stays bare under a
type that is quoted. -/
theorem defaultLiteral_of_passes_withDefault :
    IsLiteralOf (.text "two\nlines")
        (withDefault "Json" (.text "two\nlines")).defaultLiteral.toList .json ∧
      IsLiteralOf (.text "-.5") (withDefault "Decimal" (.text "-.5")).defaultLiteral.toList
        .decimal ∧
      (withDefault "Bytes" (.boolean false)).defaultLiteral = "false" := by
  refine ⟨?_, ?_, ?_⟩
  · obtain ⟨type, known, -, literal⟩ := defaultLiteral_of_passes
      (show (withDefault "Json" (.text "two\nlines")).validate.Passes from ⟨[], by decide, rfl⟩)
      rfl fun listed => absurd listed (by decide)
    cases known
    exact (literal nofun).2
  · obtain ⟨type, known, -, literal⟩ := defaultLiteral_of_passes
      (show (withDefault "Decimal" (.text "-.5")).validate.Passes from ⟨[], by decide, rfl⟩)
      rfl fun _ content given => by cases given; decide
    cases known
    exact (literal nofun).2
  · obtain ⟨type, known, bare, -⟩ := defaultLiteral_of_passes
      (show (withDefault "Bytes" (.boolean false)).validate.Passes from ⟨[], by decide, rfl⟩)
      rfl fun listed => absurd listed (by decide)
    exact (bare false rfl).2

/-- Without errors, a truth value is written under a type of texts, where no quoted string is read;
half of one is written without a digit before the point; and what is taken for a whole number is
written with a line feed behind it or with a digit of another script. -/
theorem defaultLiteral_not_of_type :
    ((withDefault "String" (.boolean true)).validate = .ok [] ∧
        Quoted.read (withDefault "String" (.boolean true)).defaultLiteral.toList = none) ∧
      ((withDefault "Float" (.text ".5")).validate = .ok [] ∧
        (withDefault "Float" (.text ".5")).defaultLiteral = ".5") ∧
      ((withDefault "Int" (.text "7\n")).validate = .ok [] ∧
        '\n' ∈ (withDefault "Int" (.text "7\n")).defaultLiteral.toList) ∧
      (withDefault "Int" (.text "٣")).validate = .ok [] ∧
        ∃ c ∈ (withDefault "Int" (.text "٣")).defaultLiteral.toList, c.isDigit = false := by
  refine ⟨⟨by decide, by decide⟩, ⟨by decide, by decide⟩, ⟨by decide, by decide⟩, by decide, ?_⟩
  exact ⟨'٣', by decide, by decide⟩

end Field

end SchemaDesk
