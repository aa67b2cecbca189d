import SchemaDesk.Document.Literal
import SchemaDesk.Proofs.Document.Legible
import SchemaDesk.Proofs.Number.Notation
import SchemaDesk.Proofs.Text.Quoted
import SchemaDesk.Proofs.Text.Run
import SchemaDesk.Proofs.Validation.Field
import SchemaDesk.Proofs.Validation.Name

/-!
# Where a literal ends

The literal of a default stands in brackets. If the default fits its type, the
literal is quoted or holds neither brackets nor quotes, so it can be told where
it ends.
-/

namespace SchemaDesk

open Text

/-- The text holds no closing bracket, no quote and no line feed. -/
def IsBare (text : List Char) : Prop :=
  ∀ c ∈ text, c ≠ ')' ∧ c ≠ '"' ∧ c ≠ '\n'

instance : DecidablePred IsBare :=
  fun text => List.decidableBAll _ text

/-- The literal is quoted, or nothing in it can be taken for its end. -/
def IsSelfContained (literal : List Char) : Prop :=
  (∃ text, literal = Quoted.write .ascii text) ∨ IsBare literal

/-- A quoted literal is no bare one. -/
theorem write_append_ne_bare {text bare rest other : List Char} (plain : IsBare bare) :
    Quoted.write .ascii text ++ rest ≠ bare ++ ')' :: other := by
  rw [Quoted.write_append]
  intro same
  cases bare with
  | nil => cases (List.cons.inj same).1
  | cons c bare => exact (plain c List.mem_cons_self).2.1 (List.cons.inj same).1.symm

namespace IsSelfContained

variable {first second rest other : List Char}

/-- The bracket that ends a literal is found. -/
theorem append_inj (contained : IsSelfContained first) (contained' : IsSelfContained second)
    (same : first ++ ')' :: rest = second ++ ')' :: other) : first = second ∧ rest = other := by
  rcases contained with ⟨text, rfl⟩ | plain
  · rcases contained' with ⟨text', rfl⟩ | plain'
    · obtain ⟨rfl, brackets⟩ := Quoted.write_append_inj Quoted.Style.sound_ascii same
      exact ⟨rfl, (List.cons.inj brackets).2⟩
    · exact absurd same (write_append_ne_bare plain')
  · rcases contained' with ⟨text', rfl⟩ | plain'
    · exact absurd same.symm (write_append_ne_bare plain)
    · have stop (more : List Char) : EndsRun (· ≠ ')') (')' :: more) :=
        endsRun_cons (fun unequal => unequal rfl)
      obtain ⟨literals, rests⟩ := append_inj_of_runs (fun c inside => (plain c inside).1)
        (fun c inside => (plain' c inside).1) (stop _) (stop _) same
      exact ⟨literals, (List.cons.inj rests).2⟩

theorem no_feed (contained : IsSelfContained first) : '\n' ∉ first := by
  rcases contained with ⟨text, rfl⟩ | plain
  · exact Quoted.no_feed_write text
  · exact fun inside => (plain '\n' inside).2.2 rfl

end IsSelfContained

/-- A decimal digit of any script is no bracket, no quote and no line feed. -/
theorem bare_of_isDecimalDigit {c : Char} (digit : isDecimalDigit c = true) :
    c ≠ ')' ∧ c ≠ '"' ∧ c ≠ '\n' := by
  refine ⟨?_, ?_, ?_⟩
  all_goals
    rintro rfl
    revert digit
    decide

theorem bare_of_isNumeralChar {c : Char} (numeral : Number.IsNumeralChar c) :
    c ≠ ')' ∧ c ≠ '"' ∧ c ≠ '\n' := by
  rcases numeral with digit | rfl | rfl | rfl | rfl
  · exact bare_of_isDecimalDigit (isDecimalDigit_of_isDigit c digit)
  all_goals decide

namespace DefaultValue

/-- A text fits a type that is written bare only if it is a numeral. -/
theorem isNumeral_of_fits {content : String} {type : ScalarType}
    (fits : (text content).misfit? type = .ok none) (bare : type.quotesDefault = false) :
    Validation.isIntegerText content.toList = true ∨
      Validation.isDecimalText content.toList = true := by
  cases type with
  | int | bigInt =>
    refine .inl (of_not_not fun malformed => ?_)
    simp [misfit?, fitsInteger, malformed] at fits
  | float | decimal =>
    refine .inr (of_not_not fun malformed => ?_)
    simp [misfit?, fitsDecimal, bind, Except.bind, malformed] at fits
  | boolean => simp [misfit?, isBoolean] at fits
  | string | dateTime | json | bytes => cases bare

/-- A value that is a numeral if it is a text is shown without brackets, quotes and line feeds. -/
theorem isBare_shown {value : DefaultValue}
    (numeral : ∀ content, value = .text content → '\n' ∉ content.toList ∧
      (Validation.isIntegerText content.toList = true ∨
        Validation.isDecimalText content.toList = true)) :
    IsBare value.shown.toList := by
  cases value with
  | boolean b => cases b <;> decide
  | integer n =>
    rw [shown, String.toList_ofList]
    exact fun c inside => bare_of_isNumeralChar (Number.isNumeralText_intText n c inside)
  | float x =>
    rw [shown, String.toList_ofList]
    cases x with
    | finite negative magnitude =>
      exact fun c inside =>
        bare_of_isNumeralChar (Number.isNumeralText_finiteText _ _ _ c inside)
    | infinite negative => cases negative <;> decide
    | nan => decide
  | text content =>
    rw [shown]
    obtain ⟨feedless, accepted⟩ := numeral content rfl
    intro c inside
    rcases accepted with whole | decimal
    · rcases Validation.mem_of_isIntegerText whole feedless c inside with rfl | digit
      · decide
      · exact bare_of_isDecimalDigit digit
    · rcases Validation.mem_of_isDecimalText decimal feedless c inside with rfl | rfl | digit
      · decide
      · decide
      · exact bare_of_isDecimalDigit digit

end DefaultValue

namespace Field

/-- A text that fits a type written bare is the default of a number. -/
theorem IsLegible.no_feed {field : Field} (legible : field.IsLegible) {type : ScalarType}
    (known : field.scalarType? = some type) (bare : type.quotesDefault = false) {content : String}
    (given : field.default? = some (.text content))
    (fits : (DefaultValue.text content).misfit? type = .ok none) : '\n' ∉ content.toList := by
  have spelled : type.name = field.type := ScalarType.name_of_ofName? known
  refine legible.numeral ?_ (.text content) given
  rw [← spelled]
  cases type with
  | int | bigInt | float | decimal => decide
  | boolean => simp [DefaultValue.misfit?, DefaultValue.isBoolean] at fits
  | string | dateTime | json | bytes => cases bare

section Default

variable {field : Field} {value : DefaultValue} {type : ScalarType}

theorem defaultLiteral_boolean {truth : Bool} (set : field.default? = some (.boolean truth)) :
    field.defaultLiteral = if truth then "true" else "false" := by
  rw [defaultLiteral, set]
  rfl

/-- Other values are quoted where the type asks for it. -/
theorem defaultLiteral_of_ne_boolean (set : field.default? = some value)
    (known : field.scalarType? = some type) (other : ∀ truth, value ≠ .boolean truth) :
    field.defaultLiteral =
      if type.quotesDefault then quotedLiteral value.shown else value.shown := by
  cases value with
  | boolean truth => exact absurd rfl (other truth)
  | integer _ | float _ | text _ => simp [defaultLiteral, set, known]

end Default

theorem isSelfContained_defaultLiteral {field : Field} (acceptable : field.IsAcceptable)
    (legible : field.IsLegible) (given : field.hasDefault = true) :
    IsSelfContained field.defaultLiteral.toList := by
  obtain ⟨type, known⟩ := Option.isSome_iff_exists.mp acceptable.type
  obtain ⟨value, set⟩ := Option.isSome_iff_exists.mp given
  have fits : value.misfit? type = .ok none := acceptable.default value type set known
  by_cases isBoolean : ∃ truth, value = .boolean truth
  · obtain ⟨truth, rfl⟩ := isBoolean
    rw [defaultLiteral_boolean set]
    cases truth with
    | false => exact .inr (by decide)
    | true => exact .inr (by decide)
  · rw [defaultLiteral_of_ne_boolean set known (not_exists.mp isBoolean)]
    cases bare : type.quotesDefault with
    | true => exact .inl ⟨_, String.toList_ofList⟩
    | false =>
      refine .inr (DefaultValue.isBare_shown fun content same => ?_)
      subst same
      exact ⟨legible.no_feed known bare set fits, DefaultValue.isNumeral_of_fits fits bare⟩

end Field

end SchemaDesk
