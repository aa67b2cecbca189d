import SchemaDesk.Document.Basic
import SchemaDesk.Proofs.Document.DefaultLiteral
import SchemaDesk.Proofs.Json.RoundTrip
import SchemaDesk.Proofs.Number.Notation
import SchemaDesk.Storage.Layout

/-!
# Quoted defaults are read back

Under the types whose values are texts, a default that is no truth value is
written as a quoted string of printable ASCII. Whatever characters the text has,
the string is read as that text, and its closing quote is found where it stands.
So no bracket in the text is taken for the one that ends the argument. Only a
whole number of too many digits is not written, and then there is no document
that would show it.
-/

namespace SchemaDesk

open Text

/-! ## Where an argument ends -/

/-- What stands behind the bracket that ends an argument. Between quotes a bracket does not count,
and neither does a quote behind a backslash. -/
def argumentRest? : (inside : Bool) → List Char → Option (List Char)
  | _, [] => none
  | false, ')' :: rest => some rest
  | false, '"' :: rest => argumentRest? true rest
  | false, _ :: rest => argumentRest? false rest
  | true, '"' :: rest => argumentRest? false rest
  | true, '\\' :: _ :: rest => argumentRest? true rest
  | true, _ :: rest => argumentRest? true rest

namespace Text.Quoted

/-- Characters that are neither quotes nor backslashes are passed over. -/
theorem argumentRest?_append {text : List Char} (plain : ∀ c ∈ text, c ≠ '"' ∧ c ≠ '\\')
    (rest : List Char) : argumentRest? true (text ++ rest) = argumentRest? true rest := by
  induction text with
  | nil => rfl
  | cons c text ih =>
    rw [List.forall_mem_cons] at plain
    obtain ⟨⟨quote, backslash⟩, others⟩ := plain
    rw [List.cons_append, argumentRest?, ih others]
    · exact quote
    · exact fun _ _ same => absurd same backslash

theorem plain_of_mem_hex {width n : Nat} : ∀ c ∈ hex width n, c ≠ '"' ∧ c ≠ '\\' :=
  forall_mem_hex (by decide) width n

theorem argumentRest?_unitEscape (unit : Nat) (rest : List Char) :
    argumentRest? true (unitEscape unit ++ rest) = argumentRest? true rest :=
  argumentRest?_append plain_of_mem_hex rest

theorem argumentRest?_codeEscape (c : Char) (rest : List Char) :
    argumentRest? true (codeEscape c ++ rest) = argumentRest? true rest := by
  unfold codeEscape
  dsimp only
  split
  · exact argumentRest?_unitEscape _ rest
  · rw [List.append_assoc, argumentRest?_unitEscape, argumentRest?_unitEscape]

/-- What is written for a character is passed over. -/
theorem argumentRest?_writeChar (style : Style) (c : Char) (rest : List Char) :
    argumentRest? true (writeChar style c ++ rest) = argumentRest? true rest := by
  unfold writeChar
  -- Quote and backslash are escaped first, so a plain character is neither of them.
  by_cases quote : c = '"'
  · rw [if_pos quote]
    rfl
  by_cases backslash : c = '\\'
  · rw [if_neg quote, if_pos backslash]
    rfl
  rw [if_neg quote, if_neg backslash]
  split
  · rfl
  split
  · rfl
  split
  · rfl
  split
  · rfl
  split
  · rfl
  split
  · exact argumentRest?_append (List.forall_mem_singleton.mpr ⟨quote, backslash⟩) rest
  · exact argumentRest?_codeEscape c rest

/-- A quoted string is passed over as a whole. -/
theorem argumentRest?_write (style : Style) (text rest : List Char) :
    argumentRest? false (write style text ++ rest) = argumentRest? false rest := by
  rw [write_append]
  show argumentRest? true _ = _
  induction text with
  | nil => rfl
  | cons c text ih => rw [List.flatMap_cons, List.append_assoc, argumentRest?_writeChar, ih]

end Text.Quoted

/-! ## Quoted texts -/

/-- The literal is a quoted string of printable ASCII that is read as the text, by itself and
wherever it stands. -/
structure IsQuotationOf (literal : List Char) (text : String) : Prop where
  visible : ∀ c ∈ literal, Quoted.IsVisible c
  framed : ∃ content, literal = '"' :: content ++ ['"']
  document : Json.read? literal = some (.text text : SavedValue)
  wherever : ∀ rest, Quoted.read (literal ++ rest) = some (text.toList, rest)

/-- A quoted text is a document of its own. -/
theorem Json.read?_quotedLiteral (text : String) :
    Json.read? (quotedLiteral text).toList = some (.text text : SavedValue) := by
  have content := Quoted.readRest_write Quoted.Style.sound_ascii text.toList []
  rw [Json.read?, Json.readWithin?, toList_quotedLiteral, ← List.append_nil (Quoted.write _ _),
    Quoted.write_append, Json.readValue, Json.skipSpace_cons rfl]
  simp [content, Json.skipSpace]

theorem isQuotationOf_quotedLiteral (text : String) :
    IsQuotationOf (quotedLiteral text).toList text where
  visible := by
    rw [toList_quotedLiteral]
    exact Quoted.isVisible_of_mem_write text.toList
  framed := ⟨_, toList_quotedLiteral text⟩
  document := Json.read?_quotedLiteral text
  wherever := read_quotedLiteral_append text

/-- A literal is a quotation of one text only. -/
theorem IsQuotationOf.text_unique {literal : List Char} {first second : String}
    (quotation : IsQuotationOf literal first) (quotationToo : IsQuotationOf literal second) :
    first = second := by
  have same := quotation.document.symm.trans quotationToo.document
  cases same
  rfl

/-- The default is a whole number of more digits than a document may show. -/
def DefaultValue.IsUnwritable (value : DefaultValue) : Prop :=
  ∃ n : Int, value = .integer n ∧ 10 ^ Number.digitLimit ≤ n.natAbs

theorem DefaultValue.isWritable_iff {value : DefaultValue} :
    value.isWritable = true ↔ ¬ value.IsUnwritable := by
  have digits (n : Int) : Number.isWritable n = true ↔ n.natAbs < 10 ^ Number.digitLimit := by
    rw [Number.isWritable, decide_eq_true_eq]
    exact Number.length_natText_le_iff (by decide)
  cases value <;> simp [isWritable, IsUnwritable, digits]

namespace Field

/-- The types whose defaults are quoted. -/
def quotedTypes : List String := ["String", "DateTime", "Json", "Bytes"]

theorem exists_scalarType_of_mem {field : Field} (texts : field.type ∈ quotedTypes) :
    ∃ type, field.scalarType? = some type ∧ type.quotesDefault = true := by
  have all : ∀ name ∈ quotedTypes,
      (ScalarType.ofName? name).any ScalarType.quotesDefault = true := by decide
  exact (Option.any_eq_true _ _).mp (all field.type texts)

/-- A default that is no truth value is quoted under these types. -/
theorem defaultLiteral_of_quotedTypes {field : Field} {value : DefaultValue}
    (texts : field.type ∈ quotedTypes) (set : field.default? = some value)
    (other : ∀ truth, value ≠ .boolean truth) :
    field.defaultLiteral = quotedLiteral value.shown := by
  obtain ⟨type, known, quotes⟩ := exists_scalarType_of_mem texts
  rw [defaultLiteral_of_ne_boolean set known other, if_pos quotes]

theorem writeDefault_of_isUnwritable {field : Field} {value : DefaultValue}
    (set : field.default? = some value) (unwritable : value.IsUnwritable) :
    field.writeDefault = .error .oversizedInteger := by
  have refused : value.isWritable = false :=
    Bool.eq_false_iff.mpr fun writable => DefaultValue.isWritable_iff.mp writable unwritable
  obtain ⟨n, rfl, long⟩ := DefaultValue.isWritable_eq_false_iff.mp refused
  exact writeShowing_eq_error_iff.mpr ⟨n, Option.mem_toList.mpr set, long⟩

theorem writeDefault_eq_ok_iff {field : Field} {value : DefaultValue} {literal : String}
    (set : field.default? = some value) :
    field.writeDefault = .ok literal ↔ ¬ value.IsUnwritable ∧ field.defaultLiteral = literal := by
  rw [writeDefault, writeShowing_eq_ok_iff, set, Option.toList_some, List.forall_mem_singleton,
    DefaultValue.isWritable_iff]

/-- Under the types of texts, a default that is no truth value is written as a quoted string of
printable ASCII that is read as the text of the default. No other text is written so under these
types, and the argument of the attribute ends with the bracket behind the string. The exception is a
whole number of too many digits, which is not written. -/
theorem isQuotationOf_writeDefault {field : Field} {value : DefaultValue}
    (texts : field.type ∈ quotedTypes) (set : field.default? = some value)
    (other : ∀ truth, value ≠ .boolean truth) :
    (value.IsUnwritable → field.writeDefault = .error .oversizedInteger) ∧
      (¬ value.IsUnwritable → ∃ literal, field.writeDefault = .ok literal ∧
        IsQuotationOf literal.toList value.shown ∧
        (∀ (second : Field) (content : DefaultValue) (written : String),
          second.type ∈ quotedTypes → second.default? = some content →
            (∀ truth, content ≠ .boolean truth) → second.writeDefault = .ok written →
              (written = literal ↔ content.shown = value.shown)) ∧
        field.attributeText "default" = "@default(" ++ literal ++ ")" ∧
        ∀ behind, argumentRest? false (literal.toList ++ ')' :: behind) = some behind) := by
  refine ⟨writeDefault_of_isUnwritable set, fun fits => ?_⟩
  have quoted := defaultLiteral_of_quotedTypes texts set other
  have quotation := isQuotationOf_quotedLiteral value.shown
  refine ⟨quotedLiteral value.shown, (writeDefault_eq_ok_iff set).mpr ⟨fits, quoted⟩, quotation,
    ?_, ?_, ?_⟩
  · intro second content written textsToo setToo otherToo writes
    obtain ⟨-, rfl⟩ := (writeDefault_eq_ok_iff setToo).mp writes
    rw [defaultLiteral_of_quotedTypes textsToo setToo otherToo]
    constructor
    · intro same
      refine IsQuotationOf.text_unique (isQuotationOf_quotedLiteral content.shown) ?_
      rw [same]
      exact quotation
    · intro same
      rw [same]
  · simp [attributeText, hasDefault, set, quoted]
  · intro behind
    rw [toList_quotedLiteral, Quoted.argumentRest?_write]
    rfl

/-- A quote, a bracket, a backslash, a character that is not printable, a line separator and one
that takes two units. -/
def oddText : String := "\")\\\x7f\u2028🖋"

theorem isQuotationOf_writeDefault_oddText :
    ∃ literal, (withDefault "Json" (.text oddText)).writeDefault = .ok literal ∧
      literal = "\"\\\")\\\\\\u007f\\u2028\\ud83d\\udd8b\"" ∧
      IsQuotationOf literal.toList oddText ∧
      argumentRest? false (literal.toList ++ ")\n  id Int".toList) = some "\n  id Int".toList ∧
      ∀ written, (withDefault "Bytes" (.float .nan)).writeDefault = .ok written →
        written ≠ literal := by
  obtain ⟨-, writes⟩ := isQuotationOf_writeDefault
    (show (withDefault "Json" (.text oddText)).type ∈ quotedTypes by decide) rfl
    (fun _ => DefaultValue.noConfusion)
  obtain ⟨literal, written, quotation, alike, -, ends⟩ := writes (by rintro ⟨n, same, -⟩; cases same)
  refine ⟨literal, written, ?_, quotation, ends _, fun other writesToo => ?_⟩
  · obtain ⟨-, rfl⟩ := (writeDefault_eq_ok_iff rfl).mp written
    decide +kernel
  · exact mt (alike (withDefault "Bytes" (.float .nan)) _ other (by decide) rfl
      (fun _ => DefaultValue.noConfusion) writesToo).mp (by decide)

/-- A power of ten with more digits than a document may show. -/
theorem isUnwritable_ten_pow (exponent : Nat) (long : Number.digitLimit ≤ exponent) :
    (DefaultValue.integer (10 ^ exponent)).IsUnwritable := by
  refine ⟨_, rfl, ?_⟩
  rw [Int.natAbs_pow]
  exact Nat.pow_le_pow_right (by decide) long

/-- A default of 4301 digits has no errors under a type of texts, and neither the default nor a
document that shows it is written. -/
theorem writeDefault_ten_pow :
    (withDefault "String" (.integer (10 ^ 4300))).validate = .ok [] ∧
      (withDefault "String" (.integer (10 ^ 4300))).writeDefault = .error .oversizedInteger ∧
      Document.write Preamble.default
          ⟨[⟨"m", "Label", [withDefault "String" (.integer (10 ^ 4300))], []⟩], []⟩ =
        .error .oversizedInteger := by
  have unwritable := isUnwritable_ten_pow 4300 (by decide)
  have refused : (DefaultValue.integer (10 ^ 4300)).isWritable = false :=
    Bool.eq_false_iff.mpr fun writable => DefaultValue.isWritable_iff.mp writable unwritable
  refine ⟨rfl, writeDefault_of_isUnwritable rfl unwritable, ?_⟩
  exact Document.write_eq_error_iff.mpr
    ⟨_, List.mem_singleton_self _, _, List.mem_singleton_self _, List.mem_singleton_self _,
      _, rfl, refused⟩

end Field

end SchemaDesk
