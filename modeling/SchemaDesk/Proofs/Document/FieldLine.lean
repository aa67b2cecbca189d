import SchemaDesk.Document.Basic
import SchemaDesk.Proofs.Document.Literal

/-!
# What a field line tells

A field line can be taken apart again: the name ends at the first space, the
type at the mark behind it, a token at its argument or at the next space, and
an argument where its literal ends. So two fields have the same line only if
they agree in everything that a document tells of a field.
-/

namespace SchemaDesk

open Text

namespace Field

/-- The literal of the default, if there is a default. -/
def shownDefault? (field : Field) : Option String :=
  if field.hasDefault then some field.defaultLiteral else none

/-- Two fields agree in all that a document tells. Lists are not told whether they are required, and
a default is told only under its attribute. -/
structure SameInDocument (first second : Field) : Prop where
  name : first.name = second.name
  type : first.type = second.type
  isList : first.isList = second.isList
  isRequired : first.isList = false → first.isRequired = second.isRequired
  attributes : first.attributes = second.attributes
  default : "default" ∈ first.attributes → first.shownDefault? = second.shownDefault?

/-- The mark behind the type. -/
def typeMark (field : Field) : List Char :=
  if field.isList then ['[', ']'] else if field.isRequired then [] else ['?']

/-- The argument of an attribute in its brackets; only the default has one. -/
def argumentText (field : Field) (token : String) : List Char :=
  match if token = "default" then field.shownDefault? else none with
  | some literal => '(' :: (literal.toList ++ [')'])
  | none => []

/-- The attributes of the given tokens. -/
def tokensText (field : Field) (tokens : List String) : List Char :=
  tokens.flatMap fun token => ' ' :: '@' :: (token.toList ++ field.argumentText token)

theorem toList_typeExpression (field : Field) :
    field.typeExpression.toList = field.type.toList ++ field.typeMark := by
  unfold typeExpression typeMark
  split
  · simp
  · split <;> simp

theorem toList_attributeText (field : Field) (token : String) :
    (field.attributeText token).toList = '@' :: (token.toList ++ field.argumentText token) := by
  unfold attributeText argumentText shownDefault?
  by_cases named : token = "default"
  · cases field.hasDefault <;> simp [named]
  · simp [named]

theorem toList_fieldLine (field : Field) :
    (Document.fieldLine field).toList =
      ' ' :: ' ' :: (field.name.toList ++
        ' ' :: (field.type.toList ++ (field.typeMark ++ field.tokensText field.attributes))) := by
  have tokens : field.attributesText.toList = field.tokensText field.attributes := by
    simp [attributesText, tokensText, String.toList_join, List.flatMap_map, toList_attributeText]
  simp [Document.fieldLine, toList_typeExpression, tokens]

section Characters

variable {field : Field}

/-- A known type is spelled with letters. -/
theorem letters_type (known : field.scalarType?.isSome = true) :
    AreLetters field.type.toList := by
  obtain ⟨type, known⟩ := Option.isSome_iff_exists.mp known
  rw [← ScalarType.name_of_ofName? known]
  cases type <;> decide

/-- A known attribute holds no space, no bracket and no line feed. -/
theorem plain_token {token : String} (known : token ∈ fieldAttributes) :
    ∀ c ∈ token.toList, (c ≠ ' ' ∧ c ≠ '(') ∧ c ≠ '\n' := by
  have all : ∀ token ∈ fieldAttributes,
      token.toList.Forall fun c => (c ≠ ' ' ∧ c ≠ '(') ∧ c ≠ '\n' := by decide
  exact List.forall_iff_forall_mem.mp (all token known)

theorem endsRun_tokensText {kind : Char → Prop} (stop : ¬ kind ' ') (tokens : List String) :
    EndsRun kind (field.tokensText tokens) := by
  cases tokens with
  | nil => exact endsRun_nil
  | cons token tokens => exact endsRun_cons stop

end Characters

section Reading

variable {first second : Field} {rest other : List Char}

theorem typeMark_congr (isList : first.isList = second.isList)
    (isRequired : first.isList = false → first.isRequired = second.isRequired) :
    first.typeMark = second.typeMark := by
  unfold typeMark
  rw [← isList]
  split
  · rfl
  · next single => rw [isRequired (Bool.eq_false_iff.mpr single)]

/-- Before a space or the end, the mark of the type is recognised by its first character. -/
theorem head?_typeMark_append (field : Field) (ends : EndsRun (· ≠ ' ') rest) :
    ((field.typeMark ++ rest).head? = some '[' ↔ field.isList = true) ∧
      ((field.typeMark ++ rest).head? = some '?' ↔
        field.isList = false ∧ field.isRequired = false) := by
  have blank (c : Char) (visible : c ≠ ' ') : rest.head? ≠ some c :=
    fun start => ends c start visible
  unfold typeMark
  cases field.isList with
  | true => simp
  | false =>
    cases field.isRequired with
    | true => simp [blank]
    | false => simp

/-- Before a space or the end, the mark of the type is recognised. -/
theorem typeMark_append_inj (ends : EndsRun (· ≠ ' ') rest) (ends' : EndsRun (· ≠ ' ') other)
    (same : first.typeMark ++ rest = second.typeMark ++ other) :
    first.isList = second.isList ∧ (first.isList = false → first.isRequired = second.isRequired) ∧
      rest = other := by
  obtain ⟨list, optional⟩ := first.head?_typeMark_append ends
  obtain ⟨list', optional'⟩ := second.head?_typeMark_append ends'
  rw [same] at list optional
  have isList : first.isList = second.isList := Bool.eq_iff_iff.mpr (list.symm.trans list')
  have isRequired : first.isList = false → first.isRequired = second.isRequired := by
    intro single
    have marks := optional.symm.trans optional'
    rw [← isList, single] at marks
    simpa using marks
  rw [typeMark_congr isList isRequired] at same
  exact ⟨isList, isRequired, List.append_cancel_left same⟩

/-- Before a space or the end, the argument of an attribute is recognised. -/
theorem argumentText_append_inj {token : String}
    (contained : ∀ literal ∈ first.shownDefault?, IsSelfContained literal.toList)
    (contained' : ∀ literal ∈ second.shownDefault?, IsSelfContained literal.toList)
    (ends : EndsRun (· ≠ ' ') rest) (ends' : EndsRun (· ≠ ' ') other)
    (same : first.argumentText token ++ rest = second.argumentText token ++ other) :
    (token = "default" → first.shownDefault? = second.shownDefault?) ∧ rest = other := by
  unfold argumentText at same
  by_cases named : token = "default"
  · rw [if_pos named, if_pos named] at same
    cases shown : first.shownDefault? with
    | none =>
      cases shown' : second.shownDefault? with
      | none => exact ⟨fun _ => rfl, by simpa [shown, shown'] using same⟩
      | some literal' =>
        rw [shown, shown'] at same
        exact absurd same (ends.ne_cons (by decide))
    | some literal =>
      cases shown' : second.shownDefault? with
      | none =>
        rw [shown, shown'] at same
        exact absurd same.symm (ends'.ne_cons (by decide))
      | some literal' =>
        have brackets : literal.toList ++ ')' :: rest = literal'.toList ++ ')' :: other := by
          simpa [shown, shown'] using same
        obtain ⟨literals, rests⟩ :=
          (contained literal shown).append_inj (contained' literal' shown') brackets
        exact ⟨fun _ => congrArg some (String.toList_injective literals), rests⟩
  · rw [if_neg named, if_neg named] at same
    exact ⟨fun default => absurd default named, same⟩

/-- Attributes are recognised, and with the default attribute the default. -/
theorem tokensText_inj (contained : ∀ literal ∈ first.shownDefault?, IsSelfContained literal.toList)
    (contained' : ∀ literal ∈ second.shownDefault?, IsSelfContained literal.toList)
    {tokens others : List String} (known : ∀ token ∈ tokens, token ∈ fieldAttributes)
    (known' : ∀ token ∈ others, token ∈ fieldAttributes)
    (same : first.tokensText tokens = second.tokensText others) :
    tokens = others ∧ ("default" ∈ tokens → first.shownDefault? = second.shownDefault?) := by
  induction tokens generalizing others with
  | nil =>
    cases others with
    | nil => exact ⟨rfl, nofun⟩
    | cons token others => cases same
  | cons token tokens ih =>
    cases others with
    | nil => cases same
    | cons token' others =>
      rw [List.forall_mem_cons] at known known'
      have behind : token.toList ++ (first.argumentText token ++ first.tokensText tokens) =
          token'.toList ++ (second.argumentText token' ++ second.tokensText others) := by
        simpa [tokensText] using same
      -- A token ends at the bracket of its argument, at the next space or with the line.
      have stop (field : Field) (entry : String) (more : List String) :
          EndsRun (fun c => c ≠ ' ' ∧ c ≠ '(')
            (field.argumentText entry ++ field.tokensText more) := by
        unfold argumentText
        split
        · exact endsRun_cons fun inside => inside.2 rfl
        · exact endsRun_tokensText (fun inside => inside.1 rfl) more
      obtain ⟨spelled, arguments⟩ := append_inj_of_runs
        (fun c inside => (plain_token known.1 c inside).1)
        (fun c inside => (plain_token known'.1 c inside).1)
        (stop first token tokens) (stop second token' others) behind
      obtain rfl := String.toList_injective spelled
      obtain ⟨default, rests⟩ := argumentText_append_inj contained contained'
        (endsRun_tokensText (fun unequal => unequal rfl) tokens)
        (endsRun_tokensText (fun unequal => unequal rfl) others) arguments
      obtain ⟨rfl, later⟩ := ih known.2 known'.2 rests
      refine ⟨rfl, fun inside => ?_⟩
      rcases List.mem_cons.mp inside with here | there
      · exact default here.symm
      · exact later there

theorem isSelfContained_of_mem_shownDefault? {field : Field} (acceptable : field.IsAcceptable)
    (legible : field.IsLegible) :
    ∀ literal ∈ field.shownDefault?, IsSelfContained literal.toList := by
  intro literal shown
  unfold shownDefault? at shown
  split at shown
  · next given =>
    cases shown
    exact isSelfContained_defaultLiteral acceptable legible given
  · cases shown

/-- Two fields with the same line agree in all that a document tells. -/
theorem sameInDocument_of_fieldLine_eq (acceptable : first.IsAcceptable)
    (acceptable' : second.IsAcceptable) (legible : first.IsLegible) (legible' : second.IsLegible)
    (same : Document.fieldLine first = Document.fieldLine second) :
    first.SameInDocument second := by
  have space {text : List Char} : EndsRun (Char.isAlpha · = true) (' ' :: text) :=
    endsRun_cons (by decide)
  have mark (field : Field) : EndsRun (Char.isAlpha · = true)
      (field.typeMark ++ field.tokensText field.attributes) := by
    unfold typeMark
    split
    · exact endsRun_cons (by decide)
    split
    · exact endsRun_tokensText (by decide) _
    · exact endsRun_cons (by decide)
  have lines := congrArg String.toList same
  rw [toList_fieldLine, toList_fieldLine] at lines
  obtain ⟨name, types⟩ := append_inj_of_runs legible.name legible'.name space space
    (List.cons.inj (List.cons.inj lines).2).2
  obtain ⟨type, marks⟩ := append_inj_of_runs (letters_type acceptable.type)
    (letters_type acceptable'.type) (mark first) (mark second) (List.cons.inj types).2
  obtain ⟨isList, isRequired, tokens⟩ := typeMark_append_inj
    (endsRun_tokensText (fun unequal => unequal rfl) _)
    (endsRun_tokensText (fun unequal => unequal rfl) _) marks
  obtain ⟨attributes, default⟩ := tokensText_inj
    (isSelfContained_of_mem_shownDefault? acceptable legible)
    (isSelfContained_of_mem_shownDefault? acceptable' legible')
    acceptable.known acceptable'.known tokens
  exact ⟨String.toList_injective name, String.toList_injective type, isList, isRequired,
    attributes, default⟩

/-- Two fields that agree in all that a document tells have the same line. -/
theorem SameInDocument.fieldLine_eq (same : first.SameInDocument second) :
    Document.fieldLine first = Document.fieldLine second := by
  have mark := typeMark_congr same.isList same.isRequired
  have argument : ∀ token ∈ first.attributes,
      first.argumentText token = second.argumentText token := by
    intro token inside
    unfold argumentText
    by_cases named : token = "default"
    · rw [same.default (named ▸ inside)]
    · rw [if_neg named, if_neg named]
  have tokens : first.tokensText first.attributes = second.tokensText second.attributes := by
    rw [← same.attributes]
    exact List.flatMap_congr fun token inside => by rw [argument token inside]
  apply String.toList_injective
  rw [toList_fieldLine, toList_fieldLine, same.name, same.type, mark, tokens]

end Reading

theorem no_feed_tokensText {field : Field} (acceptable : field.IsAcceptable)
    (legible : field.IsLegible) : '\n' ∉ field.tokensText field.attributes := by
  intro inside
  obtain ⟨token, listed, here⟩ := List.mem_flatMap.mp inside
  have argument : '\n' ∉ field.argumentText token := by
    unfold argumentText
    split
    · next literal shown =>
      have given : field.shownDefault? = some literal := by
        split at shown
        · exact shown
        · cases shown
      have plain := (isSelfContained_of_mem_shownDefault? acceptable legible literal given).no_feed
      simpa using plain
    · exact List.not_mem_nil
  have name : '\n' ∉ token.toList :=
    fun feed => (plain_token (acceptable.known token listed) '\n' feed).2 rfl
  simp [name, argument] at here

/-- A field line holds no line feed. -/
theorem no_feed_fieldLine {field : Field} (acceptable : field.IsAcceptable)
    (legible : field.IsLegible) : '\n' ∉ (Document.fieldLine field).toList := by
  have name := legible.name.no_feed
  have type := (letters_type acceptable.type).no_feed
  have mark : '\n' ∉ field.typeMark := by
    unfold typeMark
    repeat' split
    all_goals decide
  have tokens := no_feed_tokensText acceptable legible
  rw [toList_fieldLine]
  simp [name, type, mark, tokens]

end Field

end SchemaDesk
