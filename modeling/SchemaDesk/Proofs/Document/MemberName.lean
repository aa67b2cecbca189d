import SchemaDesk.Proofs.Diagnostic.Location
import SchemaDesk.Proofs.Document.Reading
import SchemaDesk.Proofs.Json.Notation
import SchemaDesk.Proofs.Validation.Identifier

/-!
# Names of relation members are identifiers

The name that a member wishes for is a field name without its ending, or a model
name that starts in lower case. Where the schema is valid and its names are made
of letters, that is a lower-case letter with letters behind it, whichever models
the relationship leads to. A member that does not get this name gets one with
`Related` behind it, and perhaps a number.
-/

namespace SchemaDesk

open Text Validation

/-! ## Identifiers -/

namespace Validation.IsIdentifier

variable {initial : Char → Bool} {text : List Char}

/-- Letters that have the shape of a name are an identifier, since a line feed is no letter. -/
theorem of_hasShape (shape : HasShape initial text) (letters : AreLetters text) :
    IsIdentifier initial text := by
  refine (hasShape_iff_isIdentifier.mp shape).resolve_right ?_
  rintro ⟨word, -, rfl⟩
  exact letters.no_feed (by simp)

/-- The start of an identifier is one, as long as something is left. -/
theorem take (identifier : IsIdentifier initial text) {count : Nat} (some : 0 < count) :
    IsIdentifier initial (text.take count) := by
  obtain ⟨c, rest, rfl, first, letters⟩ := identifier
  obtain ⟨less, rfl⟩ := Nat.exists_eq_succ_of_ne_zero some.ne'
  exact ⟨c, rest.take less, List.take_succ_cons, first,
    fun other inside => letters other (List.mem_of_mem_take inside)⟩

/-- An identifier stays one with letters behind it. -/
theorem append (identifier : IsIdentifier initial text) {more : List Char}
    (letters : AreLetters more) : IsIdentifier initial (text ++ more) := by
  obtain ⟨c, rest, rfl, first, others⟩ := identifier
  exact ⟨c, rest ++ more, rfl, first, List.forall_mem_append.mpr ⟨others, letters⟩⟩

/-- A capital letter has one lower-case letter for its lower case. -/
theorem lowerMapping_of_isUpper {c : Char} (capital : c.isUpper = true) :
    lowerMapping.apply c = [c.toLower] ∧ c.toLower.isLower = true :=
  forall_isAlpha
    (P := fun c => c.isUpper = true → lowerMapping.apply c = [c.toLower] ∧ c.toLower.isLower = true)
    (by decide) c (isAlpha_of_isUpper c capital) capital

theorem lowerFirst (identifier : IsIdentifier Char.isUpper text) :
    IsIdentifier Char.isLower (Text.lowerFirst text) := by
  obtain ⟨c, rest, rfl, capital, letters⟩ := identifier
  obtain ⟨lowered, small⟩ := lowerMapping_of_isUpper capital
  refine ⟨c.toLower, rest, ?_, small, letters⟩
  rw [Text.lowerFirst, lowered]
  rfl

end Validation.IsIdentifier

/-! ## Names of members -/

/-- The name starts with a lower-case letter, has ASCII letters and digits behind it, and has digits
only as a number from two on, behind `Related`, that starts with no zero. -/
structure IsMemberName (name : String) : Prop where
  first : ∃ c rest, name.toList = c :: rest ∧ c.isLower = true
  characters : ∀ c ∈ name.toList, c.isAlpha = true ∨ c.isDigit = true
  digits : (∃ c ∈ name.toList, c.isDigit = true) →
    ∃ stem n, name = stem ++ "Related" ++ toString n ∧ AreLetters stem.toList ∧ 2 ≤ n ∧
      (toString n).toList.head? ≠ some '0'

theorem head?_toString_ne_zero {n : Nat} (positive : 0 < n) :
    (toString n).toList.head? ≠ some '0' := by
  intro leading
  obtain ⟨rest, text⟩ := List.head?_eq_some_iff.mp leading
  have number : Number.natText n = '0' :: rest := by
    rw [← text]
    simp [Number.natText]
  exact positive.ne' (Number.eq_zero_of_natText_eq number)

theorem not_isDigit_of_areLetters {text : List Char} (letters : AreLetters text) :
    ∀ c ∈ text, c.isDigit = false := by
  intro c inside
  exact forall_isAlpha (P := fun c => c.isDigit = false) (by decide) c (letters c inside)

/-- An identifier has no digits. -/
theorem isMemberName_of_isIdentifier {name : String}
    (identifier : IsIdentifier Char.isLower name.toList) : IsMemberName name := by
  have letters := identifier.areLetters isAlpha_of_isLower
  obtain ⟨c, rest, spelled, small, -⟩ := identifier
  refine ⟨⟨c, rest, spelled, small⟩, fun c inside => .inl (letters c inside), ?_⟩
  rintro ⟨c, inside, digit⟩
  rw [not_isDigit_of_areLetters letters c inside] at digit
  cases digit

/-- The number of a variant has all the digits that there are. -/
theorem isMemberName_numbered {stem : String} (identifier : IsIdentifier Char.isLower stem.toList)
    {n : Nat} (several : 2 ≤ n) : IsMemberName (stem ++ "Related" ++ toString n) := by
  have letters := identifier.areLetters isAlpha_of_isLower
  have related : AreLetters "Related".toList := by decide
  obtain ⟨c, rest, spelled, small, -⟩ := identifier
  refine ⟨?_, ?_, fun _ => ⟨stem, n, rfl, letters, several, head?_toString_ne_zero (by omega)⟩⟩
  · exact ⟨c, rest ++ "Related".toList ++ (toString n).toList, by simp [spelled], small⟩
  · rw [String.toList_append, String.toList_append, List.forall_mem_append,
      List.forall_mem_append]
    exact ⟨⟨fun c inside => .inl (letters c inside), fun c inside => .inl (related c inside)⟩,
      fun c inside => .inr (isDigit_of_mem_toString c inside)⟩

/-- Every variant of an identifier is a name for a member. -/
theorem isMemberName_nameVariant {name : String}
    (identifier : IsIdentifier Char.isLower name.toList) (n : Nat) :
    IsMemberName (nameVariant name n) := by
  match n with
  | 0 => exact isMemberName_of_isIdentifier identifier
  | 1 =>
    refine isMemberName_of_isIdentifier ?_
    rw [nameVariant, String.toList_append]
    exact identifier.append (by decide)
  | n + 2 => exact isMemberName_numbered identifier (Nat.le_add_left 2 n)

theorem isMemberName_freeName {name : String}
    (identifier : IsIdentifier Char.isLower name.toList) (taken : List String) :
    IsMemberName (freeName taken name) := by
  obtain ⟨n, -, chosen, -⟩ := freeName_spec taken name
  rw [chosen]
  exact isMemberName_nameVariant identifier n

/-! ## Wished names -/

theorem isIdentifier_lowerFirst {text : String}
    (identifier : IsIdentifier Char.isUpper text.toList) :
    IsIdentifier Char.isLower (lowerFirst text).toList := by
  rw [lowerFirst, String.toList_ofList]
  exact identifier.lowerFirst

/-- What is left of a field name is an identifier, and so is the name of a model in lower case. -/
theorem isIdentifier_wishedName {mapping : FieldMapping} {target : String}
    (field : IsIdentifier Char.isLower mapping.fieldName.toList)
    (model : IsIdentifier Char.isUpper target.toList) :
    IsIdentifier Char.isLower (wishedName mapping target).toList := by
  rcases wishedName_eq mapping target with ⟨count, some, stem⟩ | lowered
  · rw [stem, String.toList_ofList]
    exact field.take some
  · rw [lowered]
    exact isIdentifier_lowerFirst model

namespace Schema

variable {schema : Schema}

/-- The names of models and fields are made of ASCII letters. -/
structure HasLetterNames (schema : Schema) : Prop where
  models : ∀ model ∈ schema.models, AreLetters model.name.toList
  fields : ∀ model ∈ schema.models, ∀ field ∈ model.fields, AreLetters field.name.toList

namespace HasLetterNames

variable (letters : schema.HasLetterNames) (valid : schema.IsValid)

include letters valid

/-- An end of a relationship that is there has an identifier for its name, and so have its
fields. -/
theorem isIdentifier_of_resolve? {id : String} {model : Model}
    (found : resolve? schema.models id = some model) :
    IsIdentifier Char.isUpper ((nameTable schema.models).nameOf id).toList ∧
      ∀ name ∈ model.fieldNames, IsIdentifier Char.isLower name.toList := by
  obtain ⟨inside, -⟩ := mem_of_resolve?_eq_some found
  have acceptable := model.passes_validate_iff.mp ((isValid_iff.mp valid).1 model inside)
  constructor
  · rw [nameOf_nameTable, found]
    exact .of_hasShape ((isModelName_iff _).mp acceptable.name) (letters.models model inside)
  · refine List.forall_mem_map.mpr fun field owned => ?_
    have accepted := field.passes_validate_iff.mp (acceptable.eachField field owned)
    exact .of_hasShape ((isFieldName_iff _).mp accepted.name)
      (letters.fields model inside field owned)

/-- Members wish for identifiers. -/
theorem isIdentifier_of_mem_wishedMembers (model : Model) :
    ∀ member ∈ model.wishedMembers schema.relationships (nameTable schema.models),
      IsIdentifier Char.isLower member.name.toList := by
  refine valid.forall_mem_wishedMembers ?_ ?_ model
  · intro relationship sound complete
    obtain ⟨source, leads⟩ := exists_resolve?_of_mem sound.source
    obtain ⟨target, led⟩ := exists_resolve?_of_mem sound.target
    refine List.forall_mem_map.mpr fun mapping listed => ?_
    have mapped := (complete mapping listed).1 source leads
    exact isIdentifier_wishedName ((letters.isIdentifier_of_resolve? valid leads).2 _ mapped)
      (letters.isIdentifier_of_resolve? valid led).1
  · intro relationship sound
    obtain ⟨source, leads⟩ := exists_resolve?_of_mem sound.source
    exact isIdentifier_lowerFirst (letters.isIdentifier_of_resolve? valid leads).1

end HasLetterNames

/-- In a valid schema whose names are made of letters, every relation member has a name that starts
with a lower-case letter and has letters behind it, and digits only as the number of a variant. -/
theorem isMemberName_of_mem_membersOf (valid : schema.IsValid) (letters : schema.HasLetterNames) :
    ∀ model, ∀ member ∈ schema.membersOf model, IsMemberName member.name := by
  intro model
  have wished := letters.isIdentifier_of_mem_wishedMembers valid model
  exact forall_mem_nameMembers (fun member listed => isMemberName_freeName (wished member listed)) _

/-- A book with an author's name and two mapped fields that both stand for its author. -/
def crowdedBook : Model where
  id := "b"
  name := "Book"
  fields := [⟨"author", "String", true, false, [], none⟩,
    ⟨"authorId", "Int", true, false, [], none⟩, ⟨"authorID", "Int", true, false, [], none⟩]
  attributes := []

/-- The book with its author. -/
def crowded : Schema where
  models := [⟨"a", "Author", [⟨"key", "Int", true, false, ["id"], none⟩], []⟩, crowdedBook]
  relationships := [⟨"r", "b", "a", .oneToMany, ⟨none, none, [⟨"authorId", "key"⟩]⟩⟩,
    ⟨"s", "b", "a", .oneToMany, ⟨none, none, [⟨"authorID", "key"⟩]⟩⟩]

/-- Both members of the book wish for the name that a field has. -/
theorem isMemberName_of_mem_membersOf_crowded :
    crowded.IsValid ∧ crowded.HasLetterNames ∧
      (crowded.membersOf crowdedBook).map (·.name) = ["authorRelated", "authorRelated2"] ∧
      ∀ member ∈ crowded.membersOf crowdedBook, IsMemberName member.name := by
  have valid : crowded.IsValid := ⟨[], by decide, nofun⟩
  have letters : crowded.HasLetterNames := ⟨by decide, by decide +kernel⟩
  exact ⟨valid, letters, by decide, isMemberName_of_mem_membersOf valid letters crowdedBook⟩

end Schema

end SchemaDesk
