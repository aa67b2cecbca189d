import SchemaDesk.Proofs.Document.Locality
import SchemaDesk.Proofs.Validation.Identifier

/-!
# Names in documents

A model without errors and its fields are named by identifiers, but for one
line feed that may stand behind a name. In the document an identifier leaves the
header of the block and the start of the field line whole. A line feed breaks
them behind the name: what belongs there starts the next line.
-/

namespace SchemaDesk

open Text Validation

namespace Document

/-- The text is a line of the document. -/
def HasLine (preamble : Preamble) (schema : Schema) (text : String) : Prop :=
  text.toList ∈ lines (render preamble schema).toList

/-- A line of the document starts with the text. -/
def StartsLine (preamble : Preamble) (schema : Schema) (text : String) : Prop :=
  ∃ line ∈ lines (render preamble schema).toList, text.toList <+: line

/-- The lines of a text that is put together from lines. -/
theorem splitLines_joinLines {parts : List String} (some : parts ≠ []) :
    splitLines (joinLines parts).toList = parts.flatMap fun part => splitLines part.toList := by
  induction parts with
  | nil => exact absurd rfl some
  | cons first rest ih =>
    cases rest with
    | nil => simp [joinLines, String.intercalate_singleton]
    | cons second rest =>
      have feed : "\n".toList = ['\n'] := by decide
      rw [joinLines, String.intercalate_cons_cons, String.toList_append, String.toList_append,
        feed, List.append_assoc, List.cons_append, List.nil_append, splitLines_append_feed,
        ← joinLines, ih (List.cons_ne_nil _ _)]
      rfl

theorem splitLines_of_no_feed {text : List Char} (plain : '\n' ∉ text) :
    splitLines text = [text] :=
  List.splitOn_eq_singleton plain

/-- What stands before every line feed of a text starts the first line. -/
theorem exists_splitLines_append {front : List Char} (plain : '\n' ∉ front) (rest : List Char) :
    ∃ more others, splitLines (front ++ rest) = (front ++ more) :: others := by
  induction front with
  | nil => exact List.exists_cons_of_ne_nil (List.splitOn_ne_nil '\n' rest)
  | cons c front ih =>
    rw [List.mem_cons, not_or] at plain
    obtain ⟨more, others, split⟩ := ih plain.2
    refine ⟨more, others, ?_⟩
    rw [splitLines] at split
    rw [splitLines, List.cons_append, List.splitOn_cons_eq_if_modifyHead, split,
      if_neg (by simpa using Ne.symm plain.1)]
    rfl

/-- No line feed stands within a line. -/
theorem no_feed_of_mem_splitLines {text line : List Char} (part : line ∈ splitLines text) :
    '\n' ∉ line := by
  induction text generalizing line with
  | nil =>
    obtain rfl : line = [] := by simpa [splitLines] using part
    exact List.not_mem_nil
  | cons c text ih =>
    obtain ⟨first, others, split⟩ := List.exists_cons_of_ne_nil (List.splitOn_ne_nil '\n' text)
    have plain : ∀ line ∈ first :: others, '\n' ∉ line := by
      rw [← split]
      exact fun line => ih
    rw [splitLines, List.splitOn_cons_eq_if_modifyHead, split] at part
    split at part
    · rcases List.mem_cons.mp part with rfl | part
      · exact List.not_mem_nil
      · exact plain line part
    · next other =>
      have apart : '\n' ≠ c := Ne.symm (by simpa using other)
      rcases List.mem_cons.mp part with rfl | part
      · exact List.not_mem_cons_of_ne_of_not_mem apart (plain first List.mem_cons_self)
      · exact plain line (List.mem_cons_of_mem _ part)

theorem mem_splitLines_of_mem_lines {text line : List Char} (part : line ∈ lines text) :
    line ∈ splitLines text := by
  rw [lines] at part
  split at part
  · next earlier last =>
    exact List.mem_reverse.mp (last ▸ List.mem_cons_of_mem _ (List.mem_reverse.mp part))
  · exact List.mem_reverse.mp (List.mem_reverse.mp part)

theorem HasLine.no_feed {preamble : Preamble} {schema : Schema} {text : String}
    (line : HasLine preamble schema text) : '\n' ∉ text.toList :=
  no_feed_of_mem_splitLines (mem_splitLines_of_mem_lines line)

theorem StartsLine.no_feed {preamble : Preamble} {schema : Schema} {text : String}
    (starts : StartsLine preamble schema text) : '\n' ∉ text.toList := by
  obtain ⟨line, part, front⟩ := starts
  exact fun broken =>
    no_feed_of_mem_splitLines (mem_splitLines_of_mem_lines part) (front.subset broken)

section Blocks

variable {preamble : Preamble} {schema : Schema} {model : Model}

/-- The lines of what is put into a block are lines of the document. -/
theorem mem_lines_render (inside : model ∈ schema.models) {line : String}
    (listed : line ∈ modelLines model (schema.membersOf model)) {piece : List Char}
    (part : piece ∈ splitLines line.toList) (something : piece ≠ []) :
    piece ∈ lines (render preamble schema).toList := by
  have block : joinLines (modelLines model (schema.membersOf model)) ∈ blocks preamble schema :=
    List.mem_cons_of_mem _ (List.mem_cons_of_mem _ (List.mem_map_of_mem inside))
  have below :
      piece ∈ splitLines (joinLines (modelLines model (schema.membersOf model))).toList := by
    rw [splitLines_joinLines (List.ne_nil_of_mem listed)]
    exact List.mem_flatMap.mpr ⟨line, listed, part⟩
  -- The document ends with its last block, so the empty line behind that is none of its lines.
  have all : piece ∈ lines (render preamble schema).toList ++ [[]] := by
    rw [lines_render]
    exact List.mem_flatMap.mpr ⟨_, block, List.mem_append_left _ below⟩
  rcases List.mem_append.mp all with found | empty
  · exact found
  · exact absurd (List.mem_singleton.mp empty) something

theorem headerLine_mem_modelLines (model : Model) (members : List RelationMember) :
    headerLine model ∈ modelLines model members := by
  simp [modelLines_eq_bodyLines, bodyLines]

theorem fieldLine_mem_modelLines {field : Field} (owned : field ∈ model.fields)
    (members : List RelationMember) : fieldLine field ∈ modelLines model members := by
  have line := List.mem_map_of_mem (f := fieldLine) owned
  simp [modelLines_eq_bodyLines, bodyLines, line]

/-- A text without line feeds that stands in a block at the start of a line starts a line. -/
theorem startsLine_of_subset (inside : model ∈ schema.models) {line : String}
    (listed : line ∈ modelLines model (schema.membersOf model)) {front : String}
    (rest : List Char) (below : splitLines (front.toList ++ rest) ⊆ splitLines line.toList)
    (plain : '\n' ∉ front.toList) (something : front.toList ≠ []) :
    StartsLine preamble schema front := by
  obtain ⟨more, others, lines⟩ := exists_splitLines_append plain rest
  have first : front.toList ++ more ∈ splitLines line.toList :=
    below (lines ▸ List.mem_cons_self)
  exact ⟨_, mem_lines_render inside listed first (List.append_ne_nil_of_left_ne_nil something more),
    more, rfl⟩

end Blocks

end Document

/-! ## Names of models -/

namespace Model

open Document

variable {preamble : Preamble} {schema : Schema} {model : Model}

/-- The name is an identifier, and the header of the block is a line. -/
def HasWholeHeader (preamble : Preamble) (schema : Schema) (model : Model) : Prop :=
  IsIdentifier Char.isUpper model.name.toList ∧
    HasLine preamble schema ("model " ++ model.name ++ " \x7b")

/-- The name is an identifier with a line feed behind it, which breaks the header in two. -/
def HasBrokenHeader (preamble : Preamble) (schema : Schema) (model : Model) : Prop :=
  ∃ word : String, IsIdentifier Char.isUpper word.toList ∧ model.name = word ++ "\n" ∧
    HasLine preamble schema ("model " ++ word) ∧ HasLine preamble schema " \x7b"

theorem hasHeader_of_passes (inside : model ∈ schema.models) (passes : model.validate.Passes) :
    model.HasWholeHeader preamble schema ∨ model.HasBrokenHeader preamble schema := by
  have header := headerLine_mem_modelLines model (schema.membersOf model)
  have shape := (isModelName_iff _).mp (model.passes_validate_iff.mp passes).name
  rcases hasShape_iff_isIdentifier.mp shape with whole | ⟨word, whole, named⟩
  · have plain : '\n' ∉ (headerLine model).toList := by
      simpa [headerLine] using whole.no_feed isAlpha_of_isUpper
    have single := splitLines_of_no_feed plain
    exact .inl ⟨whole, mem_lines_render inside header (single ▸ List.mem_singleton_self _)
      (by simp)⟩
  · have split : (headerLine model).toList =
        ("model ".toList ++ word) ++ '\n' :: " \x7b".toList := by
      simp [headerLine, named]
    have pieces : splitLines (headerLine model).toList =
        ["model ".toList ++ word, " \x7b".toList] := by
      rw [split, splitLines_append_feed, splitLines_of_no_feed, splitLines_of_no_feed]
      · rfl
      · decide
      · simpa using whole.no_feed isAlpha_of_isUpper
    refine .inr ⟨.ofList word, by simpa using whole, ?_, ?_, ?_⟩
    · exact String.toList_inj.mp (by simpa using named)
    · exact mem_lines_render inside header (by simp [pieces]) (by simp)
    · exact mem_lines_render inside header (by simp [pieces]) (by simp)

end Model

/-! ## Names of fields -/

namespace Field

open Document

variable {preamble : Preamble} {schema : Schema} {model : Model} {field : Field}

/-- The name is an identifier, and a line starts with the name and the type. -/
def StartsWholeLine (preamble : Preamble) (schema : Schema) (field : Field) : Prop :=
  IsIdentifier Char.isLower field.name.toList ∧
    StartsLine preamble schema ("  " ++ field.name ++ " " ++ field.type)

/-- The name is an identifier with a line feed behind it, which breaks the line before the type. -/
def StartsBrokenLine (preamble : Preamble) (schema : Schema) (field : Field) : Prop :=
  ∃ word : String, IsIdentifier Char.isLower word.toList ∧ field.name = word ++ "\n" ∧
    HasLine preamble schema ("  " ++ word) ∧ StartsLine preamble schema (" " ++ field.type)

theorem startsLine_of_passes (inside : model ∈ schema.models) (owned : field ∈ model.fields)
    (passes : field.validate.Passes) :
    field.StartsWholeLine preamble schema ∨ field.StartsBrokenLine preamble schema := by
  have line := fieldLine_mem_modelLines owned (schema.membersOf model)
  have acceptable := field.passes_validate_iff.mp passes
  have typed : '\n' ∉ field.type.toList := (letters_type acceptable.type).no_feed
  have shape := (isFieldName_iff _).mp acceptable.name
  obtain ⟨behind, told⟩ : ∃ behind, (fieldLine field).toList =
      "  ".toList ++ field.name.toList ++ ((" " ++ field.type).toList ++ behind) :=
    ⟨_, by simpa using toList_fieldLine field⟩
  rcases hasShape_iff_isIdentifier.mp shape with whole | ⟨word, whole, named⟩
  · refine .inl ⟨whole, startsLine_of_subset inside line behind ?_ ?_ (by simp)⟩
    · simp [told]
    · simpa [typed] using whole.no_feed isAlpha_of_isLower
  · have plain : '\n' ∉ "  ".toList ++ word := by
      simpa using whole.no_feed isAlpha_of_isLower
    have pieces : splitLines (fieldLine field).toList =
        ("  ".toList ++ word) :: splitLines ((" " ++ field.type).toList ++ behind) := by
      have broken := splitLines_append_feed ("  ".toList ++ word)
        ((" " ++ field.type).toList ++ behind)
      rw [splitLines_of_no_feed plain] at broken
      rw [told, named]
      simpa using broken
    refine .inr ⟨.ofList word, by simpa using whole, ?_, ?_, ?_⟩
    · exact String.toList_inj.mp (by simpa using named)
    · exact mem_lines_render inside line (by simp [pieces]) (by simp)
    · refine startsLine_of_subset inside line behind ?_ ?_ (by simp)
      · exact pieces ▸ List.subset_cons_self _ _
      · simpa using typed

end Field

/-- A model without errors and its fields are named by identifiers, and the header of its block and
the starts of its field lines stand in the document, unless a name has a line feed behind it, which
breaks the line there. Of an identifier validation never says that it is missing or malformed. -/
theorem Model.names_of_passes (preamble : Preamble) (schema : Schema) (model : Model) :
    (model ∈ schema.models → model.validate.Passes →
      (model.HasWholeHeader preamble schema ∨ model.HasBrokenHeader preamble schema) ∧
        ∀ field ∈ model.fields,
          field.StartsWholeLine preamble schema ∨ field.StartsBrokenLine preamble schema) ∧
      (∀ found, model.validate = .ok found → ∀ diagnostic ∈ found,
        diagnostic.finding.blamesName = true →
        (diagnostic.location? = some ⟨"model", [.key "name"]⟩ ∧
            ¬ IsIdentifier Char.isUpper model.name.toList) ∨
          ∃ (i : Nat) (field : Field), model.fields[i]? = some field ∧
            diagnostic.location? = some ⟨"model", [.key "fields", .index i, .key "name"]⟩ ∧
            ¬ IsIdentifier Char.isLower field.name.toList) ∧
      ∀ (field : Field) (found : List Diagnostic), field.validate = .ok found →
        ∀ diagnostic ∈ found, diagnostic.finding.blamesName = true →
          ¬ IsIdentifier Char.isLower field.name.toList := by
  refine ⟨?_, ?_, ?_⟩
  · intro inside passes
    refine ⟨hasHeader_of_passes inside passes, fun field owned => ?_⟩
    exact Field.startsLine_of_passes inside owned
      ((model.passes_validate_iff.mp passes).eachField field owned)
  · intro found checked diagnostic reported blames
    exact not_isIdentifier_of_blamesName checked reported blames
  · intro field found checked diagnostic reported blames
    exact (Field.of_mem_nameFindings
      (Field.mem_nameFindings_of_blamesName checked reported blames)).2

/-- A gauge with one level, under names that are identifiers. -/
def gauge : Model := ⟨"m", "Gauge", [⟨"level", "Int", true, false, [], none⟩], []⟩

/-- The gauge has its header in its document, whole or broken, and its field line; what validation
says of the names of a model and of a field in the wrong case is said of no identifiers. -/
theorem Model.names_of_passes_gauge :
    ((gauge.HasWholeHeader .default ⟨[gauge], []⟩ ∨ gauge.HasBrokenHeader .default ⟨[gauge], []⟩) ∧
        ∀ field ∈ gauge.fields, field.StartsWholeLine .default ⟨[gauge], []⟩ ∨
          field.StartsBrokenLine .default ⟨[gauge], []⟩) ∧
      ¬ IsIdentifier Char.isUpper "gauge".toList ∧ ¬ IsIdentifier Char.isLower "Level".toList := by
  have passes : gauge.validate.Passes := ⟨_, by rfl, by decide⟩
  refine ⟨(names_of_passes .default ⟨[gauge], []⟩ gauge).1 List.mem_cons_self passes, ?_, ?_⟩
  · obtain ⟨-, blamed⟩ | ⟨i, field, listed, -⟩ :=
      (names_of_passes .default .empty ⟨"m", "gauge", [], []⟩).2.1 _ rfl
        (reportAt .modelNameMalformed [.key "name"]) (by decide) rfl
    · exact blamed
    · cases listed
  · exact (names_of_passes .default .empty gauge).2.2
      ⟨"Level", "Int", true, false, [], none⟩ _ rfl
      (Field.reportAt .fieldNameMalformed [.key "name"]) (by decide) rfl

/-- A gauge with a line feed behind each of its names. -/
def brokenGauge : Model := ⟨"m", "Gauge\n", [⟨"level\n", "Int", true, false, [], none⟩], []⟩

/-- Validation finds nothing in the gauge, though its names are no identifiers, and its document has
neither its header nor the start of its field line. -/
theorem Model.names_of_brokenGauge :
    brokenGauge.validate = .ok [] ∧
      (∀ text ∈ brokenGauge.name :: brokenGauge.fieldNames,
        ¬ IsIdentifier Char.isUpper text.toList ∧ ¬ IsIdentifier Char.isLower text.toList) ∧
      ¬ Document.HasLine .default ⟨[brokenGauge], []⟩ ("model " ++ brokenGauge.name ++ " \x7b") ∧
      ∀ field ∈ brokenGauge.fields, ¬ Document.StartsLine .default ⟨[brokenGauge], []⟩
        ("  " ++ field.name ++ " " ++ field.type) := by
  refine ⟨by rfl, ?_, ?_, ?_⟩
  · intro text named
    have broken : '\n' ∈ text.toList := by
      revert text
      decide
    exact ⟨fun word => word.no_feed isAlpha_of_isUpper broken,
      fun word => word.no_feed isAlpha_of_isLower broken⟩
  · exact fun header => header.no_feed (by decide)
  · intro field owned start
    obtain rfl := List.mem_singleton.mp owned
    exact start.no_feed (by decide)

end SchemaDesk
