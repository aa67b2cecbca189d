import SchemaDesk.Proofs.Document.ModelLines

/-!
# Documents are read without doubt

A document is its first two blocks and then the lines of its model blocks, each
block after an empty line. Lines are told apart by their line feeds, blocks by
their closing braces, and the rest by the lines of each block. So the text of a
valid and legible schema determines its models, their attributes, their fields
as far as a document tells of them, and their relation lines.
-/

namespace SchemaDesk

open Text

/-- The relation members of a model of the schema. -/
def Schema.membersOf (schema : Schema) (model : Model) : List RelationMember :=
  model.relationMembers schema.relationships (nameTable schema.models)

namespace Document

/-- The lines of a model block in a document; the empty line before it belongs to it. -/
def blockLines (schema : Schema) (model : Model) : List String :=
  "" :: bodyLines model (schema.membersOf model)

/-- The first two blocks. -/
def front (preamble : Preamble) : String :=
  dataSourceBlock preamble ++ ("\n\n" ++ clientBlock preamble)

/-- The lines of all model blocks. -/
def allLines (schema : Schema) : List String :=
  endWith "\x7d" (schema.models.map (blockLines schema))

theorem toList_joinLines_append_feed {lines : List String} (nonempty : lines ≠ []) :
    (joinLines lines).toList ++ ['\n'] = endWith '\n' (lines.map String.toList) := by
  obtain ⟨first, rest, rfl⟩ := List.exists_cons_of_ne_nil nonempty
  clear nonempty
  induction rest generalizing first with
  | nil => simp [joinLines, endWith]
  | cons second rest ih =>
    have feed : "\n".toList = ['\n'] := by decide
    have later := ih second
    rw [joinLines] at later ⊢
    rw [String.intercalate_cons_cons, String.toList_append, String.toList_append, feed,
      List.append_assoc, later]
    simp [endWith]

/-- The text of a block, with a line feed at either end, is its lines. -/
theorem feed_cons_toList_modelBlock (schema : Schema) (model : Model) :
    '\n' :: ((modelBlock model schema.relationships (nameTable schema.models)).toList ++ ['\n']) =
      endWith '\n' ((blockLines schema model ++ ["\x7d"]).map String.toList) := by
  have block : (modelBlock model schema.relationships (nameTable schema.models)).toList ++
      ['\n'] = endWith '\n'
        ((bodyLines model (schema.membersOf model) ++ ["\x7d"]).map String.toList) := by
    rw [modelBlock, modelLines_eq_bodyLines]
    exact toList_joinLines_append_feed
      (List.append_ne_nil_of_right_ne_nil _ (List.cons_ne_nil _ _))
  rw [block]
  simp [blockLines, endWith]

/-- Behind the front, each block follows two line feeds; so each is lines after an empty line. -/
theorem toList_join_blocks (schema : Schema) (models : List Model) :
    (String.join (models.map fun model =>
        "\n\n" ++ modelBlock model schema.relationships (nameTable schema.models))).toList ++
      ['\n'] = '\n' :: endWith '\n'
        ((endWith "\x7d" (models.map (blockLines schema))).map String.toList) := by
  induction models with
  | nil => simp [endWith]
  | cons model models ih =>
    have feeds : "\n\n".toList = ['\n', '\n'] := by decide
    have lines : endWith "\x7d" ((model :: models).map (blockLines schema)) =
        (blockLines schema model ++ ["\x7d"]) ++
          endWith "\x7d" (models.map (blockLines schema)) := by
      simp [endWith]
    rw [List.map_cons, String.join_cons, String.toList_append, String.toList_append, feeds,
      List.append_assoc, ih, lines, List.map_append, endWith_append,
      ← feed_cons_toList_modelBlock]
    simp

/-- The text of a document is its front and, after a line feed, the lines of its model blocks. -/
theorem toList_render (preamble : Preamble) (schema : Schema) :
    (render preamble schema).toList = (front preamble).toList ++
      '\n' :: endWith '\n' ((allLines schema).map String.toList) := by
  have feed : "\n".toList = ['\n'] := by decide
  have blocks := toList_join_blocks schema schema.models
  rw [render, Document.blocks, intercalate_cons_eq_join, List.map_cons, String.join_cons,
    List.map_map, front]
  simp only [String.toList_append, feed, List.append_assoc]
  exact congrArg _ (congrArg _ (congrArg _ blocks))

/-- No line of a block but the last is a closing brace. -/
theorem brace_not_mem_blockLines {schema : Schema} {model : Model}
    (acceptable : model.IsAcceptable) : "\x7d" ∉ blockLines schema model := by
  rw [blockLines, List.mem_cons, not_or]
  exact ⟨by decide, brace_not_mem_bodyLines acceptable⟩

end Document

namespace Schema

variable {schema first second : Schema}

theorem IsValid.isAcceptable_of_mem (valid : schema.IsValid) {model : Model}
    (inside : model ∈ schema.models) : model.IsAcceptable :=
  model.passes_validate_iff.mp ((isValid_iff.mp valid).1 model inside)

/-- The lines of the model blocks are single lines. -/
theorem IsLegible.no_feed_of_mem_allLines (legible : schema.IsLegible) (valid : schema.IsValid) :
    ∀ line ∈ (Document.allLines schema).map String.toList, '\n' ∉ line := by
  refine List.forall_mem_map.mpr (List.forall_mem_flatMap.mpr (List.forall_mem_map.mpr ?_))
  intro model inside
  refine List.forall_mem_append.mpr ⟨List.forall_mem_cons.mpr ⟨by decide, ?_⟩,
    List.forall_mem_singleton.mpr (by decide)⟩
  exact Document.no_feed_of_mem_bodyLines (valid.isAcceptable_of_mem inside)
    (legible.models model inside) (legible.isPlain_of_mem_relationMembers valid model)

theorem IsValid.brace_not_mem_blocks (valid : schema.IsValid) :
    ∀ block ∈ schema.models.map (Document.blockLines schema), "\x7d" ∉ block :=
  List.forall_mem_map.mpr fun _ inside =>
    Document.brace_not_mem_blockLines (valid.isAcceptable_of_mem inside)

/-- Two schemas with the same document agree, model by model, in all that a document tells. -/
theorem sameInDocument_of_render_eq (valid : first.IsValid) (valid' : second.IsValid)
    (legible : first.IsLegible) (legible' : second.IsLegible) {preamble : Preamble}
    (same : Document.render preamble first = Document.render preamble second) :
    List.Forall₂ (fun model other =>
        model.SameInDocument other (first.membersOf model) (second.membersOf other))
      first.models second.models := by
  have texts := congrArg String.toList same
  rw [Document.toList_render, Document.toList_render] at texts
  have behind := (List.cons.inj (List.append_cancel_left texts)).2
  have lines : Document.allLines first = Document.allLines second :=
    List.map_injective_iff.mpr (fun _ _ => String.toList_injective)
      (endWith_inj (legible.no_feed_of_mem_allLines valid)
        (legible'.no_feed_of_mem_allLines valid') behind)
  have blocks := endWith_inj valid.brace_not_mem_blocks valid'.brace_not_mem_blocks lines
  refine forall₂_of_map_eq (fun model inside other inside' equal => ?_) blocks
  exact Model.sameInDocument_of_bodyLines_eq (valid.isAcceptable_of_mem inside)
    (valid'.isAcceptable_of_mem inside') (legible.models model inside)
    (legible'.models other inside') (legible.fields_ne_nil valid inside)
    (legible'.fields_ne_nil valid' inside') (List.cons.inj equal).2

/-- Two schemas that agree, model by model, in all that a document tells have the same document. -/
theorem render_eq_of_sameInDocument
    (same : List.Forall₂ (fun model other =>
        model.SameInDocument other (first.membersOf model) (second.membersOf other))
      first.models second.models) (preamble : Preamble) :
    Document.render preamble first = Document.render preamble second := by
  have blocks : first.models.map (Document.blockLines first) =
      second.models.map (Document.blockLines second) :=
    map_eq_map_iff_forall₂.mpr
      (same.imp fun _ _ alike => congrArg ("" :: ·) alike.bodyLines_eq)
  apply String.toList_injective
  rw [Document.toList_render, Document.toList_render, Document.allLines, Document.allLines, blocks]

/-- Authors and their posts. A document of them tells neither the ids nor whether the value of the
mark is absent or empty, whether the list is required, or what the hidden default is. -/
def blogWith (author post : String) (value? : Option String) (listRequired : Bool)
    (hidden? : Option DefaultValue) : Schema where
  models :=
    [⟨author, "Author", [⟨"key", "Int", true, false, ["id"], hidden?⟩,
        ⟨"tags", "String", listRequired, true, [], none⟩,
        ⟨"motto", "String", false, false, ["default"], some (.text "\"(x) @id\n\x7d")⟩],
      [⟨"@@ignore", value?⟩, ⟨"@@map", some "people"⟩]⟩,
    ⟨post, "Post", [⟨"authorId", "Int", true, false, [], none⟩], []⟩]
  relationships := [⟨"r", post, author, .oneToMany, ⟨none, none, [⟨"authorId", "key"⟩]⟩⟩]

def blog : Schema := blogWith "a" "p" none true none

/-- A schema other than the one before, with the same document. -/
def disguisedBlog : Schema := blogWith "b" "q" (some "") false (some (.integer 7))

theorem sameInDocument_of_render_eq_blog :
    blog ≠ disguisedBlog ∧
      Document.render .default blog = Document.render .default disguisedBlog ∧
      List.Forall₂ (fun model other =>
          model.SameInDocument other (blog.membersOf model) (disguisedBlog.membersOf other))
        blog.models disguisedBlog.models := by
  have legible : blog.IsLegible := by decide
  have legible' : disguisedBlog.IsLegible := by decide
  have valid : blog.IsValid := ⟨_, rfl, by decide⟩
  have valid' : disguisedBlog.IsValid := ⟨_, rfl, by decide⟩
  have same : Document.render .default blog = Document.render .default disguisedBlog := by
    decide +kernel
  exact ⟨by decide, same, sameInDocument_of_render_eq valid valid' legible legible' same⟩

end Schema

end SchemaDesk
