import Mathlib.Data.List.Perm.Basic
import SchemaDesk.Proofs.Document.Reading
import SchemaDesk.Proofs.Document.RelationLines
import SchemaDesk.Text.Blank

/-!
# Blocks depend on their surroundings alone

The block of a model tells of the model, of the relationships that it owns, of
the many-to-many ones that lead to it, and of the names at their other ends. It
is the same text in two documents that agree in these, whatever else they say.
So models in another order have the same blocks in that order, and a
relationship that a block does not tell of leaves it as it is.
-/

namespace SchemaDesk

/-- A name of an id in the one list of models is one in the other. -/
def SharesName (first second : List Model) (id : String) : Prop :=
  ∃ text, IsNameOf first id text ∧ IsNameOf second id text

namespace Model

/-- The model owns the same relationships in both schemas, the same many-to-many relationships lead
to it, and their other ends have the same names. -/
structure SharesSurroundings (model : Model) (first second : Schema) : Prop where
  owned : first.relationships.filter (fun relationship => relationship.source = model.id) =
    second.relationships.filter fun relationship => relationship.source = model.id
  incoming : first.relationships.filter (fun relationship =>
      relationship.target = model.id ∧ relationship.cardinality = .manyToMany) =
    second.relationships.filter fun relationship =>
      relationship.target = model.id ∧ relationship.cardinality = .manyToMany
  targets : ∀ relationship ∈ first.relationships, relationship.source = model.id →
    SharesName first.models second.models relationship.target
  sources : ∀ relationship ∈ first.relationships, relationship.target = model.id →
    relationship.cardinality = .manyToMany →
    SharesName first.models second.models relationship.source

/-- The block of the model tells of the relationship: the model owns it, or it is many-to-many and
leads to the model. -/
def TellsOf (model : Model) (relationship : Relationship) : Prop :=
  relationship.source = model.id ∨
    relationship.target = model.id ∧ relationship.cardinality = .manyToMany

instance (model : Model) : DecidablePred model.TellsOf :=
  fun _ => inferInstanceAs (Decidable (_ ∨ _))

end Model

/-! ## Names -/

/-- Where ids are distinct, an id has one name. -/
theorem IsNameOf.eq_nameOf {models : List Model} (distinct : (models.map (·.id)).Nodup)
    {id text : String} (named : IsNameOf models id text) : text = (nameTable models).nameOf id := by
  rw [nameOf_nameTable]
  rcases named with ⟨model, inside, rfl, rfl⟩ | ⟨absent, rfl⟩
  · rw [resolve?_eq_some_of_mem distinct inside]
    rfl
  · have unresolved : resolve? models text = none := by
      rw [← Option.not_isSome_iff_eq_none, resolve?_isSome_iff]
      exact absent
    rw [unresolved]
    rfl

theorem IsNameOf.of_perm {first second : List Model} (permuted : first.Perm second)
    {id text : String} (named : IsNameOf first id text) : IsNameOf second id text := by
  rcases named with ⟨model, inside, named, told⟩ | ⟨absent, told⟩
  · exact .inl ⟨model, permuted.mem_iff.mp inside, named, told⟩
  · exact .inr ⟨fun present => absent ((permuted.map _).mem_iff.mpr present), told⟩

namespace SharesName

variable {first second : List Model} {id : String}

theorem of_perm (permuted : first.Perm second) (id : String) : SharesName first second id :=
  ⟨_, isNameOf_nameOf first id, (isNameOf_nameOf first id).of_perm permuted⟩

theorem nameOf_eq (shared : SharesName first second id) (distinct : (first.map (·.id)).Nodup)
    (distinct' : (second.map (·.id)).Nodup) :
    (nameTable first).nameOf id = (nameTable second).nameOf id := by
  obtain ⟨text, named, named'⟩ := shared
  exact (named.eq_nameOf distinct).symm.trans (named'.eq_nameOf distinct')

end SharesName

/-! ## Blocks -/

namespace Relationship

theorem owningMembers_congr {relationship : Relationship} {names others : NameTable}
    (same : names.nameOf relationship.target = others.nameOf relationship.target) :
    relationship.owningMembers names = relationship.owningMembers others := by
  rw [owningMembers, owningMembers, same]

theorem inverseMember_congr {relationship : Relationship} {names others : NameTable}
    (same : names.nameOf relationship.source = others.nameOf relationship.source) :
    relationship.inverseMember names = relationship.inverseMember others := by
  rw [inverseMember, inverseMember, same]

end Relationship

namespace Model

theorem owned_eq_filter (model : Model) (relationships : List Relationship) :
    model.owned relationships =
      relationships.filter fun relationship => relationship.source = model.id :=
  List.filter_congr fun _ _ => beq_eq_decide _ _

theorem incoming_eq_filter (model : Model) (relationships : List Relationship) :
    model.incoming relationships = relationships.filter fun relationship =>
      relationship.target = model.id ∧ relationship.cardinality = .manyToMany :=
  List.filter_congr fun _ _ => by rw [Bool.decide_and, beq_eq_decide, beq_eq_decide]

namespace SharesSurroundings

variable {model : Model} {first second : Schema}

/-- The members wish for the same names, and so are named the same way. -/
theorem relationMembers_eq (shared : model.SharesSurroundings first second)
    (distinct : (first.models.map (·.id)).Nodup) (distinct' : (second.models.map (·.id)).Nodup) :
    model.relationMembers first.relationships (nameTable first.models) =
      model.relationMembers second.relationships (nameTable second.models) := by
  have owned :
      (model.owned first.relationships).flatMap (·.owningMembers (nameTable first.models)) =
        (model.owned second.relationships).flatMap (·.owningMembers (nameTable second.models)) := by
    rw [owned_eq_filter, owned_eq_filter, ← shared.owned]
    refine List.flatMap_congr fun relationship inside => ?_
    obtain ⟨present, leads⟩ := List.mem_filter.mp inside
    have named := shared.targets relationship present (of_decide_eq_true leads)
    exact Relationship.owningMembers_congr (named.nameOf_eq distinct distinct')
  have incoming :
      (model.incoming first.relationships).map (·.inverseMember (nameTable first.models)) =
        (model.incoming second.relationships).map
          (·.inverseMember (nameTable second.models)) := by
    rw [incoming_eq_filter, incoming_eq_filter, ← shared.incoming]
    refine List.map_congr_left fun relationship inside => ?_
    obtain ⟨present, leads⟩ := List.mem_filter.mp inside
    obtain ⟨led, many⟩ := of_decide_eq_true leads
    have named := shared.sources relationship present led many
    exact Relationship.inverseMember_congr (named.nameOf_eq distinct distinct')
  rw [relationMembers, relationMembers, wishedMembers, wishedMembers, owned, incoming]

theorem modelBlock_eq (shared : model.SharesSurroundings first second)
    (distinct : (first.models.map (·.id)).Nodup) (distinct' : (second.models.map (·.id)).Nodup) :
    Document.modelBlock model first.relationships (nameTable first.models) =
      Document.modelBlock model second.relationships (nameTable second.models) := by
  rw [Document.modelBlock, Document.modelBlock, shared.relationMembers_eq distinct distinct']

/-- Models in another order are the same surroundings for each of them. -/
theorem of_perm (model : Model) (permuted : first.models.Perm second.models)
    (same : first.relationships = second.relationships) :
    model.SharesSurroundings first second where
  owned := by rw [same]
  incoming := by rw [same]
  targets _ _ _ := .of_perm permuted _
  sources _ _ _ _ := .of_perm permuted _

/-- Relationships that a block does not tell of are not among its surroundings. -/
theorem of_tellsOf (same : first.models = second.models)
    (told : first.relationships.filter (fun relationship => model.TellsOf relationship) =
      second.relationships.filter fun relationship => model.TellsOf relationship) :
    model.SharesSurroundings first second := by
  -- Both kinds of relationships that a block tells of are picked out of these.
  have within {test : Relationship → Bool} (covered : ∀ relationship, test relationship = true →
      model.TellsOf relationship) (relationships : List Relationship) :
      (relationships.filter fun relationship => model.TellsOf relationship).filter test =
        relationships.filter test := by
    rw [List.filter_filter]
    refine List.filter_congr fun relationship _ => ?_
    cases tested : test relationship with
    | false => rfl
    | true => simpa using covered relationship tested
  refine ⟨?_, ?_, fun _ _ _ => .of_perm (.of_eq same) _, fun _ _ _ _ => .of_perm (.of_eq same) _⟩
  · have covered (relationship : Relationship)
        (owns : decide (relationship.source = model.id) = true) : model.TellsOf relationship :=
      .inl (of_decide_eq_true owns)
    rw [← within covered, told, within covered]
  · have covered (relationship : Relationship) (led : decide (relationship.target = model.id ∧
        relationship.cardinality = .manyToMany) = true) : model.TellsOf relationship :=
      .inr (of_decide_eq_true led)
    rw [← within covered, told, within covered]

end SharesSurroundings

end Model

/-! ## Documents -/

namespace Text

theorem splitLines_append_feed (text rest : List Char) :
    splitLines (text ++ '\n' :: rest) = splitLines text ++ splitLines rest :=
  List.splitOn_append_cons_self text rest

/-- A line feed at the end of a text is not before a further line. -/
theorem lines_append_feed (text : List Char) : lines (text ++ ['\n']) = splitLines text := by
  have split : splitLines (text ++ ['\n']) = splitLines text ++ [[]] :=
    splitLines_append_feed text []
  rw [lines, split, List.reverse_append]
  exact List.reverse_reverse _

end Text

namespace Document

open Text

theorem getElem?_blocks {preamble : Preamble} {schema : Schema} {position : Nat} {model : Model}
    (here : schema.models[position]? = some model) :
    (blocks preamble schema)[position + 2]? =
      some (modelBlock model schema.relationships (nameTable schema.models)) := by
  rw [blocks, List.getElem?_cons_succ, List.getElem?_cons_succ, List.getElem?_map, here]
  rfl

end Document

/-- A model with the same surroundings has the same block, wherever it stands. -/
theorem Model.SharesSurroundings.exists_block {model : Model} {first second : Schema}
    (shared : model.SharesSurroundings first second) (preamble : Preamble)
    (distinct : (first.models.map (·.id)).Nodup) (distinct' : (second.models.map (·.id)).Nodup)
    {position place : Nat} (here : first.models[position]? = some model)
    (there : second.models[place]? = some model) :
    ∃ block, (Document.blocks preamble first)[position + 2]? = some block ∧
      (Document.blocks preamble second)[place + 2]? = some block := by
  refine ⟨_, Document.getElem?_blocks here, ?_⟩
  rw [Document.getElem?_blocks there, shared.modelBlock_eq distinct distinct']

namespace Document

open Text

/-- The lines of blocks with empty lines between them. -/
theorem splitLines_intercalate (first : String) (rest : List String) :
    splitLines ("\n\n".intercalate (first :: rest)).toList ++ [[]] =
      (first :: rest).flatMap fun block => splitLines block.toList ++ [[]] := by
  induction rest generalizing first with
  | nil => simp [String.intercalate_singleton]
  | cons second rest ih =>
    have feeds : "\n\n".toList = ['\n', '\n'] := by decide
    have empty : splitLines [] = [[]] := rfl
    rw [String.intercalate_cons_cons, String.toList_append, String.toList_append, feeds,
      List.append_assoc, List.cons_append, List.cons_append, List.nil_append,
      splitLines_append_feed, ← List.nil_append ('\n' :: _), splitLines_append_feed, empty,
      List.append_assoc, List.append_assoc, ih]
    simp

/-- The lines of a document, with an empty one at the end, are those of its blocks, each with an
empty line behind it. -/
theorem lines_render (preamble : Preamble) (schema : Schema) :
    lines (render preamble schema).toList ++ [[]] =
      (blocks preamble schema).flatMap fun block => splitLines block.toList ++ [[]] := by
  have feed : "\n".toList = ['\n'] := by decide
  rw [render, String.toList_append, feed, lines_append_feed]
  exact splitLines_intercalate _ _

theorem perm_blocks (preamble : Preamble) {first second : Schema}
    (distinct : (first.models.map (·.id)).Nodup) (permuted : first.models.Perm second.models)
    (same : first.relationships = second.relationships) :
    (blocks preamble first).Perm (blocks preamble second) := by
  have distinct' : (second.models.map (·.id)).Nodup := (permuted.map _).nodup distinct
  refine (List.Perm.cons _ (List.Perm.cons _ ?_))
  calc
    first.models.map (fun model =>
          modelBlock model first.relationships (nameTable first.models)) =
        first.models.map fun model =>
          modelBlock model second.relationships (nameTable second.models) :=
      List.map_congr_left fun model _ =>
        (Model.SharesSurroundings.of_perm model permuted same).modelBlock_eq distinct distinct'
    List.Perm _ (second.models.map fun model =>
          modelBlock model second.relationships (nameTable second.models)) :=
      permuted.map _

theorem perm_lines {preamble : Preamble} {first second : Schema}
    (permuted : (blocks preamble first).Perm (blocks preamble second)) :
    (lines (render preamble first).toList).Perm (lines (render preamble second).toList) := by
  have all := permuted.flatMap_right fun block => splitLines block.toList ++ [[]]
  rw [← lines_render, ← lines_render] at all
  exact (List.perm_append_right_iff _).mp all

/-- The block of a model is the same text in the documents of two schemas, wherever it stands in
them, if the model owns the same relationships in both, the same many-to-many ones lead to it, and
the other ends of these have the same names. So models in another order permute the blocks and the
lines, and other relationships than those that the block tells of leave it as it is. -/
theorem getElem?_blocks_eq_of_sharesSurroundings (preamble : Preamble) (first second : Schema)
    (distinct : (first.models.map (·.id)).Nodup) (distinct' : (second.models.map (·.id)).Nodup) :
    (∀ (position place : Nat) (model : Model), first.models[position]? = some model →
        second.models[place]? = some model → model.SharesSurroundings first second →
        ∃ block, (blocks preamble first)[position + 2]? = some block ∧
          (blocks preamble second)[place + 2]? = some block) ∧
      (first.models.Perm second.models → first.relationships = second.relationships →
        (blocks preamble first).Perm (blocks preamble second) ∧
          (lines (render preamble first).toList).Perm (lines (render preamble second).toList)) ∧
      (first.models = second.models → ∀ (position : Nat) (model : Model),
        first.models[position]? = some model →
        first.relationships.filter (fun relationship => model.TellsOf relationship) =
          second.relationships.filter (fun relationship => model.TellsOf relationship) →
        ∃ block, (blocks preamble first)[position + 2]? = some block ∧
          (blocks preamble second)[position + 2]? = some block) := by
  refine ⟨fun position place model here there shared => ?_, fun permuted same => ?_,
    fun same position model here told => ?_⟩
  · exact shared.exists_block preamble distinct distinct' here there
  · have rearranged := perm_blocks preamble distinct permuted same
    exact ⟨rearranged, perm_lines rearranged⟩
  · have shared : model.SharesSurroundings first second := .of_tellsOf same told
    exact shared.exists_block preamble distinct distinct' here (same ▸ here)

/-- A shop beside the authors, who sell there. -/
def bookshop : Schema where
  models := [⟨"c", "Shop", [⟨"owner", "Int", true, false, [], none⟩], []⟩,
    ⟨"a", "Author", [⟨"key", "Int", true, false, ["id"], none⟩], []⟩]
  relationships := [⟨"q", "c", "a", .oneToMany, ⟨none, none, [⟨"owner", "key"⟩]⟩⟩,
    ⟨"s", "a", "a", .manyToMany, ⟨none, none, [⟨"key", "key"⟩]⟩⟩]

open Model (bookshelf bookLinks) in
/-- Authors have the same block beside books and beside a shop, in both orders of the models, and
without the relationships that are not theirs. -/
theorem getElem?_blocks_eq_bookshop :
    (∃ block, (blocks .default ⟨bookshelf, bookLinks⟩)[2]? = some block ∧
        (blocks .default bookshop)[3]? = some block) ∧
      (lines (render .default ⟨bookshelf, bookLinks⟩).toList).Perm
        (lines (render .default ⟨bookshelf.reverse, bookLinks⟩).toList) ∧
      ∃ block, (blocks .default ⟨bookshelf, bookLinks⟩)[2]? = some block ∧
        (blocks .default ⟨bookshelf, bookLinks.drop 1⟩)[2]? = some block := by
  have author : SharesName bookshelf bookshop.models "a" :=
    ⟨"Author", .inl ⟨_, List.mem_cons_self, rfl, rfl⟩,
      .inl ⟨_, List.mem_cons_of_mem _ List.mem_cons_self, rfl, rfl⟩⟩
  obtain ⟨beside, -, -⟩ := getElem?_blocks_eq_of_sharesSurroundings .default
    ⟨bookshelf, bookLinks⟩ bookshop (by decide) (by decide)
  obtain ⟨-, permuted, -⟩ := getElem?_blocks_eq_of_sharesSurroundings .default
    ⟨bookshelf, bookLinks⟩ ⟨bookshelf.reverse, bookLinks⟩ (by decide) (by decide)
  obtain ⟨-, -, without⟩ := getElem?_blocks_eq_of_sharesSurroundings .default
    ⟨bookshelf, bookLinks⟩ ⟨bookshelf, bookLinks.drop 1⟩ (by decide) (by decide)
  refine ⟨beside 0 1 _ rfl rfl ⟨by decide, by decide, ?_, ?_⟩,
    (permuted (List.reverse_perm _).symm rfl).2, without rfl 0 _ rfl (by decide)⟩
  · simpa [bookLinks] using author
  · simpa [bookLinks] using author

end Document

end SchemaDesk
