import SchemaDesk.Proofs.Diagnostic.Location
import SchemaDesk.Proofs.Validation.Identifier
import SchemaDesk.Proofs.Validation.Order

/-!
# Where validation finds what it finds

Every diagnostic that has a place names a part that is there: the position is
one of the list it leads into, also where the diagnostics of a field or of an
attribute are told of the model that holds it. Two such places are written
alike only if they are the same.
-/

namespace SchemaDesk

/-! ## Parts of entities -/

/-- The path leads to a part of a field. -/
inductive Field.HasPart (field : Field) : List Segment → Prop
  | name : HasPart field [.key "name"]
  | type : HasPart field [.key "type"]
  | default : HasPart field [.key "defaultValue"]
  | attributes : HasPart field [.key "attributes"]
  | token {i : Nat} (bound : i < field.attributes.length) :
      HasPart field [.key "attributes", .index i]

/-- The path leads to a part of an attribute. -/
inductive BlockAttribute.HasPart : List Segment → Prop
  | name : HasPart [.key "name"]
  | value : HasPart [.key "value"]

/-- The path leads to the name of a model, to a part of one of its fields, to one of its attributes
or to a part of it. -/
inductive Model.HasPart (model : Model) : List Segment → Prop
  | name : HasPart model [.key "name"]
  | field {i : Nat} {field : Field} {path : List Segment} (here : model.fields[i]? = some field)
      (part : field.HasPart path) : HasPart model ([.key "fields", .index i] ++ path)
  | mark {i : Nat} (bound : i < model.attributes.length) :
      HasPart model [.key "attributes", .index i]
  | inMark {i : Nat} {path : List Segment} (bound : i < model.attributes.length)
      (part : BlockAttribute.HasPart path) :
      HasPart model ([.key "attributes", .index i] ++ path)

/-- The path leads to an end of a relationship, to its mappings, to one of them or to a side of
it. -/
inductive Relationship.HasPart (relationship : Relationship) : List Segment → Prop
  | source : HasPart relationship [.key "fromModel"]
  | target : HasPart relationship [.key "toModel"]
  | mappings : HasPart relationship [.key "fields"]
  | mapping {i : Nat} (bound : i < relationship.mappings.length) :
      HasPart relationship [.key "fields", .index i]
  | fieldName {i : Nat} (bound : i < relationship.mappings.length) :
      HasPart relationship [.key "fields", .index i, .key "fieldName"]
  | referencedField {i : Nat} (bound : i < relationship.mappings.length) :
      HasPart relationship [.key "fields", .index i, .key "referencedField"]

/-- Appending to plain paths. -/
theorem IsPlainPath.append {path other : List Segment} (plain : IsPlainPath path)
    (plain' : IsPlainPath other) : IsPlainPath (path ++ other) :=
  List.forall_mem_append.mpr ⟨plain, plain'⟩

/-- A position under a plain key. -/
theorem isPlainPath_entry {name : String} (plain : (Segment.key name).IsPlain) (position : Int) :
    IsPlainPath [.key name, .index position] :=
  List.forall_mem_cons.mpr ⟨plain, List.forall_mem_singleton.mpr trivial⟩

theorem Field.HasPart.isPlainPath {field : Field} {path : List Segment}
    (part : field.HasPart path) : IsPlainPath path := by
  cases part with
  | name | type | default | attributes => decide
  | token => exact isPlainPath_entry (by decide) _

theorem BlockAttribute.HasPart.isPlainPath {path : List Segment}
    (part : BlockAttribute.HasPart path) : IsPlainPath path := by
  cases part with
  | name | value => decide

theorem Model.HasPart.isPlainPath {model : Model} {path : List Segment}
    (part : model.HasPart path) : IsPlainPath path := by
  cases part with
  | name => decide
  | field _ part => exact (isPlainPath_entry (by decide) _).append part.isPlainPath
  | mark => exact isPlainPath_entry (by decide) _
  | inMark _ part => exact (isPlainPath_entry (by decide) _).append part.isPlainPath

theorem Relationship.HasPart.isPlainPath {relationship : Relationship} {path : List Segment}
    (part : relationship.HasPart path) : IsPlainPath path := by
  cases part with
  | source | target | mappings => decide
  | mapping => exact isPlainPath_entry (by decide) _
  | fieldName | referencedField =>
    exact (isPlainPath_entry (by decide) _).append (List.forall_mem_singleton.mpr (by decide))

/-! ## Places of diagnostics -/

/-- Every diagnostic has a place in an entity of the kind, at a part of it. -/
def LocatedIn (entity : String) (hasPart : List Segment → Prop) (found : List Diagnostic) : Prop :=
  ∀ diagnostic ∈ found, ∃ path, diagnostic.location? = some ⟨entity, path⟩ ∧ hasPart path

namespace LocatedIn

variable {α : Type} {entity : String} {hasPart : List Segment → Prop}
  {found others : List Diagnostic}

theorem nil : LocatedIn entity hasPart [] := nofun

theorem append (here : LocatedIn entity hasPart found) (there : LocatedIn entity hasPart others) :
    LocatedIn entity hasPart (found ++ others) :=
  List.forall_mem_append.mpr ⟨here, there⟩

theorem singleton {path : List Segment} (part : hasPart path) (finding : Finding) :
    LocatedIn entity hasPart [.located finding entity path] :=
  List.forall_mem_singleton.mpr ⟨path, rfl, part⟩

theorem ite {condition : Prop} [Decidable condition] (here : LocatedIn entity hasPart found)
    (there : LocatedIn entity hasPart others) :
    LocatedIn entity hasPart (if condition then found else others) :=
  forall_mem_ite here there

/-- A check that finds something at a position only if there is an entry. -/
theorem sweep {check : List α → Nat → α → List Diagnostic} {entries : List α}
    (each : ∀ earlier position entry, entries[position]? = some entry →
      LocatedIn entity hasPart (check earlier position entry)) :
    LocatedIn entity hasPart (sweep check [] 0 entries) :=
  forall_mem_sweep [] 0 fun before i entry here => by
    rw [Nat.zero_add]
    exact each before i entry here

/-- What is located in a part is located in the entity that holds the part. -/
theorem rebase (located : LocatedIn entity hasPart found) {holder : String}
    {front : List Segment} {hasPart' : List Segment → Prop}
    (part : ∀ path, hasPart path → hasPart' (front ++ path)) :
    ∀ diagnostic ∈ found, ∃ path,
      (diagnostic.rebase holder front).location? = some ⟨holder, path⟩ ∧ hasPart' path := by
  intro diagnostic inside
  obtain ⟨path, place, there⟩ := located diagnostic inside
  refine ⟨front ++ path, ?_, part path there⟩
  rw [Diagnostic.rebase, place]
  rfl

end LocatedIn

/-- The test of a name finds something only at the name. -/
theorem locatedIn_shapeFindings {entity : String} {hasPart : List Segment → Prop}
    {path : List Segment} (part : hasPart path) (missing malformed : Finding)
    {empty passes : Bool} :
    LocatedIn entity hasPart
      (if empty then [.located missing entity path]
        else if passes then [] else [.located malformed entity path]) :=
  .ite (.singleton part _) (.ite .nil (.singleton part _))

namespace Field

theorem locatedIn_defaultFindings {field : Field} {found : List Diagnostic}
    (checked : field.defaultFindings = .ok found) : LocatedIn "field" field.HasPart found := by
  unfold defaultFindings at checked
  split at checked
  · obtain ⟨finding?, -, made⟩ := bind_eq_ok_iff.mp checked
    cases finding? with
    | none =>
      cases made
      exact .nil
    | some finding =>
      cases made
      exact .singleton .default _
  · cases checked
    exact .nil

theorem locatedIn_tokenFindings (field : Field) :
    LocatedIn "field" field.HasPart (tokenFindings [] 0 field.attributes) := by
  rw [tokenFindings_eq_sweep]
  refine .sweep fun earlier position token here => ?_
  have part : field.HasPart [.key "attributes", .index position] :=
    .token (List.getElem?_eq_some_iff.mp here).1
  exact .ite (.singleton part _) (.ite (.singleton part _) .nil)

/-- Everything that is found in a field is found at a part of it. -/
theorem locatedIn_validate {field : Field} {found : List Diagnostic}
    (validated : field.validate = .ok found) : LocatedIn "field" field.HasPart found := by
  obtain ⟨defaults, checked, made⟩ := bind_eq_ok_iff.mp validated
  cases made
  have name : LocatedIn "field" field.HasPart field.nameFindings :=
    locatedIn_shapeFindings .name _ _
  have type : LocatedIn "field" field.HasPart field.typeFindings :=
    .ite (.singleton .type _) (.ite .nil (.singleton .type _))
  have together : LocatedIn "field" field.HasPart field.attributeFindings :=
    .append (.ite (.singleton .attributes _) .nil) (.ite (.singleton .attributes _) .nil)
  exact .append (.append (.append (.append name type) (locatedIn_defaultFindings checked))
    field.locatedIn_tokenFindings) together

end Field

/-- Everything that is found in an attribute is found at a part of it. -/
theorem BlockAttribute.locatedIn_validate (mark : BlockAttribute) :
    LocatedIn "attribute" BlockAttribute.HasPart mark.validate := by
  unfold validate
  split
  · exact .singleton .name _
  · exact .ite (.singleton .value _) .nil

namespace Model

theorem locatedIn_repeatedNames (model : Model) :
    LocatedIn "model" model.HasPart (repeatedNames [] 0 model.fieldNames) := by
  rw [repeatedNames_eq_sweep]
  refine .sweep fun earlier position name here => ?_
  rw [fieldNames, List.getElem?_map, Option.map_eq_some_iff] at here
  obtain ⟨field, here, -⟩ := here
  exact .ite (.singleton (.field here .name) _) .nil

theorem locatedIn_repeatedAttributes (model : Model) :
    LocatedIn "model" model.HasPart (repeatedAttributes [] 0 model.attributes) := by
  rw [repeatedAttributes_eq_sweep]
  refine .sweep fun earlier position mark here => ?_
  have part : model.HasPart [.key "attributes", .index position] :=
    .mark (List.getElem?_eq_some_iff.mp here).1
  exact .ite (.singleton part _) (.ite (.singleton part _) .nil)

theorem locatedIn_fieldFindings {model : Model} {found : List Diagnostic}
    (validated : fieldFindings 0 model.fields = .ok found) :
    LocatedIn "model" model.HasPart found := by
  intro diagnostic reported
  obtain ⟨i, field, here, listed, checked, inner, inside, rfl⟩ :=
    exists_field_of_mem_fieldFindings validated reported
  rw [Nat.zero_add]
  exact (Field.locatedIn_validate checked).rebase (fun _ part => .field listed part) inner inside

theorem locatedIn_attributeFindings (model : Model) :
    LocatedIn "model" model.HasPart (attributeFindings 0 model.attributes) := by
  rw [attributeFindings_eq_sweep []]
  refine .sweep fun earlier position mark here => ?_
  exact List.forall_mem_map.mpr (mark.locatedIn_validate.rebase fun _ part =>
    .inMark (List.getElem?_eq_some_iff.mp here).1 part)

end Model

namespace Relationship

theorem locatedIn_mappingFindings (relationship : Relationship) (source? target? : Option Model) :
    LocatedIn "relationship" relationship.HasPart
      (mappingFindings source? target? 0 relationship.mappings) := by
  rw [mappingFindings_eq_sweep _ _ []]
  refine .sweep fun earlier position mapping here => ?_
  have bound := (List.getElem?_eq_some_iff.mp here).1
  exact .append (.ite (.singleton (.fieldName bound) _) .nil)
    (.ite (.singleton (.referencedField bound) _) .nil)

theorem locatedIn_repeatedMappings (relationship : Relationship) :
    LocatedIn "relationship" relationship.HasPart
      (repeatedMappings [] 0 relationship.mappings) := by
  rw [repeatedMappings_eq_sweep]
  refine .sweep fun earlier position mapping here => ?_
  exact .ite (.singleton (.mapping (List.getElem?_eq_some_iff.mp here).1) _) .nil

end Relationship

/-! ## Places of one validation -/

/-- Every diagnostic that has a place has it in an entity of the kind, at a part of it. -/
def PointsInto (entity : String) (hasPart : List Segment → Prop) (found : List Diagnostic) : Prop :=
  ∀ diagnostic ∈ found, ∀ location, diagnostic.location? = some location →
    location.entity = entity ∧ hasPart location.path

section PointsInto

variable {entity : String} {hasPart : List Segment → Prop} {found others : List Diagnostic}

theorem LocatedIn.pointsInto (located : LocatedIn entity hasPart found) :
    PointsInto entity hasPart found := by
  intro diagnostic inside location place
  obtain ⟨path, place', part⟩ := located diagnostic inside
  rw [place'] at place
  cases place
  exact ⟨rfl, part⟩

/-- What concerns an entity as a whole has no place. -/
theorem pointsInto_whole {condition : Prop} [Decidable condition] (finding : Finding) :
    PointsInto entity hasPart (if condition then [.whole finding] else []) := by
  intro diagnostic inside location place
  split at inside
  · cases List.mem_singleton.mp inside
    cases place
  · cases inside

theorem PointsInto.append (here : PointsInto entity hasPart found)
    (there : PointsInto entity hasPart others) : PointsInto entity hasPart (found ++ others) :=
  List.forall_mem_append.mpr ⟨here, there⟩

/-- Places that are written alike are one part, where all parts have plain paths. -/
theorem PointsInto.path_eq_of_text_eq (points : PointsInto entity hasPart found)
    (plain : ∀ path, hasPart path → IsPlainPath path) {diagnostic other : Diagnostic}
    (inside : diagnostic ∈ found) (inside' : other ∈ found) {location place : Location}
    (here : diagnostic.location? = some location) (there : other.location? = some place)
    (same : location.text = place.text) : location.path = place.path :=
  Location.path_eq_of_text_eq (plain _ (points diagnostic inside location here).2)
    (plain _ (points other inside' place there).2) same

end PointsInto

theorem Model.pointsInto_validate {model : Model} {found : List Diagnostic}
    (validated : model.validate = .ok found) : PointsInto "model" model.HasPart found := by
  obtain ⟨inFields, checked, made⟩ := bind_eq_ok_iff.mp validated
  cases made
  have name : LocatedIn "model" model.HasPart model.nameFindings :=
    locatedIn_shapeFindings .name _ _
  have emptiness : PointsInto "model" model.HasPart model.emptinessFindings :=
    pointsInto_whole .noFields
  exact ((((name.pointsInto.append emptiness).append model.locatedIn_repeatedNames.pointsInto).append
    model.locatedIn_repeatedAttributes.pointsInto).append
    (locatedIn_fieldFindings checked).pointsInto).append
    model.locatedIn_attributeFindings.pointsInto

theorem Relationship.pointsInto_endFindings (relationship : Relationship)
    (source? target? : Option Model) :
    PointsInto "relationship" relationship.HasPart
      (relationship.endFindings source? target?) := by
  refine .append (LocatedIn.pointsInto ?_) (pointsInto_whole .selfReference)
  exact .append (.ite (.singleton .source _) .nil) (.ite (.singleton .target _) .nil)

theorem Relationship.pointsInto_validate (relationship : Relationship) (models : List Model) :
    PointsInto "relationship" relationship.HasPart (relationship.validate models) := by
  have emptiness : LocatedIn "relationship" relationship.HasPart relationship.emptinessFindings :=
    .ite (.singleton .mappings _) .nil
  exact (((relationship.pointsInto_endFindings _ _).append emptiness.pointsInto).append
    (relationship.locatedIn_mappingFindings _ _).pointsInto).append
    relationship.locatedIn_repeatedMappings.pointsInto

/-- Every diagnostic of a model that has a place names a part of the model that is there, and every
diagnostic of a relationship one of the relationship. Places of one validation that are written
alike are one path. -/
theorem pointsInto_of_validate :
    (∀ (model : Model) (found : List Diagnostic), model.validate = .ok found →
      PointsInto "model" model.HasPart found ∧
        ∀ diagnostic ∈ found, ∀ other ∈ found, ∀ location place,
          diagnostic.location? = some location → other.location? = some place →
          location.text = place.text → location.path = place.path) ∧
    ∀ (relationship : Relationship) (models : List Model),
      PointsInto "relationship" relationship.HasPart (relationship.validate models) ∧
        ∀ diagnostic ∈ relationship.validate models, ∀ other ∈ relationship.validate models,
          ∀ location place,
          diagnostic.location? = some location → other.location? = some place →
          location.text = place.text → location.path = place.path := by
  constructor
  · intro model found validated
    have points := Model.pointsInto_validate validated
    exact ⟨points, fun _ inside _ inside' _ _ here there same =>
      points.path_eq_of_text_eq (fun _ part => part.isPlainPath) inside inside' here there same⟩
  · intro relationship models
    have points := relationship.pointsInto_validate models
    exact ⟨points, fun _ inside _ inside' _ _ here there same =>
      points.path_eq_of_text_eq (fun _ part => part.isPlainPath) inside inside' here there same⟩

/-- The places of the diagnostics as they are written. -/
def writtenPlaces (found : List Diagnostic) : List String :=
  found.filterMap fun diagnostic => diagnostic.location?.map (·.text)

/-- In the crowded model eight places are named, and four in a relationship to a missing model that
maps a missing field twice. All of them are there. -/
theorem pointsInto_of_validate_crowded :
    (∃ found, Model.crowded.validate = .ok found ∧
      PointsInto "model" Model.crowded.HasPart found ∧
      writtenPlaces found =
        ["name", "fields[2].name", "attributes[1]", "attributes[2]", "attributes[4]",
          "fields[1].type", "fields[1].attributes", "attributes[5].value"]) ∧
      PointsInto "relationship"
        (Relationship.ofMappings [⟨"c", "b"⟩, ⟨"a", "b"⟩, ⟨"c", "b"⟩]).HasPart
        ((Relationship.ofMappings [⟨"c", "b"⟩, ⟨"a", "b"⟩, ⟨"c", "b"⟩]).validate
          [Model.crowded]) ∧
      writtenPlaces ((Relationship.ofMappings [⟨"c", "b"⟩, ⟨"a", "b"⟩, ⟨"c", "b"⟩]).validate
          [Model.crowded]) =
        ["toModel", "fields[0].fieldName", "fields[2].fieldName", "fields[2]"] := by
  obtain ⟨models, relationships⟩ := pointsInto_of_validate
  refine ⟨?_, (relationships _ _).1, by decide⟩
  obtain ⟨found, validated⟩ : ∃ found, Model.crowded.validate = .ok found := ⟨_, rfl⟩
  refine ⟨found, validated, (models _ found validated).1, ?_⟩
  cases validated
  decide

end SchemaDesk
