import SchemaDesk.Document.Relation
import SchemaDesk.Proofs.Document.FreeName
import SchemaDesk.Proofs.Validation.Model

/-!
# Names of relation members

Every member takes a name that is free, and from then on that name is taken. So
the members of a model block never share a name with each other or with an
ordinary field, whatever the relationships are.
-/

namespace SchemaDesk

/-- Naming keeps all names apart: the chosen ones from each other and from those taken before. -/
theorem nodup_nameMembers (taken : List String) (members : List RelationMember) :
    ((nameMembers taken members).map (·.name)).Nodup ∧
      ∀ member ∈ nameMembers taken members, member.name ∉ taken := by
  -- What is chosen counts as taken from then on, so the taken names vary along the way.
  induction members generalizing taken with
  | nil => simp [nameMembers]
  | cons member members ih =>
    obtain ⟨distinct, apart⟩ := ih (freeName taken member.name :: taken)
    rw [nameMembers, List.map_cons, List.nodup_cons, List.forall_mem_cons]
    refine ⟨⟨fun repeated => ?_, distinct⟩, freeName_not_mem taken member.name, ?_⟩
    · obtain ⟨other, later, same⟩ := List.mem_map.mp repeated
      exact apart other later (same ▸ List.mem_cons_self)
    · exact fun other later earlier => apart other later (List.mem_cons_of_mem _ earlier)

namespace Model

/-- The check of names reports nothing but duplicates. -/
theorem finding_of_mem_repeatedNames {earlier names : List String} {position : Nat}
    {diagnostic : Diagnostic} (reported : diagnostic ∈ repeatedNames earlier position names) :
    ∃ name, diagnostic.finding = .duplicateField name := by
  induction names generalizing earlier position with
  | nil => cases reported
  | cons name names ih =>
    rw [repeatedNames] at reported
    rcases List.mem_append.mp reported with here | later
    · split at here
      · obtain rfl := List.mem_singleton.mp here
        exact ⟨name, rfl⟩
      · cases here
    · exact ih later

/-- Where validation reports no duplicate, the field names are distinct. -/
theorem nodup_fieldNames_of_validate {model : Model} {found : List Diagnostic}
    (checked : model.validate = .ok found)
    (unique : ∀ diagnostic ∈ found, ∀ name, diagnostic.finding ≠ .duplicateField name) :
    model.fieldNames.Nodup := by
  unfold validate at checked
  cases fields : fieldFindings 0 model.fields with
  | error failure => simp [fields, bind, Except.bind] at checked
  | ok ofFields =>
    simp only [fields, bind, Except.bind, Except.ok.injEq] at checked
    subst checked
    have clean : hasErrors (repeatedNames [] 0 model.fieldNames) = false := by
      refine hasErrors_eq_false_iff.mpr fun diagnostic reported => ?_
      obtain ⟨name, duplicate⟩ := finding_of_mem_repeatedNames reported
      exact absurd duplicate (unique diagnostic (by simp [reported]) name)
    exact ((hasErrors_repeatedNames_eq_false_iff [] model.fieldNames 0).mp clean).1

/-- Relation members never collide: their names are distinct and none is the name of an ordinary
field. So where validation reports no duplicate field name, all members of the block have distinct
names. -/
theorem nodup_memberNames (model : Model) (relationships : List Relationship)
    (names : NameTable) :
    ((model.relationMembers relationships names).map (·.name)).Nodup ∧
      (∀ member ∈ model.relationMembers relationships names, member.name ∉ model.fieldNames) ∧
      ∀ found, model.validate = .ok found →
        (∀ diagnostic ∈ found, ∀ name, diagnostic.finding ≠ .duplicateField name) →
        (model.fieldNames ++ (model.relationMembers relationships names).map (·.name)).Nodup := by
  obtain ⟨distinct, apart⟩ :=
    nodup_nameMembers model.fieldNames (model.wishedMembers relationships names)
  refine ⟨distinct, apart, fun found checked unique => ?_⟩
  refine (nodup_fieldNames_of_validate checked unique).append distinct ?_
  intro name ordinary chosen
  obtain ⟨member, listed, rfl⟩ := List.mem_map.mp chosen
  exact apart member listed ordinary

/-- A model with a field that is named like a variant of its own name. -/
def follower : Model where
  id := "u"
  name := "User"
  fields :=
    [⟨"key", "Int", true, false, ["id"], none⟩, ⟨"userRelated", "String", true, false, [], none⟩]
  attributes := []

/-- A relationship of that model with itself. -/
def follows : Relationship := ⟨"f", "u", "u", .manyToMany, ⟨none, none, [⟨"key", "key"⟩]⟩⟩

theorem nodup_memberNames_follower :
    (follower.relationMembers [follows, follows] (nameTable [follower])).map (·.name) =
        ["user", "userRelated2", "userRelated3", "userRelated4"] ∧
      (follower.fieldNames ++
        (follower.relationMembers [follows, follows] (nameTable [follower])).map
          (·.name)).Nodup := by
  have clean : follower.validate = .ok [] := by decide
  refine ⟨by decide +kernel, ?_⟩
  exact (nodup_memberNames follower _ _).2.2 [] clean (by simp)

end Model

end SchemaDesk
