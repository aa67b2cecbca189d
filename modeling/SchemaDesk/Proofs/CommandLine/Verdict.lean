import SchemaDesk.CommandLine.Basic
import SchemaDesk.Proofs.Edit.Refusal
import SchemaDesk.Proofs.Number.Notation
import SchemaDesk.Proofs.Text.ControlSequence
import SchemaDesk.Proofs.Workspace.Growth

/-!
# The verdict on a saved schema

The command that validates a file reports the diagnostics of all models and then
of all relationships. It fails exactly if an error is among them, which is so
exactly if one of the models or relationships would be refused when it is added
to the schema once more. Otherwise it tells the number of warnings.
-/

namespace SchemaDesk

/-- The owner of the diagnostics of a model has the model's name, or its id if the name is empty. -/
theorem Model.ownerName_eq (model : Model) :
    model.ownerName = "model " ++ if model.name = "" then model.id else model.name := by
  simp only [ownerName, String.isEmpty_iff]

/-- The owner of the diagnostics of a relationship has the names of both ends; the last model with
the id of an end gives it its name, and an unknown id stands for itself. -/
theorem Relationship.ownerName_eq (relationship : Relationship) (models : List Model) :
    relationship.ownerName (nameTable models) =
      "relationship " ++ ((resolve? models relationship.source).map (·.name)).getD
        relationship.source ++ " -> " ++
        ((resolve? models relationship.target).map (·.name)).getD relationship.target := by
  rw [ownerName, nameOf_nameTable, nameOf_nameTable]

/-- Where models are validated one by one, their diagnostics are collected in their order. -/
theorem modelDiagnostics_of_validate {models : List Model} {found : Model → List Diagnostic}
    (validated : ∀ model ∈ models, model.validate = .ok (found model)) :
    modelDiagnostics models = .ok (models.flatMap fun model => (found model).map
      (⟨"model " ++ if model.name = "" then model.id else model.name, ·⟩)) := by
  induction models with
  | nil => rfl
  | cons model models ih =>
    rw [List.forall_mem_cons] at validated
    simp [modelDiagnostics, validated.1, ih validated.2, Model.ownerName_eq, bind, Except.bind]

namespace Schema

/-- The diagnostics of a schema whose models have the given ones: those of every model and then those
of every relationship, with the names of their owners. -/
def collected (schema : Schema) (found : Model → List Diagnostic) : List OwnedDiagnostic :=
  (schema.models.flatMap fun model => (found model).map
    (⟨"model " ++ if model.name = "" then model.id else model.name, ·⟩)) ++
  schema.relationships.flatMap fun relationship => (relationship.validate schema.models).map
    (⟨"relationship " ++ ((resolve? schema.models relationship.source).map (·.name)).getD
        relationship.source ++ " -> " ++
        ((resolve? schema.models relationship.target).map (·.name)).getD relationship.target, ·⟩)

theorem relationshipDiagnostics_eq (schema : Schema) (relationship : Relationship) :
    schema.relationshipDiagnostics relationship = (relationship.validate schema.models).map
      (⟨"relationship " ++ ((resolve? schema.models relationship.source).map (·.name)).getD
          relationship.source ++ " -> " ++
          ((resolve? schema.models relationship.target).map (·.name)).getD
            relationship.target, ·⟩) := by
  rw [relationshipDiagnostics, Relationship.ownerName_eq]

variable {schema : Schema} {found : Model → List Diagnostic}

theorem diagnostics_of_validate
    (validated : ∀ model ∈ schema.models, model.validate = .ok (found model)) :
    schema.diagnostics = .ok (schema.collected found) := by
  rw [diagnostics, modelDiagnostics_of_validate validated, funext schema.relationshipDiagnostics_eq]
  rfl

/-- An error is collected exactly if some model or some relationship has one. -/
theorem hasErrors_collected_iff :
    hasErrors ((schema.collected found).map (·.diagnostic)) = true ↔
      (∃ model ∈ schema.models, hasErrors (found model) = true) ∨
        ∃ relationship ∈ schema.relationships,
          hasErrors (relationship.validate schema.models) = true := by
  simp [collected, hasErrors]

/-- A schema has an error exactly if one of its models or relationships is refused when it is added
once more. -/
theorem hasErrors_collected_iff_refused
    (validated : ∀ model ∈ schema.models, model.validate = .ok (found model)) (newId : String) :
    hasErrors ((schema.collected found).map (·.diagnostic)) = true ↔
      (∃ model ∈ schema.models, ∃ error,
        (Edit.addModel model true).apply schema newId = .error error ∧ error.isRefusal = true) ∨
        ∃ relationship ∈ schema.relationships, ∃ error,
          (Edit.addRelationship relationship true).apply schema newId = .error error ∧
            error.isRefusal = true := by
  rw [hasErrors_collected_iff]
  refine or_congr ?_ ?_
  · refine exists_congr fun model => and_congr_right fun inside => ?_
    have proposed : (Edit.addModel model true).propose schema newId =
        .ok ⟨.model model, schema.appendModel { model with id := newId }⟩ := rfl
    exact (Edit.refused_iff_hasErrors proposed (validated model inside)).symm
  · refine exists_congr fun relationship => and_congr_right fun _ => ?_
    exact (Edit.refused_iff_hasErrors rfl rfl).symm

end Schema

/-- The report of diagnostics consists of whole lines. -/
theorem OwnedDiagnostic.whole_report (diagnostics : List OwnedDiagnostic) :
    (String.join (diagnostics.map line)).toList = [] ∨
      ∃ front, (String.join (diagnostics.map line)).toList = front ++ ['\n'] := by
  rcases diagnostics.eq_nil_or_concat with rfl | ⟨front, last, rfl⟩
  · exact .inl (by simp [String.join_nil])
  · have feed : "\n".toList = ['\n'] := by decide
    rw [List.concat_eq_append, List.map_append, String.join_append, List.map_singleton,
      String.join_cons, String.join_nil, String.append_empty, line, String.toList_append,
      String.toList_append, feed, ← List.append_assoc]
    exact .inr ⟨_, rfl⟩

namespace Outcome

/-- The report is printed in the same way whatever is printed behind it. -/
theorem printed_report_append (diagnostics : List OwnedDiagnostic) (last : String) :
    printed (String.join (diagnostics.map OwnedDiagnostic.line) ++ last) =
      printed (String.join (diagnostics.map OwnedDiagnostic.line)) ++ printed last := by
  have lines := OwnedDiagnostic.whole_report diagnostics
  rw [printed, String.toList_append, Text.dropControlSequences_append lines, String.ofList_append]
  rfl

theorem printed_validLine (warnings : Nat) : printed (validLine warnings) = validLine warnings := by
  have opening : '\x1b' ∉ "✓ Schema is valid (".toList := by decide
  have closing : '\x1b' ∉ " warning(s))\n".toList := by decide
  have number : '\x1b' ∉ (toString warnings).toList := by
    rw [Nat.toString_eq_repr, Nat.toList_repr]
    exact fun inside => absurd (Number.isDigit_of_mem_natText '\x1b' inside) (by decide)
  have joined {first second : String} (plain : '\x1b' ∉ first.toList)
      (plain' : '\x1b' ∉ second.toList) : '\x1b' ∉ (first ++ second).toList := by
    simp [plain, plain']
  have plain : '\x1b' ∉ (validLine warnings).toList := joined (joined opening number) closing
  rw [printed, Text.dropControlSequences_eq_self _ plain, String.ofList_toList]

end Outcome

/-- Diagnostics without errors are warnings. -/
theorem warnings_eq_self {diagnostics : List Diagnostic} (clean : hasErrors diagnostics = false) :
    warnings diagnostics = diagnostics :=
  List.filter_eq_self.mpr fun diagnostic inside => by
    rw [hasErrors_eq_false_iff.mp clean diagnostic inside, Bool.not_false]

/-- An error among the diagnostics makes the answer a failure; otherwise it ends with the number of
warnings. -/
theorem validationOutcome_spec (logging : Logging) (diagnostics : List OwnedDiagnostic) :
    (validationOutcome logging diagnostics).escaped? = none ∧
      ((validationOutcome logging diagnostics).status = 1 ↔
        hasErrors (diagnostics.map (·.diagnostic)) = true) ∧
      (hasErrors (diagnostics.map (·.diagnostic)) = false →
        (validationOutcome logging diagnostics).status = 0 ∧
          (validationOutcome logging diagnostics).output =
            Outcome.printed (String.join (diagnostics.map OwnedDiagnostic.line)) ++
              validLine (warnings (diagnostics.map (·.diagnostic))).length) := by
  cases blocked : hasErrors (diagnostics.map (·.diagnostic)) with
  | true =>
    rw [validationOutcome, blocked]
    exact ⟨rfl, ⟨fun _ => rfl, fun _ => rfl⟩, nofun⟩
  | false =>
    rw [warnings_eq_self blocked, List.length_map, ← Outcome.printed_validLine,
      ← Outcome.printed_report_append, validationOutcome, blocked]
    exact ⟨rfl, ⟨nofun, nofun⟩, fun _ => ⟨rfl, rfl⟩⟩

section Setting

variable {surroundings : Surroundings} {logging prepared : Logging} {file : String}
  {schema : Schema} {diagnostics : List OwnedDiagnostic}

/-- Settings that are kept are read without a change. -/
theorem withSettings_of_setUp {settings : Settings}
    (ready : logging.setUp none none none = (.ok (), prepared))
    (kept : prepared.configuration.settings? = some settings)
    (next : Settings → Logging → Outcome) : withSettings logging next = next settings prepared := by
  unfold withSettings
  rw [ready]
  dsimp only
  rw [Configuration.get_of_kept kept]

/-- Where logging cannot be set up, its error escapes before anything else is done. -/
theorem withSettings_of_error {error : LoggingError}
    (refused : logging.setUp none none none = (.error error, prepared))
    (next : Settings → Logging → Outcome) :
    withSettings logging next = .escaped prepared (.logging error) := by
  unfold withSettings
  rw [refused]

theorem withSchema_of_load (next : Schema → Outcome)
    (loaded : logging.configuration.workspace.load surroundings.ids (.ofText file) = .ok schema) :
    withSchema surroundings logging file next = next schema := by
  unfold withSchema
  rw [loaded]

/-- Where logging can be set up, the command answers for the schema that the file holds. -/
theorem Command.run_validate_of_load
    (ready : logging.setUp none none none = (.ok (), prepared))
    (loaded : logging.configuration.workspace.load surroundings.ids (.ofText file) = .ok schema)
    (collected : schema.diagnostics = .ok diagnostics) :
    (Command.validate file).run surroundings logging =
      validationOutcome (prepared.recordAll surroundings.time schema.journal) diagnostics := by
  obtain ⟨settings, kept⟩ := Logging.settings?_of_setUp ready
  have grows := logging.grows_setUp none none none
  rw [ready] at grows
  rw [run, withSettings_of_setUp ready kept, withSchema_of_load _ (grows.load loaded),
    validateCommand, collected]

end Setting

/-- The verdict of the command agrees with the gate. The diagnostics of a schema are those of its
models and then those of its relationships, in their order and with their owners. An error is among
them exactly if one of the models or relationships would be refused when it is added once more. For a
file that holds the schema, the command fails exactly if logging cannot be set up, whose error escapes
then, or if an error is among them. Otherwise it succeeds and tells the number of warnings in its last
line. -/
theorem verdict_of_load (surroundings : Surroundings) (logging : Logging) {file : String}
    {schema : Schema} {found : Model → List Diagnostic}
    (loaded : logging.configuration.workspace.load surroundings.ids (.ofText file) = .ok schema)
    (validated : ∀ model ∈ schema.models, model.validate = .ok (found model)) (newId : String) :
    schema.diagnostics = .ok (schema.collected found) ∧
      (hasErrors ((schema.collected found).map (·.diagnostic)) = true ↔
        (∃ model ∈ schema.models, ∃ error,
          (Edit.addModel model true).apply schema newId = .error error ∧
            error.isRefusal = true) ∨
          ∃ relationship ∈ schema.relationships, ∃ error,
            (Edit.addRelationship relationship true).apply schema newId = .error error ∧
              error.isRefusal = true) ∧
      ∃ outcome, (Command.validate file).run surroundings logging = outcome ∧
        (outcome.status = 1 ↔ ¬ logging.CanSetUp ∨
          hasErrors ((schema.collected found).map (·.diagnostic)) = true) ∧
        (∀ error, outcome.escaped? = some error ↔
          ∃ cause, (logging.setUp none none none).1 = .error cause ∧ .logging cause = error) ∧
        (logging.CanSetUp → hasErrors ((schema.collected found).map (·.diagnostic)) = false →
          outcome.status = 0 ∧
            outcome.output =
              Outcome.printed (String.join ((schema.collected found).map OwnedDiagnostic.line)) ++
                validLine (warnings ((schema.collected found).map (·.diagnostic))).length) := by
  have collected := Schema.diagnostics_of_validate validated
  refine ⟨collected, Schema.hasErrors_collected_iff_refused validated newId, _, rfl, ?_⟩
  rw [← logging.setUp_eq_ok_iff]
  cases ends : (logging.setUp none none none).1 with
  | error error =>
    rw [Command.run, withSettings_of_error (Prod.ext ends rfl)]
    refine ⟨⟨fun _ => .inl nofun, fun _ => rfl⟩, fun escaped => ?_, nofun⟩
    constructor
    · rintro ⟨⟩
      exact ⟨error, rfl, rfl⟩
    · rintro ⟨cause, ⟨⟩, rfl⟩
      rfl
  | ok _ =>
    rw [Command.run_validate_of_load (Prod.ext ends rfl) loaded collected]
    obtain ⟨expected, status, success⟩ := validationOutcome_spec
      ((logging.setUp none none none).2.recordAll surroundings.time schema.journal)
      (schema.collected found)
    refine ⟨?_, fun error => ?_, fun _ => success⟩
    · rw [status]
      exact ⟨.inr, fun failed => failed.resolve_left fun refused => refused rfl⟩
    · rw [expected]
      exact ⟨nofun, fun ⟨cause, refused, _⟩ => nomatch refused⟩

/-- Two saved schemas: one with a model without fields, and the same under a name that no model may
have. -/
def drafts : Workspace where
  nodes :=
    [(["draft.json"], .file (Text.Utf8.encode
        "\x7b\"models\":[\x7b\"id\":\"u\",\"name\":\"User\"\x7d]\x7d".toList)),
      (["broken.json"], .file (Text.Utf8.encode
        "\x7b\"models\":[\x7b\"id\":\"u\",\"name\":\"user\"\x7d]\x7d".toList))]
  directory := []
  environment := []

/-- The first draft is valid with a warning; the second has an error, and its model is refused. -/
theorem verdict_of_load_drafts :
    (Logging.start drafts).CanSetUp ∧
      drafts.load (fun _ => "new") (.ofText "draft.json") = .ok ⟨[⟨"u", "User", [], []⟩], []⟩ ∧
      (∃ outcome, (Command.validate "draft.json").run ⟨fun _ => "new", "12:00"⟩
          (Logging.start drafts) = outcome ∧ outcome.status = 0 ∧
        outcome.output =
          "WARNING: model User: Model should have at least one field\n" ++ validLine 1) ∧
      drafts.load (fun _ => "new") (.ofText "broken.json") = .ok ⟨[⟨"u", "user", [], []⟩], []⟩ ∧
      (∃ outcome, (Command.validate "broken.json").run ⟨fun _ => "new", "12:00"⟩
          (Logging.start drafts) = outcome ∧ outcome.status = 1) ∧
      ∃ error, (Edit.addModel ⟨"u", "user", [], []⟩ true).apply ⟨[⟨"u", "user", [], []⟩], []⟩ "v" =
        .error error ∧ error.isRefusal = true := by
  have ready : (Logging.start drafts).CanSetUp :=
    (Logging.setUp_eq_ok_iff _).mp (by decide +kernel)
  have draft : drafts.load (fun _ => "new") (.ofText "draft.json") =
      .ok ⟨[⟨"u", "User", [], []⟩], []⟩ := by decide +kernel
  have broken : drafts.load (fun _ => "new") (.ofText "broken.json") =
      .ok ⟨[⟨"u", "user", [], []⟩], []⟩ := by decide +kernel
  have warned : ∀ model ∈ [(⟨"u", "User", [], []⟩ : Model)],
      model.validate = .ok ((fun _ => [.whole .noFields]) model) := by decide
  have blocked : ∀ model ∈ [(⟨"u", "user", [], []⟩ : Model)], model.validate =
      .ok ((fun _ => [Model.reportAt .modelNameMalformed [.key "name"], .whole .noFields])
        model) := by decide
  refine ⟨ready, draft, ?_, broken, ?_⟩
  · obtain ⟨-, -, outcome, ran, -, -, success⟩ :=
      verdict_of_load ⟨fun _ => "new", "12:00"⟩ (Logging.start drafts) draft warned "v"
    obtain ⟨status, output⟩ := success ready (by decide)
    exact ⟨outcome, ran, status, output.trans (by decide)⟩
  · obtain ⟨-, refused, outcome, ran, status, -⟩ :=
      verdict_of_load ⟨fun _ => "new", "12:00"⟩ (Logging.start drafts) broken blocked "v"
    refine ⟨⟨outcome, ran, status.mpr (.inr (by decide))⟩, ?_⟩
    rcases refused.mp (by decide) with ⟨model, inside, refusal⟩ | ⟨relationship, inside, -⟩
    · rwa [List.mem_singleton.mp inside] at refusal
    · cases inside

/-- The same saved schemas where the level of logging is none. -/
def misconfigured : Workspace := { drafts with environment := [("LOG_LEVEL", "verbose")] }

/-- The first draft has no error, and yet the command fails where logging cannot be set up. -/
theorem validate_misconfigured :
    misconfigured.load (fun _ => "new") (.ofText "draft.json") =
        .ok ⟨[⟨"u", "User", [], []⟩], []⟩ ∧
      Schema.IsValid ⟨[⟨"u", "User", [], []⟩], []⟩ ∧
      ((Command.validate "draft.json").run ⟨fun _ => "new", "12:00"⟩
        (Logging.start misconfigured)).status = 1 := by
  refine ⟨by decide +kernel, ?_, by decide +kernel⟩
  exact ⟨[⟨"model User", .whole .noFields⟩], by decide, by decide⟩

end SchemaDesk
