import SchemaDesk.Proofs.CommandLine.Verdict
import SchemaDesk.Proofs.Storage.Writable
import SchemaDesk.Proofs.Workspace.Frame

/-!
# The document of a saved schema

The command that generates a document prints it or writes it into a file. Both
are the document of the schema under the preamble of the settings, whatever is
logged and whatever validation would say; what is printed lacks the control
sequences of the document. A file that does not load ends the command before
anything is printed or written; only the log file and the directories on its way
are made then.
-/

namespace SchemaDesk

namespace Outcome

/-- The command has succeeded with the output. -/
structure Succeeds (outcome : Outcome) (output : String) : Prop where
  status : outcome.status = 0
  escaped? : outcome.escaped? = none
  output : outcome.output = output

/-- The command has failed and has printed nothing. -/
structure FailsSilently (outcome : Outcome) : Prop where
  status : outcome.status = 1
  output : outcome.output = ""

/-- Printing changes a text exactly if it holds a control sequence. -/
theorem printed_eq_self_iff (text : String) :
    printed text = text ↔ ¬ Text.HasControlSequence text.toList := by
  rw [← Text.dropControlSequences_eq_self_iff, printed, ← String.toList_inj, String.toList_ofList]

theorem succeeds_done (logging : Logging) (output : String) :
    (done logging output).Succeeds (printed output) := ⟨rfl, rfl, rfl⟩

theorem failsSilently_failed (logging : Logging) (reason : String) :
    (failed logging "" reason).FailsSilently := ⟨rfl, rfl⟩

theorem workspace_failed (logging : Logging) (output reason : String) :
    (failed logging output reason).workspace = logging.configuration.workspace := rfl

end Outcome

variable {surroundings : Surroundings} {logging prepared : Logging} {settings : Settings}
  {file : String} {schema : Schema}

/-- The document of a schema on both ways out. It is printed without its control sequences, and it is
written as it is under every path where something can be saved, unless logging gets in its way. -/
structure GeneratesDocument (surroundings : Surroundings) (logging : Logging) (settings : Settings)
    (file document : String) : Prop where
  printed : ((Command.generate file none).run surroundings logging).Succeeds
    (Outcome.printed document)
  exact : ((Command.generate file none).run surroundings logging).output = document ↔
    ¬ Text.HasControlSequence document.toList
  written : ∀ out : String, logging.configuration.workspace.CanHold (.ofText out) →
    settings.LogsApartFrom logging.configuration.workspace (.ofText out) →
    ((Command.generate file (some out)).run surroundings logging).Succeeds
        (Outcome.printed (writtenLine (.ofText out))) ∧
      ((Command.generate file (some out)).run surroundings logging).workspace.fileBytes
          (.ofText out) =
        .ok (Text.Utf8.encode document.toList)

/-- The command fails and prints nothing. Below a place outside which the log file lies, it makes
nothing but directories on the way to the directory of the log file, and not even those if this way
never leads back. -/
structure FailsWithoutTrace (surroundings : Surroundings) (logging : Logging) (settings : Settings)
    (file : String) (out? : Option String) : Prop where
  silent : ((Command.generate file out?).run surroundings logging).FailsSilently
  stays_or_made : ∀ top, settings.LogsOutside logging.configuration.workspace top →
    ∀ place, top <+: place →
      ((Command.generate file out?).run surroundings logging).workspace.node? place =
          logging.configuration.workspace.node? place ∨
        (settings.LogPasses logging.configuration.workspace place ∧
          logging.configuration.workspace.node? place = none ∧
          ((Command.generate file out?).run surroundings logging).workspace.node? place =
            some .directory)
  stays : (∀ path, settings.logFile? = some path → logging.configuration.workspace.GoesOn path) →
    ∀ top, settings.LogsOutside logging.configuration.workspace top → ∀ place, top <+: place →
      ((Command.generate file out?).run surroundings logging).workspace.node? place =
        logging.configuration.workspace.node? place

/-- Where logging can be set up, the command goes on with the schema that the file holds then. -/
theorem Command.run_generate_of_load
    (ready : logging.setUp none none none = (.ok (), prepared))
    (kept : prepared.configuration.settings? = some settings)
    (loaded : prepared.configuration.workspace.load surroundings.ids (.ofText file) = .ok schema)
    (out? : Option String) :
    (Command.generate file out?).run surroundings logging =
      putOut (prepared.recordAll surroundings.time schema.documentJournal)
        (Document.render settings.preamble schema) (out?.map .ofText) := by
  rw [run, withSettings_of_setUp ready kept, withSchema_of_load _ loaded, generateCommand,
    Document.write_of_isWritable (isWritable_of_load loaded)]

/-- A document that can be saved is found under its path, and the command confirms it. -/
theorem putOut_of_saveText {path : FilePath} {document : String}
    (saved : (logging.configuration.workspace.saveText path document).1 = .ok ()) :
    (putOut logging document (some path)).Succeeds (Outcome.printed (writtenLine path)) ∧
      (putOut logging document (some path)).workspace.fileBytes path =
        .ok (Text.Utf8.encode document.toList) := by
  unfold putOut
  dsimp only
  split
  · next error _ failed =>
    rw [failed] at saved
    cases saved
  · next workspace written =>
    exact ⟨Outcome.succeeds_done _ _, Workspace.fileBytes_saveText written⟩

theorem generatesDocument_of_load (surroundings : Surroundings)
    (ready : logging.setUp none none none = (.ok (), prepared))
    (kept : prepared.configuration.settings? = some settings)
    (loaded : prepared.configuration.workspace.load surroundings.ids (.ofText file) = .ok schema) :
    GeneratesDocument surroundings logging settings file
      (Document.render settings.preamble schema) where
  printed := by
    rw [Command.run_generate_of_load ready kept loaded]
    exact Outcome.succeeds_done _ _
  exact := by
    rw [Command.run_generate_of_load ready kept loaded]
    exact Outcome.printed_eq_self_iff _
  written out holds apart := by
    obtain ⟨setUp, logsTo⟩ := Logging.onlyLogs_setUp ready kept
    -- The record of the document is made before the document is saved.
    have recorded := setUp.trans
      (Logging.onlyLogs_recordAll logsTo surroundings.time schema.documentJournal)
    have still := Settings.OnlyLogs.canHold recorded holds apart
    rw [Command.run_generate_of_load ready kept loaded]
    exact putOut_of_saveText ((Workspace.saveText_eq_ok_iff _).mpr still)

/-- A file that does not load is reported, or the error escapes. -/
theorem withSchema_of_error {error : LoadError}
    (broken : prepared.configuration.workspace.load surroundings.ids (.ofText file) = .error error)
    (next : Schema → Outcome) :
    withSchema surroundings prepared file next =
      if error.isReported then
        .failed (prepared.record surroundings.time (.ofCommandLine error.message)) ""
          ("Error: " ++ error.message)
      else .escaped prepared (.load error) := by
  unfold withSchema
  rw [broken]

/-- A file that does not load ends the command, which has then changed nothing but the log. -/
theorem failsSilently_of_load {error : LoadError}
    (ready : logging.setUp none none none = (.ok (), prepared))
    (kept : prepared.configuration.settings? = some settings)
    (broken : prepared.configuration.workspace.load surroundings.ids (.ofText file) = .error error)
    (out? : Option String) :
    ((Command.generate file out?).run surroundings logging).FailsSilently ∧
      settings.OnlyLogs logging.configuration.workspace logging.configuration.workspace
        ((Command.generate file out?).run surroundings logging).workspace := by
  obtain ⟨setUp, logsTo⟩ := Logging.onlyLogs_setUp ready kept
  rw [Command.run, withSettings_of_setUp ready kept, withSchema_of_error broken]
  by_cases reported : error.isReported
  · have recorded := Logging.onlyLogs_record logsTo surroundings.time (.ofCommandLine error.message)
    rw [if_pos reported, Outcome.workspace_failed]
    exact ⟨Outcome.failsSilently_failed _ _, setUp.trans recorded.1⟩
  · rw [if_neg reported]
    exact ⟨⟨rfl, rfl⟩, setUp⟩

theorem failsWithoutTrace_of_load {error : LoadError}
    (ready : logging.setUp none none none = (.ok (), prepared))
    (kept : prepared.configuration.settings? = some settings)
    (broken : prepared.configuration.workspace.load surroundings.ids (.ofText file) = .error error)
    (out? : Option String) : FailsWithoutTrace surroundings logging settings file out? := by
  obtain ⟨silent, only⟩ := failsSilently_of_load ready kept broken out?
  refine ⟨silent, fun top outside place below => only.stays_or_made outside below, ?_⟩
  intro goesOn top outside place below
  rcases only.stays_or_made outside below with same | ⟨passed, -⟩
  · exact same
  · obtain ⟨path, given, -⟩ := id passed
    exact absurd passed ((goesOn path given).not_logPasses given outside below)

/-- Where logging cannot be set up, its error escapes. Otherwise the command generates the document of
the schema that the file holds then, under the preamble of the settings, and a file that held a schema
before still holds it. The document depends on nothing else: not on the level of logging or the log
file, and not on what validation would find. A file that does not load ends the command without a
trace, also where a document should have been written. -/
theorem generatesDocument_of_setUp (surroundings : Surroundings) (logging : Logging)
    (file : String) :
    (¬ logging.CanSetUp →
      ∃ error prepared, logging.setUp none none none = (.error error, prepared) ∧
        ∀ out?, (Command.generate file out?).run surroundings logging =
          .escaped prepared (.logging error)) ∧
    (logging.CanSetUp →
      ∃ prepared settings, logging.setUp none none none = (.ok (), prepared) ∧
        prepared.configuration.settings? = some settings ∧
        (∀ schema,
          logging.configuration.workspace.load surroundings.ids (.ofText file) = .ok schema →
          prepared.configuration.workspace.load surroundings.ids (.ofText file) = .ok schema) ∧
        (∀ schema,
          prepared.configuration.workspace.load surroundings.ids (.ofText file) = .ok schema →
          ∃ document, Document.write settings.preamble schema = .ok document ∧
            GeneratesDocument surroundings logging settings file document) ∧
        ∀ error,
          prepared.configuration.workspace.load surroundings.ids (.ofText file) = .error error →
          ∀ out?, FailsWithoutTrace surroundings logging settings file out?) := by
  rw [← logging.setUp_eq_ok_iff]
  obtain ⟨ends, prepared, ready⟩ :
      ∃ ends prepared, logging.setUp none none none = (ends, prepared) := ⟨_, _, rfl⟩
  rw [ready]
  cases ends with
  | error error =>
    refine ⟨fun _ => ⟨error, prepared, rfl, fun out? => ?_⟩, nofun⟩
    rw [Command.run, withSettings_of_error ready]
  | ok _ =>
    refine ⟨fun refused => absurd rfl refused, fun _ => ?_⟩
    obtain ⟨settings, kept⟩ := Logging.settings?_of_setUp ready
    have grows := logging.grows_setUp none none none
    rw [ready] at grows
    refine ⟨prepared, settings, rfl, kept, fun schema loaded => grows.load loaded, ?_, ?_⟩
    · intro schema loaded
      exact ⟨_, Document.write_of_isWritable (isWritable_of_load loaded) settings.preamble,
        generatesDocument_of_load surroundings ready kept loaded⟩
    · exact fun error broken out? => failsWithoutTrace_of_load ready kept broken out?

/-- A saved schema that is no valid one, in a workspace where everything is logged into a file. -/
def observed : Workspace where
  nodes := [(["broken.json"], .file (Text.Utf8.encode
    "\x7b\"models\":[\x7b\"id\":\"u\",\"name\":\"user\"\x7d]\x7d".toList))]
  directory := []
  environment := [("DATASOURCE_PROVIDER", "mysql"), ("LOG_LEVEL", "debug"),
    ("LOG_FILE", "logs/desk.log")]

/-- The path of a document in a directory that is missing. -/
def documentPath : FilePath := ⟨.current, ["prisma", "schema.prisma"]⟩

theorem hasClearWay_documentPath : observed.HasClearWay documentPath where
  named := by decide
  sound := by decide
  usable := by
    intro name inside
    rcases List.mem_pair.mp inside with rfl | rfl
    · constructor <;> decide
    · constructor <;> decide
  start := rfl
  way := by
    intro front bytes inside
    rcases List.prefix_cons_iff.mp inside with rfl | ⟨rest, rfl, later⟩
    · simp [Workspace.node?, Workspace.startOf, documentPath, observed]
    · obtain rfl := List.eq_nil_of_prefix_nil later
      have vacant : observed.node? ["prisma"] = none := by decide
      intro found
      cases vacant.symm.trans found
  free := by decide

/-- The document is printed and written in spite of the error, and nothing is made for a file that is
missing. -/
theorem generatesDocument_of_setUp_observed :
    (Logging.start observed).CanSetUp ∧
    ((Command.generate "broken.json" none).run ⟨fun _ => "new", "12:00"⟩
        (Logging.start observed)).Succeeds
      (Outcome.printed (Document.render ⟨"mysql", "DATABASE_URL", "prisma-client-js"⟩
        ⟨[⟨"u", "user", [], []⟩], []⟩)) ∧
    ((Command.generate "broken.json" (some "prisma/schema.prisma")).run ⟨fun _ => "new", "12:00"⟩
        (Logging.start observed)).workspace.fileBytes documentPath =
      .ok (Text.Utf8.encode (Document.render ⟨"mysql", "DATABASE_URL", "prisma-client-js"⟩
        ⟨[⟨"u", "user", [], []⟩], []⟩).toList) ∧
    ((Command.generate "missing.json" (some "prisma/schema.prisma")).run ⟨fun _ => "new", "12:00"⟩
        (Logging.start observed)).FailsSilently ∧
    ((Command.generate "missing.json" (some "prisma/schema.prisma")).run ⟨fun _ => "new", "12:00"⟩
        (Logging.start observed)).workspace.node? ["prisma"] = none := by
  have ready : (Logging.start observed).CanSetUp :=
    (Logging.setUp_eq_ok_iff _).mp (by decide +kernel)
  have stored : ((Logging.start observed).setUp none none none).2.configuration.settings? =
      some ⟨"mysql", "DATABASE_URL", "prisma-client-js", "debug",
        some ⟨.current, ["logs", "desk.log"]⟩⟩ := by
    decide +kernel
  have loaded : observed.load (fun _ => "new") (.ofText "broken.json") =
      .ok ⟨[⟨"u", "user", [], []⟩], []⟩ := by decide +kernel
  have broken : ((Logging.start observed).setUp none none none).2.configuration.workspace.load
      (fun _ => "new") (.ofText "missing.json") = .error (.notFound (.ofText "missing.json")) := by
    decide +kernel
  have spelled : FilePath.ofText "prisma/schema.prisma" = documentPath := by decide
  have goesOn : observed.GoesOn ⟨.current, ["logs", "desk.log"]⟩ := ⟨by decide, by decide⟩
  obtain ⟨prepared, settings, setUp, kept, still, documents, -⟩ :=
    (generatesDocument_of_setUp ⟨fun _ => "new", "12:00"⟩ _ "broken.json").2 ready
  rw [setUp] at stored broken
  obtain rfl := Option.some.inj (kept.symm.trans stored)
  obtain ⟨prepared', settings, setUp', kept, -, -, failures⟩ :=
    (generatesDocument_of_setUp ⟨fun _ => "new", "12:00"⟩ _ "missing.json").2 ready
  cases setUp.symm.trans setUp'
  obtain rfl := Option.some.inj (kept.symm.trans stored)
  obtain ⟨text, written, document⟩ := documents _ (still _ loaded)
  obtain rfl := (writeShowing_eq_ok_iff.mp written).2
  refine ⟨ready, document.printed, ?_, ?_⟩
  · rw [← spelled]
    refine (document.written "prisma/schema.prisma" ?_ ⟨?_, ?_⟩).2
    · rw [spelled]
      exact hasClearWay_documentPath.canHold
    · intro place here passed
      rw [spelled] at passed
      obtain rfl := (goesOn.isLogPlace_iff rfl).mp here
      have above : observed.GoesOn documentPath := ⟨by decide, by decide⟩
      exact absurd (above.prefix_of_passes passed) (by decide)
    · rw [spelled]
      rintro ⟨path, given, passed⟩
      cases given
      exact absurd (goesOn.parent.prefix_of_passes passed) (by decide)
  · have failure := failures _ broken (some "prisma/schema.prisma")
    refine ⟨failure.silent, ?_⟩
    refine failure.stays ?_ ["prisma"] ?_ ["prisma"] (List.prefix_refl _)
    · rintro path ⟨⟩
      exact goesOn
    · intro place here below
      obtain rfl := (goesOn.isLogPlace_iff rfl).mp here
      exact absurd below (by decide)

/-- A schema with a table whose name is set in red. -/
def shades : Schema := ⟨[⟨"m", "Shade", [], [⟨"@@map", some "\x1b[31mred"⟩]⟩], []⟩

/-- The saved schema in a workspace of its own. -/
def palette : Workspace where
  nodes := [(["state.json"], .file (Text.Utf8.encode
    ("\x7b\"models\":[\x7b\"id\":\"m\",\"name\":\"Shade\",\"attributes\":[" ++
      "\x7b\"name\":\"@@map\",\"value\":\"\\u001b[31mred\"\x7d]\x7d]\x7d").toList))]
  directory := []
  environment := []

/-- A workspace where the way to the log file leads into a directory and back. -/
def detour : Workspace where
  nodes := []
  directory := []
  environment := [("LOG_FILE", "out/../desk.log")]

/-- The document of a valid schema is printed without an escape character and the four characters
after it. A directory on the way to the log file is made although no schema loads, and it would be
that of the document. -/
theorem generate_palette :
    (shades.IsValid ∧
      palette.load (fun _ => "new") (.ofText "state.json") = .ok shades ∧
      ((Command.generate "state.json" none).run ⟨fun _ => "new", "12:00"⟩
        (Logging.start palette)).status = 0 ∧
      ((Command.generate "state.json" none).run ⟨fun _ => "new", "12:00"⟩
        (Logging.start palette)).output ≠ Document.render Preamble.default shades) ∧
    detour.node? ["out"] = none ∧
      ((Command.generate "missing.json" (some "out/schema.prisma")).run ⟨fun _ => "new", "12:00"⟩
        (Logging.start detour)).status = 1 ∧
      ((Command.generate "missing.json" (some "out/schema.prisma")).run ⟨fun _ => "new", "12:00"⟩
        (Logging.start detour)).workspace.node? ["out"] = some .directory := by
  have ends : ((Logging.start palette).setUp none none none).1 = .ok () := by decide +kernel
  have ready : (Logging.start palette).setUp none none none =
      (.ok (), ((Logging.start palette).setUp none none none).2) := by rw [← ends]
  have kept : ((Logging.start palette).setUp none none none).2.configuration.settings? =
      some ⟨"postgresql", "DATABASE_URL", "prisma-client-js", "INFO", none⟩ := by decide +kernel
  have loaded : palette.load (fun _ => "new") (.ofText "state.json") = .ok shades := by
    decide +kernel
  have grows := (Logging.start palette).grows_setUp none none none
  have document := generatesDocument_of_load ⟨fun _ => "new", "12:00"⟩ ready kept
    (grows.load loaded)
  have preamble : Settings.preamble ⟨"postgresql", "DATABASE_URL", "prisma-client-js", "INFO",
      none⟩ = Preamble.default := rfl
  rw [preamble] at document
  have valid : shades.IsValid :=
    ⟨[⟨"model Shade", .whole .noFields⟩], by decide, by decide⟩
  refine ⟨⟨valid, loaded, document.printed.status, ?_⟩, rfl, by decide +kernel, by decide +kernel⟩
  rw [Ne, document.exact, ← Text.dropControlSequences_eq_self_iff]
  decide +kernel

end SchemaDesk
