import SchemaDesk.Settings.Basic

/-!
# What an environment file adds

The nearest environment file gives values to names. Loading it adds the values
of those names that are no variables, in the order of the file, behind the
variables that are there. A value that cannot be one of a variable ends this.
-/

namespace SchemaDesk.EnvFile

/-- The entries that give a value to a key. -/
def values (bindings : List Binding) : List (String × String) :=
  bindings.filterMap fun binding => binding.2.map fun value => (binding.1, value)

/-- The bytes of the nearest environment file. -/
def bytes? (workspace : Workspace) : Option (List UInt8) :=
  match (find? workspace).bind workspace.node? with
  | some (.file bytes) => some bytes
  | _ => none

/-- The values that the nearest environment file gives, unless it is turned off. -/
def found (workspace : Workspace) : List (String × String) :=
  match bytes? workspace with
  | none => []
  | some bytes =>
    if isDisabled workspace then []
    else match Text.Utf8.decode bytes with
      | .error _ => []
      | .ok text => values (bindingsOf workspace.environment text)

/-- The values of names that are no variables. -/
def newAmong (workspace : Workspace) (entries : List (String × String)) : List (String × String) :=
  entries.filter fun entry => (workspace.valueOf? entry.1).isNone

/-- The values that loading the nearest environment file adds. -/
def additions (workspace : Workspace) : List (String × String) :=
  newAmong workspace (found workspace)

/-- The variables after all values of the nearest environment file were added. -/
def loaded (workspace : Workspace) : List (String × String) :=
  workspace.environment ++ additions workspace

/-- The name and the value can be those of a variable. -/
def isSettable (entry : String × String) : Bool :=
  (VariableError.find? entry.1 entry.2).isNone

/-- The values that are added before the first that cannot be one of a variable. -/
def added (workspace : Workspace) : List (String × String) :=
  (additions workspace).takeWhile isSettable

/-- The nearest environment file is turned off, or it is a text. -/
def IsLegible (workspace : Workspace) : Prop :=
  ∀ bytes, bytes? workspace = some bytes → isDisabled workspace = false →
    ∃ text, Text.Utf8.decode bytes = .ok text

/-! ## Bindings -/

/-- Every key has one last value. -/
theorem nodup_lastValues (resolved : List Binding) : ((lastValues resolved).map (·.1)).Nodup := by
  have kept (found rest : List Binding) (distinct : (found.map (·.1)).Nodup) :
      ((rest.foldl (fun found binding => Table.set binding.1 binding.2 found) found).map
        (·.1)).Nodup := by
    induction rest generalizing found with
    | nil => exact distinct
    | cons binding rest ih => exact ih _ (Table.nodup_set _ _ distinct)
  exact kept [] resolved List.nodup_nil

theorem map_fst_values_sublist (bindings : List Binding) :
    ((values bindings).map (·.1)).Sublist (bindings.map (·.1)) := by
  induction bindings with
  | nil => exact List.Sublist.slnil
  | cons binding rest ih =>
    obtain ⟨key, value?⟩ := binding
    cases value? with
    | none => exact ih.cons key
    | some value => exact ih.cons_cons key

/-- Every name has one value in a file. -/
theorem nodup_found (workspace : Workspace) : ((found workspace).map (·.1)).Nodup := by
  unfold found
  split
  · exact List.nodup_nil
  · split
    · exact List.nodup_nil
    · split
      · exact List.nodup_nil
      · exact (nodup_lastValues _).sublist (map_fst_values_sublist _)

theorem newAmong_cons_of_known {workspace : Workspace} {key value old : String}
    (rest : List (String × String)) (known : workspace.valueOf? key = some old) :
    newAmong workspace ((key, value) :: rest) = newAmong workspace rest := by
  simp [newAmong, known]

theorem newAmong_cons_of_new {workspace : Workspace} {key : String} (value : String)
    (rest : List (String × String)) (new : workspace.valueOf? key = none) :
    newAmong workspace ((key, value) :: rest) = (key, value) :: newAmong workspace rest := by
  simp [newAmong, new]

/-- Adding a variable does not make another name one. -/
theorem newAmong_withVariable (workspace : Workspace) {key : String} (value : String)
    {entries : List (String × String)} (apart : key ∉ entries.map (·.1)) :
    newAmong (workspace.withVariable key value) entries = newAmong workspace entries := by
  refine List.filter_congr fun entry inside => ?_
  have differs : entry.1 ≠ key := fun same => apart (same ▸ List.mem_map_of_mem inside)
  rw [Workspace.valueOf?, Workspace.withVariable, Table.lookup_set_of_ne value _ differs]
  rfl

/-- A new variable stands behind the others. -/
theorem environment_withVariable {workspace : Workspace} {key : String} (value : String)
    (new : workspace.valueOf? key = none) :
    workspace.withVariable key value =
      { workspace with environment := workspace.environment ++ [(key, value)] } := by
  have absent : key ∉ workspace.environment.map (·.1) := by
    intro inside
    obtain ⟨entry, there, rfl⟩ := List.mem_map.mp inside
    have unequal := List.lookup_eq_none_iff.mp new entry there
    simp at unequal
  rw [Workspace.withVariable, Table.set_of_not_mem value absent]

/-- Every name is added once. -/
theorem nodup_added (workspace : Workspace) : ((added workspace).map (·.1)).Nodup :=
  (nodup_found workspace).sublist
    (((List.takeWhile_sublist _).trans List.filter_sublist).map _)

/-- A variable that is added is new. -/
theorem valueOf?_of_mem_added {workspace : Workspace} {entry : String × String}
    (inside : entry ∈ added workspace) : workspace.valueOf? entry.1 = none := by
  have new := (List.mem_filter.mp ((List.takeWhile_prefix _).subset inside)).2
  simpa using new

/-- Adding variables keeps their names distinct. -/
theorem nodup_append_added {workspace : Workspace}
    (distinct : (workspace.environment.map (·.1)).Nodup) :
    ((workspace.environment ++ added workspace).map (·.1)).Nodup := by
  rw [List.map_append, List.nodup_append]
  refine ⟨distinct, nodup_added workspace, ?_⟩
  rintro name known other new rfl
  obtain ⟨⟨_, value⟩, there, rfl⟩ := List.mem_map.mp known
  obtain ⟨entry, inside, same⟩ := List.mem_map.mp new
  have absent := valueOf?_of_mem_added inside
  rw [same, Workspace.valueOf?, (Table.lookup_eq_some_iff_mem distinct).mpr there] at absent
  cases absent

/-- Bindings are added behind the variables up to the first that cannot be one. -/
theorem addBindings_eq (workspace : Workspace) {bindings : List Binding}
    (distinct : (bindings.map (·.1)).Nodup) :
    (addBindings workspace bindings).2 = { workspace with
        environment := workspace.environment ++
          (newAmong workspace (values bindings)).takeWhile isSettable } ∧
      ((addBindings workspace bindings).1 = .ok () ↔
        ∀ entry ∈ newAmong workspace (values bindings), isSettable entry = true) := by
  induction bindings generalizing workspace with
  | nil => simp [addBindings, values, newAmong]
  | cons binding rest ih =>
    obtain ⟨key, value?⟩ := binding
    rw [List.map_cons, List.nodup_cons] at distinct
    cases value? with
    | none =>
      have skipped : addBindings workspace ((key, none) :: rest) = addBindings workspace rest := by
        simp [addBindings]
      rw [skipped]
      exact ih workspace distinct.2
    | some value =>
      change _ = { workspace with environment := workspace.environment ++
          (newAmong workspace ((key, value) :: values rest)).takeWhile isSettable } ∧
        (_ ↔ ∀ entry ∈ newAmong workspace ((key, value) :: values rest), isSettable entry = true)
      cases known : workspace.valueOf? key with
      | some old =>
        rw [addBindings, newAmong_cons_of_known _ known]
        simpa [known] using ih workspace distinct.2
      | none =>
        simp only [addBindings, newAmong_cons_of_new _ _ known, known, Workspace.setVariable]
        cases refused : VariableError.find? key value with
        | some error => simp [isSettable, refused]
        | none =>
          have apart : key ∉ (values rest).map (·.1) := fun inside =>
            distinct.1 ((map_fst_values_sublist rest).subset inside)
          have later := ih (workspace.withVariable key value) distinct.2
          rw [newAmong_withVariable workspace value apart,
            environment_withVariable value known] at later
          simpa [isSettable, refused, environment_withVariable value known] using later

/-! ## The nearest file -/

theorem load_eq_of_none {workspace : Workspace} (missing : bytes? workspace = none) :
    load workspace = (.ok (), workspace) := by
  unfold bytes? at missing
  unfold load
  split
  · next bytes nearest => simp [nearest] at missing
  · rfl

theorem load_eq_of_some {workspace : Workspace} {bytes : List UInt8}
    (nearest : bytes? workspace = some bytes) :
    load workspace =
      if isDisabled workspace then (.ok (), workspace) else loadBytes workspace bytes := by
  unfold bytes? at nearest
  split at nearest
  · next _ same =>
    cases nearest
    simp [load, same]
  · cases nearest

theorem loadBytes_of_decode_error (workspace : Workspace) {bytes : List UInt8}
    {malformed : Text.Utf8.Malformed} (undecodable : Text.Utf8.decode bytes = .error malformed) :
    loadBytes workspace bytes = (.error (.undecodable malformed), workspace) := by
  simp [loadBytes, undecodable]

/-- Loading a text does what adding its bindings does. -/
theorem loadBytes_of_decode_ok (workspace : Workspace) {bytes : List UInt8} {text : List Char}
    (decoded : Text.Utf8.decode bytes = .ok text) :
    (loadBytes workspace bytes).2 =
        (addBindings workspace (bindingsOf workspace.environment text)).2 ∧
      ((loadBytes workspace bytes).1 = .ok () ↔
        (addBindings workspace (bindingsOf workspace.environment text)).1 = .ok ()) := by
  simp only [loadBytes, decoded]
  split
  · next refused => simp [refused]
  · next accepted => simp [accepted]

/-- What loading adds stands behind the variables, up to the first value that cannot be one.
Loading succeeds exactly if the file is a text and all that it adds can be variables. -/
theorem load_spec (workspace : Workspace) :
    (load workspace).2 =
      { workspace with environment := workspace.environment ++ added workspace } ∧
    ((load workspace).1 = .ok () ↔
      IsLegible workspace ∧ ∀ entry ∈ additions workspace, isSettable entry = true) := by
  cases nearest : bytes? workspace with
  | none => simp [load_eq_of_none nearest, added, additions, newAmong, found, IsLegible, nearest]
  | some bytes =>
    rw [load_eq_of_some nearest]
    cases switch : isDisabled workspace with
    | true => simp [added, additions, newAmong, found, IsLegible, nearest, switch]
    | false =>
      rw [if_neg Bool.false_ne_true]
      cases decoded : Text.Utf8.decode bytes with
      | error malformed =>
        simp [loadBytes_of_decode_error workspace decoded, added, additions, newAmong, found,
          IsLegible, nearest, switch, decoded]
      | ok text =>
        have same : additions workspace =
            newAmong workspace (values (bindingsOf workspace.environment text)) := by
          simp [additions, found, nearest, switch, decoded]
        have legible : IsLegible workspace := by
          intro other here on
          rw [nearest] at here
          cases here
          exact ⟨text, decoded⟩
        obtain ⟨environment, success⟩ := loadBytes_of_decode_ok workspace decoded
        have distinct : ((bindingsOf workspace.environment text).map (·.1)).Nodup :=
          nodup_lastValues _
        obtain ⟨behind, settable⟩ := addBindings_eq workspace distinct
        rw [added, environment, success, same, behind, settable]
        exact ⟨rfl, by simp [legible]⟩

/-- The current directory is searched first. -/
theorem candidates_eq_cons (directory : Place) :
    ∃ rest, candidates directory = (directory ++ [fileName]) :: rest := by
  rw [candidates, List.range_succ_eq_map]
  simp [searchDepth]

/-- The nearest file is the one in the current directory if the other directories that are
searched have none. -/
theorem bytes?_of_alone {workspace : Workspace}
    (alone : ∀ place ∈ candidates workspace.directory,
      place ≠ workspace.directory ++ [fileName] → workspace.node? place = none) :
    bytes? workspace = match workspace.node? (workspace.directory ++ [fileName]) with
      | some (.file bytes) => some bytes
      | _ => none := by
  have nearest : (find? workspace).bind workspace.node? =
      workspace.node? (workspace.directory ++ [fileName]) := by
    obtain ⟨rest, searched⟩ := candidates_eq_cons workspace.directory
    cases here : workspace.node? (workspace.directory ++ [fileName]) with
    | some node => simp [find?, searched, here]
    | none =>
      have nothing : find? workspace = none := by
        refine List.find?_eq_none.mpr fun place inside => ?_
        by_cases same : place = workspace.directory ++ [fileName]
        · simp [same, here]
        · simp [alone place inside same]
      simp [nothing]
  rw [bytes?, nearest]

end SchemaDesk.EnvFile
