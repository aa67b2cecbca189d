import SchemaDesk.Proofs.Settings.Reading

/-!
# Settings over time

Users set and remove variables and change files; the program loads the
environment file, gets settings and resets them. The values of an environment
file stay behind as variables, where nothing tells them from those that users
have set. Which of them are left over can be told from the events alone.
-/

namespace SchemaDesk

namespace Configuration

/-- What happens to a configuration, by users or by the program. -/
inductive Event where
  | set (name value : String)
  | unset (name : String)
  | arrange (nodes : List (Place × Node)) (directory : Place)
  | load
  | get
  | reset
deriving DecidableEq, Repr

/-- The configuration after an event. A variable that cannot be set is not. -/
def apply (configuration : Configuration) : Event → Configuration
  | .set name value =>
    match configuration.workspace.setVariable name value with
    | .ok workspace => { configuration with workspace }
    | .error _ => configuration
  | .unset name =>
    { configuration with workspace := configuration.workspace.unsetVariable name }
  | .arrange nodes directory =>
    { configuration with workspace := { configuration.workspace with nodes, directory } }
  | .load => { configuration with workspace := (EnvFile.load configuration.workspace).2 }
  | .get => configuration.get.2
  | .reset => configuration.reset

/-- The configuration after some events. -/
def after (configuration : Configuration) (events : List Event) : Configuration :=
  events.foldl apply configuration

/-- What users make of a variable by an event, if anything: a value, or no variable. -/
def Event.change? (name : String) : Event → Option (Option String)
  | .set other value =>
    if other = name ∧ VariableError.find? other value = none then some (some value) else none
  | .unset other => if other = name then some none else none
  | _ => none

/-- The event loads the environment file. -/
def Event.isReading (configuration : Configuration) : Event → Bool
  | .load => true
  | .get => configuration.settings?.isNone
  | _ => false

/-- The value that users have given a variable, if it has one by them. -/
def own? (environment : List (String × String)) (events : List Event) (name : String) :
    Option String :=
  events.foldl (fun value? event => (event.change? name).getD value?) (environment.lookup name)

/-- The variable was added by an earlier reading, and users have not changed it since. -/
def IsLeft (start : Configuration) (events : List Event) (entry : String × String) : Prop :=
  ∃ earlier event later, events = earlier ++ event :: later ∧
    event.isReading (start.after earlier) = true ∧
    entry ∈ EnvFile.added (start.after earlier).workspace ∧
    ∀ other ∈ later, other.change? entry.1 = none

variable {configuration start : Configuration} {events : List Event} {event : Event}
  {name value : String} {entry : String × String}

theorem after_append (start : Configuration) (first second : List Event) :
    start.after (first ++ second) = (start.after first).after second :=
  List.foldl_append

theorem after_snoc (start : Configuration) (events : List Event) (event : Event) :
    start.after (events ++ [event]) = (start.after events).apply event := by
  rw [after_append]
  rfl

theorem own?_snoc (environment : List (String × String)) (events : List Event) (event : Event)
    (name : String) :
    own? environment (events ++ [event]) name =
      (event.change? name).getD (own? environment events name) := by
  rw [own?, List.foldl_append]
  rfl

/-- What is left after an event was left before and is kept, or the event adds it. -/
theorem isLeft_snoc_iff : IsLeft start (events ++ [event]) entry ↔
    (IsLeft start events entry ∧ event.change? entry.1 = none) ∨
      event.isReading (start.after events) = true ∧
        entry ∈ EnvFile.added (start.after events).workspace := by
  constructor
  · rintro ⟨earlier, first, later, split, reads, added, untouched⟩
    rcases List.eq_nil_or_concat later with rfl | ⟨later, last, rfl⟩
    · obtain ⟨rfl, same⟩ := List.append_inj' split rfl
      cases same
      exact .inr ⟨reads, added⟩
    · rw [List.concat_eq_append, ← List.cons_append, ← List.append_assoc] at split
      obtain ⟨rfl, same⟩ := List.append_inj' split rfl
      cases same
      rw [List.concat_eq_append, List.forall_mem_append, List.forall_mem_singleton] at untouched
      exact .inl ⟨⟨earlier, first, later, rfl, reads, added, untouched.1⟩, untouched.2⟩
  · rintro (⟨⟨earlier, first, later, rfl, reads, added, untouched⟩, kept⟩ | ⟨reads, added⟩)
    · refine ⟨earlier, first, later ++ [event], by simp, reads, added, ?_⟩
      rw [List.forall_mem_append, List.forall_mem_singleton]
      exact ⟨untouched, kept⟩
    · exact ⟨events, event, [], rfl, reads, added, by simp⟩

/-- Users make nothing of a variable by loading the environment file. -/
theorem change?_eq_none_of_isReading (reads : event.isReading configuration = true)
    (name : String) : event.change? name = none := by
  cases event with
  | load | get => rfl
  | set | unset | arrange | reset => cases reads

/-- Loading the environment file adds variables behind the others. -/
theorem environment_apply_of_isReading (reads : event.isReading configuration = true) :
    (configuration.apply event).workspace.environment =
      configuration.workspace.environment ++ EnvFile.added configuration.workspace := by
  cases event with
  | load => exact congrArg Workspace.environment (EnvFile.load_spec _).1
  | get => exact (get_spec (Option.isNone_iff_eq_none.mp reads)).1
  | set | unset | arrange | reset => cases reads

/-- Getting settings that are kept changes nothing. -/
theorem apply_get_of_not_isReading (kept : Event.get.isReading configuration = false) :
    configuration.apply .get = configuration := by
  cases known : configuration.settings? with
  | none => simp [Event.isReading, known] at kept
  | some settings => rw [apply, get_of_kept known]

/-- What an event makes of a variable. -/
theorem valueOf?_apply (configuration : Configuration) (event : Event) (name : String) :
    (configuration.apply event).workspace.valueOf? name =
      (event.change? name).getD ((configuration.workspace.valueOf? name).or
        (if event.isReading configuration then
          (EnvFile.added configuration.workspace).lookup name else none)) := by
  cases reads : event.isReading configuration with
  | true =>
    rw [change?_eq_none_of_isReading reads, Workspace.valueOf?,
      environment_apply_of_isReading reads, List.lookup_append]
    rfl
  | false =>
    rw [if_neg Bool.false_ne_true, Option.or_none]
    cases event with
    | load => cases reads
    | arrange => rfl
    | reset => rfl
    | get =>
      rw [apply_get_of_not_isReading reads]
      rfl
    | set other value =>
      cases refused : VariableError.find? other value with
      | some error => simp [apply, Workspace.setVariable, Event.change?, refused]
      | none =>
        by_cases same : other = name
        · subst same
          simp [apply, Workspace.setVariable, Workspace.withVariable, Workspace.valueOf?,
            Event.change?, refused, Table.lookup_set_self]
        · simp [apply, Workspace.setVariable, Workspace.withVariable, Workspace.valueOf?,
            Event.change?, refused, same, Table.lookup_set_of_ne value _ (Ne.symm same)]
    | unset other =>
      by_cases same : other = name
      · subst same
        simp [apply, Workspace.unsetVariable, Workspace.valueOf?, Event.change?,
          Table.lookup_unset_self]
      · simp [apply, Workspace.unsetVariable, Workspace.valueOf?, Event.change?, same,
          Table.lookup_unset_of_ne _ (Ne.symm same)]

theorem lookup_added_eq_some_iff :
    (EnvFile.added configuration.workspace).lookup name = some value ↔
      (name, value) ∈ EnvFile.added configuration.workspace :=
  Table.lookup_eq_some_iff_mem (EnvFile.nodup_added _)

theorem not_isLeft_nil : ¬ IsLeft start [] entry := by
  rintro ⟨earlier, event, later, split, -⟩
  simp at split

/-- A variable has a value exactly if users have given it that or an earlier reading left it. -/
theorem valueOf?_after_iff : (start.after events).workspace.valueOf? name = some value ↔
    own? start.workspace.environment events name = some value ∨
      IsLeft start events (name, value) := by
  induction events using List.reverseRecOn generalizing value with
  | nil => exact ⟨.inl, fun known => known.resolve_right not_isLeft_nil⟩
  | append_singleton events event ih =>
    rw [after_snoc, valueOf?_apply, own?_snoc, isLeft_snoc_iff]
    cases reads : event.isReading (start.after events) with
    | false =>
      cases changed : event.change? name with
      | some value? => simp
      | none => simp [ih]
    | true =>
      rw [change?_eq_none_of_isReading reads]
      simp only [Option.getD_none, if_true, Option.or_eq_some_iff, ih, lookup_added_eq_some_iff,
        true_and, and_true, or_assoc]
      exact or_congr_right (or_congr_right (and_iff_right_of_imp EnvFile.valueOf?_of_mem_added))

/-- What an earlier reading left is not the users' own. -/
theorem own?_of_isLeft (left : IsLeft start events entry) :
    own? start.workspace.environment events entry.1 = none := by
  induction events using List.reverseRecOn with
  | nil => exact absurd left not_isLeft_nil
  | append_singleton events event ih =>
    rw [own?_snoc]
    rcases isLeft_snoc_iff.mp left with ⟨earlier, unchanged⟩ | ⟨reads, added⟩
    · rw [unchanged]
      exact ih earlier
    · rw [change?_eq_none_of_isReading reads, Option.getD_none, Option.eq_none_iff_forall_ne_some]
      intro value own
      have known := valueOf?_after_iff.mpr (.inl own)
      rw [EnvFile.valueOf?_of_mem_added added] at known
      cases known

/-- Every event keeps the names of variables distinct. -/
theorem nodup_apply (event : Event)
    (distinct : (configuration.workspace.environment.map (·.1)).Nodup) :
    ((configuration.apply event).workspace.environment.map (·.1)).Nodup := by
  cases reads : event.isReading configuration with
  | true =>
    rw [environment_apply_of_isReading reads]
    exact EnvFile.nodup_append_added distinct
  | false =>
    cases event with
    | load => cases reads
    | arrange => exact distinct
    | reset => exact distinct
    | get => rwa [apply_get_of_not_isReading reads]
    | set name value =>
      cases refused : VariableError.find? name value with
      | some error => simpa [apply, Workspace.setVariable, refused] using distinct
      | none =>
        simpa [apply, Workspace.setVariable, Workspace.withVariable, refused] using
          Table.nodup_set name value distinct
    | unset name => exact Table.nodup_unset name distinct

theorem nodup_after (events : List Event)
    (distinct : (start.workspace.environment.map (·.1)).Nodup) :
    ((start.after events).workspace.environment.map (·.1)).Nodup := by
  induction events using List.reverseRecOn with
  | nil => exact distinct
  | append_singleton events event ih =>
    rw [after_snoc]
    exact nodup_apply event ih

/-- The variables are those that users have set and those that earlier readings left. -/
theorem mem_environment_after_iff (distinct : (start.workspace.environment.map (·.1)).Nodup) :
    entry ∈ (start.after events).workspace.environment ↔
      own? start.workspace.environment events entry.1 = some entry.2 ∨
        IsLeft start events entry := by
  rw [← Table.lookup_eq_some_iff_mem (nodup_after events distinct)]
  exact valueOf?_after_iff

/-- A variable that is not the users' own was left. -/
theorem isLeft_of_mem (distinct : (start.workspace.environment.map (·.1)).Nodup)
    (inside : entry ∈ (start.after events).workspace.environment)
    (disowned : own? start.workspace.environment events entry.1 = none) :
    IsLeft start events entry := by
  rcases (mem_environment_after_iff distinct).mp inside with own | left
  · cases disowned.symm.trans own
  · exact left

/-- Only getting and resetting change which settings are kept. -/
theorem settings?_apply (ungot : event ≠ .get) (unreset : event ≠ .reset) :
    (configuration.apply event).settings? = configuration.settings? := by
  cases event with
  | get => exact absurd rfl ungot
  | reset => exact absurd rfl unreset
  | set => rw [apply]; split <;> rfl
  | unset | arrange | load => rfl

/-- Settings that are kept stay until they are reset. -/
theorem settings?_after_of_kept {settings : Settings}
    (kept : configuration.settings? = some settings) (unreset : .reset ∉ events) :
    (configuration.after events).settings? = some settings := by
  induction events using List.reverseRecOn with
  | nil => exact kept
  | append_singleton events event ih =>
    rw [List.mem_append, List.mem_singleton, not_or] at unreset
    have before := ih unreset.1
    rw [after_snoc]
    by_cases got : event = .get
    · rw [got, apply, get_of_kept before]
      exact before
    · rw [settings?_apply got (Ne.symm unreset.2), before]

/-- After a reset no settings are kept until they are got. -/
theorem settings?_after_reset (earlier : List Event) {between : List Event}
    (ungot : .get ∉ between) :
    (start.after (earlier ++ .reset :: between)).settings? = none := by
  induction between using List.reverseRecOn with
  | nil => rw [after_snoc]; rfl
  | append_singleton between event ih =>
    rw [List.mem_append, List.mem_singleton, not_or] at ungot
    rw [← List.cons_append, ← List.append_assoc, after_snoc]
    by_cases reset : event = .reset
    · rw [reset]; rfl
    · rw [settings?_apply (Ne.symm ungot.2) reset, ih ungot.1]

end Configuration

end SchemaDesk
