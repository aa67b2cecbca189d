import SchemaDesk.Proofs.Workspace.Files

/-!
# Directories that are made on a way

Making directories puts them where nothing stood, on the way that a path takes,
and leaves every other place as it was. So a path under which something could be
saved can still be used after directories were made on another way and files
were written at some places, if it passes none of these places and none of the
directories stands in its own place.
-/

namespace SchemaDesk

namespace FilePath

theorem collapse_cons (start : Place) (name : String) (names : List String) :
    collapse start (name :: names) = collapse (collapse start [name]) names := rfl

/-- Names that do not lead back are walked one after another. -/
theorem collapse_of_ne_above {start : Place} {names : List String}
    (forward : ∀ name ∈ names, name ≠ above) : collapse start names = start ++ names := by
  induction names generalizing start with
  | nil => exact (List.append_nil start).symm
  | cons name names ih =>
    rw [List.forall_mem_cons] at forward
    rw [collapse_cons, ih forward.2, collapse, List.foldl_cons, List.foldl_nil,
      if_neg forward.1, List.append_assoc]
    rfl

end FilePath

namespace Workspace

/-- The place is passed when some names are walked from a start, which is passed too. -/
def IsPassed (start : Place) (names : List String) (place : Place) : Prop :=
  ∃ front, front <+: names ∧ place = FilePath.collapse start front

theorem IsPassed.next {start place : Place} {name : String} {names : List String}
    (passed : IsPassed (FilePath.collapse start [name]) names place) :
    IsPassed start (name :: names) place := by
  obtain ⟨front, inside, rfl⟩ := passed
  exact ⟨name :: front, List.cons_prefix_cons.mpr ⟨rfl, inside⟩, rfl⟩

/-- The place is passed on the way that a path takes. -/
def Passes (workspace : Workspace) (path : FilePath) (place : Place) : Prop :=
  IsPassed (workspace.startOf path) path.names place

/-- The place that a path names, whatever stands there. -/
def placeOf (workspace : Workspace) (path : FilePath) : Place :=
  FilePath.collapse (workspace.startOf path) path.names

variable {workspace before after : Workspace} {path : FilePath} {place : Place}

theorem passes_placeOf (workspace : Workspace) (path : FilePath) :
    workspace.Passes path (workspace.placeOf path) :=
  ⟨path.names, List.prefix_refl _, rfl⟩

theorem eq_collapse_of_enter {next : Place} {name : String}
    (entered : workspace.enter place name = .ok next) :
    next = FilePath.collapse place [name] := by
  unfold enter at entered
  split at entered
  · cases entered
  · cases entered
  · rw [FilePath.collapse, List.foldl_cons, List.foldl_nil]
    split at entered
    · next back =>
      cases entered
      rw [if_pos back]
    · next forward =>
      split at entered
      · cases entered
      · cases entered
        rw [if_neg forward]

/-- A way leads where its names lead. -/
theorem eq_collapse_of_follow {target : Place} {names : List String}
    (leads : workspace.follow place names = .ok target) :
    target = FilePath.collapse place names := by
  induction names generalizing place with
  | nil =>
    cases leads
    rfl
  | cons name names ih =>
    rw [follow] at leads
    cases entered : workspace.enter place name with
    | error fault => simp [entered] at leads
    | ok next =>
      rw [entered] at leads
      rw [FilePath.collapse_cons, ← eq_collapse_of_enter entered]
      exact ih leads

theorem eq_placeOf_of_resolve (leads : workspace.resolve path = .ok place) :
    place = workspace.placeOf path := by
  unfold resolve at leads
  split at leads
  · cases leads
  · exact eq_collapse_of_follow leads

/-- Beside what stands at target places, a workspace only gets directories, on the way and where
nothing stood. -/
structure Prepares (way target : Place → Prop) (before after : Workspace) : Prop where
  directory : after.directory = before.directory
  others : ∀ place, ¬ target place → after.node? place = before.node? place ∨
    (way place ∧ before.node? place = none ∧ after.node? place = some .directory)

namespace Prepares

variable {way target : Place → Prop} {middle : Workspace}

theorem refl (workspace : Workspace) : Prepares way target workspace workspace :=
  ⟨rfl, fun _ _ => .inl rfl⟩

theorem trans (first : Prepares way target before middle)
    (second : Prepares way target middle after) : Prepares way target before after where
  directory := second.directory.trans first.directory
  others place apart := by
    rcases first.others place apart with same | ⟨passed, vacant, made⟩
    · rw [← same]
      exact second.others place apart
    · rcases second.others place apart with same | ⟨-, vacant', -⟩
      · exact .inr ⟨passed, vacant, same.trans made⟩
      · rw [made] at vacant'
        cases vacant'

/-- Variables play no part. -/
theorem withEnvironment (workspace : Workspace) (environment : List (String × String)) :
    Prepares way target workspace { workspace with environment } :=
  ⟨rfl, fun _ _ => .inl rfl⟩

theorem putDirectory (passed : way place) (vacant : workspace.node? place = none) :
    Prepares way target workspace (workspace.put place .directory) where
  directory := rfl
  others other _ := by
    by_cases here : other = place
    · subst here
      exact .inr ⟨passed, vacant, workspace.node?_put_directory other⟩
    · exact .inl (node?_put_of_ne workspace .directory here)

theorem putTarget (here : target place) (node : Node) :
    Prepares way target workspace (workspace.put place node) where
  directory := rfl
  others other apart := by
    refine .inl (node?_put_of_ne workspace node ?_)
    rintro rfl
    exact apart here

/-- What is neither a target nor passed stays. -/
theorem node?_eq (prepares : Prepares way target before after) (apart : ¬ target place)
    (off : ¬ way place) : after.node? place = before.node? place := by
  rcases prepares.others place apart with same | ⟨passed, -⟩
  · exact same
  · exact absurd passed off

end Prepares

variable {way target : Place → Prop}

/-- Making directories on a way changes nothing beside the way. -/
theorem prepares_makeWay (anchor : Anchor) (walked names : List String)
    (passed : ∀ other, IsPassed place names other → way other) :
    Prepares way target workspace (workspace.makeWay anchor place walked names).2 := by
  induction names generalizing workspace place walked with
  | nil => exact .refl workspace
  | cons name names ih =>
    unfold makeWay
    split
    · exact .refl workspace
    · next next entered =>
      have step := eq_collapse_of_enter entered
      have later : ∀ other, IsPassed next names other → way other :=
        fun other inside => passed other (step ▸ inside).next
      split
      · exact ih _ later
      · exact .refl workspace
      · next vacant =>
        have here : way next := passed next ⟨[name], List.prefix_append [name] names, step⟩
        exact (Prepares.putDirectory here vacant).trans (ih _ later)

theorem prepares_makeDirectories (passed : ∀ other, workspace.Passes path other → way other) :
    Prepares way target workspace (workspace.makeDirectories path).2 := by
  unfold makeDirectories
  split
  · exact prepares_makeWay _ _ _ passed
  · exact .refl workspace
  · next leads =>
    split
    · exact .refl workspace
    · exact .refl workspace
    · next vacant =>
      have here := eq_placeOf_of_resolve leads
      exact .putDirectory (passed _ (here ▸ passes_placeOf workspace path)) vacant

/-- Adding to a file changes nothing but this file. -/
theorem prepares_appendFile {bytes : List UInt8} {next : Workspace}
    (here : target (workspace.placeOf path)) (done : workspace.appendFile path bytes = .ok next) :
    Prepares way target workspace next := by
  have written {bytes : List UInt8} (done : workspace.writeFile path bytes = .ok next) :
      Prepares way target workspace next := by
    obtain ⟨place, leads, -, rfl⟩ := writeFile_eq_ok_iff.mp done
    exact .putTarget (eq_placeOf_of_resolve leads ▸ here) _
  unfold appendFile at done
  split at done
  · exact written done
  · exact written done

/-! ## Directories made afterwards -/

theorem enter_eq_enter (prepares : Prepares way target before after) {next : Place} {name : String}
    (entered : before.enter place name = .ok next) (apart : ¬ target place) :
    after.enter place name = .ok next := by
  have directory := node?_of_enter entered
  rcases prepares.others place apart with same | ⟨-, vacant, -⟩
  · rwa [enter_congr same]
  · cases vacant.symm.trans directory

/-- A way that meets no target leads where it led. -/
theorem Prepares.follow (prepares : Prepares way target before after) {place goal : Place}
    {names : List String} (leads : before.follow place names = .ok goal)
    (apart : ∀ other, IsPassed place names other → ¬ target other) :
    after.follow place names = .ok goal := by
  induction names generalizing place with
  | nil => exact leads
  | cons name names ih =>
    rw [Workspace.follow] at leads ⊢
    cases entered : before.enter place name with
    | error fault => simp [entered] at leads
    | ok next =>
      rw [entered] at leads
      rw [enter_eq_enter prepares entered (apart place ⟨[], List.nil_prefix, rfl⟩)]
      have step := eq_collapse_of_enter entered
      exact ih leads fun other inside => apart other (step ▸ inside).next

theorem Prepares.startOf (prepares : Prepares way target before after) (path : FilePath) :
    after.startOf path = before.startOf path := by
  rw [Workspace.startOf, Workspace.startOf, prepares.directory]

theorem Prepares.resolve (prepares : Prepares way target before after)
    (leads : before.resolve path = .ok place)
    (apart : ∀ other, before.Passes path other → ¬ target other) :
    after.resolve path = .ok place := by
  unfold Workspace.resolve at leads ⊢
  split at leads
  · cases leads
  · rw [prepares.startOf]
    exact prepares.follow leads apart

/-- The same directory put in both workspaces keeps them in step. -/
theorem Prepares.putBoth (prepares : Prepares way target before after) (goal : Place) :
    Prepares way target (before.put goal .directory) (after.put goal .directory) where
  directory := prepares.directory
  others other apart := by
    by_cases here : other = goal
    · subst here
      exact .inl ((after.node?_put_directory other).trans (before.node?_put_directory other).symm)
    · rw [node?_put_of_ne after .directory here, node?_put_of_ne before .directory here]
      exact prepares.others other apart

/-- So does one that was there in the second workspace only. -/
theorem Prepares.putFirst (prepares : Prepares way target before after)
    (present : after.node? place = some .directory) :
    Prepares way target (before.put place .directory) after where
  directory := prepares.directory
  others other apart := by
    by_cases here : other = place
    · subst here
      exact .inl (present.trans (before.node?_put_directory other).symm)
    · rw [node?_put_of_ne before .directory here]
      exact prepares.others other apart

/-- The directories on a way that meets no target can be made afterwards as well. -/
theorem Prepares.makeWay (prepares : Prepares way target before after) {made : Workspace}
    (anchor : Anchor) {names : List String} (walked : List String)
    (done : before.makeWay anchor place walked names = (.ok (), made))
    (apart : ∀ other, IsPassed place names other → ¬ target other) :
    ∃ made', after.makeWay anchor place walked names = (.ok (), made') ∧
      Prepares way target made made' := by
  induction names generalizing before after place walked with
  | nil =>
    cases done
    exact ⟨after, rfl, prepares⟩
  | cons name names ih =>
    rw [Workspace.makeWay] at done ⊢
    cases entered : before.enter place name with
    | error fault => simp [entered] at done
    | ok next =>
      rw [entered] at done
      rw [enter_eq_enter prepares entered (apart place ⟨[], List.nil_prefix, rfl⟩)]
      have step := eq_collapse_of_enter entered
      have later : ∀ other, IsPassed next names other → ¬ target other :=
        fun other inside => apart other (step ▸ inside).next
      have here := prepares.others next (later next ⟨[], List.nil_prefix, rfl⟩)
      dsimp only at done ⊢
      cases found : before.node? next with
      | none =>
        rw [found] at done here
        rcases here with same | ⟨-, -, present⟩
        · rw [same]
          exact ih (prepares.putBoth next) _ done later
        · rw [present]
          exact ih (prepares.putFirst present) _ done later
      | some node =>
        rw [found] at done here
        have same : after.node? next = some node := by
          rcases here with same | ⟨-, vacant, -⟩
          · exact same
          · cases vacant
        rw [same]
        cases node with
        | file bytes => cases done
        | directory => exact ih prepares _ done later

/-- Where every directory on a way of names can be made, following the way finds the last one, or
finds only the last one missing, or stops where one is missing. -/
theorem follow_of_makeWay {made : Workspace} (anchor : Anchor) {names : List String}
    (walked : List String) (nonempty : names ≠ [])
    (done : workspace.makeWay anchor place walked names = (.ok (), made)) :
    (∃ goal, workspace.follow place names = .ok goal ∧
      (workspace.node? goal = some .directory ∧ made = workspace ∨
        workspace.node? goal = none ∧ made = workspace.put goal .directory)) ∨
    workspace.follow place names = .error .missing := by
  induction names generalizing place walked with
  | nil => exact absurd rfl nonempty
  | cons name names ih =>
    rw [makeWay] at done
    rw [follow]
    cases entered : workspace.enter place name with
    | error fault => simp [entered] at done
    | ok next =>
      rw [entered] at done
      dsimp only at done ⊢
      cases found : workspace.node? next with
      | none =>
        rw [found] at done
        cases names with
        | nil =>
          cases done
          exact .inl ⟨next, rfl, .inr ⟨found, rfl⟩⟩
        | cons second names => exact .inr (by simp [follow, enter, found])
      | some node =>
        rw [found] at done
        cases node with
        | file bytes => cases done
        | directory =>
          cases names with
          | nil =>
            cases done
            exact .inl ⟨next, rfl, .inl ⟨found, rfl⟩⟩
          | cons second names => exact ih _ (List.cons_ne_nil _ _) done

/-- Making directories succeeds where all of them can be made one after another. -/
theorem makeDirectories_of_makeWay {made : Workspace} (sound : path.fault? = none)
    (nonempty : path.names ≠ [])
    (done : workspace.makeWay path.anchor (workspace.startOf path) [] path.names =
      (.ok (), made)) :
    workspace.makeDirectories path = (.ok (), made) := by
  unfold makeDirectories resolve
  rw [sound]
  dsimp only
  rcases follow_of_makeWay path.anchor [] nonempty done with ⟨goal, leads, ends⟩ | missing
  · rw [leads]
    rcases ends with ⟨present, rfl⟩ | ⟨vacant, rfl⟩
    · simp [present]
    · simp [vacant]
  · rw [missing]
    exact done

/-- Directories that could be made on a way that meets no target can be made afterwards as well. -/
theorem Prepares.makeDirectories (prepares : Prepares way target before after) {made : Workspace}
    (done : before.makeDirectories path = (.ok (), made))
    (apart : ∀ other, before.Passes path other → ¬ target other) :
    ∃ made', after.makeDirectories path = (.ok (), made') ∧ Prepares way target made made' := by
  unfold Workspace.makeDirectories at done
  split at done
  · next missing =>
    have sound : path.fault? = none := by
      unfold Workspace.resolve at missing
      split at missing
      · next fault faulty =>
        cases missing
        unfold FilePath.fault? at faulty
        split at faulty
        · cases faulty
        · split at faulty <;> cases faulty
      · next sound => exact sound
    have nonempty : path.names ≠ [] := by
      intro empty
      rw [Workspace.resolve, sound, empty] at missing
      cases missing
    obtain ⟨made', made'Done, step⟩ := prepares.makeWay path.anchor [] done apart
    rw [← prepares.startOf] at made'Done
    exact ⟨made', makeDirectories_of_makeWay sound nonempty made'Done, step⟩
  · cases done
  · next goal leads =>
    have still := prepares.resolve leads apart
    have here := prepares.others goal
      (apart goal (eq_placeOf_of_resolve leads ▸ passes_placeOf before path))
    unfold Workspace.makeDirectories
    rw [still]
    dsimp only
    split at done
    · next present =>
      cases done
      have same : after.node? goal = some .directory := by
        rcases here with same | ⟨-, vacant, -⟩
        · exact same.trans present
        · cases vacant.symm.trans present
      exact ⟨after, by rw [same], prepares⟩
    · cases done
    · next vacant =>
      cases done
      rcases here with same | ⟨-, -, present⟩
      · exact ⟨after.put goal .directory, by rw [same, vacant], prepares.putBoth goal⟩
      · exact ⟨after, by rw [present], prepares.putFirst present⟩

/-- A path that could be written can be written afterwards, if it passes no target and if no
directory is made in its place. -/
theorem Prepares.canHold (prepares : Prepares way target before after) (holds : before.CanHold path)
    (apart : ∀ other, before.Passes path other → ¬ target other)
    (off : ¬ way (before.placeOf path)) : after.CanHold path := by
  obtain ⟨made, place, done, leads, free⟩ := holds
  have above : ∀ other, before.Passes path.parent other → ¬ target other := by
    rintro other ⟨front, inside, rfl⟩
    exact apart _ ⟨front, inside.trans (List.dropLast_prefix _), rfl⟩
  obtain ⟨made', made'Done, step⟩ := prepares.makeDirectories done above
  have current : made.startOf path = before.startOf path := by
    have kept : Prepares (fun _ => True) (fun _ => True) before
        (before.makeDirectories path.parent).2 :=
      prepares_makeDirectories fun _ _ => trivial
    rw [done] at kept
    exact kept.startOf path
  have passes : ∀ other, made.Passes path other → ¬ target other := by
    rintro other ⟨front, inside, rfl⟩
    exact apart _ ⟨front, inside, by rw [current]⟩
  have goal : place = before.placeOf path := by
    rw [eq_placeOf_of_resolve leads, placeOf, placeOf, current]
  refine ⟨made', place, made'Done, step.resolve leads passes, ?_⟩
  rw [step.node?_eq (goal ▸ apart _ (passes_placeOf before path)) (goal ▸ off)]
  exact free

end Workspace

end SchemaDesk
