import SchemaDesk.Workspace.Resolution

/-!
# Paths after a change

A path leads to the same place after something was put there, since everything
on the way to a place is a directory. A path that is sound has a sound parent.
-/

namespace SchemaDesk

namespace FilePath

theorem fault?_eq_none_iff {path : FilePath} :
    path.fault? = none ↔ '\x00' ∉ path.text.toList ∧ path.text.utf8ByteSize < sizeLimit := by
  simp only [fault?, List.contains_iff_mem]
  by_cases null : '\x00' ∈ path.text.toList
  · simp [null]
  · rw [if_neg null]
    split <;> simp [null] <;> omega

/-- The text of a path goes on where that of its parent ends, unless the parent has no names. -/
theorem text_eq_append (anchor : Anchor) {names : List String} (nonempty : names ≠ [])
    (last : String) :
    (⟨anchor, names ++ [last]⟩ : FilePath).text =
      (⟨anchor, names⟩ : FilePath).text ++ ("/" ++ last) := by
  have joined : "/".intercalate (names ++ [last]) = "/".intercalate names ++ "/" ++ last := by
    rw [String.intercalate_append_of_ne_nil nonempty (List.cons_ne_nil last []),
      String.intercalate_singleton]
  simp [text, nonempty, joined, String.append_assoc]

/-- A path without names is sound. -/
theorem fault?_nil (anchor : Anchor) : (⟨anchor, []⟩ : FilePath).fault? = none := by
  cases anchor <;> decide

theorem fault?_parent {path : FilePath} (sound : path.fault? = none) :
    path.parent.fault? = none := by
  obtain ⟨anchor, names⟩ := path
  unfold parent
  rcases names.eq_nil_or_concat with rfl | ⟨front, last, rfl⟩
  · exact sound
  rw [List.concat_eq_append] at sound ⊢
  dsimp only
  rw [List.dropLast_concat]
  by_cases empty : front = []
  · rw [empty]
    exact fault?_nil anchor
  · rw [fault?_eq_none_iff, text_eq_append anchor empty, String.toList_append,
      String.utf8ByteSize_append, List.mem_append] at sound
    exact fault?_eq_none_iff.mpr ⟨fun null => sound.1 (.inl null), by omega⟩

end FilePath

namespace Workspace

theorem enter_congr {workspace other : Workspace} {place : Place} {name : String}
    (same : other.node? place = workspace.node? place) :
    other.enter place name = workspace.enter place name := by
  rw [enter, enter, same]

/-- What was put where no directory stood is reached as before. -/
theorem follow_put {workspace : Workspace} {place target : Place} {names : List String}
    {node : Node} (free : workspace.node? target ≠ some .directory)
    (leads : workspace.follow place names = .ok target) :
    (workspace.put target node).follow place names = .ok target := by
  induction names generalizing place with
  | nil => exact leads
  | cons name names ih =>
    rw [follow] at leads ⊢
    cases entered : workspace.enter place name with
    | error fault => simp [entered] at leads
    | ok next =>
      -- What is entered is a directory, so it is not where the node was put.
      have apart : place ≠ target := fun same => free (same ▸ node?_of_enter entered)
      rw [enter_congr (node?_put_of_ne workspace node apart), entered]
      rw [entered] at leads
      exact ih leads

theorem resolve_put {workspace : Workspace} {path : FilePath} {target : Place} {node : Node}
    (free : workspace.node? target ≠ some .directory)
    (leads : workspace.resolve path = .ok target) :
    (workspace.put target node).resolve path = .ok target := by
  unfold resolve at leads ⊢
  split at leads
  · cases leads
  · exact follow_put free leads

/-- The root is a directory. -/
theorem ne_nil_of_free {workspace : Workspace} {place : Place}
    (free : workspace.node? place ≠ some .directory) : place ≠ [] := by
  rintro rfl
  exact free rfl

end Workspace

end SchemaDesk
