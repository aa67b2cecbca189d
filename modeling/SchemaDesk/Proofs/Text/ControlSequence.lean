import SchemaDesk.Text.ControlSequence

/-!
# Dropping control sequences

No control sequence holds a line feed. So dropping them from a text is dropping
them from each of its lines. A text that holds none stays as it is, and one that
holds any gets shorter.
-/

namespace SchemaDesk.Text

theorem isParameterChar_feed : isParameterChar '\n' = false := by decide

theorem takeWhile_isParameterChar_append_feed (text rest : List Char) :
    (text ++ '\n' :: rest).takeWhile isParameterChar = text.takeWhile isParameterChar := by
  induction text with
  | nil => simp [isParameterChar_feed]
  | cons c text ih => simp [List.takeWhile_cons, ih]

/-- A sequence that starts before a line feed ends before it. -/
theorem sequenceLength?_append_feed (text rest : List Char) :
    sequenceLength? (text ++ '\n' :: rest) = sequenceLength? text := by
  cases text with
  | nil => rfl
  | cons first text =>
    by_cases opening : first = '['
    · subst opening
      cases marks : text.dropWhile isParameterChar with
      | nil => simp [sequenceLength?, List.dropWhile_append, marks, isParameterChar_feed]
      | cons c others =>
        simp [sequenceLength?, List.dropWhile_append, marks,
          takeWhile_isParameterChar_append_feed]
    · simp [sequenceLength?, opening]

/-- The characters of a sequence are among those after its escape character. -/
theorem sequenceLength?_le {text : List Char} {length : Nat}
    (found : sequenceLength? text = some length) : length ≤ text.length := by
  unfold sequenceLength? at found
  split at found
  · next rest =>
    split at found
    · next c others marks =>
      split at found
      · cases found
        have parts := congrArg List.length
          (List.takeWhile_append_dropWhile (p := isParameterChar) (l := rest))
        rw [marks, List.length_append, List.length_cons] at parts
        rw [List.length_cons]
        omega
      · cases found
    · cases found
  · cases found

/-- Dropping sequences starts afresh after a line feed, unless the line is skipped altogether. -/
theorem dropSequencesFrom_append_feed {skip : Nat} {text : List Char} (short : skip ≤ text.length)
    (rest : List Char) :
    dropSequencesFrom skip (text ++ '\n' :: rest) =
      dropSequencesFrom skip text ++ '\n' :: dropSequencesFrom 0 rest := by
  induction text generalizing skip with
  | nil =>
    obtain rfl := Nat.le_zero.mp short
    simp [dropSequencesFrom]
  | cons c text ih =>
    cases skip with
    | succ skip =>
      have within := Nat.le_of_succ_le_succ short
      simpa [dropSequencesFrom] using ih within
    | zero =>
      rw [List.cons_append, dropSequencesFrom, dropSequencesFrom, sequenceLength?_append_feed]
      cases found : (if c = '\x1b' then sequenceLength? text else none) with
      | none => exact congrArg (c :: ·) (ih (Nat.zero_le _))
      | some length =>
        split at found
        · exact ih (sequenceLength?_le found)
        · cases found

theorem dropControlSequences_append_feed (text rest : List Char) :
    dropControlSequences (text ++ '\n' :: rest) =
      dropControlSequences text ++ '\n' :: dropControlSequences rest :=
  dropSequencesFrom_append_feed (Nat.zero_le _) rest

/-- Whole lines are written in the same way whatever comes after them. -/
theorem dropControlSequences_append {lines : List Char}
    (whole : lines = [] ∨ ∃ front, lines = front ++ ['\n']) (rest : List Char) :
    dropControlSequences (lines ++ rest) =
      dropControlSequences lines ++ dropControlSequences rest := by
  rcases whole with rfl | ⟨front, rfl⟩
  · rfl
  · have alone : dropControlSequences (front ++ ['\n']) = dropControlSequences front ++ ['\n'] :=
      dropControlSequences_append_feed front []
    rw [alone, List.append_assoc, List.append_assoc]
    exact dropControlSequences_append_feed front rest

/-- Somewhere in the text, an escape character opens a control sequence. -/
def HasControlSequence (text : List Char) : Prop :=
  ∃ front rest length, text = front ++ '\x1b' :: rest ∧ sequenceLength? rest = some length

theorem hasControlSequence_cons_iff {c : Char} {text : List Char} :
    HasControlSequence (c :: text) ↔
      (c = '\x1b' ∧ ∃ length, sequenceLength? text = some length) ∨ HasControlSequence text := by
  constructor
  · rintro ⟨front, rest, length, same, found⟩
    cases front with
    | nil =>
      obtain ⟨rfl, rfl⟩ := List.cons.inj same
      exact .inl ⟨rfl, length, found⟩
    | cons first front =>
      obtain ⟨-, rfl⟩ := List.cons.inj same
      exact .inr ⟨front, rest, length, rfl, found⟩
  · rintro (⟨rfl, length, found⟩ | ⟨front, rest, length, rfl, found⟩)
    · exact ⟨[], text, length, rfl, found⟩
    · exact ⟨c :: front, rest, length, rfl, found⟩

theorem length_dropSequencesFrom_le (skip : Nat) (text : List Char) :
    (dropSequencesFrom skip text).length ≤ text.length := by
  induction text generalizing skip with
  | nil => exact Nat.le_refl _
  | cons c text ih =>
    cases skip with
    | succ skip => exact Nat.le_succ_of_le (ih skip)
    | zero =>
      rw [dropSequencesFrom]
      split
      · next length _ => exact Nat.le_succ_of_le (ih length)
      · exact Nat.succ_le_succ (ih 0)

/-- A text is written as it stands exactly if it holds no control sequence. -/
theorem dropControlSequences_eq_self_iff (text : List Char) :
    dropControlSequences text = text ↔ ¬ HasControlSequence text := by
  unfold dropControlSequences
  induction text with
  | nil =>
    refine iff_of_true rfl ?_
    rintro ⟨front, rest, length, same, -⟩
    simp at same
  | cons c text ih =>
    rw [dropSequencesFrom, hasControlSequence_cons_iff, not_or, ← ih]
    cases found : (if c = '\x1b' then sequenceLength? text else none) with
    | some length =>
      split at found
      · next escape =>
        refine iff_of_false (fun same => ?_) fun none => none.1 ⟨escape, length, found⟩
        have shorter := length_dropSequencesFrom_le length text
        rw [show dropSequencesFrom length text = c :: text from same, List.length_cons] at shorter
        exact Nat.not_succ_le_self _ shorter
      · cases found
    | none =>
      have closed : ¬ (c = '\x1b' ∧ ∃ length, sequenceLength? text = some length) := by
        rintro ⟨escape, length, opened⟩
        rw [if_pos escape, opened] at found
        cases found
      simp [closed]

end SchemaDesk.Text
