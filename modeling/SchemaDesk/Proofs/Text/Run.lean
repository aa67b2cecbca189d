import Mathlib.Data.List.Basic
import SchemaDesk.Text.Blank

/-!
# Runs

A run of entries of one kind ends where an entry of another kind follows. So of
two equal lists that start with such runs, the runs are equal, and so is what
follows them. Texts are taken apart with this: a name ends at a space, a line
at its line feed, a block at its last line.

What stands between runs of blanks is what is left when they are stripped, if it
begins and ends with other characters.
-/

namespace SchemaDesk.Text

section Run

variable {α : Type} {kind : α → Prop} {first second rest other : List α}

/-- The list does not start with an entry of the kind. -/
def EndsRun (kind : α → Prop) (list : List α) : Prop :=
  ∀ next ∈ list.head?, ¬ kind next

theorem endsRun_nil : EndsRun kind [] := nofun

theorem endsRun_cons {entry : α} (stop : ¬ kind entry) : EndsRun kind (entry :: rest) := by
  intro next same
  cases same
  exact stop

/-- A list at which a run ends does not start with an entry of the kind. -/
theorem EndsRun.ne_cons {entry : α} (ends : EndsRun kind rest) (inside : kind entry) :
    rest ≠ entry :: other := by
  rintro rfl
  exact ends entry rfl inside

/-- Equal lists that start with runs have the same run and the same rest. -/
theorem append_inj_of_runs (run : ∀ entry ∈ first, kind entry)
    (run' : ∀ entry ∈ second, kind entry) (ends : EndsRun kind rest) (ends' : EndsRun kind other)
    (same : first ++ rest = second ++ other) : first = second ∧ rest = other := by
  induction first generalizing second with
  | nil =>
    cases second with
    | nil => exact ⟨rfl, same⟩
    | cons entry second =>
      rw [List.nil_append] at same
      exact absurd (run' entry List.mem_cons_self) (ends entry (by rw [same]; rfl))
  | cons entry first ih =>
    cases second with
    | nil =>
      rw [List.nil_append] at same
      exact absurd (run entry List.mem_cons_self) (ends' entry (by rw [← same]; rfl))
    | cons entry' second =>
      obtain ⟨rfl, tails⟩ := List.cons.inj same
      rw [List.forall_mem_cons] at run run'
      obtain ⟨rfl, rests⟩ := ih run.2 run'.2 tails
      exact ⟨rfl, rests⟩

/-- The bodies, each with a stop behind it. -/
def endWith (stop : α) (bodies : List (List α)) : List α :=
  bodies.flatMap (· ++ [stop])

theorem endWith_append (stop : α) (bodies others : List (List α)) :
    endWith stop (bodies ++ others) = endWith stop bodies ++ endWith stop others :=
  List.flatMap_append

/-- Bodies that do not hold the stop can be told apart. -/
theorem endWith_inj {stop : α} {bodies others : List (List α)}
    (inner : ∀ body ∈ bodies, stop ∉ body) (inner' : ∀ body ∈ others, stop ∉ body)
    (same : endWith stop bodies = endWith stop others) : bodies = others := by
  induction bodies generalizing others with
  | nil =>
    cases others with
    | nil => rfl
    | cons body others => simp [endWith] at same
  | cons body bodies ih =>
    cases others with
    | nil => simp [endWith] at same
    | cons body' others =>
      rw [List.forall_mem_cons] at inner inner'
      have ends (more : List α) : EndsRun (· ≠ stop) (stop :: more) :=
        endsRun_cons fun unequal => unequal rfl
      have ended : body ++ stop :: endWith stop bodies = body' ++ stop :: endWith stop others := by
        simpa [endWith] using same
      obtain ⟨rfl, rests⟩ := append_inj_of_runs (List.forall_mem_ne'.mpr inner.1)
        (List.forall_mem_ne'.mpr inner'.1) (ends _) (ends _) ended
      rw [ih inner.2 inner'.2 (List.cons.inj rests).2]

/-- The text consists of ASCII letters. -/
def AreLetters (text : List Char) : Prop :=
  ∀ c ∈ text, c.isAlpha = true

instance : DecidablePred AreLetters :=
  fun text => List.decidableBAll _ text

theorem AreLetters.no_feed {text : List Char} (letters : AreLetters text) : '\n' ∉ text :=
  fun inside => absurd (letters '\n' inside) (by decide)

end Run

/-! ## Blanks around a text -/

section Blank

variable {before text after : List Char}

/-- The blanks before a text are stripped. -/
theorem stripStart_append (blank : ∀ c ∈ before, isBlank c = true)
    (opens : ∀ c ∈ text.head?, isBlank c = false) : stripStart (before ++ text) = text := by
  rw [stripStart, List.dropWhile_append_of_pos blank]
  cases text with
  | nil => rfl
  | cons c rest => exact stripStart_cons_of_not_blank c rest (opens c rfl)

/-- The blanks behind a text are those before the reversed text. -/
theorem stripEnd_append (blank : ∀ c ∈ after, isBlank c = true)
    (closes : ∀ c ∈ text.getLast?, isBlank c = false) : stripEnd (text ++ after) = text := by
  have reversed : stripStart (after.reverse ++ text.reverse) = text.reverse :=
    stripStart_append (fun c inside => blank c (List.mem_reverse.mp inside))
      (by rwa [List.head?_reverse])
  rw [stripEnd, List.reverse_append]
  exact (congrArg List.reverse reversed).trans text.reverse_reverse

/-- Of a text between blanks the text is left. -/
theorem strip_surrounded (blankBefore : ∀ c ∈ before, isBlank c = true)
    (blankAfter : ∀ c ∈ after, isBlank c = true) (nonempty : text ≠ [])
    (opens : ∀ c ∈ text.head?, isBlank c = false)
    (closes : ∀ c ∈ text.getLast?, isBlank c = false) :
    strip (before ++ text ++ after) = text := by
  have first : (text ++ after).head? = text.head? := by
    cases text with
    | nil => exact absurd rfl nonempty
    | cons c rest => rfl
  rw [strip, List.append_assoc, stripStart_append blankBefore (by rwa [first]),
    stripEnd_append blankAfter closes]

end Blank

end SchemaDesk.Text
