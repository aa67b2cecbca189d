import Std.Data.String.ToInt
import SchemaDesk.Diagnostic.Basic
import SchemaDesk.Proofs.Number.Notation
import SchemaDesk.Proofs.Text.Run

/-!
# Texts of locations

Where keys are free of points and of opening brackets, the text of a location
can be taken apart again: a point starts a key, a bracket starts a position,
and each goes on up to the next mark. So locations with one text have one path.
-/

namespace SchemaDesk

/-- A character that starts a segment. -/
def IsSegmentMark (c : Char) : Prop :=
  c = '.' ∨ c = '['

/-- A key is not empty and holds no mark; a position is written in digits anyway. -/
def Segment.IsPlain : Segment → Prop
  | .key name => name ≠ "" ∧ ∀ c ∈ name.toList, ¬ IsSegmentMark c
  | .index _ => True

/-- All keys of the path are plain. -/
def IsPlainPath (path : List Segment) : Prop :=
  ∀ segment ∈ path, segment.IsPlain

instance : DecidablePred IsSegmentMark :=
  fun c => inferInstanceAs (Decidable (c = '.' ∨ c = '['))

instance : DecidablePred Segment.IsPlain
  | .key name => @instDecidableAnd _ _ _ (List.decidableBAll _ name.toList)
  | .index _ => inferInstanceAs (Decidable True)

instance : DecidablePred IsPlainPath :=
  fun path => List.decidableBAll Segment.IsPlain path

/-- The characters of a segment that is not the first one. -/
def Segment.marked : Segment → List Char
  | .key name => '.' :: name.toList
  | .index position => '[' :: ((toString position).toList ++ [']'])

theorem isDigit_of_mem_toString {n : Nat} : ∀ c ∈ (toString n).toList, c.isDigit = true := by
  rw [Nat.toString_eq_repr, Nat.toList_repr]
  exact Number.isDigit_of_mem_natText

/-- A whole number is written with a sign and digits. -/
theorem no_bracket_of_mem_toString {n : Int} : ∀ c ∈ (toString n).toList, c ≠ ']' := by
  intro c inside
  cases n with
  | ofNat n =>
    have digit := isDigit_of_mem_toString c inside
    rintro rfl
    cases digit
  | negSucc n =>
    change c ∈ ("-" ++ toString (n + 1)).toList at inside
    rw [String.toList_append, List.mem_append] at inside
    rcases inside with sign | digit
    · rintro rfl
      exact absurd sign (by decide)
    · have digit := isDigit_of_mem_toString c digit
      rintro rfl
      cases digit

namespace Location

/-- After some text, every segment is written with its mark. -/
theorem toList_textAfter {earlier : String} (begun : earlier ≠ "") (path : List Segment) :
    (textAfter earlier path).toList = earlier.toList ++ path.flatMap Segment.marked := by
  induction path generalizing earlier with
  | nil => simp [textAfter]
  | cons segment path ih =>
    cases segment with
    | key name =>
      have more : earlier ++ "." ++ name ≠ "" := by simp [begun]
      have nonempty : earlier.isEmpty = false := by simpa using begun
      rw [textAfter, nonempty, if_neg Bool.false_ne_true, ih more]
      simp [Segment.marked]
    | index position =>
      have more : earlier ++ "[" ++ toString position ++ "]" ≠ "" := by simp [begun]
      rw [textAfter, ih more]
      simp [Segment.marked]

/-- The first segment is written without the point before a key. -/
def head : Segment → List Char
  | .key name => name.toList
  | position => position.marked

theorem toList_text_cons (entity : String) {segment : Segment} (plain : segment.IsPlain)
    (path : List Segment) :
    (text ⟨entity, segment :: path⟩).toList = head segment ++ path.flatMap Segment.marked := by
  cases segment with
  | key name => exact toList_textAfter plain.1 path
  | index position =>
    have begun : "" ++ "[" ++ toString position ++ "]" ≠ "" := by simp
    rw [text, textAfter, toList_textAfter begun]
    simp [head, Segment.marked]

end Location

/-- What follows a segment starts with a mark, if anything follows. -/
theorem endsRun_flatMap_marked (path : List Segment) :
    Text.EndsRun (¬ IsSegmentMark ·) (path.flatMap Segment.marked) := by
  cases path with
  | nil => exact Text.endsRun_nil
  | cons segment path =>
    cases segment with
    | key name => exact Text.endsRun_cons (not_not.mpr (.inl rfl))
    | index position => exact Text.endsRun_cons (not_not.mpr (.inr rfl))

/-- A position that is followed by anything can be told from what follows. -/
theorem position_inj {m n : Int} {rest other : List Char}
    (same : (Segment.index m).marked ++ rest = (Segment.index n).marked ++ other) :
    m = n ∧ rest = other := by
  have ends (rest : List Char) : Text.EndsRun (· ≠ ']') (']' :: rest) :=
    Text.endsRun_cons (not_not.mpr rfl)
  simp only [Segment.marked, List.cons_append, List.append_assoc, List.cons.injEq, true_and,
    List.nil_append] at same
  obtain ⟨digits, same⟩ := Text.append_inj_of_runs no_bracket_of_mem_toString
    no_bracket_of_mem_toString (ends rest) (ends other) same
  exact ⟨Int.repr_injective (String.toList_injective digits), (List.cons.inj same).2⟩

/-- A key that is followed by segments can be told from what follows. -/
theorem key_inj {name name' : String} (plain : (Segment.key name).IsPlain)
    (plain' : (Segment.key name').IsPlain) {path other : List Segment}
    (same : name.toList ++ path.flatMap Segment.marked =
      name'.toList ++ other.flatMap Segment.marked) :
    name = name' ∧ path.flatMap Segment.marked = other.flatMap Segment.marked := by
  obtain ⟨named, rest⟩ := Text.append_inj_of_runs plain.2 plain'.2 (endsRun_flatMap_marked path)
    (endsRun_flatMap_marked other) same
  exact ⟨String.toList_injective named, rest⟩

/-- A key does not start with a bracket. -/
theorem Segment.IsPlain.ne_bracket {name : String} (plain : (key name).IsPlain)
    {rest other : List Char} : name.toList ++ rest ≠ '[' :: other := by
  intro same
  cases letters : name.toList with
  | nil => exact plain.1 (String.toList_eq_nil_iff.mp letters)
  | cons c cs =>
    rw [letters, List.cons_append] at same
    have bracket : ¬ IsSegmentMark c := plain.2 c (letters ▸ List.mem_cons_self)
    exact bracket (.inr (List.cons.inj same).1)

/-- The first segment of a path can be told from the others. -/
theorem Segment.IsPlain.head_inj {segment segment' : Segment} (plain : segment.IsPlain)
    (plain' : segment'.IsPlain) {path other : List Segment}
    (same : Location.head segment ++ path.flatMap Segment.marked =
      Location.head segment' ++ other.flatMap Segment.marked) :
    segment = segment' ∧ path.flatMap Segment.marked = other.flatMap Segment.marked := by
  cases segment with
  | key name =>
    cases segment' with
    | key name' =>
      obtain ⟨rfl, rest⟩ := key_inj plain plain' same
      exact ⟨rfl, rest⟩
    | index n => exact absurd same plain.ne_bracket
  | index m =>
    cases segment' with
    | key name' => exact absurd same.symm plain'.ne_bracket
    | index n =>
      obtain ⟨rfl, rest⟩ := position_inj same
      exact ⟨rfl, rest⟩

/-- So can a marked segment, whose mark tells a key from a position. -/
theorem Segment.IsPlain.marked_inj {segment segment' : Segment} (plain : segment.IsPlain)
    (plain' : segment'.IsPlain) {path other : List Segment}
    (same : segment.marked ++ path.flatMap Segment.marked =
      segment'.marked ++ other.flatMap Segment.marked) :
    segment = segment' ∧ path.flatMap Segment.marked = other.flatMap Segment.marked := by
  cases segment with
  | key name =>
    cases segment' with
    | key name' => exact plain.head_inj plain' (List.cons.inj same).2
    | index n => cases (List.cons.inj same).1
  | index m =>
    cases segment' with
    | key name' => cases (List.cons.inj same).1
    | index n => exact plain.head_inj plain' same

/-- The marked segments of plain paths determine the paths. -/
theorem flatMap_marked_inj {path other : List Segment} (plain : IsPlainPath path)
    (plain' : IsPlainPath other)
    (same : path.flatMap Segment.marked = other.flatMap Segment.marked) : path = other := by
  induction path generalizing other with
  | nil =>
    rcases other with _ | ⟨_ | _, other⟩
    · rfl
    · cases same
    · cases same
  | cons segment path ih =>
    obtain ⟨here, later⟩ := List.forall_mem_cons.mp plain
    rcases other with _ | ⟨segment', other⟩
    · cases segment <;> cases same
    obtain ⟨here', later'⟩ := List.forall_mem_cons.mp plain'
    rw [List.flatMap_cons, List.flatMap_cons] at same
    obtain ⟨rfl, rest⟩ := here.marked_inj here' same
    rw [ih later later' rest]

theorem Segment.IsPlain.head_ne_nil {segment : Segment} (plain : segment.IsPlain)
    {rest : List Char} : Location.head segment ++ rest ≠ [] := by
  cases segment with
  | key name => simpa [Location.head] using fun empty => absurd empty plain.1
  | index position => nofun

/-- The text of a location determines its path, where keys are plain. -/
theorem Location.path_eq_of_text_eq {location other : Location} (plain : IsPlainPath location.path)
    (plain' : IsPlainPath other.path) (same : location.text = other.text) :
    location.path = other.path := by
  obtain ⟨entity, path⟩ := location
  obtain ⟨entity', path'⟩ := other
  have letters := congrArg String.toList same
  rcases path with _ | ⟨segment, path⟩
  · rcases path' with _ | ⟨segment', path'⟩
    · rfl
    · rw [toList_text_cons _ (plain' _ List.mem_cons_self)] at letters
      exact absurd letters.symm (plain' _ List.mem_cons_self).head_ne_nil
  · obtain ⟨here, later⟩ := List.forall_mem_cons.mp plain
    rw [toList_text_cons _ here] at letters
    rcases path' with _ | ⟨segment', path'⟩
    · exact absurd letters here.head_ne_nil
    obtain ⟨here', later'⟩ := List.forall_mem_cons.mp plain'
    rw [toList_text_cons _ here'] at letters
    obtain ⟨rfl, rest⟩ := here.head_inj here' letters
    rw [flatMap_marked_inj later later' rest]

end SchemaDesk
