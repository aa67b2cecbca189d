import SchemaDesk.Proofs.Calendar.Instant
import SchemaDesk.Proofs.Validation.Location

/-!
# Defaults that are dates

Of what is found in a field, only what the check of its default finds is located
at the default. So a field of dates and times whose default is a date, alone or
with a time in universal time, has an error there exactly if the default is not
in the calendar.
-/

namespace SchemaDesk

/-- The diagnostic is an error at the default of a field. -/
def Diagnostic.BlamesDefault (diagnostic : Diagnostic) : Prop :=
  diagnostic.isError = true ∧ diagnostic.location? = some ⟨"field", [.key "defaultValue"]⟩

instance : DecidablePred Diagnostic.BlamesDefault :=
  fun diagnostic => inferInstanceAs (Decidable (diagnostic.isError = true ∧ _))

/-- What is located elsewhere does not blame the default. -/
theorem LocatedIn.not_blamesDefault {found : List Diagnostic}
    (elsewhere : LocatedIn "field" (· ≠ [.key "defaultValue"]) found) :
    ∀ diagnostic ∈ found, ¬ diagnostic.BlamesDefault := by
  rintro diagnostic inside ⟨-, here⟩
  obtain ⟨path, place, other⟩ := elsewhere diagnostic inside
  rw [here] at place
  cases place
  exact other rfl

namespace Field

/-- Where the default can be checked, a field is validated, and what blames the default is what the
check of the default finds. -/
theorem exists_validate_of_defaultFindings {field : Field} {defaults : List Diagnostic}
    (checked : field.defaultFindings = .ok defaults) :
    ∃ found, field.validate = .ok found ∧
      ∀ diagnostic : Diagnostic, diagnostic.BlamesDefault →
        (diagnostic ∈ found ↔ diagnostic ∈ defaults) := by
  have name : LocatedIn "field" (· ≠ [.key "defaultValue"]) field.nameFindings :=
    locatedIn_shapeFindings (by decide) _ _
  have type : LocatedIn "field" (· ≠ [.key "defaultValue"]) field.typeFindings :=
    .ite (.singleton (by decide) _) (.ite .nil (.singleton (by decide) _))
  have tokens : LocatedIn "field" (· ≠ [.key "defaultValue"])
      (tokenFindings [] 0 field.attributes) := by
    rw [tokenFindings_eq_sweep]
    exact .sweep fun _ _ _ _ => .ite (.singleton (by simp) _) (.ite (.singleton (by simp) _) .nil)
  have together : LocatedIn "field" (· ≠ [.key "defaultValue"]) field.attributeFindings :=
    .append (.ite (.singleton (by decide) _) .nil) (.ite (.singleton (by decide) _) .nil)
  refine ⟨_, bind_eq_ok_iff.mpr ⟨_, checked, rfl⟩, fun diagnostic blames => ⟨fun reported => ?_,
    fun found => by simp [found]⟩⟩
  simp only [List.mem_append] at reported
  rcases reported with (((other | other) | here) | other) | other
  · exact absurd blames (name.not_blamesDefault _ other)
  · exact absurd blames (type.not_blamesDefault _ other)
  · exact here
  · exact absurd blames (tokens.not_blamesDefault _ other)
  · exact absurd blames (together.not_blamesDefault _ other)

/-- The check of a text that is given for a date or time. -/
theorem defaultFindings_of_dateTime {field : Field} {content : String}
    (typed : field.type = "DateTime") (given : field.default? = some (.text content)) :
    field.defaultFindings = .ok (if Calendar.isInstantText content.toList then []
      else [reportAt .defaultNotDate [.key "defaultValue"]]) := by
  have known : field.scalarType? = some .dateTime := by
    rw [scalarType?, typed]
    rfl
  simp only [defaultFindings, given, known, DefaultValue.misfit?, DefaultValue.isInstant, bind,
    Except.bind]
  by_cases read : Calendar.isInstantText content.toList = true
  · simp [read]
  · simp [read]

/-- A default of a field of dates and times that has the form of a date, or of a date and a time in
universal time whose hour is one of the day, is refused exactly if it is not in the calendar. Blanks
around it do not count, and validation always ends. -/
theorem blamesDefault_iff_not_isInCalendar {field : Field} {content : String}
    {before text after : List Char} {stamp : Calendar.Stamp} (typed : field.type = "DateTime")
    (given : field.default? = some (.text content))
    (spelled : content.toList = before ++ text ++ after)
    (blankBefore : ∀ c ∈ before, Text.isBlank c = true)
    (blankAfter : ∀ c ∈ after, Text.isBlank c = true) (written : stamp.IsWrittenAs text)
    (hours : ∀ clock ∈ stamp.clock?, clock.hour ≤ 23) :
    ∃ found, field.validate = .ok found ∧
      ((∀ diagnostic ∈ found, ¬ diagnostic.BlamesDefault) ↔ stamp.IsInCalendar) := by
  have checked := defaultFindings_of_dateTime typed given
  have read := written.isInstantText_iff hours blankBefore blankAfter
  rw [spelled] at checked
  obtain ⟨found, validated, ofDefault⟩ := exists_validate_of_defaultFindings checked
  refine ⟨found, validated, fun blameless => ?_, fun inside diagnostic reported blames => ?_⟩
  · by_contra outside
    have reported := (ofDefault (reportAt .defaultNotDate [.key "defaultValue"]) (by decide)).mpr
      (by rw [if_neg (mt read.mp outside)]; exact List.mem_singleton_self _)
    exact blameless _ reported (by decide)
  · have listed := (ofDefault diagnostic blames).mp reported
    rw [if_pos (read.mpr inside)] at listed
    cases listed

/-- A field of dates and times with a text for its default. -/
def dated (content : String) : Field :=
  ⟨"opened", "DateTime", true, false, [], some (.text content)⟩

/-- The leap day of 2000 is accepted one second before its end, with blanks around it; 1900 has no
leap day. -/
theorem blamesDefault_iff_not_isInCalendar_leapDays :
    (∃ found, (dated "\u2003\n2000-02-29T23:59:59Z ").validate = .ok found ∧
      ∀ diagnostic ∈ found, ¬ diagnostic.BlamesDefault) ∧
    ∃ found, (dated "1900-02-29").validate = .ok found ∧
      ∃ diagnostic ∈ found, diagnostic.BlamesDefault := by
  have february (year : Nat) (y : List Char) (written : Calendar.WritesNumber 4 y year) :
      Calendar.WritesDate (y ++ "-02-29".toList) year 2 29 :=
    .hyphened (m := ['0', '2']) (d := ['2', '9']) written (by decide) (by decide)
  have lastSecond : Calendar.WritesTime "23:59:59".toList ⟨23, 59, 59, 0⟩ :=
    .colons (h := ['2', '3']) (m := ['5', '9']) (s := ['5', '9']) (by decide) (by decide)
      (by decide)
  constructor
  · obtain ⟨found, validated, accepted⟩ := blamesDefault_iff_not_isInCalendar
      (show (dated "\u2003\n2000-02-29T23:59:59Z ").type = "DateTime" from rfl) rfl
      (show _ = ['\u2003', '\n'] ++ _ ++ [' '] from rfl) (List.all_eq_true.mp (by decide))
      (List.all_eq_true.mp (by decide))
      (.instant (february 2000 "2000".toList (by decide)) lastSecond)
      (by rintro _ ⟨⟩; decide)
    refine ⟨found, validated,
      accepted.mpr ⟨⟨by decide, by decide, by decide, 29, rfl, by decide⟩, ?_⟩⟩
    rintro _ ⟨⟩
    decide
  · obtain ⟨found, validated, accepted⟩ := blamesDefault_iff_not_isInCalendar
      (show (dated "1900-02-29").type = "DateTime" from rfl) rfl
      (show _ = [] ++ _ ++ [] from rfl) nofun nofun
      (.date (february 1900 "1900".toList (by decide))) nofun
    refine ⟨found, validated, ?_⟩
    by_contra! blameless
    obtain ⟨-, -, -, length, listed, short⟩ := (accepted.mp blameless).date
    cases listed
    exact absurd short (by decide)

end Field

end SchemaDesk
