import SchemaDesk.Calendar.Instant
import SchemaDesk.Proofs.Calendar.Date
import SchemaDesk.Proofs.Text.Run

/-!
# Dates and times that denote an instant

A calendar date with hyphens, alone or with a time of day to the second in
universal time, denotes an instant exactly if the date is a day of the calendar
and no minute or second exceeds 59. Blanks around it do not count.
-/

namespace SchemaDesk.Calendar

/-- The text writes the number with just so many ASCII digits. -/
structure WritesNumber (count : Nat) (text : List Char) (value : Nat) : Prop where
  length : text.length = count
  digit : ∀ c ∈ text, c.isDigit = true
  denotes : Nat.ofDigitChars 10 text 0 = value

instance (count : Nat) (text : List Char) (value : Nat) :
    Decidable (WritesNumber count text value) :=
  decidable_of_iff
    (text.length = count ∧ text.all Char.isDigit = true ∧ Nat.ofDigitChars 10 text 0 = value)
    ⟨fun ⟨length, digit, denotes⟩ => ⟨length, List.all_eq_true.mp digit, denotes⟩,
      fun written => ⟨written.length, List.all_eq_true.mpr written.digit, written.denotes⟩⟩

/-- The text is a year of four digits, a month and a day of two, with hyphens between them. -/
inductive WritesDate : List Char → Nat → Nat → Nat → Prop
  | hyphened {y m d : List Char} {year month day : Nat} (years : WritesNumber 4 y year)
      (months : WritesNumber 2 m month) (days : WritesNumber 2 d day) :
      WritesDate (y ++ '-' :: (m ++ '-' :: d)) year month day

/-- The text is an hour, a minute and a second of two digits each, with colons between them. -/
inductive WritesTime : List Char → Clock → Prop
  | colons {h m s : List Char} {hour minute second : Nat} (hours : WritesNumber 2 h hour)
      (minutes : WritesNumber 2 m minute) (seconds : WritesNumber 2 s second) :
      WritesTime (h ++ ':' :: (m ++ ':' :: s)) ⟨hour, minute, second, 0⟩

/-- A date, or a date and a time of day. -/
structure Stamp where
  year : Nat
  month : Nat
  day : Nat
  clock? : Option Clock
deriving DecidableEq, Repr

/-- The text is a date alone, or a date and a time in universal time behind the letter T. -/
inductive Stamp.IsWrittenAs : Stamp → List Char → Prop
  | date {date : List Char} {year month day : Nat} (dated : WritesDate date year month day) :
      IsWrittenAs ⟨year, month, day, none⟩ date
  | instant {date time : List Char} {year month day : Nat} {clock : Clock}
      (dated : WritesDate date year month day) (timed : WritesTime time clock) :
      IsWrittenAs ⟨year, month, day, some clock⟩ (date ++ 'T' :: (time ++ ['Z']))

/-- The date is a day of the calendar, and the time has no minute or second beyond 59. -/
structure Stamp.IsInCalendar (stamp : Stamp) : Prop where
  date : IsCalendarDay stamp.year stamp.month stamp.day
  time : ∀ clock ∈ stamp.clock?, clock.minute < 60 ∧ clock.second < 60

/-! ## Numbers of fixed width -/

/-- The codes of the ASCII digits. -/
theorem toNat_of_isDigit {c : Char} (digit : c.isDigit = true) : 48 ≤ c.toNat ∧ c.toNat ≤ 57 :=
  Char.isDigit_iff_toNat.mp digit

theorem ne_of_isDigit {c mark : Char} (digit : c.isDigit = true) (other : mark.isDigit = false) :
    c ≠ mark := by
  rintro rfl
  exact absurd digit (Bool.eq_false_iff.mp other)

theorem not_isBlank_of_isDigit {c : Char} (digit : c.isDigit = true) : Text.isBlank c = false := by
  have codes := toNat_of_isDigit digit
  simp only [Text.isBlank, Bool.or_eq_false_iff, Bool.and_eq_false_iff, decide_eq_false_iff_not,
    beq_eq_false_iff_ne]
  omega

/-- Digits behind a number make it less than the next number with as many zeros behind it. -/
theorem ofDigitChars_lt {text : List Char} (digit : ∀ c ∈ text, c.isDigit = true) (front : Nat) :
    Nat.ofDigitChars 10 text front < (front + 1) * 10 ^ text.length := by
  induction text generalizing front with
  | nil => simp
  | cons c rest ih =>
    rw [List.forall_mem_cons] at digit
    have zero : '0'.toNat = 48 := rfl
    have here : c.toNat - '0'.toNat ≤ 9 := by
      have codes := toNat_of_isDigit digit.1
      omega
    rw [Nat.ofDigitChars_cons, List.length_cons, Nat.pow_succ, Nat.mul_comm (10 ^ _) 10,
      ← Nat.mul_assoc]
    exact (ih digit.2 _).trans_le (Nat.mul_le_mul_right _ (by omega))

namespace WritesNumber

variable {count value : Nat} {text : List Char}

theorem lt (written : WritesNumber count text value) : value < 10 ^ count := by
  have bounded := ofDigitChars_lt written.digit 0
  rwa [written.denotes, written.length, Nat.zero_add, Nat.one_mul] at bounded

/-- A number is read up to its last digit. -/
theorem readDigits_append (written : WritesNumber count text value) (rest : List Char) :
    readDigits count (text ++ rest) = some (value, rest) := by
  have front : (text ++ rest).take count = text := List.take_left' written.length
  have behind : (text ++ rest).drop count = rest := List.drop_left' written.length
  simp only [readDigits, front, behind, written.length, List.all_eq_true.mpr written.digit,
    and_self, if_pos, written.denotes]

theorem readDigits_self (written : WritesNumber count text value) :
    readDigits count text = some (value, []) := by
  simpa using written.readDigits_append []

/-- A number of one digit or more starts with a digit. -/
theorem exists_cons (written : WritesNumber (count + 1) text value) :
    ∃ c rest, text = c :: rest ∧ c.isDigit = true := by
  cases text with
  | nil => exact absurd written.length (by simp)
  | cons c rest => exact ⟨c, rest, rfl, written.digit c List.mem_cons_self⟩

/-- A number of one digit or more ends in a digit. -/
theorem exists_concat (written : WritesNumber (count + 1) text value) :
    ∃ front c, text = front ++ [c] ∧ c.isDigit = true := by
  rcases List.eq_nil_or_concat text with rfl | ⟨front, c, rfl⟩
  · exact absurd written.length (by simp)
  · rw [List.concat_eq_append] at written ⊢
    exact ⟨front, c, rfl, written.digit c (by simp)⟩

end WritesNumber

/-! ## The date -/

namespace WritesDate

variable {date : List Char} {year month day : Nat}

theorem year_le (dated : WritesDate date year month day) : year ≤ lastYear := by
  cases dated with
  | hyphened years months days => exact Nat.le_of_lt_succ years.lt

theorem length (dated : WritesDate date year month day) : date.length = 10 := by
  cases dated with
  | hyphened years months days => simp [years.length, months.length, days.length]

/-- A date starts with a digit. -/
theorem exists_cons (dated : WritesDate date year month day) :
    ∃ c rest, date = c :: rest ∧ c.isDigit = true := by
  cases dated with
  | hyphened years months days =>
    obtain ⟨c, rest, rfl, digit⟩ := years.exists_cons
    exact ⟨c, _, List.cons_append, digit⟩

/-- A date ends in a digit. -/
theorem exists_concat (dated : WritesDate date year month day) :
    ∃ front c, date = front ++ [c] ∧ c.isDigit = true := by
  cases dated with
  | @hyphened y m d _ _ _ years months days =>
    obtain ⟨front, c, rfl, digit⟩ := days.exists_concat
    exact ⟨y ++ '-' :: (m ++ '-' :: front), c, by simp, digit⟩

/-- The characters at the places that decide where a date ends: a hyphen, and then a digit. -/
theorem marks_append (dated : WritesDate date year month day) (rest : List Char) :
    (date ++ rest)[4]? = some '-' ∧ (date ++ rest)[5]? ≠ some 'W' := by
  cases dated with
  | @hyphened y m d _ _ _ years months days =>
    obtain ⟨c, others, rfl, digit⟩ := months.exists_cons
    have noWeek : c ≠ 'W' := ne_of_isDigit digit (by decide)
    have short : y.length = 4 := years.length
    simp [List.getElem?_append_right, short, noWeek]

/-- Whatever follows a date with hyphens, the date has ten characters. -/
theorem dateLength_append (dated : WritesDate date year month day) (rest : List Char) :
    dateLength (date ++ rest) = 10 := by
  have long : (date ++ rest).length ≠ 7 := by
    rw [List.length_append, dated.length]
    omega
  obtain ⟨hyphen, noWeek⟩ := dated.marks_append rest
  rw [dateLength, if_neg long, if_pos hyphen, if_neg noWeek]

/-- A date with hyphens is read exactly if it is a day of the calendar. -/
theorem isDateText_iff (dated : WritesDate date year month day) :
    isDateText date = true ↔ IsCalendarDay year month day := by
  rw [← isDate_iff_isCalendarDay dated.year_le]
  cases dated with
  | @hyphened y m d _ _ _ years months days =>
    have noWeek : (m ++ '-' :: d).head? ≠ some 'W' := by
      obtain ⟨c, others, rfl, digit⟩ := months.exists_cons
      exact fun same => ne_of_isDigit digit (by decide) (Option.some.inj same)
    have month : isMonthText true year (m ++ '-' :: d) = isDate year month day := by
      simp only [isMonthText, months.readDigits_append, skipHyphen, if_true, days.readDigits_self]
    simp only [isDateText, years.readDigits_append, List.head?_cons, decide_true, if_true,
      List.drop_succ_cons, List.drop_zero, if_neg noWeek, month]

end WritesDate

/-! ## The time of day -/

/-- A colon between two components leads to the second. -/
theorem clockRest_colon {rest : List Char} (nonempty : rest ≠ []) :
    clockRest true (':' :: rest) = .next rest := by
  cases rest with
  | nil => exact absurd rfl nonempty
  | cons c rest => rfl

namespace WritesNumber

variable {number rest : List Char} {value : Nat}

/-- A component with a colon behind it is set, and the next one is read. Whether colons are used is
decided behind the hour. -/
theorem readParts_colon (written : WritesNumber 2 number value) {part : ClockPart}
    {colons : Bool} (used : part = .hour ∨ colons = true) (nonempty : rest ≠ []) (clock : Clock)
    (parts : List ClockPart) :
    readParts colons clock (part :: parts) (number ++ ':' :: rest) =
      readParts true (clock.set part value) parts rest := by
  have mode : (if part = .hour then (':' :: rest).head? = some ':' else colons = true) := by
    split
    · rfl
    · next later => exact used.resolve_left later
  rw [readParts, written.readDigits_append]
  simp only [decide_eq_true mode, clockRest_colon nonempty]

/-- A component with nothing behind it is set, and the clock ends there. -/
theorem readParts_end (written : WritesNumber 2 number value) (colons : Bool) (clock : Clock)
    (part : ClockPart) (parts : List ClockPart) :
    readParts colons clock (part :: parts) number = some (clock.set part value, true) := by
  rw [readParts, written.readDigits_self]
  rfl

end WritesNumber

namespace WritesTime

variable {time : List Char} {clock : Clock}

/-- A time with colons is read as the clock that it shows. -/
theorem readClock_eq (timed : WritesTime time clock) : readClock time = some (clock, true) := by
  cases timed with
  | @colons h m s _ _ _ hours minutes seconds =>
    have behindHour : m ++ ':' :: s ≠ [] := by simp
    have behindMinute : s ≠ [] := by
      obtain ⟨c, rest, rfl, -⟩ := seconds.exists_cons
      exact List.cons_ne_nil c rest
    rw [readClock, hours.readParts_colon (.inl rfl) behindHour,
      minutes.readParts_colon (.inr rfl) behindMinute, seconds.readParts_end]
    rfl

/-- Neither a digit nor a colon opens an offset. -/
theorem not_opensOffset (timed : WritesTime time clock) : ∀ c ∈ time, (!opensOffset c) = true := by
  have number {count value : Nat} {text : List Char} (written : WritesNumber count text value) :
      ∀ c ∈ text, (!opensOffset c) = true := by
    intro c inside
    have digit := written.digit c inside
    simp [opensOffset, ne_of_isDigit digit (by decide : '+'.isDigit = false),
      ne_of_isDigit digit (by decide : '-'.isDigit = false),
      ne_of_isDigit digit (by decide : 'Z'.isDigit = false)]
  cases timed with
  | colons hours minutes seconds =>
    simp only [List.forall_mem_append, List.forall_mem_cons]
    exact ⟨number hours, by decide, number minutes, by decide, number seconds⟩

/-- A time in universal time is read exactly if the clock shows a time of the day. -/
theorem isTimeText_append (timed : WritesTime time clock) :
    isTimeText (time ++ "+00:00".toList) = clock.isTimeOfDay := by
  have front : (time ++ "+00:00".toList).takeWhile (!opensOffset ·) = time := by
    rw [List.takeWhile_append_of_pos timed.not_opensOffset]
    exact List.append_nil time
  have behind : (time ++ "+00:00".toList).dropWhile (!opensOffset ·) = "+00:00".toList := by
    rw [List.dropWhile_append_of_pos timed.not_opensOffset]
    rfl
  have offset : isOffsetText "+00:00".toList = true := by decide
  simp only [isTimeText, front, behind, timed.readClock_eq, offset, Bool.true_or, Bool.and_true]

end WritesTime

/-! ## Instants -/

/-- A final Z is replaced. -/
theorem expandZulu_concat (front : List Char) :
    expandZulu (front ++ ['Z']) = front ++ "+00:00".toList := by
  simp [expandZulu]

/-- A text that ends in a digit stays. -/
theorem expandZulu_of_isDigit {front : List Char} {c : Char} (digit : c.isDigit = true) :
    expandZulu (front ++ [c]) = front ++ [c] := by
  have other : c ≠ 'Z' := ne_of_isDigit digit (by decide)
  simp [expandZulu, other]

/-- A date alone is read as a date. -/
theorem WritesDate.isIsoText_self {date : List Char} {year month day : Nat}
    (dated : WritesDate date year month day) : isIsoText date = isDateText date := by
  have length : dateLength date = 10 := by simpa using dated.dateLength_append []
  have front : date.take 10 = date := List.take_of_length_le dated.length.le
  have behind : date.drop 10 = [] := List.drop_of_length_le dated.length.le
  simp only [isIsoText, length, front, behind, Bool.and_true]

/-- A date with a character behind it is read as a date and what follows that as a time. -/
theorem WritesDate.isIsoText_append_cons {date : List Char} {year month day : Nat}
    (dated : WritesDate date year month day) (separator : Char) (time : List Char) :
    isIsoText (date ++ separator :: time) = (isDateText date && isTimeText time) := by
  have front : (date ++ separator :: time).take 10 = date := List.take_left' dated.length
  have behind : (date ++ separator :: time).drop 10 = separator :: time :=
    List.drop_left' dated.length
  simp only [isIsoText, dated.dateLength_append, front, behind]

namespace Stamp.IsWrittenAs

variable {stamp : Stamp} {text : List Char}

/-- What is written starts with a digit, and ends in a digit or in the letter Z. -/
theorem ends (written : stamp.IsWrittenAs text) :
    (∃ c rest, text = c :: rest ∧ c.isDigit = true) ∧
      ∃ front c, text = front ++ [c] ∧ (c.isDigit = true ∨ c = 'Z') := by
  cases written with
  | date dated =>
    obtain ⟨front, c, same, digit⟩ := dated.exists_concat
    exact ⟨dated.exists_cons, front, c, same, .inl digit⟩
  | @instant date time _ _ _ _ dated timed =>
    obtain ⟨c, rest, rfl, digit⟩ := dated.exists_cons
    exact ⟨⟨c, _, List.cons_append, digit⟩, c :: rest ++ 'T' :: time, 'Z', by simp, .inr rfl⟩

theorem strip_surrounded (written : stamp.IsWrittenAs text) {before after : List Char}
    (blankBefore : ∀ c ∈ before, Text.isBlank c = true)
    (blankAfter : ∀ c ∈ after, Text.isBlank c = true) :
    Text.strip (before ++ text ++ after) = text := by
  obtain ⟨⟨first, rest, start, digit⟩, front, last, finish, ending⟩ := written.ends
  refine Text.strip_surrounded blankBefore blankAfter (by simp [start]) ?_ ?_
  · rw [start]
    rintro c ⟨⟩
    exact not_isBlank_of_isDigit digit
  · rw [finish, List.getLast?_concat]
    rintro c ⟨⟩
    rcases ending with digit | rfl
    · exact not_isBlank_of_isDigit digit
    · decide

/-- With an hour of the day, what is written is read exactly if it is in the calendar. -/
theorem isIsoText_iff (written : stamp.IsWrittenAs text)
    (hours : ∀ clock ∈ stamp.clock?, clock.hour ≤ 23) :
    isIsoText (expandZulu text) = true ↔ stamp.IsInCalendar := by
  cases written with
  | date dated =>
    have whole : expandZulu text = text := by
      obtain ⟨front, c, rfl, digit⟩ := dated.exists_concat
      exact expandZulu_of_isDigit digit
    rw [whole, dated.isIsoText_self, dated.isDateText_iff]
    exact ⟨fun day => ⟨day, nofun⟩, fun inside => inside.date⟩
  | @instant date time year month day clock dated timed =>
    have zoned : expandZulu (date ++ 'T' :: (time ++ ['Z'])) =
        date ++ 'T' :: (time ++ "+00:00".toList) := by
      simpa using expandZulu_concat (date ++ 'T' :: time)
    have hour : clock.hour ≤ 23 := hours clock rfl
    rw [zoned, dated.isIsoText_append_cons, timed.isTimeText_append, Bool.and_eq_true,
      dated.isDateText_iff]
    simp only [Clock.isTimeOfDay, Bool.and_eq_true, decide_eq_true_eq, Nat.le_iff_lt_add_one]
    constructor
    · rintro ⟨day, ⟨-, minute⟩, second⟩
      refine ⟨day, ?_⟩
      rintro _ ⟨⟩
      exact ⟨minute, second⟩
    · rintro ⟨day, time⟩
      obtain ⟨minute, second⟩ := time clock rfl
      exact ⟨day, ⟨Nat.lt_succ_of_le hour, minute⟩, second⟩

/-- Between blanks, what is written denotes an instant exactly if it is in the calendar. -/
theorem isInstantText_iff (written : stamp.IsWrittenAs text)
    (hours : ∀ clock ∈ stamp.clock?, clock.hour ≤ 23) {before after : List Char}
    (blankBefore : ∀ c ∈ before, Text.isBlank c = true)
    (blankAfter : ∀ c ∈ after, Text.isBlank c = true) :
    isInstantText (before ++ text ++ after) = true ↔ stamp.IsInCalendar := by
  rw [isInstantText, written.strip_surrounded blankBefore blankAfter]
  exact written.isIsoText_iff hours

end Stamp.IsWrittenAs

end SchemaDesk.Calendar
