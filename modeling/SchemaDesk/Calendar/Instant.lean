import SchemaDesk.Calendar.Date
import SchemaDesk.Text.Blank

/-!
# Points in time as texts

The forms of ISO 8601 that a date-time default may have: a calendar or week
date with or without hyphens, then optionally one character of any kind and a
time of day with or without colons, then optionally an offset from universal
time. Only ASCII digits count.

Where the date ends is decided from the first characters alone, because any
character may separate it from the time. One ASCII character that follows the
last component of the time is refused, except right before an offset.
-/

namespace SchemaDesk.Calendar

/-- Reads a number of exactly `count` digits. -/
def readDigits (count : Nat) (text : List Char) : Option (Nat × List Char) :=
  let digits := text.take count
  if digits.length = count ∧ digits.all Char.isDigit then
    some (Nat.ofDigitChars 10 digits 0, text.drop count)
  else none

/-- The text has an ASCII digit at the place. -/
def hasDigitAt (text : List Char) (place : Nat) : Bool :=
  match text[place]? with
  | some c => c.isDigit
  | none => false

/-- The length of the run of digits that begins at the place. -/
def digitRun (text : List Char) (place : Nat) : Nat :=
  ((text.drop place).takeWhile Char.isDigit).length

/-- The length of the date at the start of a text. With a hyphen after the year and no week, it has
ten characters. A week date with hyphens has ten, unless a digit follows there: then the hyphen
after the week is taken for the separator. A week date without hyphens ends before or after the
weekday so that the digits of the time come in pairs. -/
def dateLength (text : List Char) : Nat :=
  if text.length = 7 then 7
  else if text[4]? = some '-' then
    if text[5]? = some 'W' then
      if text[8]? = some '-' then (if hasDigitAt text 10 then 8 else 10) else 8
    else 10
  else if text[4]? = some 'W' then
    let stop := 7 + digitRun text 7
    if stop < 9 then stop else if stop % 2 = 0 then 7 else 8
  else 8

/-- The hyphen that a form with hyphens has at this place. -/
def skipHyphen (hyphens : Bool) (text : List Char) : Option (List Char) :=
  if hyphens then
    match text with
    | '-' :: rest => some rest
    | _ => none
  else some text

/-- The text is a week date after its year and the letter W; the first weekday stands for none. -/
def isWeekText (hyphens : Bool) (year : Nat) (text : List Char) : Bool :=
  match readDigits 2 text with
  | none => false
  | some (week, []) => isWeekDate year week 1
  | some (week, rest) =>
    match skipHyphen hyphens rest with
    | none => false
    | some rest =>
      match readDigits 1 rest with
      | some (weekday, []) => isWeekDate year week weekday
      | _ => false

/-- The text is a calendar date after its year. -/
def isMonthText (hyphens : Bool) (year : Nat) (text : List Char) : Bool :=
  match readDigits 2 text with
  | none => false
  | some (month, rest) =>
    match skipHyphen hyphens rest with
    | none => false
    | some rest =>
      match readDigits 2 rest with
      | some (day, []) => isDate year month day
      | _ => false

/-- The text is a date. -/
def isDateText (text : List Char) : Bool :=
  match readDigits 4 text with
  | none => false
  | some (year, rest) =>
    let hyphens := rest.head? = some '-'
    let rest := if hyphens then rest.drop 1 else rest
    if rest.head? = some 'W' then isWeekText hyphens year (rest.drop 1)
    else isMonthText hyphens year rest

/-- A time of day, or an offset of that size. -/
structure Clock where
  hour : Nat
  minute : Nat
  second : Nat
  microsecond : Nat
deriving DecidableEq, Repr

/-- The clock shows a time of a day. -/
def Clock.isTimeOfDay (clock : Clock) : Bool :=
  clock.hour ≤ 23 && clock.minute ≤ 59 && clock.second ≤ 59

/-- The span of the clock in microseconds. -/
def Clock.span (clock : Clock) : Nat :=
  ((clock.hour * 60 + clock.minute) * 60 + clock.second) * 1000000 + clock.microsecond

/-- The microseconds in a day. -/
def microsecondsInDay : Nat := 86400000000

/-- A text ends where nothing is left, or at a null character. -/
def isEnd (text : List Char) : Bool :=
  match text with
  | [] => true
  | c :: _ => c = '\x00'

/-- Reads the fraction of a second: up to six digits count, more are skipped. The second result says
whether the text ends there. -/
def readFraction (text : List Char) : Option (Nat × Bool) :=
  let count := min 6 text.length
  match readDigits count text with
  | none => none
  | some (value, rest) =>
    some (value * Nat.pow 10 (6 - count), isEnd (rest.dropWhile Char.isDigit))

/-- The components of a clock that are still to be read. -/
inductive ClockPart where
  | hour
  | minute
  | second
deriving DecidableEq, Repr

/-- The clock with a component set. -/
def Clock.set (clock : Clock) (part : ClockPart) (value : Nat) : Clock :=
  match part with
  | .hour => { clock with hour := value }
  | .minute => { clock with minute := value }
  | .second => { clock with second := value }

/-- What remains of a clock text after one component: the clock ends, another component follows,
or a fraction does. -/
inductive ClockRest where
  | done (complete : Bool)
  | next (text : List Char)
  | fraction (text : List Char)
  | refused
deriving DecidableEq, Repr

/-- Decides how a clock text goes on. A single ASCII character that is left belongs to no component,
and any other single character spoils the text. -/
def clockRest (colons : Bool) : List Char → ClockRest
  | [] => .done true
  | [c] => if c.toNat < 128 then .done (c = '\x00') else .refused
  | c :: rest =>
    if colons && c = ':' then .next rest
    else if c = '.' || c = ',' then .fraction rest
    else if colons then .refused
    else .next (c :: rest)

/-- Reads the components of a clock in order, with colons between them or not. After the last
component a fraction follows. -/
def readParts (colons : Bool) (clock : Clock) : List ClockPart → List Char → Option (Clock × Bool)
  | [], text => finish text
  | part :: parts, text =>
    match readDigits 2 text with
    | none => none
    | some (value, rest) =>
      let clock := clock.set part value
      let colons := if part = .hour then rest.head? = some ':' else colons
      match clockRest colons rest with
      | .done complete => some (clock, complete)
      | .next rest => readParts colons clock parts rest
      | .fraction rest =>
        (readFraction rest).map fun (value, complete) =>
          ({ clock with microsecond := value }, complete)
      | .refused => none
where
  /-- Reads the fraction behind the seconds. -/
  finish (text : List Char) : Option (Clock × Bool) :=
    (readFraction text).map fun (value, complete) => ({ clock with microsecond := value }, complete)

/-- Reads a clock; the second result says whether the text ends with it. -/
def readClock (text : List Char) : Option (Clock × Bool) :=
  readParts false ⟨0, 0, 0, 0⟩ [.hour, .minute, .second] text

/-- The character opens an offset. -/
def opensOffset (c : Char) : Bool :=
  c = '+' || c = '-' || c = 'Z'

/-- The text is an offset, from its sign on. -/
def isOffsetText : List Char → Bool
  | [] => true
  | 'Z' :: rest => isEnd rest
  | _ :: rest =>
    match readClock rest with
    | some (clock, true) => clock.span < microsecondsInDay
    | _ => false

/-- The text is a time of day with an optional offset. -/
def isTimeText (text : List Char) : Bool :=
  let offset := text.dropWhile (!opensOffset ·)
  match readClock (text.takeWhile (!opensOffset ·)) with
  | none => false
  | some (clock, complete) =>
    clock.isTimeOfDay && (complete || !offset.isEmpty) && isOffsetText offset

/-- The text is a date, or a date, one character and a time. -/
def isIsoText (text : List Char) : Bool :=
  let length := dateLength text
  isDateText (text.take length) &&
    match text.drop length with
    | [] => true
    | _ :: time => isTimeText time

/-- A final Z stands for the offset of universal time. -/
def expandZulu (text : List Char) : List Char :=
  match text.reverse with
  | 'Z' :: rest => rest.reverse ++ "+00:00".toList
  | _ => text

/-- The text denotes a point in time; blanks around it do not count. -/
def isInstantText (text : List Char) : Bool :=
  isIsoText (expandZulu (Text.strip text))

end SchemaDesk.Calendar
