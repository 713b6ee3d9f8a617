import FileRouting.Time.Stamp

/-!
# Fields of a date pattern

A field is named by a letter and shows one aspect of a time. The number of times the letter is
repeated is the field's count: the least width of a number, the choice between a name and its first
three letters, or the form of an offset.
-/

namespace FileRouting.DatePattern

open FileRouting.Text FileRouting.Time

/-! ## Fields and their letters -/

/-- The aspects of a time that a pattern can show. -/
inductive Field
  | era
  | year
  | month
  | dayOfMonth
  | dayOfYear
  | weekdayName
  | weekdayNumber
  | weekdayInMonth
  | weekOfYear
  | weekOfMonth
  | halfDay
  | hour
  | hourFromOne
  | hourOfHalfDayFromZero
  | hourOfHalfDay
  | minute
  | second
  | millisecond
  | zoneName
  | offset
  | offsetOrZ
deriving DecidableEq, Repr

namespace Field

def letter : Field → Char
  | era => 'G'
  | year => 'y'
  | month => 'M'
  | dayOfMonth => 'd'
  | dayOfYear => 'D'
  | weekdayName => 'E'
  | weekdayNumber => 'u'
  | weekdayInMonth => 'F'
  | weekOfYear => 'w'
  | weekOfMonth => 'W'
  | halfDay => 'a'
  | hour => 'H'
  | hourFromOne => 'k'
  | hourOfHalfDayFromZero => 'K'
  | hourOfHalfDay => 'h'
  | minute => 'm'
  | second => 's'
  | millisecond => 'S'
  | zoneName => 'z'
  | offset => 'Z'
  | offsetOrZ => 'X'

def ofLetter? : Char → Option Field
  | 'G' => some era
  | 'y' => some year
  | 'M' => some month
  | 'd' => some dayOfMonth
  | 'D' => some dayOfYear
  | 'E' => some weekdayName
  | 'u' => some weekdayNumber
  | 'F' => some weekdayInMonth
  | 'w' => some weekOfYear
  | 'W' => some weekOfMonth
  | 'a' => some halfDay
  | 'H' => some hour
  | 'k' => some hourFromOne
  | 'K' => some hourOfHalfDayFromZero
  | 'h' => some hourOfHalfDay
  | 'm' => some minute
  | 's' => some second
  | 'S' => some millisecond
  | 'z' => some zoneName
  | 'Z' => some offset
  | 'X' => some offsetOrZ
  | _ => none

theorem ofLetter?_letter (f : Field) : ofLetter? f.letter = some f := by
  cases f <;> rfl

theorem letter_of_ofLetter? {c : Char} {f : Field} (h : ofLetter? c = some f) : f.letter = c := by
  unfold ofLetter? at h
  split at h <;> cases h <;> rfl

end Field

/-! ## Names -/

def monthNames : List String :=
  ["January", "February", "March", "April", "May", "June",
   "July", "August", "September", "October", "November", "December"]

def weekdayNames : List String :=
  ["Monday", "Tuesday", "Wednesday", "Thursday", "Friday", "Saturday", "Sunday"]

/-- A name in full from four letters on, else its first three letters. -/
def nameText (count : Nat) (name : String) : List Char :=
  if count ≥ 4 then name.toList else name.toList.take 3

/-! ## Offsets -/

/-- An offset in minutes as sign, hours and minutes, with `colon` between the numbers. -/
def offsetDigits (minutes : Int) (colon : List Char) : List Char :=
  (if minutes < 0 then '-' else '+') ::
    (padded 2 (minutes.natAbs / 60) ++ colon ++ padded 2 (minutes.natAbs % 60))

/-- The offset form without a letter for zero. -/
def offsetText (zone : Zone) : List Char :=
  offsetDigits zone.minutes []

/-- The offset form that writes `Z` for zero: hours alone, then hours and minutes, then with a colon
between them. -/
def offsetOrZText (zone : Zone) (count : Nat) : List Char :=
  if zone.minutes = 0 then ['Z']
  else if count = 1 then
    (if zone.minutes < 0 then '-' else '+') :: padded 2 (zone.minutes.natAbs / 60)
  else if count ≥ 3 then offsetDigits zone.minutes [':']
  else offsetDigits zone.minutes []

/-! ## Text of a field -/

def Field.text (moment : ZonedTime) (count : Nat) : Field → List Char
  | era => ['A', 'D']
  | year => if count = 2 then padded 2 (moment.date.year % 100) else padded count moment.date.year
  | month =>
    if count ≥ 3 then nameText count (monthNames.getD (moment.date.month - 1) "")
    else padded count moment.date.month
  | dayOfMonth => padded count moment.date.day
  | dayOfYear => padded count moment.date.dayOfYear
  | weekdayName => nameText count (weekdayNames.getD moment.date.weekday "")
  | weekdayNumber => padded count (moment.date.weekday + 1)
  | weekdayInMonth => padded count moment.date.weekdayInMonth
  | weekOfYear => padded count moment.date.weekOfYear
  | weekOfMonth => padded count moment.date.weekOfMonth
  | halfDay => if moment.time.hour.val < 12 then ['A', 'M'] else ['P', 'M']
  | hour => padded count moment.time.hour
  | hourFromOne => padded count moment.time.hourFromOne
  | hourOfHalfDayFromZero => padded count (moment.time.hour.val % 12)
  | hourOfHalfDay => padded count moment.time.hourOfHalfDay
  | minute => padded count moment.time.minute
  | second => padded count moment.time.second
  | millisecond => padded count moment.time.milli
  | zoneName => (moment.zone.name.getD "").toList
  | offset => offsetText moment.zone
  | offsetOrZ => offsetOrZText moment.zone count

end FileRouting.DatePattern
