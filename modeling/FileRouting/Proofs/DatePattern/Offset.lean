import FileRouting.Proofs.DatePattern.Composition

/-!
# Written offsets

An offset is written with a sign, the hours and the minutes, in one of three forms, and zero perhaps
as a letter. `offsetMinutes?` reads all of them. The offset that is written is cut down to whole
minutes, so that its size may be a whole day at the lower end, where the hours are 24. The main
statements are `shows_offset` and `shows_clockOffset`.
-/

namespace FileRouting.Time.Zone

/-- Offsets are less than a day. -/
def Admitted (zone : Zone) : Prop :=
  ∀ offset ∈ zone.offset, -microsPerDay < offset ∧ offset < microsPerDay

/-- The offset lies in a minute; an unknown one counts as zero. -/
structure IsFloor (zone : Zone) (minutes : Int) : Prop where
  le : minutes * microsPerMinute ≤ zone.offset.getD 0
  lt : zone.offset.getD 0 < (minutes + 1) * microsPerMinute

theorem isFloor_iff {zone : Zone} {minutes : Int} :
    zone.IsFloor minutes ↔ zone.minutes = minutes := by
  have quotient : zone.minutes = zone.offset.getD 0 / 60000000 :=
    Int.fdiv_eq_ediv_of_nonneg _ (by decide)
  constructor
  · rintro ⟨le, lt⟩
    simp only [microsPerMinute] at le lt
    omega
  · rintro rfl
    constructor <;> simp only [microsPerMinute] <;> omega

theorem Admitted.bounds {zone : Zone} (admitted : zone.Admitted) :
    -microsPerDay < zone.offset.getD 0 ∧ zone.offset.getD 0 < microsPerDay := by
  cases known : zone.offset with
  | none => decide
  | some offset => exact admitted offset known

end FileRouting.Time.Zone

namespace FileRouting.DatePattern

open FileRouting.Text FileRouting.Time

/-! ## Reading an offset -/

def signOf? : Char → Option Int
  | '+' => some 1
  | '-' => some (-1)
  | _ => none

/-- The number below a bound that two digits write. -/
def clockNumber? (bound : Nat) (c d : Char) : Option Nat :=
  if c.isDigit ∧ d.isDigit ∧ numberOf 10 [c, d] < bound then some (numberOf 10 [c, d]) else none

/-- The minutes that an offset with less than `hours` hours counts. -/
def offsetMinutes? (hours : Nat) : List Char → Option Int
  | ['Z'] => some 0
  | [sign, h, h'] => do
    return (← signOf? sign) * ((← clockNumber? hours h h') * 60)
  | [sign, h, h', d, d'] => do
    return (← signOf? sign) * ((← clockNumber? hours h h') * 60 + (← clockNumber? 60 d d'))
  | [sign, h, h', ':', d, d'] => do
    return (← signOf? sign) * ((← clockNumber? hours h h') * 60 + (← clockNumber? 60 d d'))
  | _ => none

/-! ## Two digits -/

theorem padded_two {number : Nat} (h : number < 100) :
    padded 2 number = [digit (number / 10), digit (number % 10)] := by
  have digits := toDigits_eq (by decide : 1 < 10) number
  by_cases small : number < 10
  · rw [if_pos small, List.nil_append] at digits
    simp [padded, padLeft, decimal, digits, digit, Nat.div_eq_of_lt small]
  · rw [if_neg small, Nat.toDigits_of_lt_base (show number / 10 < 10 by omega)] at digits
    simp [padded, padLeft, decimal, digits, digit]

theorem isDigit_digit {value : Nat} (h : value < 10) : (digit value).isDigit := by
  decide +revert

theorem clockNumber?_digits {bound number : Nat} (h : number < bound) (small : bound ≤ 100) :
    clockNumber? bound (digit (number / 10)) (digit (number % 10)) = some number := by
  have value : numberOf 10 [digit (number / 10), digit (number % 10)] = number := by
    have tens := digitValue?_digit (show number / 10 < 16 by omega)
    have ones := digitValue?_digit (show number % 10 < 16 by omega)
    simp only [numberOf, List.foldl_cons, List.foldl_nil, tens, ones, Option.getD_some]
    omega
  have tens : (digit (number / 10)).isDigit := isDigit_digit (by omega)
  have ones : (digit (number % 10)).isDigit := isDigit_digit (by omega)
  rw [clockNumber?, value, if_pos ⟨tens, ones, h⟩]

theorem clockNumber?_of_eq_some {bound number : Nat} {c d : Char}
    (h : clockNumber? bound c d = some number) (bound' : Nat) :
    clockNumber? bound' c d = if number < bound' then some number else none := by
  unfold clockNumber? at h ⊢
  split at h
  · next digits =>
    cases h
    simp only [digits.1, digits.2.1, true_and]
  · cases h

/-! ## Reading what is written -/

/-- The sign of an offset; zero has a plus. -/
def signOf (minutes : Int) : Char :=
  if minutes < 0 then '-' else '+'

theorem exists_signOf? (minutes : Int) :
    ∃ unit, signOf? (signOf minutes) = some unit ∧
      unit * ((minutes.natAbs / 60 : Nat) * 60 + (minutes.natAbs % 60 : Nat)) = minutes ∧
      unit * ((minutes.natAbs / 60 : Nat) * 60) = minutes.tdiv 60 * 60 := by
  by_cases negative : minutes < 0
  · refine ⟨-1, by simp [signOf, signOf?, negative], by omega, ?_⟩
    rw [← Int.neg_neg minutes, Int.neg_tdiv, Int.tdiv_eq_ediv_of_nonneg (by omega)]
    omega
  · refine ⟨1, by simp [signOf, signOf?, negative], by omega, ?_⟩
    rw [Int.tdiv_eq_ediv_of_nonneg (by omega)]
    omega

section

variable {minutes : Int} {hours : Nat} {h h' : Char}
  (hour : clockNumber? hours h h' = some (minutes.natAbs / 60))

include hour

theorem offsetMinutes?_hours :
    offsetMinutes? hours [signOf minutes, h, h'] = some (minutes.tdiv 60 * 60) := by
  obtain ⟨unit, sign, _, value⟩ := exists_signOf? minutes
  simp [offsetMinutes?, sign, hour, ← value]

variable {d d' : Char} (minute : clockNumber? 60 d d' = some (minutes.natAbs % 60))

include minute

theorem offsetMinutes?_minutes :
    offsetMinutes? hours [signOf minutes, h, h', d, d'] = some minutes := by
  obtain ⟨unit, sign, value, _⟩ := exists_signOf? minutes
  simp only [offsetMinutes?, sign, hour, minute]
  exact congrArg some value

theorem offsetMinutes?_colon :
    offsetMinutes? hours [signOf minutes, h, h', ':', d, d'] = some minutes := by
  obtain ⟨unit, sign, value, _⟩ := exists_signOf? minutes
  simp only [offsetMinutes?, sign, hour, minute]
  exact congrArg some value

end

/-! ## The offset that is written -/

theorem offsetDigits_eq {minutes : Int} (size : minutes.natAbs / 60 < 100) (colon : List Char) :
    offsetDigits minutes colon =
      signOf minutes :: ([digit (minutes.natAbs / 60 / 10), digit (minutes.natAbs / 60 % 10)] ++
        colon ++ [digit (minutes.natAbs % 60 / 10), digit (minutes.natAbs % 60 % 10)]) := by
  have minute : minutes.natAbs % 60 < 60 := Nat.mod_lt _ (by decide)
  rw [offsetDigits, padded_two size, padded_two (by omega), signOf]

/-- What the letters of an offset show, with the digits of its hours and of its minutes. -/
structure ShowsOffset (moment : ZonedTime) (minutes : Int) (h h' d d' : Char) : Prop where
  hour : clockNumber? 100 h h' = some (minutes.natAbs / 60)
  minute : clockNumber? 60 d d' = some (minutes.natAbs % 60)
  offset : ∀ count, Shows moment 'Z' (count + 1) [signOf minutes, h, h', d, d']
  zero : minutes = 0 → ∀ count, Shows moment 'X' (count + 1) ['Z']
  hours : minutes ≠ 0 → Shows moment 'X' 1 [signOf minutes, h, h']
  basic : minutes ≠ 0 → Shows moment 'X' 2 [signOf minutes, h, h', d, d']
  colon : minutes ≠ 0 → ∀ count,
    Shows moment 'X' (count + 3) [signOf minutes, h, h', ':', d, d']

theorem exists_showsOffset {moment : ZonedTime} {minutes : Int}
    (whole : moment.zone.minutes = minutes) (size : minutes.natAbs / 60 < 100) :
    ∃ h h' d d', ShowsOffset moment minutes h h' d d' := by
  have minute : minutes.natAbs % 60 < 60 := Nat.mod_lt _ (by decide)
  have shown := shows_field moment .offsetOrZ
  simp only [Field.text, offsetOrZText, whole] at shown
  refine ⟨_, _, _, _, clockNumber?_digits size (Nat.le_refl _),
    clockNumber?_digits minute (by decide), ?_, ?_, ?_, ?_, ?_⟩
  · intro count
    have shown := shows_field moment .offset count
    rwa [Field.text, offsetText, whole, offsetDigits_eq size] at shown
  · rintro rfl count
    exact shown count
  · intro nonzero
    have hours := shown 0
    rwa [if_neg nonzero, if_pos rfl, padded_two size] at hours
  · intro nonzero
    have basic := shown 1
    rwa [if_neg nonzero, if_neg (by decide), if_neg (by decide), offsetDigits_eq size] at basic
  · intro nonzero count
    have colon := shown (count + 2)
    rwa [if_neg nonzero, if_neg (by omega), if_pos (by omega), offsetDigits_eq size] at colon

/-- What the letters of an offset show reads back as the offset, without its minutes where they are
not written. -/
structure ShowsReadable (moment : ZonedTime) (minutes : Int) : Prop where
  offset : ∀ count, ∃ text, Shows moment 'Z' (count + 1) text ∧
    offsetMinutes? 100 text = some minutes
  hours : ∃ text, Shows moment 'X' 1 text ∧
    offsetMinutes? 100 text = some (minutes.tdiv 60 * 60)
  offsetOrZ : ∀ count, ∃ text, Shows moment 'X' (count + 2) text ∧
    offsetMinutes? 100 text = some minutes

theorem ShowsOffset.readable {moment : ZonedTime} {minutes : Int} {h h' d d' : Char}
    (shown : ShowsOffset moment minutes h h' d d') : ShowsReadable moment minutes where
  offset count := ⟨_, shown.offset count, offsetMinutes?_minutes shown.hour shown.minute⟩
  hours := by
    by_cases zero : minutes = 0
    · exact ⟨_, shown.zero zero 0, by simp [offsetMinutes?, zero]⟩
    · exact ⟨_, shown.hours zero, offsetMinutes?_hours shown.hour⟩
  offsetOrZ count := by
    by_cases zero : minutes = 0
    · exact ⟨_, shown.zero zero (count + 1), by simp [offsetMinutes?, zero]⟩
    · cases count with
      | zero => exact ⟨_, shown.basic zero, offsetMinutes?_minutes shown.hour shown.minute⟩
      | succ count =>
        exact ⟨_, shown.colon zero count, offsetMinutes?_colon shown.hour shown.minute⟩

theorem shows_offset {moment : ZonedTime} (admitted : moment.zone.Admitted) {minutes : Int}
    (floor : moment.zone.IsFloor minutes) :
    (∃ h h' d d', ShowsOffset moment minutes h h' d d') ∧ ShowsReadable moment minutes := by
  have size : minutes.natAbs / 60 < 100 := by
    have bounds := admitted.bounds
    obtain ⟨le, lt⟩ := floor
    simp only [Zone.microsPerMinute, Zone.microsPerDay] at le lt bounds
    omega
  obtain ⟨h, h', d, d', shown⟩ := exists_showsOffset (Zone.isFloor_iff.1 floor) size
  exact ⟨⟨h, h', d, d', shown⟩, shown.readable⟩

/-- A microsecond to the west. -/
def justWest : ZonedTime :=
  ⟨.first, .midnight, .fixed (-1) none⟩

theorem shows_offset_justWest :
    justWest.zone.Admitted ∧ justWest.zone.IsFloor (-1) ∧
      (∃ h h' d d', ShowsOffset justWest (-1) h h' d d') ∧ ShowsReadable justWest (-1) := by
  have admitted : justWest.zone.Admitted := by
    rintro offset known
    cases known
    decide
  have floor : justWest.zone.IsFloor (-1) := ⟨by decide, by decide⟩
  exact ⟨admitted, floor, shows_offset admitted floor⟩

example : format .utc (.zoned justWest) "Z X XX XXX" = .ok "-0001 -00 -0001 -00:01" := by
  decide +kernel

/-! ## Offsets of a clock -/

/-- The forms of an offset that has a sign. -/
inductive IsSigned (minutes : Int) (h h' d d' : Char) : List Char → Prop
  | hours : IsSigned minutes h h' d d' [signOf minutes, h, h']
  | basic : IsSigned minutes h h' d d' [signOf minutes, h, h', d, d']
  | colon : IsSigned minutes h h' d d' [signOf minutes, h, h', ':', d, d']

section

variable {minutes : Int} {h h' d d' : Char}
  (hour : clockNumber? 100 h h' = some (minutes.natAbs / 60))
  (minute : clockNumber? 60 d d' = some (minutes.natAbs % 60))

include hour minute

theorem IsSigned.isSome_offsetMinutes? {text : List Char}
    (signed : IsSigned minutes h h' d d' text) (hours : Nat) :
    (offsetMinutes? hours text).isSome ↔ minutes.natAbs / 60 < hours := by
  have read := clockNumber?_of_eq_some hour hours
  by_cases inside : minutes.natAbs / 60 < hours
  · rw [if_pos inside] at read
    cases signed with
    | hours => simp [offsetMinutes?_hours read, inside]
    | basic => simp [offsetMinutes?_minutes read minute, inside]
    | colon => simp [offsetMinutes?_colon read minute, inside]
  · rw [if_neg inside] at read
    cases signed <;> simp [offsetMinutes?, read, inside]

theorem IsSigned.offsetMinutes?_eq {text : List Char} (signed : IsSigned minutes h h' d d' text)
    {hours : Nat} (inside : minutes.natAbs / 60 < hours) (whole : minutes.tdiv 60 * 60 = minutes) :
    offsetMinutes? hours text = some minutes := by
  have read := clockNumber?_of_eq_some hour hours
  rw [if_pos inside] at read
  cases signed with
  | hours => rw [offsetMinutes?_hours read, whole]
  | basic => exact offsetMinutes?_minutes read minute
  | colon => exact offsetMinutes?_colon read minute

end

theorem ShowsOffset.exists_text {moment : ZonedTime} {minutes : Int} {h h' d d' : Char}
    (shown : ShowsOffset moment minutes h h' d d') {letter : Char}
    (offset : letter = 'Z' ∨ letter = 'X') (count : Nat) :
    ∃ text, Shows moment letter (count + 1) text ∧
      (minutes = 0 ∧ text = ['Z'] ∨ IsSigned minutes h h' d d' text) := by
  rcases offset with rfl | rfl
  · exact ⟨_, shown.offset count, .inr .basic⟩
  · by_cases zero : minutes = 0
    · exact ⟨_, shown.zero zero count, .inl ⟨zero, rfl⟩⟩
    · match count with
      | 0 => exact ⟨_, shown.hours zero, .inr .hours⟩
      | 1 => exact ⟨_, shown.basic zero, .inr .basic⟩
      | count + 2 => exact ⟨_, shown.colon zero count, .inr .colon⟩

/-- The hours are those of a clock but in the last minute of the offsets to the west, which is cut
down to a whole day. -/
theorem shows_clockOffset {moment : ZonedTime} (admitted : moment.zone.Admitted) {letter : Char}
    (offset : letter = 'Z' ∨ letter = 'X') (count : Nat) :
    ∃ text, Shows moment letter (count + 1) text ∧
      ((offsetMinutes? 24 text).isSome ↔
        -1439 * Zone.microsPerMinute ≤ moment.zone.offset.getD 0) ∧
      (moment.zone.offset.getD 0 < -1439 * Zone.microsPerMinute →
        offsetMinutes? 25 text = some (-1440)) := by
  generalize whole : moment.zone.minutes = minutes
  have bounds := admitted.bounds
  obtain ⟨le, lt⟩ := Zone.isFloor_iff.2 whole
  simp only [Zone.microsPerMinute, Zone.microsPerDay] at le lt bounds ⊢
  obtain ⟨h, h', d, d', shown⟩ := exists_showsOffset whole (by omega)
  obtain ⟨text, shows, ⟨rfl, rfl⟩ | signed⟩ := shown.exists_text offset count
  · refine ⟨_, shows, ?_, fun west => by omega⟩
    simp only [offsetMinutes?, Option.isSome_some, true_iff]
    omega
  · refine ⟨text, shows, ?_, fun west => ?_⟩
    · rw [signed.isSome_offsetMinutes? shown.hour shown.minute]
      omega
    · obtain rfl : minutes = -1440 := by omega
      exact signed.offsetMinutes?_eq shown.hour shown.minute (by decide) (by decide)

/-- A microsecond less than a day to the west. -/
def almostDayWest : ZonedTime :=
  ⟨.first, .midnight, .fixed (-86399999999) none⟩

theorem shows_clockOffset_almostDayWest :
    almostDayWest.zone.Admitted ∧ ∃ text, Shows almostDayWest 'X' 3 text ∧
      ((offsetMinutes? 24 text).isSome ↔
        -1439 * Zone.microsPerMinute ≤ almostDayWest.zone.offset.getD 0) ∧
      (almostDayWest.zone.offset.getD 0 < -1439 * Zone.microsPerMinute →
        offsetMinutes? 25 text = some (-1440)) := by
  have admitted : almostDayWest.zone.Admitted := by
    rintro offset known
    cases known
    decide
  exact ⟨admitted, shows_clockOffset admitted (.inr rfl) 2⟩

theorem shows_hourTwentyFour :
    almostDayWest.zone.Admitted ∧
      format .utc (.zoned almostDayWest) "Z" = .ok "-2400" ∧
      offsetMinutes? 24 "-2400".toList = none := by
  refine ⟨?_, by decide +kernel, by decide +kernel⟩
  rintro offset known
  cases known
  decide

end FileRouting.DatePattern
