import FileRouting.Proofs.Time.Succession
import Mathlib.Data.List.FinRange

/-!
# Weeks by counting

The fields of a date that have to do with its week are given by formulas. What they count are days:
the days of the month that fall on a weekday, and the whole weeks from the start of a year. The main
statements are `Date.weekdayInMonth_eq`, `Date.weekOfMonth_eq` and `Date.weekOfYear_eq`.
-/

namespace FileRouting.Time

namespace Date

/-! ## The days of a month -/

/-- A day of the month of `d`, counted from 0, that is not after `d`. -/
def monthDay (d : Date) (day : Fin d.day) : Date :=
  ⟨d.year, d.month, day + 1, d.year_ge, d.year_le, d.month_ge, d.month_le,
    Nat.le_add_left 1 day, Nat.le_trans day.isLt d.day_le⟩

/-- The days of the month up to and with `d`. -/
def monthSoFar (d : Date) : List Date :=
  (List.finRange d.day).map d.monthDay

/-- The number of the day before the month. -/
def beforeMonth (d : Date) : Nat :=
  daysBeforeYear d.year + daysBeforeMonth d.year d.month

theorem ordinal_eq (d : Date) : d.ordinal = d.beforeMonth + d.day :=
  (Nat.add_assoc _ _ _).symm

theorem map_ordinal_monthSoFar (d : Date) :
    d.monthSoFar.map ordinal = List.range' (d.beforeMonth + 1) d.day := by
  have numbers : ordinal ∘ d.monthDay = (d.beforeMonth + 1 + ·) ∘ Fin.val := by
    funext day
    calc (d.monthDay day).ordinal = d.beforeMonth + (day + 1) := ordinal_eq _
      _ = d.beforeMonth + 1 + day := by omega
  rw [monthSoFar, List.map_map, numbers, ← List.map_map, List.map_coe_finRange_eq_range,
    List.range'_eq_map_range]

/-! ## Every seventh day -/

theorem countP_fallsOn (days : List Date) (w : Weekday) :
    days.countP (·.FallsOn w) =
      (days.map ordinal).countP fun number => w.number = (number + 6) % 7 + 1 := by
  rw [List.countP_map]
  refine List.countP_congr fun d _ => ?_
  simp [fallsOn_iff, weekday, weekdayOf]

/-- Among successive numbers, those that a shift makes multiples of seven. -/
theorem countP_sevenths (shift start count : Nat) :
    (List.range' start count).countP (fun number => (shift + number) % 7 = 0) =
      (shift + start + count + 6) / 7 - (shift + start + 6) / 7 := by
  induction count generalizing start with
  | zero => simp
  | succ count ih =>
    rw [List.range'_succ, List.countP_cons, ih]
    by_cases multiple : (shift + start) % 7 = 0 <;> simp [multiple] <;> omega

/-- The days of the month with the weekday of its last one are the days of whole weeks before it. -/
theorem weekdayInMonth_eq {d : Date} {w : Weekday} (falls : d.FallsOn w) :
    d.weekdayInMonth = d.monthSoFar.countP (·.FallsOn w) := by
  have sevenths (number : Nat) : w.number = (number + 6) % 7 + 1 ↔
      (6 * d.ordinal + number) % 7 = 0 := by
    rw [falls.number_eq, weekday, weekdayOf]
    omega
  have := d.day_ge
  simp only [countP_fallsOn, map_ordinal_monthSoFar, sevenths, countP_sevenths, weekdayInMonth,
    ordinal_eq]
  omega

theorem weekOfMonth_eq (d : Date) :
    d.weekOfMonth = d.monthSoFar.tail.countP (·.FallsOn .monday) + 1 := by
  have sevenths (number : Nat) : Weekday.monday.number = (number + 6) % 7 + 1 ↔
      (6 + number) % 7 = 0 := by
    rw [Weekday.number]
    omega
  have := d.day_ge
  simp only [countP_fallsOn, List.map_tail, map_ordinal_monthSoFar, List.tail_range', sevenths,
    countP_sevenths, weekOfMonth, weekdayOf, beforeMonth]
  omega

/-! ## Weeks of a year -/

/-- A day comes a number of days after 1 January of its year. -/
def DaysSinceNewYear (d : Date) (since : Nat) : Prop :=
  ∃ newYear : Date, newYear.year = d.year ∧ newYear.month = 1 ∧ newYear.day = 1 ∧
    newYear.DaysTo since d

theorem daysSinceNewYear_iff {d : Date} {since : Nat} :
    d.DaysSinceNewYear since ↔ d.dayOfYear = since + 1 := by
  have none_before : daysBeforeMonth d.year 1 = 0 := rfl
  constructor
  · rintro ⟨newYear, year, month, day, days⟩
    have start : newYear.ordinal = daysBeforeYear d.year + (0 + 1) := by
      rw [ordinal, dayOfYear, year, month, day, none_before]
    rw [daysTo_iff, start, ordinal] at days
    omega
  · intro count
    refine ⟨⟨d.year, 1, 1, d.year_ge, d.year_le, by decide, by decide, by decide,
      daysInMonth_pos _ _⟩, rfl, rfl, rfl, daysTo_iff.2 ?_⟩
    change d.ordinal = daysBeforeYear d.year + (daysBeforeMonth d.year 1 + 1) + since
    rw [ordinal, count, none_before]
    omega

theorem exists_daysSinceNewYear (d : Date) : ∃ since, d.DaysSinceNewYear since := by
  have positive : 1 ≤ d.dayOfYear :=
    Nat.succ_le_of_lt (Nat.zero_lt_of_lt d.daysBeforeMonth_lt_dayOfYear)
  obtain ⟨since, count⟩ := Nat.exists_eq_add_of_le' positive
  exact ⟨since, daysSinceNewYear_iff.2 count⟩

/-- The Thursday of the week, from a Monday to the Sunday after it, that a day is in. -/
def IsThursdayOf (thursday d : Date) : Prop :=
  ∃ (monday : Date) (since : Nat), monday.FallsOn .monday ∧ since < 7 ∧
    monday.DaysTo since d ∧ monday.DaysTo 3 thursday

theorem ordinal_le_lastOrdinal (d : Date) : d.ordinal ≤ lastOrdinal :=
  Nat.le_trans d.ordinal_le_daysBeforeYear (daysBeforeYear_le (Nat.succ_le_succ d.year_le))

theorem IsThursdayOf.ordinal_eq {thursday d : Date} (h : thursday.IsThursdayOf d) :
    thursday.ordinal + d.weekday = d.ordinal + 3 := by
  obtain ⟨monday, since, falls, inWeek, days, days'⟩ := h
  have number := falls.number_eq
  rw [daysTo_iff] at days days'
  simp only [weekday, weekdayOf, Weekday.number] at number ⊢
  omega

/-- Every week that starts in the calendar has its Thursday there. -/
theorem exists_isThursdayOf (d : Date) : ∃ thursday : Date, thursday.IsThursdayOf d := by
  have positive := d.ordinal_pos
  have inside := d.ordinal_le_lastOrdinal
  have weekday_eq : d.weekday = (d.ordinal + 6) % 7 := rfl
  have monday_le : d.ordinal - d.weekday ≤ lastOrdinal := by omega
  -- The calendar ends on a Friday.
  have thursday_le : d.ordinal - d.weekday + 3 ≤ lastOrdinal := by
    unfold lastOrdinal at inside ⊢
    omega
  obtain ⟨monday, _, monday_eq⟩ := ofOrdinal_of_mem_calendar (by omega) monday_le
  obtain ⟨thursday, _, thursday_eq⟩ := ofOrdinal_of_mem_calendar (by omega) thursday_le
  refine ⟨thursday, monday, d.weekday, ?_, ?_, ?_, ?_⟩
  · rw [fallsOn_iff, weekday, weekdayOf, monday_eq, Weekday.number]
    omega
  · omega
  · rw [daysTo_iff]
    omega
  · rw [daysTo_iff]
    omega

/-- Week 1 of a year starts on a Monday, and its Thursday is one of the first seven days. -/
theorem firstWeek_bounds (year : Nat) :
    daysBeforeYear year + 1 ≤ firstWeek year + 3 ∧ firstWeek year + 3 ≤ daysBeforeYear year + 7 ∧
      (firstWeek year + 6) % 7 = 0 := by
  unfold firstWeek weekdayOf
  dsimp only
  refine ⟨?_, ?_, ?_⟩ <;> split <;> omega

theorem daysBeforeYear_add_le {year : Nat} (positive : minYear ≤ year) :
    daysBeforeYear year + 365 ≤ daysBeforeYear (year + 1) := by
  rw [daysBeforeYear_succ positive, daysBeforeMonth_end]
  split <;> omega

section

variable {thursday d : Date} (h : thursday.IsThursdayOf d)

include h

/-- A week is in a year or behind it if its Thursday is. -/
theorem firstWeek_le_iff (year : Nat) :
    firstWeek year ≤ d.ordinal ↔ daysBeforeYear year < thursday.ordinal := by
  have bounds := firstWeek_bounds year
  have sameWeek := h.ordinal_eq
  simp only [weekday, weekdayOf] at sameWeek
  omega

theorem firstWeek_year :
    (if (d.ordinal : Int) < firstWeek d.year then firstWeek (d.year - 1)
      else if firstWeek (d.year + 1) ≤ d.ordinal then firstWeek (d.year + 1)
      else firstWeek d.year) = firstWeek thursday.year := by
  have sameWeek := h.ordinal_eq
  have weekday_lt : d.weekday < 7 := Nat.mod_lt _ (by decide)
  have behind := d.daysBeforeYear_lt_ordinal
  have within := d.ordinal_le_daysBeforeYear
  have year_unique {year : Nat} (behind : daysBeforeYear year < thursday.ordinal)
      (within : thursday.ordinal ≤ daysBeforeYear (year + 1)) : year = thursday.year :=
    step_unique daysBeforeYear_le behind within thursday.daysBeforeYear_lt_ordinal
      thursday.ordinal_le_daysBeforeYear
  split
  · next before =>
    rw [← Int.not_le, firstWeek_le_iff h, Nat.not_lt] at before
    have positive := thursday.ordinal_pos
    obtain ⟨passed, year⟩ : ∃ passed, d.year = passed + 1 :=
      Nat.exists_eq_add_of_le' d.year_ge
    rw [year] at before behind ⊢
    cases passed with
    | zero =>
      have none_before : daysBeforeYear (0 + 1) = 0 := rfl
      omega
    | succ passed =>
      have long := @daysBeforeYear_add_le (passed + 1) (Nat.le_add_left 1 passed)
      have last : passed + 1 = thursday.year := year_unique (by omega) before
      rw [Nat.add_sub_cancel, last]
  · next inside =>
    rw [Int.not_lt, firstWeek_le_iff h] at inside
    split
    · next after =>
      rw [firstWeek_le_iff h] at after
      have long := @daysBeforeYear_add_le (d.year + 1) (Nat.le_add_left 1 d.year)
      rw [year_unique after (by omega)]
    · next notAfter =>
      rw [firstWeek_le_iff h, Nat.not_lt] at notAfter
      rw [year_unique inside notAfter]

theorem weekOfYear_eq {since : Nat} (days : thursday.DaysSinceNewYear since) :
    d.weekOfYear = since / 7 + 1 := by
  have bounds := firstWeek_bounds thursday.year
  have sameWeek := h.ordinal_eq
  have ordinal_eq : thursday.ordinal = daysBeforeYear thursday.year + (since + 1) := by
    rw [ordinal, daysSinceNewYear_iff.1 days]
  simp only [weekOfYear, firstWeek_year h]
  simp only [weekday, weekdayOf] at sameWeek
  omega

end

end Date

end FileRouting.Time
