import FileRouting.Time.Stamp

/-!
# The days of the calendar

The days of the calendar have the numbers from 1 to 3652059, and each of them is the day of its
number, `Date.ofOrdinal_of_mem_calendar`.
-/

namespace FileRouting.Time

/-- The number of the last day of the calendar. -/
def lastOrdinal : Nat := 3652059

/-! ## The year of a day -/

theorem daysBeforeYear_add_one (passed : Nat) :
    daysBeforeYear (passed + 1) = passed * 365 + passed / 4 - passed / 100 + passed / 400 := rfl

/-- The mean length of a year is wrong by less than a year. -/
theorem daysBeforeYear_yearOfOrdinal {number : Nat} (positive : 1 ≤ number) :
    ∃ passed, Date.yearOfOrdinal number = passed + 1 ∧ daysBeforeYear (passed + 1) < number ∧
      number ≤ daysBeforeYear (passed + 2) := by
  unfold Date.yearOfOrdinal
  generalize mean : number * 400 / 146097 = passed
  dsimp only
  split
  · next earlier =>
    obtain _ | passed := passed
    · exact absurd (Nat.le_trans positive earlier) (by decide)
    · refine ⟨passed, rfl, ?_, earlier⟩
      rw [daysBeforeYear_add_one]
      omega
  · next late =>
    split
    · next later =>
      refine ⟨passed + 1, rfl, later, ?_⟩
      rw [daysBeforeYear_add_one]
      omega
    · next inside => exact ⟨passed, rfl, Nat.lt_of_not_le late, Nat.le_of_not_lt inside⟩

theorem isLeapYear_iff (year : Nat) :
    isLeapYear year ↔ year % 4 = 0 ∧ (year % 100 ≠ 0 ∨ year % 400 = 0) := by
  simp [isLeapYear]

theorem daysBeforeMonth_end (year : Nat) :
    daysBeforeMonth year 13 = if isLeapYear year then 366 else 365 := by
  simp only [daysBeforeMonth, daysInMonth]
  cases isLeapYear year <;> rfl

theorem daysBeforeYear_add_two (passed : Nat) :
    daysBeforeYear (passed + 2) =
      daysBeforeYear (passed + 1) + daysBeforeMonth (passed + 1) 13 := by
  have leap := isLeapYear_iff (passed + 1)
  have fourth : (passed + 1) / 4 = passed / 4 + if (passed + 1) % 4 = 0 then 1 else 0 := by
    split <;> omega
  have century : (passed + 1) / 100 = passed / 100 + if (passed + 1) % 100 = 0 then 1 else 0 := by
    split <;> omega
  have fourth_century :
      (passed + 1) / 400 = passed / 400 + if (passed + 1) % 400 = 0 then 1 else 0 := by
    split <;> omega
  have century_of : (passed + 1) % 400 = 0 → (passed + 1) % 100 = 0 := by omega
  have fourth_of : (passed + 1) % 100 = 0 → (passed + 1) % 4 = 0 := by omega
  have small : passed / 100 ≤ passed := Nat.div_le_self _ _
  rw [daysBeforeMonth_end, daysBeforeYear_add_one, daysBeforeYear_add_one passed, fourth, century,
    fourth_century]
  simp only [leap]
  generalize passed / 4 = fourths, passed / 100 = centuries, passed / 400 = fourth_centuries at *
  clear leap fourth century fourth_century
  split <;> split <;> split <;> split <;> omega

theorem daysBeforeYear_mono {passed passed' : Nat} (h : passed ≤ passed') :
    daysBeforeYear (passed + 1) ≤ daysBeforeYear (passed' + 1) := by
  induction h with
  | refl => exact Nat.le_refl _
  | @step later _ ih =>
    rw [Nat.succ_eq_add_one, daysBeforeYear_add_two]
    exact Nat.le_trans ih (Nat.le_add_right _ _)

/-! ## The month of a day -/

theorem daysBeforeMonth_succ (year : Nat) {month : Nat} (positive : 1 ≤ month) :
    daysBeforeMonth year (month + 1) = daysBeforeMonth year month + daysInMonth year month := by
  rw [daysBeforeMonth, if_neg (by omega)]

/-- The search for the month of a day goes past a month by as many days as it has, so the day of the
year stays the same. -/
theorem monthAndDay_spec (year months month day : Nat) (ends : month + months = 12)
    (first : 1 ≤ month) (positive : 1 ≤ day)
    (inside : daysBeforeMonth year month + day ≤ daysBeforeMonth year 13) :
    let found := Date.monthAndDay year months month day
    1 ≤ found.1 ∧ found.1 ≤ 12 ∧ 1 ≤ found.2 ∧ found.2 ≤ daysInMonth year found.1 ∧
      daysBeforeMonth year found.1 + found.2 = daysBeforeMonth year month + day := by
  induction months generalizing month day with
  | zero =>
    obtain rfl : month = 12 := ends
    have last : daysBeforeMonth year 13 = daysBeforeMonth year 12 + daysInMonth year 12 :=
      daysBeforeMonth_succ year first
    have within : day ≤ daysInMonth year 12 := by omega
    exact ⟨first, Nat.le_refl _, positive, within, rfl⟩
  | succ months ih =>
    rw [Date.monthAndDay]
    split
    · next within => exact ⟨first, by omega, positive, within, rfl⟩
    · next beyond =>
      have next_month := daysBeforeMonth_succ year first
      obtain ⟨month_ge, month_le, day_ge, day_le, same⟩ :=
        ih (month + 1) (day - daysInMonth year month) (by omega) (by omega) (by omega) (by omega)
      exact ⟨month_ge, month_le, day_ge, day_le, by omega⟩

/-! ## Days of numbers -/

theorem Date.ofNumbers_eq_ok {year month day : Nat} (year_in : minYear ≤ year ∧ year ≤ maxYear)
    (month_in : 1 ≤ month ∧ month ≤ 12) (day_in : 1 ≤ day ∧ day ≤ daysInMonth year month) :
    ∃ date, ofNumbers year month day = .ok date ∧ date.year = year ∧ date.month = month ∧
      date.day = day := by
  rw [ofNumbers, dif_pos year_in, dif_pos month_in, dif_pos day_in]
  exact ⟨_, rfl, rfl, rfl, rfl⟩

theorem Date.ofOrdinal_of_mem_calendar {number : Nat} (positive : 1 ≤ number)
    (inside : number ≤ lastOrdinal) :
    ∃ date, ofOrdinal number = .ok date ∧ date.ordinal = number := by
  obtain ⟨passed, year_eq, before, behind⟩ := daysBeforeYear_yearOfOrdinal positive
  have year_le : passed + 1 ≤ 9999 := by
    refine Nat.le_of_not_lt fun late => ?_
    have years := daysBeforeYear_mono (Nat.le_of_lt_succ late)
    have all : daysBeforeYear (9999 + 1) = lastOrdinal := rfl
    omega
  rw [daysBeforeYear_add_two] at behind
  have none_before : daysBeforeMonth (passed + 1) 1 = 0 := rfl
  obtain ⟨month_ge, month_le, day_ge, day_le, same⟩ :=
    monthAndDay_spec (passed + 1) 11 1 (number - daysBeforeYear (passed + 1)) rfl (Nat.le_refl _)
      (by omega) (by omega)
  obtain ⟨date, made, year, month, day⟩ :=
    ofNumbers_eq_ok ⟨Nat.le_add_left 1 passed, year_le⟩ ⟨month_ge, month_le⟩ ⟨day_ge, day_le⟩
  refine ⟨date, ?_, ?_⟩
  · rw [← made, ← year_eq]
    rfl
  · rw [ordinal, dayOfYear, year, month, day]
    omega

theorem Date.ordinal_first : first.ordinal = 1 := rfl

/-- A number of microseconds from the epoch whose day is in the calendar, and not the first one, is
the time that the clock of the zone shows. -/
theorem ZonedTime.ofEpoch_of_mem_calendar {micros : Int} {zone : Zone}
    (later : 2 ≤ epochOrdinal + (micros + zone.offset.getD 0).fdiv Zone.microsPerDay)
    (inside : epochOrdinal + (micros + zone.offset.getD 0).fdiv Zone.microsPerDay ≤ lastOrdinal) :
    ∃ moment, ofEpoch micros zone = .ok moment := by
  obtain ⟨number, same⟩ := Int.eq_ofNat_of_zero_le (Int.le_trans (by decide) later)
  rw [same] at later inside
  obtain ⟨date, made, ordinal⟩ :=
    @Date.ofOrdinal_of_mem_calendar number (by omega) (by omega)
  have notFirst : date ≠ Date.first := by
    rintro rfl
    rw [Date.ordinal_first] at ordinal
    omega
  rw [ofEpoch]
  simp only [same, made, bind, Except.bind, ofLocal, if_neg notFirst]
  exact ⟨_, rfl⟩

end FileRouting.Time
