import FileRouting.Proofs.Time.Calendar

/-!
# From day to day

The calendar goes on from day to day: within a month, from the last day of a month to the first of
the next one, and from 31 December to the first day of the next year. To count days is to count
these steps, and the weekdays go round with them from a Monday on. The numbers of days say the same
without counting: `Date.daysTo_iff` and `Date.fallsOn_iff`.
-/

namespace FileRouting.Time

/-! ## Weekdays -/

inductive Weekday
  | monday
  | tuesday
  | wednesday
  | thursday
  | friday
  | saturday
  | sunday
deriving DecidableEq, Repr

namespace Weekday

/-- The place in the week, from 1 to 7. -/
def number : Weekday → Nat
  | monday => 1
  | tuesday => 2
  | wednesday => 3
  | thursday => 4
  | friday => 5
  | saturday => 6
  | sunday => 7

def name : Weekday → String
  | monday => "Monday"
  | tuesday => "Tuesday"
  | wednesday => "Wednesday"
  | thursday => "Thursday"
  | friday => "Friday"
  | saturday => "Saturday"
  | sunday => "Sunday"

/-- The weekday of the day after. -/
def next : Weekday → Weekday
  | monday => tuesday
  | tuesday => wednesday
  | wednesday => thursday
  | thursday => friday
  | friday => saturday
  | saturday => sunday
  | sunday => monday

theorem number_inj {w w' : Weekday} (h : w.number = w'.number) : w = w' := by
  cases w <;> cases w' <;> first | rfl | cases h

theorem number_next (w : Weekday) : w.next.number = w.number % 7 + 1 := by
  cases w <;> rfl

end Weekday

/-! ## The numbers of a year and of a month -/

theorem daysInMonth_le (year month : Nat) : daysInMonth year month ≤ 31 := by
  unfold daysInMonth
  split
  · split <;> decide
  all_goals decide

theorem daysInMonth_pos (year month : Nat) : 1 ≤ daysInMonth year month := by
  unfold daysInMonth
  split
  · split <;> decide
  all_goals decide

theorem daysBeforeMonth_mono (year : Nat) {month month' : Nat} (h : month ≤ month') :
    daysBeforeMonth year month ≤ daysBeforeMonth year month' := by
  induction h with
  | refl => exact Nat.le_refl _
  | @step later _ ih =>
    refine Nat.le_trans ih ?_
    cases later with
    | zero => exact Nat.le_refl 0
    | succ later => exact Nat.le.intro (daysBeforeMonth_succ year (Nat.le_add_left 1 later)).symm

theorem daysBeforeYear_succ {year : Nat} (positive : minYear ≤ year) :
    daysBeforeYear (year + 1) = daysBeforeYear year + daysBeforeMonth year 13 := by
  obtain ⟨passed, rfl⟩ := Nat.exists_eq_add_of_le' positive
  exact daysBeforeYear_add_two passed

theorem daysBeforeYear_le {year year' : Nat} (h : year ≤ year') :
    daysBeforeYear year ≤ daysBeforeYear year' := by
  cases year with
  | zero => exact Nat.zero_le _
  | succ passed =>
    obtain ⟨passed', rfl⟩ := Nat.exists_eq_add_of_le' (Nat.le_trans (Nat.le_add_left 1 passed) h)
    exact daysBeforeYear_mono (Nat.le_of_succ_le_succ h)

/-- What lies in an earlier step of what grows, be it months or years, is less. -/
theorem step_lt {before : Nat → Nat} (mono : ∀ {a b}, a ≤ b → before a ≤ before b)
    {a b number number' : Nat} (less : a < b) (within : number ≤ before (a + 1))
    (behind : before b < number') : number < number' :=
  Nat.lt_of_le_of_lt (Nat.le_trans within (mono less)) behind

/-- A number lies in one step only. -/
theorem step_unique {before : Nat → Nat} (mono : ∀ {a b}, a ≤ b → before a ≤ before b)
    {a b number : Nat} (behind : before a < number) (within : number ≤ before (a + 1))
    (behind' : before b < number) (within' : number ≤ before (b + 1)) : a = b := by
  rcases Nat.lt_trichotomy a b with less | same | more
  · exact absurd (step_lt mono less within behind') (Nat.lt_irrefl number)
  · exact same
  · exact absurd (step_lt mono more within' behind) (Nat.lt_irrefl number)

namespace Date

variable {d e : Date}

theorem eq_of_parts (year : d.year = e.year) (month : d.month = e.month) (day : d.day = e.day) :
    d = e := by
  cases d
  cases e
  cases year
  cases month
  cases day
  rfl

theorem daysBeforeMonth_lt_dayOfYear (d : Date) : daysBeforeMonth d.year d.month < d.dayOfYear :=
  Nat.lt_add_of_pos_right d.day_ge

theorem dayOfYear_le (d : Date) : d.dayOfYear ≤ daysBeforeMonth d.year (d.month + 1) := by
  rw [daysBeforeMonth_succ d.year d.month_ge]
  exact Nat.add_le_add_left d.day_le _

theorem daysBeforeYear_lt_ordinal (d : Date) : daysBeforeYear d.year < d.ordinal :=
  Nat.lt_add_of_pos_right (Nat.zero_lt_of_lt d.daysBeforeMonth_lt_dayOfYear)

theorem ordinal_le_daysBeforeYear (d : Date) : d.ordinal ≤ daysBeforeYear (d.year + 1) := by
  rw [daysBeforeYear_succ d.year_ge]
  have months := daysBeforeMonth_mono d.year (Nat.succ_le_succ d.month_le)
  exact Nat.add_le_add_left (Nat.le_trans d.dayOfYear_le months) _

theorem ordinal_inj (same : d.ordinal = e.ordinal) : d = e := by
  have year : d.year = e.year := by
    have behind := d.daysBeforeYear_lt_ordinal
    have within := d.ordinal_le_daysBeforeYear
    rw [same] at behind within
    exact step_unique daysBeforeYear_le behind within e.daysBeforeYear_lt_ordinal
      e.ordinal_le_daysBeforeYear
  have inYear : d.dayOfYear = e.dayOfYear := by
    rw [ordinal, ordinal, year] at same
    exact Nat.add_left_cancel same
  have month : d.month = e.month := by
    have behind := d.daysBeforeMonth_lt_dayOfYear
    have within := d.dayOfYear_le
    rw [inYear, year] at behind within
    exact step_unique (daysBeforeMonth_mono e.year) behind within e.daysBeforeMonth_lt_dayOfYear
      e.dayOfYear_le
  refine eq_of_parts year month ?_
  rw [dayOfYear, dayOfYear, year, month] at inYear
  exact Nat.add_left_cancel inYear

/-! ## The day after a day -/

/-- One day comes right after another. -/
inductive Next (d e : Date) : Prop
  | day (year : e.year = d.year) (month : e.month = d.month) (day : e.day = d.day + 1)
  | month (last : d.day = daysInMonth d.year d.month) (year : e.year = d.year)
      (month : e.month = d.month + 1) (day : e.day = 1)
  | year (lastMonth : d.month = 12) (last : d.day = daysInMonth d.year 12)
      (year : e.year = d.year + 1) (month : e.month = 1) (day : e.day = 1)

theorem Next.ordinal_eq (next : d.Next e) : e.ordinal = d.ordinal + 1 := by
  cases next with
  | day year month day =>
    rw [ordinal, dayOfYear, year, month, day]
    rfl
  | month last year month day =>
    rw [ordinal, dayOfYear, year, month, day, daysBeforeMonth_succ d.year d.month_ge, ← last]
    rfl
  | year lastMonth last year month day =>
    have months : daysBeforeMonth d.year 13 = daysBeforeMonth d.year 12 + daysInMonth d.year 12 :=
      daysBeforeMonth_succ d.year (by decide)
    have eve : d.ordinal = daysBeforeYear (d.year + 1) := by
      rw [daysBeforeYear_succ d.year_ge, months, ordinal, dayOfYear, lastMonth, last]
    rw [eve, ordinal, dayOfYear, year, month, day]
    rfl

/-- Every day but the first comes after another one. -/
theorem eq_first_or_exists_next (e : Date) : e = first ∨ ∃ d : Date, d.Next e := by
  obtain ⟨year, month, day, year_ge, year_le, month_ge, month_le, day_ge, day_le⟩ := e
  obtain _ | _ | day := day
  · cases day_ge
  · obtain _ | _ | month := month
    · cases month_ge
    · obtain _ | _ | year := year
      · cases year_ge
      · exact .inl rfl
      · exact .inr ⟨⟨year + 1, 12, 31, Nat.le_add_left 1 year, Nat.le_of_lt year_le, by decide,
          by decide, by decide, Nat.le_refl 31⟩, .year rfl rfl rfl rfl rfl⟩
    · exact .inr ⟨⟨year, month + 1, daysInMonth year (month + 1), year_ge, year_le,
        Nat.le_add_left 1 month, Nat.le_of_lt month_le, daysInMonth_pos _ _, Nat.le_refl _⟩,
        .month rfl rfl rfl rfl⟩
  · exact .inr ⟨⟨year, month, day + 1, year_ge, year_le, month_ge, month_le,
      Nat.le_add_left 1 day, Nat.le_of_lt day_le⟩, .day rfl rfl rfl⟩

theorem ordinal_pos (d : Date) : 1 ≤ d.ordinal :=
  Nat.succ_le_of_lt (Nat.zero_lt_of_lt d.daysBeforeYear_lt_ordinal)

/-! ## Counting days -/

/-- A day comes a number of days after `start`. -/
inductive DaysTo (start : Date) : Nat → Date → Prop
  | same : DaysTo start 0 start
  | next {count : Nat} {d e : Date} (days : DaysTo start count d) (next : d.Next e) :
      DaysTo start (count + 1) e

theorem daysTo_iff {start : Date} {count : Nat} :
    start.DaysTo count d ↔ d.ordinal = start.ordinal + count := by
  constructor
  · intro days
    induction days with
    | same => rfl
    | next _ next ih => rw [next.ordinal_eq, ih, Nat.add_assoc]
  · intro same
    induction count generalizing d with
    | zero => exact ordinal_inj same ▸ .same
    | succ count ih =>
      rcases d.eq_first_or_exists_next with rfl | ⟨earlier, next⟩
      · have := start.ordinal_pos
        rw [ordinal_first] at same
        omega
      · exact .next (ih (Nat.succ.inj (next.ordinal_eq.symm.trans same))) next

/-! ## Counting weekdays -/

/-- The calendar starts on a Monday, and the weekdays go on with the days. -/
inductive FallsOn : Date → Weekday → Prop
  | first : FallsOn first .monday
  | next {d e : Date} {w : Weekday} (falls : FallsOn d w) (next : d.Next e) : FallsOn e w.next

theorem FallsOn.number_eq {w : Weekday} (falls : d.FallsOn w) : w.number = d.weekday + 1 := by
  induction falls with
  | first => rfl
  | next _ next ih =>
    rw [Weekday.number_next, ih, weekday, weekday, weekdayOf, weekdayOf, next.ordinal_eq]
    omega

theorem exists_fallsOn (d : Date) : ∃ w, d.FallsOn w := by
  have days : first.DaysTo (d.ordinal - 1) d := by
    have := d.ordinal_pos
    rw [daysTo_iff, ordinal_first]
    omega
  generalize d.ordinal - 1 = count at days
  induction days with
  | same => exact ⟨.monday, .first⟩
  | next _ next ih =>
    obtain ⟨w, falls⟩ := ih
    exact ⟨w.next, falls.next next⟩

theorem fallsOn_iff {w : Weekday} : d.FallsOn w ↔ w.number = d.weekday + 1 := by
  refine ⟨FallsOn.number_eq, fun same => ?_⟩
  obtain ⟨w', falls⟩ := d.exists_fallsOn
  obtain rfl : w = w' := Weekday.number_inj (same.trans falls.number_eq.symm)
  exact falls

instance (d : Date) (w : Weekday) : Decidable (d.FallsOn w) :=
  decidable_of_iff _ fallsOn_iff.symm

end Date

end FileRouting.Time
