import FileRouting.Proofs.Text.Comparison
import FileRouting.Proofs.Time.Succession

/-!
# The order of moments

Moments are ordered by the instants they are. In one zone this is the order of what its clock shows,
field by field from the year on, `compare_cut`; and moments are the same when cut down to whole
milliseconds exactly if the clock shows them within one millisecond, `cut_instant_eq_iff`.
-/

namespace FileRouting.Time

open FileRouting.Text

/-! ## The order of days -/

/-- Numbers compare as the steps that they lie in, and in one step as the order there. -/
theorem compare_steps {before : Nat → Nat} (mono : ∀ {a b}, a ≤ b → before a ≤ before b)
    {a b number number' : Nat} (behind : before a < number) (within : number ≤ before (a + 1))
    (behind' : before b < number') (within' : number' ≤ before (b + 1)) {order : Ordering}
    (inStep : a = b → compare number number' = order) :
    compare number number' = (compare a b).then order := by
  rcases Nat.lt_trichotomy a b with less | same | more
  · rw [Nat.compare_eq_lt.2 less, Nat.compare_eq_lt.2 (step_lt mono less within behind')]
    rfl
  · rw [inStep same, same, Std.compare_self, Ordering.eq_then]
  · rw [Nat.compare_eq_gt.2 more, Nat.compare_eq_gt.2 (step_lt mono more within' behind)]
    rfl

theorem compare_add_left (a b c : Nat) : compare (a + b) (a + c) = compare b c :=
  compare_congr (by omega) (by omega)

namespace Date

theorem compare_dayOfYear {d e : Date} (year : d.year = e.year) :
    compare d.dayOfYear e.dayOfYear = (compare d.month e.month).then (compare d.day e.day) := by
  have behind := e.daysBeforeMonth_lt_dayOfYear
  have within := e.dayOfYear_le
  rw [← year] at behind within
  refine compare_steps (daysBeforeMonth_mono d.year) d.daysBeforeMonth_lt_dayOfYear d.dayOfYear_le
    behind within fun month => ?_
  rw [dayOfYear, dayOfYear, ← year, ← month, compare_add_left]

/-- Days come in the order of their years, months and days of the month. -/
theorem compare_ordinal (d e : Date) :
    compare d.ordinal e.ordinal =
      (compare d.year e.year).then ((compare d.month e.month).then (compare d.day e.day)) := by
  refine compare_steps daysBeforeYear_le d.daysBeforeYear_lt_ordinal d.ordinal_le_daysBeforeYear
    e.daysBeforeYear_lt_ordinal e.ordinal_le_daysBeforeYear fun year => ?_
  rw [ordinal, ordinal, year, compare_add_left, compare_dayOfYear year]

end Date

/-! ## Instants -/

namespace ZonedTime

/-- Microseconds of the clock of the zone, from the start of 31 December of year 0. -/
def clock (moment : ZonedTime) : Nat :=
  moment.date.ordinal * 86400000000 + moment.time.micros

/-- The same, of the clock of UTC; an unknown offset counts as zero. -/
def instant (moment : ZonedTime) : Int :=
  moment.clock - moment.zone.offset.getD 0

end ZonedTime

/-- The time with its microseconds cut down to whole milliseconds. -/
def TimeOfDay.cut (time : TimeOfDay) : TimeOfDay :=
  { time with micro := ⟨time.micro / 1000 * 1000, by omega⟩ }

namespace ZonedTime

/-- The moment with its microseconds cut down to whole milliseconds. -/
def cut (moment : ZonedTime) : ZonedTime :=
  { moment with time := moment.time.cut }

/-- The clock of the zone shows the moment in a millisecond, counted from where `clock` starts. -/
def FallsIn (moment : ZonedTime) (milli : Nat) : Prop :=
  milli * 1000 ≤ moment.clock ∧ moment.clock < (milli + 1) * 1000

/-- Some millisecond has both moments in it. -/
def SameMilli (a b : ZonedTime) : Prop :=
  ∃ milli, a.FallsIn milli ∧ b.FallsIn milli

theorem clock_cut (moment : ZonedTime) :
    moment.cut.clock =
      ((((moment.date.ordinal * 24 + moment.time.hour) * 60 + moment.time.minute) * 60 +
        moment.time.second) * 1000 + moment.time.milli) * 1000 := by
  simp only [clock, cut, TimeOfDay.cut, TimeOfDay.micros, TimeOfDay.milli]
  omega

theorem clock_cut_eq (moment : ZonedTime) : moment.cut.clock = moment.clock / 1000 * 1000 := by
  simp only [clock, cut, TimeOfDay.cut, TimeOfDay.micros]
  omega

variable {a b : ZonedTime} (same : a.zone.offset = b.zone.offset)

theorem sameMilli_iff : a.SameMilli b ↔ a.clock / 1000 = b.clock / 1000 := by
  constructor
  · rintro ⟨milli, ⟨le, lt⟩, le', lt'⟩
    omega
  · intro same
    exact ⟨a.clock / 1000, ⟨by omega, by omega⟩, by omega, by omega⟩

include same

theorem compare_instant : compare a.instant b.instant = compare a.clock b.clock := by
  rw [instant, instant, same]
  exact compare_congr (by omega) (by omega)

theorem cut_instant_eq_iff : a.cut.instant = b.cut.instant ↔ a.SameMilli b := by
  rw [sameMilli_iff, instant, instant, clock_cut_eq, clock_cut_eq]
  have offset : a.cut.zone.offset = b.cut.zone.offset := same
  rw [offset]
  omega

theorem compare_cut :
    compare a.cut.instant b.cut.instant =
      (compare a.date.year b.date.year).then ((compare a.date.month b.date.month).then
        ((compare a.date.day b.date.day).then ((compare a.time.hour.val b.time.hour.val).then
          ((compare a.time.minute.val b.time.minute.val).then
            ((compare a.time.second.val b.time.second.val).then
              (compare a.time.milli b.time.milli)))))) := by
  have offset : a.cut.zone.offset = b.cut.zone.offset := same
  have milli (time : TimeOfDay) : time.milli < 1000 := by
    rw [TimeOfDay.milli]
    omega
  have thousand (x y : Nat) : compare (x * 1000) (y * 1000) = compare x y :=
    compare_congr (by omega) (by omega)
  rw [compare_instant offset, clock_cut, clock_cut, thousand,
    compare_scaled (milli a.time) (milli b.time),
    compare_scaled a.time.second.isLt b.time.second.isLt,
    compare_scaled a.time.minute.isLt b.time.minute.isLt,
    compare_scaled a.time.hour.isLt b.time.hour.isLt, Date.compare_ordinal]
  simp only [Ordering.then_assoc]

end ZonedTime

end FileRouting.Time
