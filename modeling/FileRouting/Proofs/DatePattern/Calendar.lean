import FileRouting.Proofs.DatePattern.Composition
import FileRouting.Proofs.Time.Week

/-!
# The calendar fields of a date pattern

The day of the year, the weekday and the weeks that a date pattern shows are what one gets by going
through the calendar day by day and counting. The main statement is `shows_counts`.
-/

namespace FileRouting.DatePattern

open FileRouting.Text FileRouting.Time

/-- A letter shows a number, in as many digits at least as the letter is repeated. -/
def ShowsNumber (moment : ZonedTime) (letter : Char) (number : Nat) : Prop :=
  ∀ count, Shows moment letter (count + 1) (padded (count + 1) number)

/-- A letter shows a name, in full if the letter is repeated four times or more, and else the first
three letters of the name. -/
def ShowsName (moment : ZonedTime) (letter : Char) (name : String) : Prop :=
  ∀ count, Shows moment letter (count + 1)
    (if 4 ≤ count + 1 then name.toList else name.toList.take 3)

section

variable (moment : ZonedTime) {weekday : Weekday} (falls : moment.date.FallsOn weekday)

include falls

theorem showsNumber_weekday : ShowsNumber moment 'u' weekday.number := by
  rw [falls.number_eq]
  exact shows_field moment .weekdayNumber

theorem showsName_weekday : ShowsName moment 'E' weekday.name := by
  intro count
  have named : weekdayNames.getD moment.date.weekday "" = weekday.name := by
    have place : moment.date.weekday = weekday.number - 1 := by
      rw [falls.number_eq, Nat.add_sub_cancel]
    rw [place]
    cases weekday <;> rfl
  rw [← named]
  exact shows_field moment .weekdayName count

theorem showsNumber_weekdayInMonth :
    ShowsNumber moment 'F' (moment.date.monthSoFar.countP (·.FallsOn weekday)) := by
  rw [← Date.weekdayInMonth_eq falls]
  exact shows_field moment .weekdayInMonth

end

theorem shows_counts (moment : ZonedTime) :
    (∃ since, moment.date.DaysSinceNewYear since ∧ ShowsNumber moment 'D' (since + 1)) ∧
    (∃ weekday, moment.date.FallsOn weekday ∧
      ShowsNumber moment 'u' weekday.number ∧ ShowsName moment 'E' weekday.name ∧
      (∀ tomorrow : ZonedTime, moment.date.Next tomorrow.date →
        ShowsNumber tomorrow 'u' weekday.next.number ∧
          ShowsName tomorrow 'E' weekday.next.name) ∧
      ShowsNumber moment 'F' (moment.date.monthSoFar.countP (·.FallsOn weekday))) ∧
    ShowsNumber moment 'W' (moment.date.monthSoFar.tail.countP (·.FallsOn .monday) + 1) ∧
    ∃ (thursday : Date) (since : Nat), thursday.IsThursdayOf moment.date ∧
      thursday.DaysSinceNewYear since ∧ ShowsNumber moment 'w' (since / 7 + 1) := by
  refine ⟨?_, ?_, ?_, ?_⟩
  · obtain ⟨since, days⟩ := moment.date.exists_daysSinceNewYear
    refine ⟨since, days, ?_⟩
    rw [← Date.daysSinceNewYear_iff.1 days]
    exact shows_field moment .dayOfYear
  · obtain ⟨weekday, falls⟩ := moment.date.exists_fallsOn
    refine ⟨weekday, falls, showsNumber_weekday moment falls, showsName_weekday moment falls, ?_,
      showsNumber_weekdayInMonth moment falls⟩
    intro tomorrow next
    exact ⟨showsNumber_weekday tomorrow (falls.next next),
      showsName_weekday tomorrow (falls.next next)⟩
  · rw [← Date.weekOfMonth_eq]
    exact shows_field moment .weekOfMonth
  · obtain ⟨thursday, sameWeek⟩ := moment.date.exists_isThursdayOf
    obtain ⟨since, days⟩ := thursday.exists_daysSinceNewYear
    refine ⟨thursday, since, sameWeek, days, ?_⟩
    rw [← Date.weekOfYear_eq sameWeek days]
    exact shows_field moment .weekOfYear

-- The Thursday of this Sunday's week is still in the year before.
example :
    format .utc (.zoned ⟨⟨2021, 1, 3, by decide, by decide, by decide, by decide, by decide,
      by decide⟩, .midnight, .utc⟩) "EEEE D F W w" = .ok "Sunday 3 1 1 53" := by
  decide +kernel

end FileRouting.DatePattern
