/-!
# Times of day
-/

namespace FileRouting.Time

/-- A time of day to the microsecond. -/
structure TimeOfDay where
  hour : Fin 24
  minute : Fin 60
  second : Fin 60
  micro : Fin 1000000
deriving DecidableEq

namespace TimeOfDay

def midnight : TimeOfDay := ⟨0, 0, 0, 0⟩

/-- The part of a time of day that is out of its range. -/
inductive Fault
  | hour
  | minute
  | second
  | micro
deriving DecidableEq, Repr

def Fault.message : Fault → String
  | hour => "hour must be in 0..23"
  | minute => "minute must be in 0..59"
  | second => "second must be in 0..59"
  | micro => "microsecond must be in 0..999999"

/-- The time of day with these numbers; the hour is looked at first. -/
def ofNumbers (hour minute second micro : Nat) : Except Fault TimeOfDay :=
  if hh : hour < 24 then
    if hm : minute < 60 then
      if hs : second < 60 then
        if hu : micro < 1000000 then .ok ⟨⟨hour, hh⟩, ⟨minute, hm⟩, ⟨second, hs⟩, ⟨micro, hu⟩⟩
        else .error .micro
      else .error .second
    else .error .minute
  else .error .hour

/-- Microseconds from midnight. -/
def micros (t : TimeOfDay) : Nat :=
  ((t.hour * 60 + t.minute) * 60 + t.second) * 1000000 + t.micro

/-- The time of day a number of microseconds after midnight, of which whole days do not count. -/
def ofMicros (micros : Nat) : TimeOfDay where
  hour := ⟨micros / 3600000000 % 24, Nat.mod_lt _ (by decide)⟩
  minute := ⟨micros / 60000000 % 60, Nat.mod_lt _ (by decide)⟩
  second := ⟨micros / 1000000 % 60, Nat.mod_lt _ (by decide)⟩
  micro := ⟨micros % 1000000, Nat.mod_lt _ (by decide)⟩

/-- Whole milliseconds of the second. -/
def milli (t : TimeOfDay) : Nat :=
  t.micro / 1000

/-- The hour of a clock that shows 12 where the hour count starts. -/
def hourOfHalfDay (t : TimeOfDay) : Nat :=
  if t.hour.val % 12 = 0 then 12 else t.hour.val % 12

/-- The hour of a clock that shows 24 at midnight. -/
def hourFromOne (t : TimeOfDay) : Nat :=
  if t.hour.val = 0 then 24 else t.hour.val

end TimeOfDay

end FileRouting.Time
