import FileRouting.Number.Double
import FileRouting.Time.Clock
import FileRouting.Time.Date
import FileRouting.Time.Zone

/-!
# Time stamps

A stamp is a plain date, a date and time without a zone, or a date and time in a zone. Where a zone
is needed, a date stands for its midnight, and a time without a zone is in the local one.
-/

namespace FileRouting.Time

open FileRouting.Text FileRouting.Number

structure ZonedTime where
  date : Date
  time : TimeOfDay
  zone : Zone
deriving DecidableEq

/-- A moment, as far as it is known. -/
inductive Stamp
  | day (date : Date)
  | unzoned (date : Date) (time : TimeOfDay)
  | zoned (moment : ZonedTime)
deriving DecidableEq

/-! ## In the local zone -/

/-- The local offset of a moment is found by looking one day back, which the first day of the
calendar does not allow. -/
def ZonedTime.ofLocal (date : Date) (time : TimeOfDay) (zone : Zone) :
    Except Date.Fault ZonedTime :=
  if date = Date.first then .error (.year 0) else .ok ⟨date, time, zone⟩

/-- A stamp in its own zone, or in the local one if it has none. -/
def Stamp.inZone (zone : Zone) : Stamp → Except Date.Fault ZonedTime
  | .day date => ZonedTime.ofLocal date .midnight zone
  | .unzoned date time => ZonedTime.ofLocal date time zone
  | .zoned moment => .ok moment

/-! ## Counting from the epoch -/

/-- The number of 1 January 1970. -/
def epochOrdinal : Int := 719163

/-- The date and time that a zone's clock shows a number of microseconds after the start of 1970 in
UTC. -/
def ZonedTime.ofEpoch (micros : Int) (zone : Zone) : Except Date.Fault ZonedTime := do
  let shown := micros + zone.offset.getD 0
  let date ← Date.ofOrdinal (epochOrdinal + shown.fdiv Zone.microsPerDay)
  ZonedTime.ofLocal date (.ofMicros (shown.fmod Zone.microsPerDay).toNat) zone

/-- A count of nanoseconds rounded to microseconds by way of a binary fraction of seconds: whole
seconds and the rest are added in double precision, and a half microsecond goes to the even
neighbour. -/
def microsOfNanos (nanos : Int) : Int :=
  let nano := Double.ofRatio false 1 1000000000
  let seconds :=
    Double.ofInt (nanos.fdiv 1000000000) + nano * Double.ofInt (nanos.fmod 1000000000)
  let micros := seconds.part * Double.ofInt 1000000
  seconds.whole * 1000000 + micros.rounded

/-! ## Written form -/

namespace Date

/-- Year, month and day with hyphens between them. -/
def isoText (d : Date) : List Char :=
  padded 4 d.year ++ '-' :: padded 2 d.month ++ '-' :: padded 2 d.day

end Date

namespace TimeOfDay

/-- Hour, minute and second with colons between them, and the microseconds unless they are zero. -/
def isoText (t : TimeOfDay) : List Char :=
  padded 2 t.hour ++ ':' :: padded 2 t.minute ++ ':' :: padded 2 t.second ++
    (if t.micro.val = 0 then [] else '.' :: padded 6 t.micro)

end TimeOfDay

namespace Stamp

/-- Date and time with `mark` between them, and the offset if one is known. -/
def isoTextWith (mark : Char) : Stamp → List Char
  | .day date => date.isoText
  | .unzoned date time => date.isoText ++ mark :: time.isoText
  | .zoned ⟨date, time, zone⟩ =>
    date.isoText ++ mark :: time.isoText ++
      (match zone.offset with
      | some offset => Zone.offsetText offset
      | none => [])

def isoText (stamp : Stamp) : String :=
  String.ofList (stamp.isoTextWith 'T')

end Stamp

end FileRouting.Time
