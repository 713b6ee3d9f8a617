import FileRouting.Text.Numeral

/-!
# Time zones

A zone has an offset from UTC, in microseconds to the east, and a name; either may be unknown. Zones
here do not change over the year.
-/

namespace FileRouting.Time

open FileRouting.Text

structure Zone where
  offset : Option Int
  name : Option String
deriving DecidableEq

namespace Zone

def microsPerMinute : Int := 60000000

def microsPerDay : Int := 86400000000

/-- An offset as sign, hours and minutes, with seconds and microseconds only where they are
needed. -/
def offsetText (offset : Int) : List Char :=
  let size := offset.natAbs
  let micro := size % 1000000
  let second := size / 1000000 % 60
  let minute := size / 60000000 % 60
  let hour := size / 3600000000
  let seconds :=
    if second = 0 ∧ micro = 0 then []
    else ':' :: padded 2 second ++ (if micro = 0 then [] else '.' :: padded 6 micro)
  (if offset < 0 then '-' else '+') :: padded 2 hour ++ ':' :: padded 2 minute ++ seconds

/-- The name of a zone that was given none: `UTC`, with the offset unless it is zero. -/
def offsetName (offset : Int) : String :=
  if offset = 0 then "UTC" else "UTC" ++ String.ofList (offsetText offset)

/-- The zone with an offset, named after it unless a name is given. -/
def fixed (offset : Int) (name : Option String) : Zone :=
  ⟨some offset, some (name.getD (offsetName offset))⟩

def utc : Zone := fixed 0 none

/-- The offset in whole minutes, cut down to the minute before; an unknown offset counts as zero. -/
def minutes (zone : Zone) : Int :=
  (zone.offset.getD 0).fdiv microsPerMinute

end Zone

end FileRouting.Time
