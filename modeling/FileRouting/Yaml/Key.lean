import FileRouting.Value

/-!
# Keys of mappings

Two keys of a mapping are one key if they are equal: numbers by their size, whatever their type, and
moments in zones by their place in time. What is no number is equal to itself alone, and only where
it comes from the same node or is named by its mark.
-/

namespace FileRouting.Yaml

open FileRouting.Number FileRouting.Text FileRouting.Time

/-- What two keys must share to be one key. -/
inductive KeyForm
  | null
  | int (number : Int)
  | float (value : Double)
  | undefined (node : Option Nat)
  | text (value : RawText)
  | bytes (value : List UInt8)
  | unzoned (value : Stamp)
  | instant (micros : Int)
deriving DecidableEq

namespace KeyForm

def instantOf (moment : ZonedTime) : Int :=
  moment.date.ordinal * Zone.microsPerDay + moment.time.micros - moment.zone.offset.getD 0

/-- The form of a value as a key, which comes from a node that counts for what is no number.
Collections are no keys. -/
def ofValue? (node : Option Nat) : Value → Option KeyForm
  | .null => some null
  | .bool b => some (int (if b then 1 else 0))
  | .int n => some (int n)
  | .float .undefined => some (undefined node)
  | .float x =>
    match x.toInt? with
    | some n => some (int n)
    | none => some (float x)
  | .text s => some (text (.ofString s))
  | .raw s => some (text s)
  | .bytes b => some (bytes b)
  | .time (.zoned moment) => some (instant (instantOf moment))
  | .time stamp => some (unzoned stamp)
  | _ => none

end KeyForm

structure KeyedEntry where
  form : KeyForm
  key : Value
  value : Value

/-- The entries of a mapping with one more, which takes the place of an entry with an equal key. -/
def KeyedEntry.insert (entry : KeyedEntry) : List KeyedEntry → List KeyedEntry
  | [] => [entry]
  | other :: entries =>
    if other.form = entry.form then { other with value := entry.value } :: entries
    else other :: entry.insert entries

end FileRouting.Yaml
