import FileRouting.Path.Canonical
import FileRouting.Value

/-!
# Exchanges

An exchange is a message on its way through a route: the file it carries, its headers, the
properties that earlier steps have set, and, where it was given one, a time of last modification.
-/

namespace FileRouting

open FileRouting.Time

/-- Named values in the order in which the names first came. -/
abbrev Entries := List (String × Value)

def Entries.set (name : String) (value : Value) : Entries → Entries
  | [] => [(name, value)]
  | entry :: entries =>
    if entry.1 = name then (name, value) :: entries else entry :: Entries.set name value entries

structure Exchange where
  file : Option Path
  headers : Entries
  properties : Entries
  modified : Option Stamp

namespace Exchange

def empty : Exchange := ⟨none, [], [], none⟩

end Exchange

/-- What an evaluation reads of its surroundings: the clock, the local zone and the files. -/
structure Host where
  today : Date
  clock : TimeOfDay
  zone : Zone
  files : FileSystem

/-- Why there is no time of last modification to be had. -/
inductive ModifiedError
  | path (error : PathError)
  | date (fault : Date.Fault)
deriving DecidableEq

/-- The time of last modification: the one given to the exchange, or else that of its file in the
local zone. There is none without a file. -/
def Exchange.lastModified (host : Host) (exchange : Exchange) :
    Except ModifiedError (Option Stamp) :=
  match exchange.modified, exchange.file with
  | some stamp, _ => .ok (some stamp)
  | none, none => .ok none
  | none, some file =>
    match host.files.modified? file with
    | .error e => .error (.path e)
    | .ok none => .ok none
    | .ok (some nanos) =>
      match ZonedTime.ofEpoch (microsOfNanos nanos) host.zone with
      | .error fault => .error (.date fault)
      | .ok moment => .ok (some (.zoned moment))

end FileRouting
