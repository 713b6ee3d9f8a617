import FileRouting.Command.Run
import FileRouting.Path.Edit
import Std.Time.Zoned

/-!
# The program

The program takes the words of its command line, looks up the files that they may name, and runs the
command. All that it decides, it decides in `Command.run`.
-/

namespace FileRouting

open FileRouting.Text FileRouting.Time

/-- The paths that a word may name: the whole word, and what stands behind its first equals sign. -/
def pathsNamed (word : String) : List Path :=
  match cutAt? ['='] word.toList with
  | some (_, value) => [.ofText word, .ofText (String.ofList value)]
  | none => [.ofText word]

def lookAt (files : FileSystem) (path : Path) : IO FileSystem := do
  try
    let found ← IO.FS.realPath path.text
    let place := Path.ofText (toString found)
    let linked := if files.placeOf path = some place.names then files
      else files.edit (.link path place.text)
    let data ← found.metadata
    let modified := data.modified.sec * 1000000000 + data.modified.nsec.toNat
    match data.type with
    | .dir => pure (linked.edit (.directory place modified))
    | _ =>
      let content ← IO.FS.readBinFile found
      pure (linked.edit (.file place content.toList modified))
  catch _ => pure files

/-- The files with what is found at a path and on the way there. -/
def lookAlong (files : FileSystem) (path : Path) : IO FileSystem := do
  let whole := files.workingDirectory.join path
  let parts := (List.range whole.names.length).map fun count =>
    Path.ofNames whole.anchor (whole.names.take (count + 1))
  parts.foldlM (fun files part => if part.name = ".." then pure files else lookAt files part) files

/-- The clock and the local zone, and the files that may matter. -/
def lookAround (paths : List Path) (workingDirectory : Path) : IO Host := do
  let now ← Std.Time.Timestamp.now
  let rules ← Std.Time.Database.defaultGetLocalZoneRules
  let current := rules.timezoneAt now
  let zone := Zone.fixed (current.offset.second.val * 1000000) (some current.abbreviation)
  let files ← paths.foldlM lookAlong (FileSystem.empty workingDirectory)
  match ZonedTime.ofEpoch (now.toNanosecondsSinceUnixEpoch.val.fdiv 1000) zone with
  | .ok moment => pure ⟨moment.date, moment.time, zone, files⟩
  | .error _ => pure ⟨Date.first, TimeOfDay.midnight, zone, files⟩

/-- The variables of the environment that the settings ask for. -/
def readEnvironment : IO Environment := do
  let read := fun name => do
    let value ← IO.getEnv name
    pure (value.toList.map fun text => (name, text))
  pure ((← read "FILELANG_RULES_PATH") ++ (← read "FILELANG_LOG_LEVEL"))

end FileRouting

open FileRouting in
/-- Runs the command that the words name. -/
def main (words : List String) : IO UInt32 := do
  let environment ← readEnvironment
  let workingDirectory := Path.ofText (toString (← IO.FS.realPath "."))
  let settings := Settings.ofEnvironment environment workingDirectory none
  let host ← lookAround (settings.rulesFile :: words.flatMap pathsNamed) workingDirectory
  let outcome := Command.run host .empty environment words
  IO.eprint (Command.Outcome.linesText outcome.reported)
  IO.print (Command.Outcome.linesText outcome.printed)
  match outcome.breakdown with
  | some breakdown => IO.eprintln breakdown.message
  | none => pure ()
  pure outcome.status.toUInt32
