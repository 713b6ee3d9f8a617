import FileRouting.Command.Arguments
import FileRouting.Expression.Evaluation
import FileRouting.Rules.File
import FileRouting.Text.ControlSequence

/-!
# Outcomes of commands

A command prints lines, reports lines apart from them, and ends with a status. Lines are written
without control sequences. A command may also be cut short, by a failure that it has no words for
or by a line that cannot be written.
-/

namespace FileRouting.Command

open FileRouting.Text

/-- What a command has no words for. -/
inductive Breakdown
  | evaluation (failure : Failure)
  | loading (error : LoadError)
  | path (error : PathError)
  | writing (surrogates : SurrogateRun)
deriving DecidableEq

/-- A failure in words. -/
def Breakdown.message : Breakdown → String
  | evaluation failure => failure.message
  | loading error => error.message
  | path error => error.message
  | writing surrogates => surrogates.message

/-- The lines on the two outputs, the status, and what cut the command short, if anything. -/
structure Outcome where
  printed : List String
  reported : List String
  status : Nat
  breakdown : Option Breakdown

/-- Lines as they are written, up to the first one that cannot be. -/
def written : List RawText → List String × Option SurrogateRun
  | [] => ([], none)
  | line :: lines =>
    match writable (withoutControls line) with
    | .error surrogates => ([], some surrogates)
    | .ok text =>
      let (texts, surrogates) := written lines
      (text :: texts, surrogates)

def writtenLine (line : String) : String :=
  (withoutControls (.ofString line)).shown

namespace Outcome

def printing (lines : List RawText) (status : Nat) : Outcome :=
  match written lines with
  | (printed, none) => ⟨printed, [], status, none⟩
  | (printed, some surrogates) => ⟨printed, [], 1, some (.writing surrogates)⟩

/-- Lines printed by a command that has done its work. -/
def success (lines : List RawText) : Outcome :=
  printing lines 0

/-- A report of a command that has not. -/
def refusal (report : String) : Outcome :=
  ⟨[], [writtenLine report], 1, none⟩

/-- The outcome of a command that is called wrongly. -/
def misuse (usage : Usage) (fault : UsageFault) : Outcome :=
  ⟨[], (fault.lines usage).map writtenLine, 2, none⟩

/-- The outcome of a command that is cut short. -/
def broken (breakdown : Breakdown) : Outcome :=
  ⟨[], [], 1, some breakdown⟩

/-- An outcome with reports before its own. -/
def after (reports : List String) (outcome : Outcome) : Outcome :=
  { outcome with reported := reports ++ outcome.reported }

/-- Lines as they are written. -/
def linesText (lines : List String) : String :=
  String.join (lines.map (· ++ "\n"))

end Outcome

end FileRouting.Command
