import FileRouting.Expression.Pattern
import FileRouting.Rules.Form

/-!
# Issues

An issue is a finding at a place of a rules document. Unknown file attributes are worth a warning,
all else is an error.
-/

namespace FileRouting

open FileRouting.Text

/-- What may be found in a rules document. -/
inductive Finding
  | unreadable
  | empty
  | violation (violation : Violation)
  | duplicateName (name : String)
  | illegalPattern (pattern : RawText) (explanation : String)
  | unknownAttribute (pattern : RawText)

inductive Severity
  | error
  | warning
deriving DecidableEq, Repr

namespace Severity

def name : Severity → String
  | error => "error"
  | warning => "warning"

/-- The name in capitals. -/
def title : Severity → String
  | error => "ERROR"
  | warning => "WARNING"

end Severity

namespace Finding

def severity : Finding → Severity
  | unknownAttribute _ => .warning
  | _ => .error

def message : Finding → RawText
  | unreadable => "YAML parse error"
  | empty => "File is empty or contains only whitespace"
  | violation v => v.message
  | duplicateName name => "Duplicate rule name '" ++ name ++ "'"
  | illegalPattern pattern explanation =>
    .ofString SyntaxError.heading ++ pattern ++ .ofString (" " ++ explanation)
  | unknownAttribute pattern =>
    .ofString "Unknown file attribute in '" ++ pattern ++
      .ofString "', the whole pattern is treated as templating text"

end Finding

/-- A finding at a place. -/
structure Issue where
  place : Place
  finding : Finding

namespace Issue

def severity (issue : Issue) : Severity :=
  issue.finding.severity

def isError (issue : Issue) : Bool :=
  issue.severity = .error

def isWarning (issue : Issue) : Bool :=
  issue.severity = .warning

/-- An issue on one line, with the file that it was found in. -/
def text (file : String) (issue : Issue) : RawText :=
  let place := issue.place.text
  let heading :=
    "[" ++ issue.severity.title ++ "] " ++ file ++ (if place = "" then "" else " at " ++ place) ++
      ": "
  .ofString heading ++ issue.finding.message

/-- The issues of a document that does not have the form of a rules document. There are none to be
had if one of their messages cannot be written. -/
def ofDocument (document : Document) : Except Document.Unprintable (List Issue) :=
  match rulesSchema.unprintable? document with
  | some reason => .error reason
  | none =>
    .ok ((rulesSchema.sortedViolations document).map fun found => ⟨found.1, .violation found.2⟩)

end Issue

end FileRouting
