import FileRouting.Command.Outcome
import FileRouting.Settings

/-!
# Commands on rules files

One command validates a rules file, with warnings taken for errors if it is told to be strict. The
other lists the rules of a file. Both use the rules file of the settings unless they are given one.
-/

namespace FileRouting.Command

open FileRouting.Text

/-- The outcome of a command on the book of a rules file. A file that is not there is reported. -/
def withBook (files : FileSystem) (settings : Settings) (file : Option Path)
    (use : Path → RuleBook → Outcome) : Outcome :=
  let path := file.getD settings.rulesFile
  match files.has path with
  | .error error => .broken (.path error)
  | .ok false => .refusal ("Error: Rules file not found at " ++ path.text)
  | .ok true =>
    match RuleBook.load (.standard none) files path with
    | .error error => .broken (.loading error)
    | .ok (book, events) =>
      (use path book).after
        (shownLines settings.threshold (events.filterMap (LogLine.ofLoadEvent? path.text)))

/-- How many of some things there are. -/
def counted (count : Nat) (noun : String) : String :=
  toString count ++ " " ++ noun ++ "(s)"

/-- The line of a rule that is valid. -/
def checkLine (rule : Rule) : RawText :=
  "  ✓ " ++ rule.name ++ " (" ++ rule.expression.kindName ++ ")"

/-- What is said at the end of a validation without errors. -/
def validLine : RawText :=
  "\nAll rules are valid."

def validationOutcome (strict : Bool) (path : Path) (book : RuleBook) : Outcome :=
  let issues := book.issues.map (Issue.text path.text)
  let errors := book.errors.length
  let warnings := book.warnings.length
  if errors ≠ 0 ∨ (strict ∧ warnings ≠ 0) then
    let rest := if warnings ≠ 0 then ", " ++ counted warnings "warning" else ""
    .printing (issues ++ [.ofString ("\n" ++ counted errors "error" ++ " found" ++ rest)]) 1
  else
    let warned := if warnings ≠ 0 then [counted warnings "warning" ++ " found."] else []
    let compiled := "\nCompiled " ++ counted book.rules.length "rule" ++ ":"
    .success
      (issues ++ (warned ++ [compiled]).map .ofString ++ book.rules.map checkLine ++ [validLine])

def listLine (rule : Rule) : RawText :=
  .ofString (rule.name ++ ": ") ++ rule.pattern ++
    (if rule.description = [] then [] else .ofString "  # " ++ rule.description)

def listOutcome (book : RuleBook) : Outcome :=
  if book.rules.isEmpty then .success ["No rules."] else .success (book.rules.map listLine)

def validate (files : FileSystem) (settings : Settings) (strict : Bool) (file : Option Path) :
    Outcome :=
  withBook files settings file (validationOutcome strict)

def list (files : FileSystem) (settings : Settings) (file : Option Path) : Outcome :=
  withBook files settings file fun _ book => listOutcome book

end FileRouting.Command
