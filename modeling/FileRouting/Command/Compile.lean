import FileRouting.Command.Outcome
import FileRouting.Json.Writer
import FileRouting.Log

/-!
# Compiling a pattern

The command prints the expression that a pattern stands for. Given a file, it also evaluates the
expression for that file and prints the value.
-/

namespace FileRouting.Command

open FileRouting.Text

/-- What the command is asked: the pattern, the file to evaluate it for, the headers as they are
written, and whether to print JSON. -/
structure CompileRequest where
  pattern : String
  file : Option Path
  headers : List String
  json : Bool

namespace CompileRequest

def usage : Usage where
  words := "filelang compile"
  form := "[OPTIONS] PATTERN"
  options := [⟨"--file", true⟩, ⟨"--header", true⟩, ⟨"--json", false⟩, helpOption]

end CompileRequest

/-- The headers that items write, or the first item without an equals sign. -/
def headersOf (items : List String) : Except String Entries :=
  items.foldlM
    (fun headers item =>
      match cutAt? ['='] item.toList with
      | some (name, value) =>
        .ok (Entries.set (String.ofList name) (.text (String.ofList value)) headers)
      | none => .error item)
    []

def summaryWith (compilation : Compilation) (value : Option Value) : Value :=
  match compilation.summary, value with
  | .mapping entries, some value => .mapping (entries ++ [(.text "value", value)])
  | summary, _ => summary

def resultLines (compilation : Compilation) (expression : Expression) (value : Option Value)
    (json : Bool) : List RawText :=
  if json then [.ofString (Json.write (summaryWith compilation value))]
  else
    .ofString (expression.kindName ++ ": " ++ expression.text) ::
      (value.map fun value => .ofString "  = " ++ value.rawDisplay).toList

/-- What an evaluation without a value comes to: faults of the pattern are reported. -/
def evaluationOutcome : Failure → Outcome
  | .evaluation error => .refusal ("Evaluation failed: " ++ error.message)
  | .datePattern error => .refusal ("Evaluation failed: " ++ error.message)
  | failure => .broken (.evaluation failure)

/-- The outcome for an expression that the pattern stands for. -/
def expressionOutcome (host : Host) (registry : Registry) (request : CompileRequest)
    (compilation : Compilation) (expression : Expression) : Outcome :=
  match request.file with
  | none => .success (resultLines compilation expression none request.json)
  | some file =>
    match headersOf request.headers with
    | .error item => .misuse CompileRequest.usage (.illegalHeader item)
    | .ok headers =>
      let state : State := ⟨registry, 0, ⟨some file, headers, [], none⟩⟩
      match expression.evaluate host state with
      | .ok (value, _) =>
        .success (resultLines compilation expression (some value) request.json)
      | .error failure => evaluationOutcome failure

/-- Compiles a pattern and says what it stands for. -/
def compile (host : Host) (registry : Registry) (threshold : LogLevel)
    (request : CompileRequest) : Outcome :=
  let language := Language.standard none
  let compilation := language.compile request.pattern
  let outcome :=
    match language.create request.pattern with
    | .ok expression => expressionOutcome host registry request compilation expression
    | .error error =>
      if request.json then .printing [.ofString (Json.write compilation.summary)] 1
      else .refusal error.message
  let lines := (language.events request.pattern).filterMap (LogLine.ofEvent? request.pattern)
  outcome.after (shownLines threshold lines)

end FileRouting.Command
