import FileRouting.Rules.RuleBook
import FileRouting.Text.Quoted

/-!
# Log lines

What happens while patterns are compiled and rules are loaded is told in log lines. A line is
written if its level is not below a threshold.
-/

namespace FileRouting

open FileRouting.Text

/-- The levels of log lines. `unset` is below all others. -/
inductive LogLevel
  | unset
  | debug
  | info
  | warning
  | error
  | critical
deriving DecidableEq, Repr

namespace LogLevel

def number : LogLevel → Nat
  | unset => 0
  | debug => 10
  | info => 20
  | warning => 30
  | error => 40
  | critical => 50

def name : LogLevel → String
  | unset => "NOTSET"
  | debug => "DEBUG"
  | info => "INFO"
  | warning => "WARNING"
  | error => "ERROR"
  | critical => "CRITICAL"

/-- All levels, in rising order. -/
def all : List LogLevel :=
  [unset, debug, info, warning, error, critical]

/-- The level with a name; two levels have a second name. -/
def ofName? (name : String) : Option LogLevel :=
  if name = "WARN" then some warning
  else if name = "FATAL" then some critical
  else all.find? fun level => level.name = name

theorem ofName?_name (level : LogLevel) : ofName? level.name = some level := by
  cases level <;> simp [ofName?, all, name]

end LogLevel

/-- A log line: its level, who writes it, and what it says. -/
structure LogLine where
  level : LogLevel
  writer : String
  message : String
deriving DecidableEq

namespace LogLine

def text (line : LogLine) : String :=
  line.level.name ++ " " ++ line.writer ++ ": " ++ line.message

/-- What there is to say of an event while a pattern is compiled; handing on a text is silent. -/
def ofEvent? (pattern : RawText) : Event → Option LogLine
  | .handedOn _ => none
  | .compiled kind => some (line ("Compiled " ++ shown pattern ++ " as " ++ kind))
  | .unknownAttribute =>
    some (line ("Unknown file attribute " ++ shown (pattern.drop "file:".length) ++ ", treating " ++
      shown pattern ++ " as templating text"))
  | .rejectedDate parts =>
    some (line ("Rejected date pattern " ++ shown pattern ++ ": " ++ toString parts ++ " part(s)"))
where
  line (message : String) : LogLine := ⟨.debug, "filelang.expressions.parser", message⟩
  shown (text : RawText) : String := String.ofList (quotedRaw text)

/-- What there is to say of an event while the rules of a file are loaded. -/
def ofLoadEvent? (file : String) : LoadEvent → Option LogLine
  | .compiling pattern event => ofEvent? pattern event
  | .violations => some (line "failed schema validation")
  | .issues count => some (line ("has " ++ toString count ++ " issue(s)"))
where
  line (finding : String) : LogLine :=
    ⟨.warning, "filelang.rules.loader", "Rules file " ++ file ++ " " ++ finding⟩

end LogLine

/-- The texts of the lines that are not below a threshold. -/
def shownLines (threshold : LogLevel) (lines : List LogLine) : List String :=
  (lines.filter fun line => threshold.number ≤ line.level.number).map LogLine.text

end FileRouting
