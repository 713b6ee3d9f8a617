import FileRouting.Schema.Basic

/-!
# The form of a rules document

A rules document is a mapping whose only key is `rules`, with a list of rules. A rule is a mapping
with a name and a pattern, and perhaps a description, all of them texts; the name has a form of its
own and the pattern is not empty.
-/

namespace FileRouting

open FileRouting.Text

/-! ## Fields and places -/

inductive RuleField
  | name
  | pattern
  | description
deriving DecidableEq, Repr

namespace RuleField

def key : RuleField → String
  | name => "name"
  | pattern => "pattern"
  | description => "description"

def all : List RuleField := [name, pattern, description]

end RuleField

namespace Place

def document : Place := []

def rules : Place := [.key "rules"]

def rule (index : Nat) : Place := [.key "rules", .index index]

def field (index : Nat) (which : RuleField) : Place :=
  [.key "rules", .index index, .key which.key]

end Place

/-! ## The schema -/

def startsName (c : Char) : Bool :=
  ('a' ≤ c ∧ c ≤ 'z') ∨ ('A' ≤ c ∧ c ≤ 'Z') ∨ c = '_'

def continuesName (c : Char) : Bool :=
  startsName c ∨ ('0' ≤ c ∧ c ≤ '9') ∨ c = '.' ∨ c = '-'

/-- The form of names. One newline at the end does not count. -/
def nameForm : TextForm where
  pattern := "^[A-Za-z_][A-Za-z0-9_.-]*$"
  regex := Regex.all
    [Regex.char startsName, Regex.star (Regex.char continuesName), Regex.opt (Regex.text "\n")]

def fieldSchema : RuleField → Schema
  | .name => [.type .string, .form nameForm]
  | .pattern => [.type .string, .minLength 1]
  | .description => [.type .string]

def ruleSchema : Schema :=
  [.type .object, .required ["name", "pattern"], .closed (RuleField.all.map RuleField.key),
    .properties (RuleField.all.map fun which => (which.key, fieldSchema which))]

def rulesSchema : Schema :=
  [.type .object, .required ["rules"], .closed ["rules"],
    .properties [("rules", [.type .array, .items ruleSchema])]]

end FileRouting
