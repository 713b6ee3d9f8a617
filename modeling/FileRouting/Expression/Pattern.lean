import FileRouting.Expression.Basic

/-!
# Patterns

A pattern is read by its prefix. `file:` must be followed by the key of an attribute; with any other
key the whole pattern is text for the template engine, as is a pattern without a known prefix. What
follows `bean:` and `simple:` is taken as it is. `date:` must be followed by a command and a date
pattern with a colon between them; colons at the end do not count.
-/

namespace FileRouting

open FileRouting.Text

/-! ## Prefixes -/

/-- The prefixes in the order in which they are tried. -/
def patternPrefixes : List String :=
  ["file:", "date:", "bean:", "simple:"]

/-- What follows a prefix in a pattern that starts with it. -/
def afterPrefix? (head pattern : String) : Option String :=
  (after? head.toList pattern.toList).map String.ofList

/-- The parts between the colons, less the empty ones at the end; one part is always left. -/
def dateParts (text : String) : List String :=
  let parts := ((fields ':' text.toList).map String.ofList).reverse.dropWhile (· = "")
  if parts = [] then [""] else parts.reverse

/-! ## Forms -/

/-- What a pattern says, before any language looks at its texts. -/
inductive Form
  | file (read : Attribute)
  | unknownAttribute (key : String)
  | date (command pattern : String)
  | malformedDate (parts : Nat)
  | bean (reference : String)
  | simple (text : String)
deriving DecidableEq

/-- The form of what follows `date:`. -/
def Form.ofDate (text : String) : Form :=
  match dateParts text with
  | [command, pattern] => .date command pattern
  | parts => .malformedDate parts.length

def Form.ofPattern (pattern : String) : Form :=
  match afterPrefix? "file:" pattern with
  | some key =>
    match Attribute.ofKey? key with
    | some read => .file read
    | none => .unknownAttribute key
  | none =>
    match afterPrefix? "date:" pattern with
    | some text => .ofDate text
    | none =>
      match afterPrefix? "bean:" pattern with
      | some reference => .bean reference
      | none => .simple ((afterPrefix? "simple:" pattern).getD pattern)

/-! ## Errors -/

/-- A pattern that stands for nothing. -/
structure SyntaxError where
  pattern : String
  explanation : String
deriving DecidableEq

namespace SyntaxError

def heading : String := "Illegal syntax: "

def message (e : SyntaxError) : String :=
  heading ++ e.pattern ++ " " ++ e.explanation

end SyntaxError

/-- The explanation for a date without command or pattern. -/
def dateHint : String :=
  "$\x7bdate:command:pattern\x7d is the correct syntax."

/-! ## Results -/

/-- What compiling a pattern gives: an expression or an error. -/
structure Compilation where
  pattern : String
  expression : Option Expression
  error : Option SyntaxError

/-- Why a compilation has no expression to give. -/
inductive NoExpression
  | illegal (error : SyntaxError)
  | missing
deriving DecidableEq

namespace Compilation

def ofResult (pattern : String) : Except SyntaxError Expression → Compilation
  | .ok expression => ⟨pattern, some expression, none⟩
  | .error error => ⟨pattern, none, some error⟩

def ok (c : Compilation) : Bool :=
  c.error.isNone

/-- The expression of a compilation; its error comes first. -/
def unwrap (c : Compilation) : Except NoExpression Expression :=
  match c.error, c.expression with
  | some e, _ => .error (.illegal e)
  | none, some e => .ok e
  | none, none => .error .missing

/-- The summary of a compilation: the pattern, whether it compiled, and the kind and text of the
expression or the error. -/
def summary (c : Compilation) : Value :=
  let entry := fun (name : String) (value : Value) => (Value.text name, value)
  match c.error with
  | some e =>
    .mapping [entry "pattern" (.text c.pattern), entry "ok" (.bool false),
      entry "error" (.text e.message)]
  | none =>
    .mapping [entry "pattern" (.text c.pattern), entry "ok" (.bool true),
      entry "type" (.text ((c.expression.map Expression.kindName).getD "NoneType")),
      entry "expression" (.text ((c.expression.map Expression.text).getD "None"))]

/-- Whether two compilations are equal. Errors of different compilations are never equal. -/
def same (c c' : Compilation) : Bool :=
  c.pattern = c'.pattern ∧ sameExpression c.expression c'.expression ∧
    c.error.isNone ∧ c'.error.isNone
where
  sameExpression : Option Expression → Option Expression → Bool
    | some e, some e' => e.same e'
    | none, none => true
    | _, _ => false

/-- Whether the expressions of two compilations are equal, which they are where both are missing. -/
def sameExpressions (c c' : Compilation) : Bool :=
  same.sameExpression c.expression c'.expression

end Compilation

/-! ## Languages -/

/-- A text handed to one of the two languages. -/
inductive Delegation
  | simple (text : String)
  | bean (reference : String)
deriving DecidableEq

/-- What happens while a pattern is compiled. -/
inductive Event
  | handedOn (delegation : Delegation)
  | compiled (kind : String)
  | unknownAttribute
  | rejectedDate (parts : Nat)
deriving DecidableEq

def Event.delegation? : Event → Option Delegation
  | handedOn delegation => some delegation
  | _ => none

/-- The two languages that a pattern may hand a text to. The first makes an expression for the
template engine of every text. -/
structure Language where
  simple : String → Expression
  bean : String → Expression
  isSimple_simple : ∀ text, (simple text).isSimple

namespace Language

/-- The language with a template engine, or with none. -/
def standard (renderer : Option Renderer) : Language where
  simple text := .simple text renderer
  bean written := .bean written (.ofText written)
  isSimple_simple _ := rfl

def answer (language : Language) : Delegation → Expression
  | .simple text => language.simple text
  | .bean reference => language.bean reference

/-- An expression that was found, after some events. -/
def finish (expression : Expression) (before : List Event) :
    Except SyntaxError Expression × List Event :=
  (.ok expression, before ++ [.compiled expression.kindName])

/-- The expression for a text that is handed on, after some events. -/
def handOn (language : Language) (delegation : Delegation) (before : List Event) :
    Except SyntaxError Expression × List Event :=
  finish (language.answer delegation) (before ++ [.handedOn delegation])

/-- The expression or error for a pattern of a form, and what happens on the way. -/
def build (language : Language) (pattern : String) :
    Form → Except SyntaxError Expression × List Event
  | .file read => finish (.file read) []
  | .unknownAttribute _ => language.handOn (.simple pattern) [.unknownAttribute]
  | .date command datePattern => finish (.date command datePattern) []
  | .malformedDate parts => (.error ⟨pattern, dateHint⟩, [.rejectedDate parts])
  | .bean reference => language.handOn (.bean reference) []
  | .simple text => language.handOn (.simple text) []

def create (language : Language) (pattern : String) : Except SyntaxError Expression :=
  (language.build pattern (.ofPattern pattern)).1

def compile (language : Language) (pattern : String) : Compilation :=
  .ofResult pattern (language.create pattern)

/-- What happens while a pattern is compiled. -/
def events (language : Language) (pattern : String) : List Event :=
  (language.build pattern (.ofPattern pattern)).2

end Language

end FileRouting
