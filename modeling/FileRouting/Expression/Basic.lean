import FileRouting.Bean

/-!
# Expressions

An expression is what a pattern stands for: an attribute of the routed file, a formatted time, a
call of a bean, or a text for the template engine. Every expression has a text, which is a pattern
again.
-/

namespace FileRouting

open FileRouting.Text

/-! ## File attributes -/

/-- The attributes of a file that a pattern can name. -/
inductive Attribute
  | name
  | nameWithoutExtension
  | parent
  | path
  | absolute
  | canonicalPath
deriving DecidableEq, Repr

namespace Attribute

def key : Attribute → String
  | name => "name"
  | nameWithoutExtension => "name.noext"
  | parent => "parent"
  | path => "path"
  | absolute => "absolute"
  | canonicalPath => "canonical.path"

/-- All attributes, in the order in which they are listed. -/
def all : List Attribute :=
  [name, nameWithoutExtension, parent, path, absolute, canonicalPath]

def ofKey? (key : String) : Option Attribute :=
  all.find? fun a => a.key = key

theorem ofKey?_key (a : Attribute) : ofKey? a.key = some a := by
  cases a <;> simp [ofKey?, all, key]

theorem key_of_ofKey? {key : String} {a : Attribute} (h : ofKey? key = some a) : a.key = key := by
  simpa using List.find?_some h

end Attribute

/-! ## Bean references -/

/-- A bean by name, and the method to call; without a method the bean itself is called. -/
structure Reference where
  bean : String
  method : Option String
deriving DecidableEq

namespace Reference

/-- The marker that puts a method behind any bean name. -/
def methodMarker : List Char :=
  "?method=".toList

/-- A method by its name; an empty name is no method. -/
def methodNamed (name : List Char) : Option String :=
  if name = [] then none else some (String.ofList name)

/-- The bean and method that a reference writes. The method stands behind the first marker, or else
behind the last dot unless that dot is the first character. -/
def ofText (text : String) : Reference :=
  match cutAt? methodMarker text.toList with
  | some (bean, method) => ⟨String.ofList bean, methodNamed method⟩
  | none =>
    match cutAtLast? '.' text.toList with
    | none | some ([], _) => ⟨text, none⟩
    | some (bean, method) => ⟨String.ofList bean, methodNamed method⟩

end Reference

/-! ## Template engines -/

/-- How a template engine renders a text. Any other engine is a function of the number of its calls,
the exchange and the text. -/
inductive Renderer
  | prepend (text : String)
  | fillHeaders
  | constant (value : Value)
  | countCalls
  | fail (message : String)
  | other (render : Nat → Exchange → String → Except ActionError Value)

/-! ## Expressions -/

/-- What a pattern stands for. A bean expression keeps its reference as it was written. -/
inductive Expression
  | file (read : Attribute)
  | date (command pattern : String)
  | bean (written : String) (reference : Reference)
  | simple (text : String) (renderer : Option Renderer)

namespace Expression

def kindName : Expression → String
  | file _ => "FileAttributeExpression"
  | date .. => "DateExpression"
  | bean .. => "BeanExpression"
  | simple .. => "SimpleExpression"

def text : Expression → String
  | file a => "file:" ++ a.key
  | date command pattern => "date:" ++ command ++ ":" ++ pattern
  | bean written _ => "bean:" ++ written
  | simple text _ => "simple:" ++ text

def isSimple : Expression → Bool
  | simple .. => true
  | _ => false

/-- The expression with no template engine. -/
def unbound : Expression → Expression
  | simple text _ => simple text none
  | e => e

/-- Whether two expressions are equal; template engines do not count. -/
def same : Expression → Expression → Bool
  | file a, file b => a = b
  | date command pattern, date command' pattern' => command = command' ∧ pattern = pattern'
  | bean written reference, bean written' reference' =>
    written = written' ∧ reference = reference'
  | simple text _, simple text' _ => text = text'
  | _, _ => false

theorem same_iff (e e' : Expression) : e.same e' = true ↔ e.unbound = e'.unbound := by
  cases e <;> cases e' <;> simp [same, unbound]

end Expression

end FileRouting
