import FileRouting.Schema.Place
import FileRouting.Text.Regex

/-!
# Schemas

A schema is a sequence of constraints on a document. Constraints on mappings, lists and texts say
nothing on values of other types. Checking a document finds every violation, with its place, in the
order of the constraints.
-/

namespace FileRouting

open FileRouting.Text

/-! ## Constraints -/

/-- The types that a document can be required to have. -/
inductive DataType
  | object
  | array
  | string
deriving DecidableEq, Repr

namespace DataType

def name : DataType → String
  | object => "object"
  | array => "array"
  | string => "string"

def has : DataType → Value → Bool
  | object, .mapping _ => true
  | array, .list _ => true
  | string, .text _ | string, .raw _ => true
  | _, _ => false

end DataType

/-- A form of texts: the pattern that shows it, and the expression that finds it. -/
structure TextForm where
  pattern : String
  regex : Regex

/-- Whether a text has a form; no text with surrogates has one. -/
def TextForm.has (form : TextForm) (text : RawText) : Bool :=
  match text.chars? with
  | some chars => form.regex.accepts chars
  | none => false

/-- A constraint on a document. -/
inductive Constraint
  | type (expected : DataType)
  | required (keys : List String)
  | closed (keys : List String)
  | properties (fields : List (String × List Constraint))
  | items (schema : List Constraint)
  | form (form : TextForm)
  | minLength (length : Nat)

/-- A sequence of constraints. -/
abbrev Schema := List Constraint

/-! ## Violations -/

/-- What violates a constraint. -/
inductive Violation
  | wrongType (document : Document) (expected : DataType)
  | missingKey (key : String)
  | extraKeys (keys : List Value)
  | otherForm (text : RawText) (form : TextForm)
  | tooShort (text : RawText) (length : Nat)

namespace Violation

/-- Keys in their literal forms, in the order of their display forms, and a verb for them. -/
def keysText (keys : List Value) : String :=
  let sorted := keys.mergeSort fun a b => !b.rawDisplay.numbers.lex a.rawDisplay.numbers
  ", ".intercalate (sorted.map Value.literal) ++ (if keys.length = 1 then " was" else " were")

def message : Violation → String
  | wrongType document expected =>
    document.literal ++ " is not of type " ++ quote expected.name
  | missingKey key => quote key ++ " is a required property"
  | extraKeys keys => "Additional properties are not allowed (" ++ keysText keys ++ " unexpected)"
  | otherForm text form =>
    String.ofList (quotedRaw text) ++ " does not match " ++ quote form.pattern
  | tooShort text length =>
    String.ofList (quotedRaw text) ++
      (if length = 1 then " should be non-empty" else " is too short")

/-- Why the message cannot be written, if so: what it shows may have no literal form. -/
def unprintable? : Violation → Option Document.Unprintable
  | wrongType document _ => document.unprintable?
  | extraKeys keys => keys.findSome? fun key => (Document.ofValue key).unprintable?
  | _ => none

end Violation

/-! ## Checking -/

namespace Schema

/-- The keys of a mapping that are none of some known ones. -/
def extraKeys (known : List String) (entries : List (Value × Value)) : List Value :=
  (entries.map (·.1)).filter fun key =>
    match key with
    | .text name => name ∉ known
    | _ => true

def behind (step : Step) (found : List (Place × Violation)) : List (Place × Violation) :=
  found.map fun (place, violation) => (step :: place, violation)

mutual

def violations : Schema → Document → List (Place × Violation)
  | [], _ => []
  | constraint :: schema, document =>
    constraintViolations constraint document ++ violations schema document

def constraintViolations : Constraint → Document → List (Place × Violation)
  | .type expected, document =>
    if expected.has document.top then [] else [([], .wrongType document expected)]
  | .required keys, document =>
    if document.entries?.isSome then
      (keys.filter fun key => (document.field? key).isNone).map fun key => ([], .missingKey key)
    else []
  | .closed known, document =>
    let extra := extraKeys known (document.entries?.getD [])
    if extra.isEmpty then [] else [([], .extraKeys extra)]
  | .properties fields, document => fieldViolations fields document
  | .items schema, document =>
    (document.items?.getD []).zipIdx.flatMap fun (item, index) =>
      behind (.index index) (violations schema item)
  | .form form, document =>
    match document.text? with
    | some text => if form.has text then [] else [([], .otherForm text form)]
    | none => []
  | .minLength length, document =>
    match document.text? with
    | some text => if text.length < length then [([], .tooShort text length)] else []
    | none => []

/-- The violations by what is under some keys. -/
def fieldViolations : List (String × Schema) → Document → List (Place × Violation)
  | [], _ => []
  | (key, schema) :: fields, document =>
    (match document.field? key with
      | some value => behind (.key key) (violations schema value)
      | none => []) ++
      fieldViolations fields document

end

/-- The violations in the order of their places; those of one place stay in their order. -/
def sortedViolations (schema : Schema) (document : Document) : List (Place × Violation) :=
  (schema.violations document).mergeSort fun a b => a.1.le b.1

/-- Why the first message that cannot be written cannot be. -/
def unprintable? (schema : Schema) (document : Document) : Option Document.Unprintable :=
  (schema.violations document).findSome? fun found => found.2.unprintable?

end Schema

end FileRouting
