import FileRouting.Schema.Basic

/-!
# What a constraint finds

What each constraint finds in a document, and what a schema finds constraint by constraint. What is
proved of checking is proved from these equations.
-/

namespace FileRouting.Schema

variable {document : Document}

@[simp]
theorem violations_nil : violations [] document = [] := rfl

@[simp]
theorem violations_cons {constraint : Constraint} {schema : Schema} :
    violations (constraint :: schema) document =
      constraintViolations constraint document ++ violations schema document := rfl

@[simp]
theorem fieldViolations_nil : fieldViolations [] document = [] := rfl

@[simp]
theorem fieldViolations_cons {key : String} {schema : Schema} {fields : List (String × Schema)} :
    fieldViolations ((key, schema) :: fields) document =
      (match document.field? key with
        | some value => behind (.key key) (violations schema value)
        | none => []) ++ fieldViolations fields document := rfl

theorem constraintViolations_type {expected : DataType} :
    constraintViolations (.type expected) document =
      if expected.has document.top then [] else [([], .wrongType document expected)] := rfl

theorem constraintViolations_required {keys : List String} :
    constraintViolations (.required keys) document =
      if document.entries?.isSome then
        (keys.filter fun key => (document.field? key).isNone).map fun key => ([], .missingKey key)
      else [] := rfl

theorem constraintViolations_closed {known : List String} :
    constraintViolations (.closed known) document =
      if (extraKeys known (document.entries?.getD [])).isEmpty then []
      else [([], .extraKeys (extraKeys known (document.entries?.getD [])))] := rfl

@[simp]
theorem constraintViolations_properties {fields : List (String × Schema)} :
    constraintViolations (.properties fields) document = fieldViolations fields document := rfl

theorem constraintViolations_items {schema : Schema} :
    constraintViolations (.items schema) document =
      (document.items?.getD []).zipIdx.flatMap fun entry =>
        behind (.index entry.2) (violations schema entry.1) := rfl

theorem constraintViolations_form {form : TextForm} :
    constraintViolations (.form form) document =
      match document.text? with
      | some text => if form.has text then [] else [([], .otherForm text form)]
      | none => [] := rfl

theorem constraintViolations_minLength {length : Nat} :
    constraintViolations (.minLength length) document =
      match document.text? with
      | some text => if text.length < length then [([], .tooShort text length)] else []
      | none => [] := rfl

end FileRouting.Schema
