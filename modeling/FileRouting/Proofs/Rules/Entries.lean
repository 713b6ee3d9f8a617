import FileRouting.Proofs.Schema.Constraint
import FileRouting.Rules.RuleBook
import Mathlib.Data.List.Forall2

/-!
# The entries of a valid document

A document without violations is a mapping with a list of rules, and every rule is a mapping that
writes a name, a pattern and perhaps a description. The main statement is
`RuleEntry.written_ofDocument`: the entries are what the rules of the document write.
-/

namespace FileRouting

open FileRouting.Text

/-! ## Documents without violations -/

namespace Schema

theorem violations_eq_nil_iff {schema : Schema} {document : Document} :
    schema.violations document = [] ↔
      ∀ constraint ∈ schema, constraintViolations constraint document = [] := by
  induction schema with
  | nil => simp
  | cons constraint schema ih => simp [ih]

theorem sortedViolations_eq_nil_iff {schema : Schema} {document : Document} :
    schema.sortedViolations document = [] ↔ schema.violations document = [] := by
  have perm : (schema.sortedViolations document).Perm (schema.violations document) :=
    List.mergeSort_perm _ _
  constructor
  · intro h
    exact (h ▸ perm).symm.eq_nil
  · intro h
    exact (h ▸ perm).eq_nil

theorem fieldViolations_eq_nil_iff {fields : List (String × Schema)} {document : Document} :
    fieldViolations fields document = [] ↔
      ∀ field ∈ fields, ∀ value, document.field? field.1 = some value →
        field.2.violations value = [] := by
  induction fields with
  | nil => simp
  | cons field fields ih =>
    obtain ⟨key, schema⟩ := field
    cases found : document.field? key <;> simp [found, ih, behind]

theorem items_violations_eq_nil {schema : Schema} {document : Document} {items : List Document}
    (list : document.items? = some items)
    (h : constraintViolations (.items schema) document = []) :
    ∀ item ∈ items, schema.violations item = [] := by
  intro item member
  obtain ⟨index, found⟩ := List.mem_iff_getElem?.1 member
  simp only [constraintViolations_items, list, Option.getD_some, List.flatMap_eq_nil_iff] at h
  have here := h (item, index) (by simpa [List.mem_zipIdx_iff_getElem?] using found)
  simpa [behind] using here

theorem has_of_violations_eq_nil {schema : Schema} {document : Document} {expected : DataType}
    (h : schema.violations document = []) (member : .type expected ∈ schema) :
    expected.has document.top := by
  have here := violations_eq_nil_iff.1 h _ member
  simpa [constraintViolations_type] using here

theorem field?_of_violations_eq_nil {schema : Schema} {document : Document} {keys : List String}
    (h : schema.violations document = []) (object : DataType.object.has document.top)
    (member : .required keys ∈ schema) {key : String} (required : key ∈ keys) :
    ∃ value, document.field? key = some value := by
  have here := violations_eq_nil_iff.1 h _ member
  have mapping : document.entries?.isSome := by
    unfold Document.entries?
    cases top : document.top <;> simp_all [DataType.has]
  simp only [constraintViolations_required, mapping, if_true, List.map_eq_nil_iff,
    List.filter_eq_nil_iff] at here
  simpa [Option.isSome_iff_exists, ← Option.not_isSome_iff_eq_none] using here key required

end Schema

/-! ## The entries of a document -/

theorem Document.items?_of_has {document : Document} (h : DataType.array.has document.top) :
    ∃ items, document.items? = some items := by
  unfold Document.items?
  cases top : document.top <;> simp_all [DataType.has]

theorem Document.text?_of_has {document : Document} (h : DataType.string.has document.top) :
    ∃ text, document.text? = some text := by
  unfold Document.text? Value.rawText?
  cases top : document.top <;> simp_all [DataType.has]

namespace RuleEntry

/-- A mapping says what an entry says. A mapping may be silent on the description. -/
structure Written (item : Document) (entry : RuleEntry) : Prop where
  name : (item.field? "name").bind Document.text? = some (.ofString entry.name)
  pattern : (item.field? "pattern").bind Document.text? = some entry.pattern
  description : (item.field? "description" = none ∧ entry.description = []) ∨
    (item.field? "description").bind Document.text? = some entry.description

theorem text_of_violations_eq_nil {item : Document} (h : ruleSchema.violations item = [])
    {field : RuleField} {value : Document} (found : item.field? field.key = some value) :
    (fieldSchema field).violations value = [] ∧ ∃ text, value.text? = some text := by
  have properties : .properties (RuleField.all.map fun which => (which.key, fieldSchema which)) ∈
      ruleSchema := by simp [ruleSchema]
  have fields := Schema.fieldViolations_eq_nil_iff.1
    (Schema.violations_eq_nil_iff.1 h _ properties)
  have valid : (fieldSchema field).violations value = [] :=
    fields (field.key, fieldSchema field) (by cases field <;> simp [RuleField.all]) value found
  refine ⟨valid, Document.text?_of_has (Schema.has_of_violations_eq_nil valid ?_)⟩
  cases field <;> simp [fieldSchema]

theorem textOf_eq {item : Document} {field : RuleField} {value : Document} {text : RawText}
    (found : item.field? field.key = some value) (shows : value.text? = some text) :
    textOf item field = text := by
  simp [textOf, found, shows]

theorem bind_text?_eq {item : Document} (h : ruleSchema.violations item = []) {field : RuleField}
    {value : Document} (found : item.field? field.key = some value) :
    (item.field? field.key).bind Document.text? = some (textOf item field) := by
  obtain ⟨_, text, shows⟩ := text_of_violations_eq_nil h found
  rw [textOf_eq found shows, found, Option.bind_some, shows]

theorem required_field? {item : Document} (h : ruleSchema.violations item = [])
    (field : RuleField) (required : field.key ∈ ["name", "pattern"]) :
    ∃ value, item.field? field.key = some value := by
  have object := Schema.has_of_violations_eq_nil h
    (by simp [ruleSchema] : .type .object ∈ ruleSchema)
  exact Schema.field?_of_violations_eq_nil h object
    (by simp [ruleSchema] : .required ["name", "pattern"] ∈ ruleSchema) required

/-- A valid name has no surrogates. -/
theorem ofString_shown_name {item : Document} (h : ruleSchema.violations item = []) :
    .ofString (textOf item .name).shown = textOf item .name := by
  obtain ⟨value, found⟩ := required_field? h .name (by simp [RuleField.key])
  obtain ⟨valid, text, shows⟩ := text_of_violations_eq_nil h found
  have formed := Schema.violations_eq_nil_iff.1 valid (.form nameForm) (by simp [fieldSchema])
  have has : nameForm.has text := by
    simpa [Schema.constraintViolations_form, shows] using formed
  rw [textOf_eq found shows]
  cases characters : text.chars? with
  | none => simp [TextForm.has, characters] at has
  | some chars =>
    rw [RawText.eq_ofChars_of_chars? characters]
    simp [RawText.shown, RawText.ofString, RawText.ofChars, Glyph.shown, Function.comp_def]

theorem written_ofMapping {item : Document} (h : ruleSchema.violations item = []) :
    Written item (ofMapping item) := by
  obtain ⟨name, named⟩ := required_field? h .name (by simp [RuleField.key])
  obtain ⟨pattern, found⟩ := required_field? h .pattern (by simp [RuleField.key])
  refine ⟨?_, bind_text?_eq h found, ?_⟩
  · rw [ofMapping, ofString_shown_name h]
    exact bind_text?_eq h named
  · cases described : item.field? RuleField.description.key with
    | none => exact .inl ⟨described, by simp [ofMapping, textOf, described]⟩
    | some value => exact .inr (bind_text?_eq h described)

/-- The entries of a document without violations are what the rules of the document write. -/
theorem written_ofDocument {document : Document} (h : rulesSchema.violations document = []) :
    ∃ items, (document.field? "rules").bind Document.items? = some items ∧
      List.Forall₂ Written items (ofDocument document) := by
  have object := Schema.has_of_violations_eq_nil h
    (by simp [rulesSchema] : .type .object ∈ rulesSchema)
  obtain ⟨rules, found⟩ := Schema.field?_of_violations_eq_nil h object
    (by simp [rulesSchema] : .required ["rules"] ∈ rulesSchema) (List.mem_singleton_self "rules")
  have properties : .properties [("rules", [.type .array, .items ruleSchema])] ∈ rulesSchema := by
    simp [rulesSchema]
  have valid := Schema.fieldViolations_eq_nil_iff.1
    (Schema.violations_eq_nil_iff.1 h _ properties) _ (List.mem_singleton_self _) rules found
  obtain ⟨items, list⟩ := Document.items?_of_has
    (Schema.has_of_violations_eq_nil valid (List.mem_cons_self))
  have items_valid := Schema.items_violations_eq_nil list
    (Schema.violations_eq_nil_iff.1 valid (.items ruleSchema) (by simp))
  refine ⟨items, by simp [found, list], ?_⟩
  rw [ofDocument, found, Option.bind_some, list, Option.getD_some, List.forall₂_map_right_iff,
    List.forall₂_same]
  exact fun item member => written_ofMapping (items_valid item member)

end RuleEntry

end FileRouting
