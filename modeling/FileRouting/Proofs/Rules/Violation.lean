import FileRouting.Proofs.Schema.Constraint
import FileRouting.Proofs.Text.Regex
import FileRouting.Rules.Form

/-!
# Violations of the form of rules

What a rules document and each of its rules can violate, constraint by constraint. The main
statement, `mem_violations_rulesSchema_iff`, is that checking a document finds exactly this.
-/

namespace FileRouting

open FileRouting.Text

/-! ## The form of names -/

/-- The expression `^[A-Za-z_][A-Za-z0-9_.-]*$` is found in a text: from its start on, and up to its
end or to a newline that is its last character. -/
def HoldsName (text : RawText) : Prop :=
  ∃ first rest behind, text = .ofChars (first :: rest ++ behind) ∧ startsName first ∧
    (∀ c ∈ rest, continuesName c) ∧ (behind = [] ∨ behind = ['\n'])

theorem matches_nameForm_iff {text : List Char} :
    nameForm.regex.Matches text ↔
      ∃ first rest behind, text = first :: rest ++ behind ∧ startsName first ∧
        (∀ c ∈ rest, continuesName c) ∧ (behind = [] ∨ behind = ['\n']) := by
  have newline : ∀ behind, (Regex.opt (Regex.text "\n")).Matches behind ↔
      behind = [] ∨ behind = ['\n'] := by
    intro behind
    simp [Regex.opt, Regex.text, or_comm]
  simp only [nameForm, Regex.all, List.foldr_cons, List.foldr_nil]
  constructor
  · rintro ⟨_, _, ⟨first, starts, rfl⟩, ⟨rest, _, continues, ⟨behind, _, last, rfl, rfl⟩, rfl⟩, rfl⟩
    refine ⟨first, rest, behind, by simp, starts, Regex.matches_star_char.1 continues, ?_⟩
    exact (newline behind).1 last
  · rintro ⟨first, rest, behind, rfl, starts, continues, last⟩
    exact ⟨[first], rest ++ behind, ⟨first, starts, rfl⟩, ⟨rest, behind,
      Regex.matches_star_char.2 continues, ⟨behind, [], (newline behind).2 last, rfl, by simp⟩,
      rfl⟩, rfl⟩

theorem has_nameForm_iff {text : RawText} : nameForm.has text ↔ HoldsName text := by
  unfold TextForm.has
  cases characters : text.chars? with
  | none =>
    refine iff_of_false Bool.false_ne_true ?_
    rintro ⟨first, rest, behind, rfl, _⟩
    rw [RawText.chars?_ofChars] at characters
    cases characters
  | some chars =>
    obtain rfl := RawText.eq_ofChars_of_chars? characters
    rw [Regex.accepts_iff_matches, matches_nameForm_iff]
    constructor
    · rintro ⟨first, rest, behind, rfl, found⟩
      exact ⟨first, rest, behind, rfl, found⟩
    · rintro ⟨first, rest, behind, same, found⟩
      rw [same, RawText.chars?_ofChars] at characters
      exact ⟨first, rest, behind, (Option.some.inj characters).symm, found⟩

/-! ## What can be violated -/

/-- Whether a key is a certain text. -/
def Value.isText (name : String) : Value → Bool
  | text key => key = name
  | _ => false

/-- The keys of a mapping other than some, in their order. -/
def Document.keysOtherThan (known : List String) (document : Document) : List Value :=
  ((document.entries?.getD []).map (·.1)).filter fun key => known.all fun name => !key.isText name

/-- What a rule violates, at a place in it. -/
inductive RuleViolates (item : Document) : Place → Violation → Prop
  | notMapping (h : item.entries? = none) : RuleViolates item [] (.wrongType item .object)
  | missing (field : RuleField) (mapping : item.entries?.isSome)
      (required : field = .name ∨ field = .pattern) (h : item.field? field.key = none) :
      RuleViolates item [] (.missingKey field.key)
  | otherKeys (h : item.keysOtherThan ["name", "pattern", "description"] ≠ []) :
      RuleViolates item []
        (.extraKeys (item.keysOtherThan ["name", "pattern", "description"]))
  | notText {field : RuleField} {value : Document} (found : item.field? field.key = some value)
      (h : value.text? = none) : RuleViolates item [.key field.key] (.wrongType value .string)
  | otherName {value : Document} {text : RawText} (found : item.field? "name" = some value)
      (shows : value.text? = some text) (h : ¬HoldsName text) :
      RuleViolates item [.key "name"] (.otherForm text nameForm)
  | emptyPattern {value : Document} (found : item.field? "pattern" = some value)
      (shows : value.text? = some []) : RuleViolates item [.key "pattern"] (.tooShort [] 1)

/-- What a document violates, at a place in it. -/
inductive Violates (document : Document) : Place → Violation → Prop
  | notMapping (h : document.entries? = none) :
      Violates document Place.document (.wrongType document .object)
  | missing (mapping : document.entries?.isSome) (h : document.field? "rules" = none) :
      Violates document Place.document (.missingKey "rules")
  | otherKeys (h : document.keysOtherThan ["rules"] ≠ []) :
      Violates document Place.document (.extraKeys (document.keysOtherThan ["rules"]))
  | notList {rules : Document} (found : document.field? "rules" = some rules)
      (h : rules.items? = none) : Violates document Place.rules (.wrongType rules .array)
  | rule {rules item : Document} {items : List Document} {index : Nat} {place : Place}
      {violation : Violation} (found : document.field? "rules" = some rules)
      (list : rules.items? = some items) (at_index : items[index]? = some item)
      (h : RuleViolates item place violation) :
      Violates document (Place.rule index ++ place) violation

theorem Document.field?_eq_none_of_entries? {document : Document} (h : document.entries? = none)
    (key : String) : document.field? key = none := by
  simp [field?, h]

theorem Document.keysOtherThan_eq_nil_of_entries? {document : Document}
    (h : document.entries? = none) (known : List String) : document.keysOtherThan known = [] := by
  simp [keysOtherThan, h]

/-- A rule that is not a mapping violates nothing else. -/
theorem RuleViolates.eq_of_notMapping {item : Document} {place : Place} {violation : Violation}
    (violates : RuleViolates item place violation) (h : item.entries? = none) :
    place = [] ∧ violation = .wrongType item .object := by
  have absent := Document.field?_eq_none_of_entries? h
  cases violates with
  | notMapping => exact ⟨rfl, rfl⟩
  | missing field mapping => simp [h] at mapping
  | otherKeys others => exact absurd (Document.keysOtherThan_eq_nil_of_entries? h _) others
  | notText found | otherName found | emptyPattern found => simp [absent] at found

/-- A document that is not a mapping violates nothing else. -/
theorem Violates.eq_of_notMapping {document : Document} {place : Place} {violation : Violation}
    (violates : Violates document place violation) (h : document.entries? = none) :
    place = Place.document ∧ violation = .wrongType document .object := by
  have absent := Document.field?_eq_none_of_entries? h
  cases violates with
  | notMapping => exact ⟨rfl, rfl⟩
  | missing mapping => simp [h] at mapping
  | otherKeys others => exact absurd (Document.keysOtherThan_eq_nil_of_entries? h _) others
  | notList found | rule found => simp [absent] at found

/-- Where the rules are not a list, nothing is violated below them. -/
theorem Violates.eq_of_notList {document rules : Document} {place : Place} {violation : Violation}
    (violates : Violates document place violation) (found : document.field? "rules" = some rules)
    (h : rules.items? = none) :
    place = Place.document ∨ (place = Place.rules ∧ violation = .wrongType rules .array) := by
  cases violates with
  | notMapping | missing | otherKeys => exact .inl rfl
  | notList found' =>
    obtain rfl := Option.some.inj (found.symm.trans found')
    exact .inr ⟨rfl, rfl⟩
  | rule found' list =>
    obtain rfl := Option.some.inj (found.symm.trans found')
    rw [h] at list
    cases list

/-! ## What is found -/

namespace Schema

/-- The form of mappings with some required and some known keys. -/
abbrev mapping (required known : List String) (fields : List (String × Schema)) : Schema :=
  [.type .object, .required required, .closed known, .properties fields]

theorem mem_violations_iff {schema : Schema} {document : Document} {found : Place × Violation} :
    found ∈ schema.violations document ↔
      ∃ constraint ∈ schema, found ∈ constraintViolations constraint document := by
  induction schema with
  | nil => simp
  | cons constraint schema ih => simp [ih]

theorem mem_fieldViolations_iff {fields : List (String × Schema)} {document : Document}
    {place : Place} {violation : Violation} :
    (place, violation) ∈ fieldViolations fields document ↔
      ∃ field ∈ fields, ∃ value, document.field? field.1 = some value ∧
        ∃ below, (below, violation) ∈ field.2.violations value ∧
          place = .key field.1 :: below := by
  induction fields with
  | nil => simp
  | cons field fields ih =>
    obtain ⟨key, schema⟩ := field
    rw [fieldViolations_cons, List.mem_append, ih]
    cases found : document.field? key with
    | none => simp [found]
    | some value => simp [found, behind, eq_comm]

theorem mem_items_iff {schema : Schema} {document : Document} {place : Place}
    {violation : Violation} :
    (place, violation) ∈ constraintViolations (.items schema) document ↔
      ∃ items item index, document.items? = some items ∧ items[index]? = some item ∧
        ∃ below, (below, violation) ∈ schema.violations item ∧ place = .index index :: below := by
  cases list : document.items? with
  | none => simp [constraintViolations_items, list]
  | some items =>
    simp [constraintViolations_items, list, behind, List.mem_zipIdx_iff_getElem?, eq_comm]

theorem extraKeys_eq (known : List String) (document : Document) :
    extraKeys known (document.entries?.getD []) = document.keysOtherThan known := by
  apply List.filter_congr
  intro key _
  cases key with
  | text name =>
    rw [Bool.eq_iff_iff]
    simp only [decide_eq_true_eq, List.all_eq_true, Value.isText, Bool.not_eq_true',
      decide_eq_false_iff_not]
    constructor
    · rintro unknown name' member rfl
      exact unknown member
    · intro unknown member
      exact unknown name member rfl
  | _ => simp [Value.isText]

theorem has_object_eq (document : Document) :
    DataType.object.has document.top = document.entries?.isSome := by
  unfold Document.entries?
  cases document.top <;> rfl

section

variable {document : Document} {place : Place} {violation : Violation}

theorem mem_type_object_iff :
    (place, violation) ∈ constraintViolations (.type .object) document ↔
      document.entries? = none ∧ place = [] ∧ violation = .wrongType document .object := by
  rw [constraintViolations_type, has_object_eq]
  cases document.entries? <;> simp

theorem mem_required_iff {keys : List String} :
    (place, violation) ∈ constraintViolations (.required keys) document ↔
      document.entries?.isSome ∧ ∃ key ∈ keys, document.field? key = none ∧ place = [] ∧
        violation = .missingKey key := by
  rw [constraintViolations_required]
  split
  · next mapping =>
    simp only [mapping, true_and, List.mem_map, List.mem_filter, Option.isNone_iff_eq_none]
    constructor
    · rintro ⟨key, ⟨member, absent⟩, same⟩
      obtain ⟨rfl, rfl⟩ := Prod.mk.inj same
      exact ⟨key, member, absent, rfl, rfl⟩
    · rintro ⟨key, member, absent, rfl, rfl⟩
      exact ⟨key, ⟨member, absent⟩, rfl⟩
  · next other => simp [other]

theorem mem_closed_iff {known : List String} :
    (place, violation) ∈ constraintViolations (.closed known) document ↔
      document.keysOtherThan known ≠ [] ∧ place = [] ∧
        violation = .extraKeys (document.keysOtherThan known) := by
  rw [constraintViolations_closed, extraKeys_eq]
  cases document.keysOtherThan known <;> simp

theorem mem_violations_mapping_iff {required known : List String}
    {fields : List (String × Schema)} :
    (place, violation) ∈ (mapping required known fields).violations document ↔
      (document.entries? = none ∧ place = [] ∧ violation = .wrongType document .object) ∨
      (document.entries?.isSome ∧ ∃ key ∈ required, document.field? key = none ∧ place = [] ∧
        violation = .missingKey key) ∨
      (document.keysOtherThan known ≠ [] ∧ place = [] ∧
        violation = .extraKeys (document.keysOtherThan known)) ∨
      ∃ field ∈ fields, ∃ value, document.field? field.1 = some value ∧
        ∃ below, (below, violation) ∈ field.2.violations value ∧
          place = .key field.1 :: below := by
  rw [mem_violations_iff, ← mem_type_object_iff, ← mem_required_iff, ← mem_closed_iff,
    ← mem_fieldViolations_iff]
  simp [mapping]

end

end Schema

/-! ## Checking rules -/

theorem has_string_eq (document : Document) :
    DataType.string.has document.top = document.text?.isSome := by
  unfold Document.text? Value.rawText?
  cases document.top <;> rfl

theorem has_array_eq (document : Document) :
    DataType.array.has document.top = document.items?.isSome := by
  unfold Document.items?
  cases document.top <;> rfl

section

variable {document : Document} {place : Place} {violation : Violation}

theorem mem_type_string_iff :
    (place, violation) ∈ Schema.constraintViolations (.type .string) document ↔
      document.text? = none ∧ place = [] ∧ violation = .wrongType document .string := by
  rw [Schema.constraintViolations_type, has_string_eq]
  cases document.text? <;> simp

theorem mem_type_array_iff :
    (place, violation) ∈ Schema.constraintViolations (.type .array) document ↔
      document.items? = none ∧ place = [] ∧ violation = .wrongType document .array := by
  rw [Schema.constraintViolations_type, has_array_eq]
  cases document.items? <;> simp

theorem mem_form_iff {form : TextForm} :
    (place, violation) ∈ Schema.constraintViolations (.form form) document ↔
      ∃ text, document.text? = some text ∧ ¬form.has text ∧ place = [] ∧
        violation = .otherForm text form := by
  rw [Schema.constraintViolations_form]
  cases document.text? with
  | none => simp
  | some text => cases has : form.has text <;> simp [has]

theorem mem_minLength_iff {length : Nat} :
    (place, violation) ∈ Schema.constraintViolations (.minLength length) document ↔
      ∃ text, document.text? = some text ∧ text.length < length ∧ place = [] ∧
        violation = .tooShort text length := by
  rw [Schema.constraintViolations_minLength]
  cases document.text? with
  | none => simp
  | some text =>
    by_cases short : text.length < length
    · simp [short]
    · simp [short]

end

theorem mem_violations_fieldSchema_iff {field : RuleField} {value : Document} {place : Place}
    {violation : Violation} :
    (place, violation) ∈ (fieldSchema field).violations value ↔
      place = [] ∧ ((value.text? = none ∧ violation = .wrongType value .string) ∨
        (field = .name ∧ ∃ text, value.text? = some text ∧ ¬HoldsName text ∧
          violation = .otherForm text nameForm) ∨
        (field = .pattern ∧ value.text? = some [] ∧ violation = .tooShort [] 1)) := by
  rw [Schema.mem_violations_iff]
  cases field with
  | name =>
    simp only [fieldSchema, List.mem_cons, List.not_mem_nil, or_false, exists_eq_or_imp,
      exists_eq_left, mem_type_string_iff, mem_form_iff, has_nameForm_iff]
    simp only [reduceCtorEq, true_and, false_and, or_false]
    grind
  | pattern =>
    simp only [fieldSchema, List.mem_cons, List.not_mem_nil, or_false, exists_eq_or_imp,
      exists_eq_left, mem_type_string_iff, mem_minLength_iff, Nat.lt_one_iff,
      List.length_eq_zero_iff]
    simp only [reduceCtorEq, true_and, false_and, false_or]
    grind
  | description =>
    simp only [fieldSchema, List.mem_cons, List.not_mem_nil, or_false, exists_eq_left,
      mem_type_string_iff]
    simp only [reduceCtorEq, false_and, or_false]
    grind

theorem ruleSchema_eq : ruleSchema =
    Schema.mapping ["name", "pattern"] ["name", "pattern", "description"]
      (RuleField.all.map fun which => (which.key, fieldSchema which)) := rfl

theorem mem_violations_of_field {item value : Document} (field : RuleField) {violation : Violation}
    (found : item.field? field.key = some value)
    (h : ([], violation) ∈ (fieldSchema field).violations value) :
    ([.key field.key], violation) ∈ ruleSchema.violations item := by
  rw [ruleSchema_eq, Schema.mem_violations_mapping_iff]
  have listed : (field.key, fieldSchema field) ∈
      RuleField.all.map fun which => (which.key, fieldSchema which) :=
    List.mem_map_of_mem (by cases field <;> simp [RuleField.all])
  exact .inr (.inr (.inr ⟨_, listed, value, found, [], h, rfl⟩))

theorem mem_violations_ruleSchema_iff {item : Document} {place : Place} {violation : Violation} :
    (place, violation) ∈ ruleSchema.violations item ↔ RuleViolates item place violation := by
  constructor
  · rw [ruleSchema_eq, Schema.mem_violations_mapping_iff]
    rintro (⟨h, rfl, rfl⟩ | ⟨mapping, key, member, h, rfl, rfl⟩ | ⟨h, rfl, rfl⟩ |
      ⟨_, member, value, found, below, inside, rfl⟩)
    · exact .notMapping h
    · simp only [List.mem_cons, List.not_mem_nil, or_false] at member
      rcases member with rfl | rfl
      · exact .missing .name mapping (.inl rfl) h
      · exact .missing .pattern mapping (.inr rfl) h
    · exact .otherKeys h
    · obtain ⟨field, _, rfl⟩ := List.mem_map.1 member
      obtain ⟨rfl, ⟨h, rfl⟩ | ⟨rfl, text, shows, h, rfl⟩ | ⟨rfl, shows, rfl⟩⟩ :=
        mem_violations_fieldSchema_iff.1 inside
      · exact .notText found h
      · exact .otherName found shows h
      · exact .emptyPattern found shows
  · intro violates
    cases violates with
    | notMapping h =>
      rw [ruleSchema_eq, Schema.mem_violations_mapping_iff]
      exact .inl ⟨h, rfl, rfl⟩
    | missing field mapping required h =>
      rw [ruleSchema_eq, Schema.mem_violations_mapping_iff]
      refine .inr (.inl ⟨mapping, _, ?_, h, rfl, rfl⟩)
      rcases required with rfl | rfl <;> simp [RuleField.key]
    | otherKeys h =>
      rw [ruleSchema_eq, Schema.mem_violations_mapping_iff]
      exact .inr (.inr (.inl ⟨h, rfl, rfl⟩))
    | notText found h =>
      exact mem_violations_of_field _ found
        (mem_violations_fieldSchema_iff.2 ⟨rfl, .inl ⟨h, rfl⟩⟩)
    | otherName found shows h =>
      exact mem_violations_of_field .name found
        (mem_violations_fieldSchema_iff.2 ⟨rfl, .inr (.inl ⟨rfl, _, shows, h, rfl⟩)⟩)
    | emptyPattern found shows =>
      exact mem_violations_of_field .pattern found
        (mem_violations_fieldSchema_iff.2 ⟨rfl, .inr (.inr ⟨rfl, shows, rfl⟩)⟩)

/-! ## Checking documents -/

theorem rulesSchema_eq : rulesSchema =
    Schema.mapping ["rules"] ["rules"] [("rules", [.type .array, .items ruleSchema])] := rfl

theorem mem_violations_list_iff {rules : Document} {place : Place} {violation : Violation} :
    (place, violation) ∈ Schema.violations [.type .array, .items ruleSchema] rules ↔
      (rules.items? = none ∧ place = [] ∧ violation = .wrongType rules .array) ∨
      ∃ items item index, rules.items? = some items ∧ items[index]? = some item ∧
        ∃ below, RuleViolates item below violation ∧ place = .index index :: below := by
  rw [Schema.mem_violations_iff]
  simp only [List.mem_cons, List.not_mem_nil, or_false, exists_eq_or_imp, exists_eq_left,
    mem_type_array_iff, Schema.mem_items_iff, mem_violations_ruleSchema_iff]

theorem mem_violations_rulesSchema_iff {document : Document} {place : Place}
    {violation : Violation} :
    (place, violation) ∈ rulesSchema.violations document ↔ Violates document place violation := by
  rw [rulesSchema_eq, Schema.mem_violations_mapping_iff]
  simp only [List.mem_singleton, exists_eq_left, mem_violations_list_iff]
  constructor
  · rintro (⟨h, rfl, rfl⟩ | ⟨mapping, h, rfl, rfl⟩ | ⟨h, rfl, rfl⟩ |
      ⟨rules, found, below, ⟨h, rfl, rfl⟩ | ⟨items, item, index, list, here, place, h, rfl⟩, rfl⟩)
    · exact .notMapping h
    · exact .missing mapping h
    · exact .otherKeys h
    · exact .notList found h
    · exact .rule found list here h
  · intro violates
    cases violates with
    | notMapping h => exact .inl ⟨h, rfl, rfl⟩
    | missing mapping h => exact .inr (.inl ⟨mapping, h, rfl, rfl⟩)
    | otherKeys h => exact .inr (.inr (.inl ⟨h, rfl, rfl⟩))
    | notList found h => exact .inr (.inr (.inr ⟨_, found, [], .inl ⟨h, rfl, rfl⟩, rfl⟩))
    | rule found list here h =>
      exact .inr (.inr (.inr ⟨_, found, _, .inr ⟨_, _, _, list, here, _, h, rfl⟩, rfl⟩))

theorem violations_rulesSchema_eq_nil_iff {document : Document} :
    rulesSchema.violations document = [] ↔
      ∀ place violation, ¬Violates document place violation := by
  rw [List.eq_nil_iff_forall_not_mem]
  simp only [← mem_violations_rulesSchema_iff, Prod.forall]

end FileRouting
