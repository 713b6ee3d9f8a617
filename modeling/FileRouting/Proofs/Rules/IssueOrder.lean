import FileRouting.Proofs.Rules.Violation
import FileRouting.Proofs.Schema.Sorting

/-!
# The order of issues

The violations of a document come place by place: first those of the document, then that of the
list of rules, and then rule by rule those of the rule before those of its fields. At one place they
come in the order of the schema. The main statement is `pairwise_precedes`.
-/

namespace FileRouting

open FileRouting.Text

/-! ## What comes before what -/

/-- One place comes before another: the document before all else, the list of rules before the
rules, rules by their indices, a rule before its fields, and these by their names. -/
inductive PlaceBefore : Place → Place → Prop
  | document {place : Place} (h : place ≠ Place.document) : PlaceBefore Place.document place
  | rules (index : Nat) (place : Place) : PlaceBefore Place.rules (Place.rule index ++ place)
  | rule {index index' : Nat} (h : index < index') (place place' : Place) :
      PlaceBefore (Place.rule index ++ place) (Place.rule index' ++ place')
  | field (index : Nat) (field : RuleField) :
      PlaceBefore (Place.rule index) (Place.field index field)
  | descriptionName (index : Nat) :
      PlaceBefore (Place.field index .description) (Place.field index .name)
  | descriptionPattern (index : Nat) :
      PlaceBefore (Place.field index .description) (Place.field index .pattern)
  | namePattern (index : Nat) : PlaceBefore (Place.field index .name) (Place.field index .pattern)

/-- One violation comes before another at the same place. -/
inductive ViolationBefore : Violation → Violation → Prop
  | missing : ViolationBefore (.missingKey "name") (.missingKey "pattern")
  | extra (key : String) (keys : List Value) : ViolationBefore (.missingKey key) (.extraKeys keys)

def Precedes (a b : Place × Violation) : Prop :=
  PlaceBefore a.1 b.1 ∨ (a.1 = b.1 ∧ ViolationBefore a.2 b.2)

theorem PlaceBefore.ne {a b : Place} (h : PlaceBefore a b) : a ≠ b := by
  cases h with
  | document h => exact h.symm
  | rules => simp [Place.rules, Place.rule]
  | rule h =>
    intro same
    simp only [Place.rule, List.cons_append, List.nil_append, List.cons.injEq, Step.index.injEq,
      true_and] at same
    omega
  | field => simp [Place.rule, Place.field]
  | descriptionName | descriptionPattern | namePattern => simp [Place.field, RuleField.key]

theorem ViolationBefore.ne {v w : Violation} (h : ViolationBefore v w) : v ≠ w := by
  cases h <;> simp

theorem Precedes.ne {a b : Place × Violation} (h : Precedes a b) : a ≠ b := by
  rintro rfl
  rcases h with h | ⟨_, h⟩
  · exact h.ne rfl
  · exact h.ne rfl

/-! ## Places -/

inductive IsRulePlace : Place → Prop
  | rule : IsRulePlace []
  | field (field : RuleField) : IsRulePlace [.key field.key]

/-- The places of a rules document at which there can be violations. -/
inductive IsRulesPlace : Place → Prop
  | document : IsRulesPlace Place.document
  | rules : IsRulesPlace Place.rules
  | inside (index : Nat) {place : Place} (h : IsRulePlace place) :
      IsRulesPlace (Place.rule index ++ place)

theorem RuleViolates.isRulePlace {item : Document} {place : Place} {violation : Violation}
    (h : RuleViolates item place violation) : IsRulePlace place := by
  cases h with
  | notMapping | missing | otherKeys => exact .rule
  | notText => exact .field _
  | otherName => exact .field .name
  | emptyPattern => exact .field .pattern

theorem Violates.isRulesPlace {document : Document} {place : Place} {violation : Violation}
    (h : Violates document place violation) : IsRulesPlace place := by
  cases h with
  | notMapping | missing | otherKeys => exact .document
  | notList => exact .rules
  | rule found list here h => exact .inside _ h.isRulePlace

theorem le_of_rule_append_le {index index' : Nat} {place place' : Place}
    (h : (Place.rule index ++ place).le (Place.rule index' ++ place')) :
    index < index' ∨ (index = index' ∧ place.le place') := by
  simp only [Place.rule, List.cons_append, List.nil_append, Place.key_le_key,
    Place.index_le_index, if_true] at h
  split at h
  · next same => exact .inr ⟨same, h⟩
  · exact .inl (of_decide_eq_true h)

theorem placeBefore_of_inside_le (index : Nat) {a b : Place} (ha : IsRulePlace a)
    (hb : IsRulePlace b) (apart : a ≠ b) (h : a.le b) :
    PlaceBefore (Place.rule index ++ a) (Place.rule index ++ b) := by
  cases ha with
  | rule =>
    cases hb with
    | rule => exact absurd rfl apart
    | field field => exact .field index field
  | field field =>
    cases hb with
    | rule => cases h
    | field field' =>
      cases field <;> cases field'
      case description.name => exact .descriptionName index
      case description.pattern => exact .descriptionPattern index
      case name.pattern => exact .namePattern index
      case name.description | pattern.name | pattern.description => exact absurd h (by decide)
      all_goals exact absurd rfl apart

theorem placeBefore_of_le {a b : Place} (ha : IsRulesPlace a) (hb : IsRulesPlace b) (apart : a ≠ b)
    (h : a.le b) : PlaceBefore a b := by
  cases ha with
  | document => exact .document apart.symm
  | rules =>
    cases hb with
    | document => cases h
    | rules => exact absurd rfl apart
    | inside index => exact .rules index _
  | inside index ha =>
    cases hb with
    | document => cases h
    | rules => cases h
    | inside index' hb =>
      rcases le_of_rule_append_le h with before | ⟨rfl, below⟩
      · exact .rule before _ _
      · exact placeBefore_of_inside_le index ha hb (fun same => apart (by rw [same])) below

/-! ## Violations of one place -/

def InOrder (a b : Place × Violation) : Prop :=
  a.1 = b.1 → ViolationBefore a.2 b.2

theorem inOrder_of_ne {a b : Place × Violation} (h : a.1 ≠ b.1) : InOrder a b :=
  fun same => absurd same h

namespace Schema

theorem pairwise_behind {step : Step} {found : List (Place × Violation)}
    (h : found.Pairwise InOrder) : (behind step found).Pairwise InOrder := by
  rw [behind, List.pairwise_map]
  apply h.imp
  intro a b before same
  exact before (List.cons.inj same).2

theorem pairwise_fieldViolations {fields : List (String × Schema)} {document : Document}
    (names : (fields.map (·.1)).Nodup)
    (inside : ∀ field ∈ fields, ∀ value, (field.2.violations value).Pairwise InOrder) :
    (fieldViolations fields document).Pairwise InOrder := by
  induction fields with
  | nil => simp
  | cons field fields ih =>
    obtain ⟨key, schema⟩ := field
    obtain ⟨first, others⟩ := List.forall_mem_cons.1 inside
    obtain ⟨fresh, names⟩ := List.nodup_cons.1 names
    rw [fieldViolations_cons, List.pairwise_append]
    refine ⟨?_, ih names others, ?_⟩
    · cases document.field? key with
      | none => exact .nil
      | some value => exact pairwise_behind (first value)
    · intro a here b below
      obtain ⟨field, member, _, _, _, _, place⟩ := mem_fieldViolations_iff.1 below
      have other : field.1 ≠ key := fun same => fresh (List.mem_map.2 ⟨field, member, same⟩)
      cases found : document.field? key with
      | none => simp [found] at here
      | some value =>
        simp only [found] at here
        obtain ⟨_, _, rfl⟩ := List.mem_map.1 here
        apply inOrder_of_ne
        rw [place]
        intro same
        exact other (Step.key.inj (List.cons.inj same).1).symm

theorem pairwise_items {schema : Schema} {document : Document}
    (inside : ∀ item, (schema.violations item).Pairwise InOrder) :
    (constraintViolations (.items schema) document).Pairwise InOrder := by
  rw [constraintViolations_items, List.pairwise_flatMap]
  constructor
  · intro at_index _
    exact pairwise_behind (inside at_index.1)
  · generalize document.items?.getD [] = items
    have distinct : (items.zipIdx.map (·.2)).Nodup := by
      rw [List.zipIdx_map_snd]
      exact List.nodup_range'
    rw [List.Nodup, List.pairwise_map] at distinct
    apply distinct.imp
    intro x y other a here b there
    obtain ⟨_, _, rfl⟩ := List.mem_map.1 here
    obtain ⟨_, _, rfl⟩ := List.mem_map.1 there
    apply inOrder_of_ne
    intro same
    exact other (Step.index.inj (List.cons.inj same).1)

theorem pairwise_required {keys : List String} {document : Document}
    (order : keys.Pairwise fun a b => ViolationBefore (.missingKey a) (.missingKey b)) :
    (constraintViolations (.required keys) document).Pairwise InOrder := by
  rw [constraintViolations_required]
  split
  · rw [List.pairwise_map]
    apply (order.filter _).imp
    intro a b before _
    exact before
  · exact .nil

theorem inOrder_of_mem_properties {fields : List (String × Schema)} {document : Document}
    {a b : Place × Violation} (here : a.1 = [])
    (below : b ∈ constraintViolations (.properties fields) document) : InOrder a b := by
  rw [constraintViolations_properties] at below
  obtain ⟨field, _, _, _, _, _, place⟩ := mem_fieldViolations_iff.1 below
  apply inOrder_of_ne
  rw [here, place]
  exact (List.cons_ne_nil _ _).symm

theorem pairwise_violations_mapping {required known : List String}
    {fields : List (String × Schema)} {document : Document}
    (order : required.Pairwise fun a b => ViolationBefore (.missingKey a) (.missingKey b))
    (names : (fields.map (·.1)).Nodup)
    (inside : ∀ field ∈ fields, ∀ value, (field.2.violations value).Pairwise InOrder) :
    ((mapping required known fields).violations document).Pairwise InOrder := by
  have type : (constraintViolations (.type .object) document).Pairwise InOrder := by
    rw [constraintViolations_type]
    split <;> simp
  have closed : (constraintViolations (.closed known) document).Pairwise InOrder := by
    rw [constraintViolations_closed]
    split <;> simp
  have properties : (constraintViolations (.properties fields) document).Pairwise InOrder := by
    rw [constraintViolations_properties]
    exact pairwise_fieldViolations names inside
  simp only [violations_cons, violations_nil, List.append_nil, List.pairwise_append,
    List.mem_append]
  refine ⟨type, ⟨pairwise_required order, ⟨closed, properties, ?_⟩, ?_⟩, ?_⟩
  · intro a here b below
    obtain ⟨_, place, _⟩ := mem_closed_iff.1 here
    exact inOrder_of_mem_properties place below
  · rintro a here b (there | below)
    · obtain ⟨_, key, _, _, _, missing⟩ := mem_required_iff.1 here
      obtain ⟨_, _, extra⟩ := mem_closed_iff.1 there
      intro _
      rw [missing, extra]
      exact .extra key _
    · obtain ⟨_, _, _, _, place, _⟩ := mem_required_iff.1 here
      exact inOrder_of_mem_properties place below
  · intro a here b there
    obtain ⟨other, place, _⟩ := mem_type_object_iff.1 here
    rcases there with there | there | below
    · obtain ⟨mapping, _⟩ := mem_required_iff.1 there
      simp [other] at mapping
    · obtain ⟨some_keys, _⟩ := mem_closed_iff.1 there
      exact absurd (Document.keysOtherThan_eq_nil_of_entries? other _) some_keys
    · exact inOrder_of_mem_properties place below

end Schema

theorem pairwise_violations_fieldSchema (field : RuleField) (value : Document) :
    ((fieldSchema field).violations value).Pairwise InOrder := by
  cases text : value.text? with
  | none =>
    cases field <;>
      simp [fieldSchema, Schema.constraintViolations_type, Schema.constraintViolations_form,
        Schema.constraintViolations_minLength, has_string_eq, text]
  | some text =>
    cases field <;>
      simp only [fieldSchema, Schema.violations_cons, Schema.violations_nil,
        Schema.constraintViolations_type, Schema.constraintViolations_form,
        Schema.constraintViolations_minLength, has_string_eq, text, Option.isSome_some, if_true,
        List.nil_append, List.append_nil]
    · split <;> simp
    · split <;> simp
    · exact .nil

theorem pairwise_violations_ruleSchema (item : Document) :
    (ruleSchema.violations item).Pairwise InOrder := by
  rw [ruleSchema_eq]
  apply Schema.pairwise_violations_mapping
  · simpa using ViolationBefore.missing
  · decide
  · intro field member value
    obtain ⟨which, _, rfl⟩ := List.mem_map.1 member
    exact pairwise_violations_fieldSchema which value

theorem pairwise_violations_rulesSchema (document : Document) :
    (rulesSchema.violations document).Pairwise InOrder := by
  rw [rulesSchema_eq]
  apply Schema.pairwise_violations_mapping
  · exact List.pairwise_singleton _ _
  · exact List.nodup_cons.2 ⟨List.not_mem_nil, List.nodup_nil⟩
  · intro field member rules
    obtain rfl := List.mem_singleton.1 member
    simp only [Schema.violations_cons, Schema.violations_nil, List.append_nil,
      List.pairwise_append]
    refine ⟨?_, Schema.pairwise_items pairwise_violations_ruleSchema, ?_⟩
    · rw [Schema.constraintViolations_type]
      split <;> simp
    · intro a here b below
      obtain ⟨_, place, _⟩ := mem_type_array_iff.1 here
      obtain ⟨_, _, _, _, _, _, _, place'⟩ := Schema.mem_items_iff.1 below
      apply inOrder_of_ne
      rw [place, place']
      exact (List.cons_ne_nil _ _).symm

theorem pairwise_precedes (document : Document) :
    (rulesSchema.sortedViolations document).Pairwise Precedes := by
  apply Schema.pairwise_sortedViolations
  · intro a found b found' apart h
    exact .inl (placeBefore_of_le (mem_violations_rulesSchema_iff.1 found).isRulesPlace
      (mem_violations_rulesSchema_iff.1 found').isRulesPlace apart h)
  · apply (pairwise_violations_rulesSchema document).imp
    intro a b before same
    exact .inr ⟨same, before same⟩

end FileRouting
