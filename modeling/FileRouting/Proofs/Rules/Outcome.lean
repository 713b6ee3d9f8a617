import FileRouting.Proofs.Expression.Form
import FileRouting.Proofs.Rules.Trace
import Mathlib.Data.List.Forall2

/-!
# What loading comes to

Every entry of a document is loaded, rejected or a duplicate. The book of the entries has a rule for
every entry that is loaded and an error for every other one, and the warnings are on the entries
that are loaded although they look like a file attribute. All of it is in the order of the entries.
The main statement is `outcome_ofEntries`.
-/

namespace FileRouting

open FileRouting.Text

/-! ## Issues of a decision -/

/-- The index of the entry that an issue is about. -/
def Issue.index? (issue : Issue) : Option Nat :=
  match issue.place with
  | .key "rules" :: .index index :: _ => some index
  | _ => none

namespace Decision

theorem index?_of_issue? {decision : Decision} {issue : Issue}
    (h : decision.issue? = some issue) : issue.index? = some decision.index := by
  unfold issue? RuleEntry.issue? at h
  split at h
  · cases h
    rfl
  · cases h
    rfl
  · split at h <;> cases h
    rfl

/-- A decision makes a rule or an error, and not both. -/
theorem rule?_or_error (decision : Decision) :
    (decision.rule?.toList).length +
      (decision.issue?.toList.filter Issue.isError).length = 1 := by
  obtain ⟨index, entry, fate⟩ := decision
  cases fate with
  | duplicate => rfl
  | rejected error => rfl
  | loaded expression =>
    simp only [rule?, issue?, RuleEntry.rule?, RuleEntry.issue?]
    split <;> rfl

theorem length_rules_add_length_errors (decisions : List Decision) :
    (decisions.filterMap rule?).length +
      ((decisions.filterMap issue?).filter Issue.isError).length = decisions.length := by
  induction decisions with
  | nil => rfl
  | cons decision decisions ih =>
    have one := rule?_or_error decision
    simp only [RuleBook.filterMap_cons_eq, List.filter_append, List.length_append,
      List.length_cons]
    omega

theorem error_at_rule_iff {decision : Decision} {index : Nat} :
    (∃ issue, decision.issue? = some issue ∧ issue.isError ∧ issue.place = Place.rule index) ↔
      decision.index = index ∧ decision.fate = .duplicate := by
  obtain ⟨at_index, entry, fate⟩ := decision
  cases fate with
  | duplicate =>
    simp [issue?, RuleEntry.issue?, Issue.isError, Issue.severity, Finding.severity, Place.rule]
  | rejected error => simp [issue?, RuleEntry.issue?, Place.rule, Place.field]
  | loaded expression => simp [issue?, RuleEntry.issue?, Place.rule, Place.field]

theorem error_at_pattern_iff {decision : Decision} {index : Nat} :
    (∃ issue, decision.issue? = some issue ∧ issue.isError ∧
        issue.place = Place.field index .pattern) ↔
      decision.index = index ∧ ∃ error, decision.fate = .rejected error := by
  obtain ⟨at_index, entry, fate⟩ := decision
  cases fate with
  | duplicate => simp [issue?, RuleEntry.issue?, Place.rule, Place.field]
  | rejected error =>
    simp [issue?, RuleEntry.issue?, Issue.isError, Issue.severity, Finding.severity, Place.field]
  | loaded expression =>
    simp [issue?, RuleEntry.issue?, Issue.isError, Issue.severity, Finding.severity]

/-- Only an entry that is loaded makes a warning. -/
theorem isWarning_iff_of_issue? {decision : Decision} {issue : Issue}
    (h : decision.issue? = some issue) :
    issue.isWarning ↔ ∃ expression, decision.fate = .loaded expression := by
  obtain ⟨index, entry, fate⟩ := decision
  cases fate with
  | duplicate =>
    cases h
    simp [Issue.isWarning, Issue.severity, Finding.severity]
  | rejected error =>
    cases h
    simp [Issue.isWarning, Issue.severity, Finding.severity]
  | loaded expression =>
    simp only [issue?, RuleEntry.issue?] at h
    split at h <;> cases h
    simp [Issue.isWarning, Issue.severity, Finding.severity]

theorem warning_iff {decision : Decision} {issue : Issue} :
    decision.issue? = some issue ∧ issue.isWarning ↔
      ∃ expression, decision.fate = .loaded expression ∧
        ((afterPrefix? "file:" decision.entry.pattern.shown).isSome ∧ expression.isSimple) ∧
        issue =
          ⟨Place.field decision.index .pattern, .unknownAttribute decision.entry.pattern⟩ := by
  constructor
  · rintro ⟨made, warning⟩
    obtain ⟨expression, loaded⟩ := (isWarning_iff_of_issue? made).1 warning
    rw [issue?, loaded, RuleEntry.issue?] at made
    split at made
    · next deserved =>
      cases made
      exact ⟨expression, loaded, deserved, rfl⟩
    · cases made
  · rintro ⟨expression, loaded, deserved, rfl⟩
    have made : decision.issue? =
        some ⟨Place.field decision.index .pattern, .unknownAttribute decision.entry.pattern⟩ := by
      rw [issue?, loaded, RuleEntry.issue?, if_pos deserved]
    exact ⟨made, (isWarning_iff_of_issue? made).2 ⟨expression, loaded⟩⟩

end Decision

theorem Attribute.ofKey?_eq_none_iff {key : String} :
    Attribute.ofKey? key = none ↔ ∀ read : Attribute, read.key ≠ key := by
  rw [Option.eq_none_iff_forall_ne_some]
  constructor
  · rintro unknown read rfl
    exact unknown read (Attribute.ofKey?_key read)
  · intro unknown read known
    exact unknown read (Attribute.key_of_ofKey? known)

theorem Language.isSimple_iff {language : Language} {key : String} {expression : Expression}
    (h : language.create ("file:" ++ key) = .ok expression) :
    expression.isSimple ↔ ∀ read : Attribute, read.key ≠ key := by
  rw [← Attribute.ofKey?_eq_none_iff]
  unfold Language.create Form.ofPattern at h
  rw [afterPrefix?_append] at h
  cases known : Attribute.ofKey? key with
  | some read =>
    simp only [known] at h
    cases h
    simp [Expression.isSimple]
  | none =>
    simp only [known] at h
    cases h
    exact iff_of_true (language.isSimple_simple _) rfl

/-! ## The book of some entries -/

namespace RuleBook

/-- What a book has to do with the entries that it was made from. -/
structure Outcome (language : Language) (entries : List RuleEntry) (book : RuleBook) : Prop where
  one_fate : ∀ index < entries.length,
    (IsDuplicate language entries index ∧ ¬IsRejected language entries index ∧
        ¬IsLoaded language entries index) ∨
      (¬IsDuplicate language entries index ∧ IsRejected language entries index ∧
        ¬IsLoaded language entries index) ∨
      (¬IsDuplicate language entries index ∧ ¬IsRejected language entries index ∧
        IsLoaded language entries index)
  duplicate_iff : ∀ index, IsDuplicate language entries index ↔
    ∃ issue ∈ book.errors, issue.place = Place.rule index
  rejected_iff : ∀ index, IsRejected language entries index ↔
    ∃ issue ∈ book.errors, issue.place = Place.field index .pattern
  length_eq : book.rules.length + book.errors.length = entries.length
  rules_eq : ∃ indices : List Nat, indices.Pairwise (· < ·) ∧
    (∀ index, index ∈ indices ↔ IsLoaded language entries index) ∧
    List.Forall₂ (fun index rule => ∃ entry, entries[index]? = some entry ∧
      compiled? language entry = some rule) indices book.rules
  nodup_names : book.names.Nodup
  find?_eq : ∀ name, book.find? name =
    (entries.filter (·.name = name)).findSome? (compiled? language)
  mem_warnings_iff : ∀ issue, issue ∈ book.warnings ↔
    ∃ index entry key, entries[index]? = some entry ∧ IsLoaded language entries index ∧
      entry.pattern.shown = "file:" ++ key ∧ (∀ read : Attribute, read.key ≠ key) ∧
      issue = ⟨Place.field index .pattern, .unknownAttribute entry.pattern⟩
  issues_in_order : ∃ indices : List Nat, indices.Pairwise (· < ·) ∧
    (∀ index ∈ indices, index < entries.length) ∧
    book.issues.map Issue.index? = indices.map some

section

variable (language : Language) (entries : List RuleEntry)

theorem isDuplicate_iff_hasFate (index : Nat) :
    IsDuplicate language entries index ↔
      ∃ entry, entries[index]? = some entry ∧ HasFate language entries index entry .duplicate := by
  constructor
  · rintro ⟨entry, found, taken⟩
    exact ⟨entry, found, .duplicate taken⟩
  · rintro ⟨entry, found, fate⟩
    cases fate with
    | duplicate taken => exact ⟨entry, found, taken⟩

theorem isRejected_iff_hasFate (index : Nat) :
    IsRejected language entries index ↔ ∃ entry error, entries[index]? = some entry ∧
      HasFate language entries index entry (.rejected error) := by
  constructor
  · rintro ⟨entry, found, free, fails⟩
    cases created : language.create entry.pattern.shown with
    | ok expression => exact absurd ⟨expression, created⟩ fails
    | error error => exact ⟨entry, error, found, .rejected free created⟩
  · rintro ⟨entry, error, found, fate⟩
    cases fate with
    | rejected free fails => exact ⟨entry, found, free, by simp [Compiles, fails]⟩

theorem isLoaded_iff_hasFate (index : Nat) :
    IsLoaded language entries index ↔ ∃ entry expression, entries[index]? = some entry ∧
      HasFate language entries index entry (.loaded expression) := by
  rw [isLoaded_iff]
  constructor
  · rintro ⟨entry, found, free, expression, compiles⟩
    exact ⟨entry, expression, found, .loaded free compiles⟩
  · rintro ⟨entry, expression, found, fate⟩
    cases fate with
    | loaded free compiles => exact ⟨entry, found, free, expression, compiles⟩

theorem mem_issues_trace_iff {accepts : Issue → Prop} :
    (∃ issue ∈ (trace language [] 0 entries).filterMap Decision.issue?, accepts issue) ↔
      ∃ decision : Decision, (entries[decision.index]? = some decision.entry ∧
        HasFate language entries decision.index decision.entry decision.fate) ∧
        ∃ issue, decision.issue? = some issue ∧ accepts issue := by
  constructor
  · rintro ⟨issue, member, accepted⟩
    obtain ⟨decision, member, made⟩ := List.mem_filterMap.1 member
    exact ⟨decision, mem_trace_iff.1 member, issue, made, accepted⟩
  · rintro ⟨decision, decided, issue, made, accepted⟩
    exact ⟨issue, List.mem_filterMap.2 ⟨decision, mem_trace_iff.2 decided, made⟩, accepted⟩

theorem outcome_duplicate_iff (index : Nat) :
    IsDuplicate language entries index ↔
      ∃ issue ∈ (ofEntries language entries).1.errors, issue.place = Place.rule index := by
  rw [errors, ofEntries_eq]
  simp only [List.mem_filter, and_assoc]
  rw [mem_issues_trace_iff, isDuplicate_iff_hasFate]
  simp only [Decision.error_at_rule_iff]
  constructor
  · rintro ⟨entry, found, fate⟩
    exact ⟨⟨index, entry, .duplicate⟩, ⟨found, fate⟩, rfl, rfl⟩
  · rintro ⟨⟨_, entry, _⟩, ⟨found, fate⟩, rfl, rfl⟩
    exact ⟨entry, found, fate⟩

theorem outcome_rejected_iff (index : Nat) :
    IsRejected language entries index ↔ ∃ issue ∈ (ofEntries language entries).1.errors,
      issue.place = Place.field index .pattern := by
  rw [errors, ofEntries_eq]
  simp only [List.mem_filter, and_assoc]
  rw [mem_issues_trace_iff, isRejected_iff_hasFate]
  simp only [Decision.error_at_pattern_iff]
  constructor
  · rintro ⟨entry, error, found, fate⟩
    exact ⟨⟨index, entry, .rejected error⟩, ⟨found, fate⟩, rfl, error, rfl⟩
  · rintro ⟨⟨_, entry, _⟩, ⟨found, fate⟩, rfl, error, rfl⟩
    exact ⟨entry, error, found, fate⟩

theorem outcome_length_eq :
    (ofEntries language entries).1.rules.length + (ofEntries language entries).1.errors.length =
      entries.length := by
  rw [errors, ofEntries_eq, Decision.length_rules_add_length_errors, length_trace]

theorem outcome_mem_warnings_iff (issue : Issue) :
    issue ∈ (ofEntries language entries).1.warnings ↔
      ∃ index entry key, entries[index]? = some entry ∧ IsLoaded language entries index ∧
        entry.pattern.shown = "file:" ++ key ∧ (∀ read : Attribute, read.key ≠ key) ∧
        issue = ⟨Place.field index .pattern, .unknownAttribute entry.pattern⟩ := by
  rw [warnings, ofEntries_eq, List.mem_filter, List.mem_filterMap]
  constructor
  · rintro ⟨⟨decision, member, made⟩, warning⟩
    obtain ⟨expression, fate, ⟨file, simple⟩, rfl⟩ := Decision.warning_iff.1 ⟨made, warning⟩
    obtain ⟨found, has⟩ := mem_trace_iff.1 member
    obtain ⟨key, after⟩ := Option.isSome_iff_exists.1 file
    have written := afterPrefix?_eq_some_iff.1 after
    have loaded := (has.isLoaded_iff found).2 ⟨expression, fate⟩
    rw [fate] at has
    cases has with
    | loaded free compiles =>
      rw [written] at compiles
      exact ⟨decision.index, decision.entry, key, found, loaded, written,
        (Language.isSimple_iff compiles).1 simple, rfl⟩
  · rintro ⟨index, entry, key, found, loaded, written, unknown, rfl⟩
    obtain ⟨_, expression, found', has⟩ := (isLoaded_iff_hasFate language entries index).1 loaded
    obtain rfl := Option.some.inj (found.symm.trans found')
    have simple : expression.isSimple := by
      cases has with
      | loaded free compiles =>
        rw [written] at compiles
        exact (Language.isSimple_iff compiles).2 unknown
    have file : (afterPrefix? "file:" entry.pattern.shown).isSome := by
      simp [written, afterPrefix?_append]
    obtain ⟨made, warning⟩ := Decision.warning_iff.2
      ⟨expression, (rfl : (⟨index, entry, .loaded expression⟩ : Decision).fate = _),
        ⟨file, simple⟩, rfl⟩
    exact ⟨⟨_, mem_trace_iff.2 ⟨found, has⟩, made⟩, warning⟩

/-! ## The order of the book -/

theorem pairwise_index_trace :
    ((trace language [] 0 entries).map Decision.index).Pairwise (· < ·) := by
  rw [map_index_trace]
  exact List.pairwise_lt_range'

theorem index_lt_of_mem_trace {decision : Decision}
    (h : decision ∈ trace language [] 0 entries) : decision.index < entries.length := by
  obtain ⟨found, _⟩ := mem_trace_iff.1 h
  exact (List.getElem?_eq_some_iff.1 found).1

theorem forall₂_filter_filterMap {α β : Type} {f : α → Option β} {l : List α} :
    List.Forall₂ (fun a b => f a = some b) (l.filter fun a => (f a).isSome) (l.filterMap f) := by
  induction l with
  | nil => exact .nil
  | cons a l ih =>
    cases h : f a with
    | none => simpa [h] using ih
    | some b => simpa [h] using ih

theorem map_index?_issues (decisions : List Decision) :
    (decisions.filterMap Decision.issue?).map Issue.index? =
      ((decisions.filter fun decision => decision.issue?.isSome).map Decision.index).map some := by
  induction decisions with
  | nil => rfl
  | cons decision decisions ih =>
    cases made : decision.issue? with
    | none => simpa [made] using ih
    | some issue => simpa [made, Decision.index?_of_issue? made] using ih

theorem outcome_issues_in_order : ∃ indices : List Nat, indices.Pairwise (· < ·) ∧
    (∀ index ∈ indices, index < entries.length) ∧
    (ofEntries language entries).1.issues.map Issue.index? = indices.map some := by
  refine ⟨_, ?_, ?_, by rw [ofEntries_eq, map_index?_issues]⟩
  · exact (pairwise_index_trace language entries).sublist (List.filter_sublist.map _)
  · intro index listed
    obtain ⟨decision, member, rfl⟩ := List.mem_map.1 listed
    exact index_lt_of_mem_trace language entries (List.mem_filter.1 member).1

theorem outcome_rules_eq : ∃ indices : List Nat, indices.Pairwise (· < ·) ∧
    (∀ index, index ∈ indices ↔ IsLoaded language entries index) ∧
    List.Forall₂ (fun index rule => ∃ entry, entries[index]? = some entry ∧
      compiled? language entry = some rule) indices (ofEntries language entries).1.rules := by
  refine ⟨((trace language [] 0 entries).filter fun decision =>
    decision.rule?.isSome).map Decision.index, ?_, ?_, ?_⟩
  · exact (pairwise_index_trace language entries).sublist (List.filter_sublist.map _)
  · intro index
    rw [isLoaded_iff_hasFate, List.mem_map]
    constructor
    · rintro ⟨decision, member, rfl⟩
      obtain ⟨member, made⟩ := List.mem_filter.1 member
      obtain ⟨rule, made⟩ := Option.isSome_iff_exists.1 made
      obtain ⟨expression, fate, _⟩ := rule?_eq_some_iff.1 made
      obtain ⟨found, has⟩ := mem_trace_iff.1 member
      exact ⟨decision.entry, expression, found, fate ▸ has⟩
    · rintro ⟨entry, expression, found, has⟩
      exact ⟨⟨index, entry, .loaded expression⟩,
        List.mem_filter.2 ⟨mem_trace_iff.2 ⟨found, has⟩, rfl⟩, rfl⟩
  · rw [ofEntries_eq, List.forall₂_map_left_iff]
    have made : ∀ decision ∈ (trace language [] 0 entries).filter fun decision =>
        decision.rule?.isSome, entries[decision.index]? = some decision.entry ∧
          HasFate language entries decision.index decision.entry decision.fate :=
      fun decision member => mem_trace_iff.1 (List.mem_filter.1 member).1
    refine ((List.forall₂_and_left _ _).2 ⟨made, forall₂_filter_filterMap⟩).imp ?_
    rintro decision rule ⟨⟨found, has⟩, made⟩
    obtain ⟨expression, fate, rfl⟩ := rule?_eq_some_iff.1 made
    rw [fate] at has
    cases has with
    | loaded free compiles => exact ⟨decision.entry, found, by simp [compiled?, compiles]⟩

theorem outcome_ofEntries : Outcome language entries (ofEntries language entries).1 where
  one_fate := by
    intro index inside
    have found := List.getElem?_eq_getElem inside
    rw [IsDuplicate, IsRejected, isLoaded_iff, found]
    simp only [Option.some.injEq, exists_eq_left']
    tauto
  duplicate_iff := outcome_duplicate_iff language entries
  rejected_iff := outcome_rejected_iff language entries
  length_eq := outcome_length_eq language entries
  rules_eq := outcome_rules_eq language entries
  nodup_names := by
    rw [names, ofEntries_eq]
    exact RuleBook.nodup_names language [] 0 entries (by simp)
  find?_eq := by
    intro name
    rw [find?, ofEntries_eq]
    exact find?_trace language [] 0 entries (by simp)
  mem_warnings_iff := outcome_mem_warnings_iff language entries
  issues_in_order := outcome_issues_in_order language entries

end

end RuleBook

end FileRouting
