import FileRouting.Proofs.Rules.Alike
import FileRouting.Proofs.Rules.Redefinition

/-!
# Repaired documents

A document is repaired by deleting the rules that have errors. An entry with an error leaves no rule
behind, so the fates of the entries around it stay what they are: the trace of the entries that are
left is the trace of all entries less those with errors, `trace_kept`. The main statement is
`ofStream_repaired`.
-/

namespace FileRouting

open FileRouting.Text

/-! ## Deleting -/

/-- The items of a list less those at some indices. -/
def without {α : Type} (gone : Nat → Bool) (items : List α) : List α :=
  (items.zipIdx.filter fun item => !gone item.2).map (·.1)

theorem map_without {α β : Type} (gone : Nat → Bool) (f : α → β) (items : List α) :
    (without gone items).map f = without gone (items.map f) := by
  rw [without, without, List.zipIdx_map, List.filter_map, List.map_map, List.map_map]
  rfl

theorem mem_of_mem_without {α : Type} {gone : Nat → Bool} {items : List α} {item : α}
    (h : item ∈ without gone items) : item ∈ items := by
  obtain ⟨⟨_, index⟩, kept, rfl⟩ := List.mem_map.1 h
  exact List.fst_mem_of_mem_zipIdx (List.mem_filter.1 kept).1

/-- A document without the rules at some indices. -/
def Document.deleteRules (gone : Nat → Bool) (document : Document) : Document :=
  match document.entries?, (document.field? "rules").bind Document.items? with
  | some entries, some items =>
    document.focus (.mapping (entries.map fun entry =>
      if entry.1.isText "rules" then (entry.1, .list ((without gone items).map (·.root)))
      else entry))
  | _, _ => document

theorem Value.lookup?_map_of_isText (entries : List (Value × Value)) (name : String)
    (replacement : Value) :
    lookup? (entries.map fun entry =>
      if entry.1.isText name then (entry.1, replacement) else entry) name =
      (lookup? entries name).map fun _ => replacement := by
  induction entries with
  | nil => rfl
  | cons entry entries ih =>
    obtain ⟨key, value⟩ := entry
    cases key with
    | text key =>
      by_cases same : key = name
      · simp [isText, lookup?, same]
      · simpa [isText, lookup?, same] using ih
    | _ => simpa [isText, lookup?] using ih

namespace Document

section

variable {document : Document} {items : List Document} (gone : Nat → Bool)

theorem focus_root_of_mem_items {item : Document}
    (list : (document.field? "rules").bind Document.items? = some items) (member : item ∈ items) :
    document.focus item.root = item := by
  obtain ⟨rules, found, list⟩ := Option.bind_eq_some_iff.1 list
  obtain ⟨value, _, rfl⟩ := Option.map_eq_some_iff.1 found
  unfold items? at list
  split at list
  · cases list
    obtain ⟨root, _, rfl⟩ := List.mem_map.1 member
    rfl
  · cases list

theorem entries?_of_items (list : (document.field? "rules").bind Document.items? = some items) :
    ∃ entries, document.entries? = some entries ∧ (Value.lookup? entries "rules").isSome := by
  obtain ⟨rules, found, _⟩ := Option.bind_eq_some_iff.1 list
  obtain ⟨value, found, _⟩ := Option.map_eq_some_iff.1 found
  obtain ⟨entries, mapping, found⟩ := Option.bind_eq_some_iff.1 found
  exact ⟨entries, mapping, by rw [found]; rfl⟩

theorem deleteRules_eq (list : (document.field? "rules").bind Document.items? = some items) :
    ∃ entries, document.entries? = some entries ∧ document.deleteRules gone =
      document.focus (.mapping (entries.map fun entry =>
        if entry.1.isText "rules" then (entry.1, .list ((without gone items).map (·.root)))
        else entry)) := by
  obtain ⟨entries, mapping, _⟩ := entries?_of_items list
  exact ⟨entries, mapping, by simp only [deleteRules, mapping, list]⟩

theorem rules_deleteRules (list : (document.field? "rules").bind Document.items? = some items) :
    ((document.deleteRules gone).field? "rules").bind Document.items? =
      some (without gone items) := by
  obtain ⟨entries, mapping, present⟩ := entries?_of_items list
  obtain ⟨value, found⟩ := Option.isSome_iff_exists.1 present
  obtain ⟨entries', mapping', deleted⟩ := deleteRules_eq gone list
  obtain rfl := Option.some.inj (mapping.symm.trans mapping')
  have focused : ((without gone items).map (·.root)).map document.focus = without gone items := by
    rw [List.map_map]
    conv_rhs => rw [← List.map_id (without gone items)]
    apply List.map_congr_left
    intro item member
    exact focus_root_of_mem_items list (mem_of_mem_without member)
  rw [deleted]
  simp only [field?, entries?, top, focus, Option.bind_some, Value.lookup?_map_of_isText, found,
    Option.map_some, items?]
  exact congrArg some focused

theorem keysOtherThan_deleteRules
    (list : (document.field? "rules").bind Document.items? = some items) (known : List String) :
    (document.deleteRules gone).keysOtherThan known = document.keysOtherThan known := by
  obtain ⟨entries, mapping, deleted⟩ := deleteRules_eq gone list
  have keys : ∀ replacement : Value, (entries.map fun entry =>
      if entry.1.isText "rules" then (entry.1, replacement) else entry).map (·.1) =
        entries.map (·.1) := by
    intro replacement
    rw [List.map_map]
    apply List.map_congr_left
    intro entry _
    simp only [Function.comp_apply]
    split <;> rfl
  rw [keysOtherThan, deleted, entries?, focus, top, Option.getD_some, keys, keysOtherThan, mapping,
    Option.getD_some]

theorem conforms_deleteRules (conforms : ∀ place violation, ¬Violates document place violation)
    (list : (document.field? "rules").bind Document.items? = some items) :
    ∀ place violation, ¬Violates (document.deleteRules gone) place violation := by
  have kept := rules_deleteRules gone list
  obtain ⟨rules', found', list'⟩ := Option.bind_eq_some_iff.1 kept
  obtain ⟨rules, found, listed⟩ := Option.bind_eq_some_iff.1 list
  intro place violation violates
  cases violates with
  | notMapping h =>
    rw [field?_eq_none_of_entries? h] at found'
    cases found'
  | missing mapping h =>
    rw [h] at found'
    cases found'
  | otherKeys h =>
    rw [keysOtherThan_deleteRules gone list] at h
    exact conforms _ _ (.otherKeys h)
  | notList found'' h =>
    obtain rfl := Option.some.inj (found'.symm.trans found'')
    rw [h] at list'
    cases list'
  | rule found'' list'' at_index h =>
    obtain rfl := Option.some.inj (found'.symm.trans found'')
    obtain rfl := Option.some.inj (list'.symm.trans list'')
    have member := mem_of_mem_without (List.mem_of_getElem? at_index)
    obtain ⟨index, at_index'⟩ := List.mem_iff_getElem?.1 member
    exact conforms _ _ (.rule found listed at_index' h)

end

end Document

/-! ## The trace of what is left -/

/-- An entry with what became of it, wherever it stands. -/
def Decision.verdict (decision : Decision) : RuleEntry × Fate :=
  (decision.entry, decision.fate)

theorem Decision.rule?_eq_none_iff {decision : Decision} :
    decision.rule? = none ↔ ∃ issue, decision.issue? = some issue ∧ issue.isError := by
  obtain ⟨index, entry, fate⟩ := decision
  cases fate with
  | duplicate | rejected | loaded =>
    simp [rule?, issue?, RuleEntry.rule?, RuleEntry.issue?, Issue.isError, Issue.severity,
      Finding.severity]

namespace RuleBook

/-- Some error of a book is about the rule at an index. -/
def reports (book : RuleBook) (index : Nat) : Bool :=
  book.errors.any fun issue => issue.index? = some index

/-- The decisions that made a rule. -/
def kept (decisions : List Decision) : List Decision :=
  decisions.filter fun decision => decision.rule?.isSome

section

variable (language : Language)

theorem trace_kept (rules : List Rule) (index index' : Nat) (entries : List RuleEntry) :
    (trace language rules index'
      ((kept (trace language rules index entries)).map Decision.entry)).map Decision.verdict =
      (kept (trace language rules index entries)).map Decision.verdict := by
  -- The two traces go on behind the same rules: a decision that is left out adds none.
  induction entries generalizing rules index index' with
  | nil => rfl
  | cons entry entries ih =>
    rw [trace]
    cases made : (⟨index, entry, entry.fate language rules⟩ : Decision).rule? with
    | none =>
      have behind := ih rules (index + 1) index'
      simpa [kept, made] using behind
    | some rule =>
      have behind := ih (rules ++ [rule]) (index + 1) (index' + 1)
      have made' : (⟨index', entry, entry.fate language rules⟩ : Decision).rule? = some rule := made
      simpa [kept, made, made', trace, Decision.verdict] using behind

theorem zipIdx_eq_map_trace (rules : List Rule) (index : Nat) (entries : List RuleEntry) :
    entries.zipIdx index =
      (trace language rules index entries).map fun decision =>
        (decision.entry, decision.index) := by
  induction entries generalizing rules index with
  | nil => rfl
  | cons entry entries ih => rw [trace, List.zipIdx_cons, List.map_cons, ← ih]

theorem reports_iff (entries : List RuleEntry) (index : Nat) :
    (ofEntries language entries).1.reports index ↔
      ∃ entry, entries[index]? = some entry ∧ ¬IsLoaded language entries index := by
  have asIssue : (ofEntries language entries).1.reports index ↔
      ∃ issue ∈ (trace language [] 0 entries).filterMap Decision.issue?,
        issue.isError ∧ issue.index? = some index := by
    rw [reports, errors, ofEntries_eq]
    simp only [List.any_eq_true, List.mem_filter, decide_eq_true_eq, and_assoc]
  rw [asIssue, mem_issues_trace_iff]
  constructor
  · rintro ⟨decision, ⟨found, fate⟩, issue, made, error, about⟩
    obtain rfl := Option.some.inj ((Decision.index?_of_issue? made).symm.trans about)
    have noRule := Decision.rule?_eq_none_iff.2 ⟨issue, made, error⟩
    refine ⟨decision.entry, found, fun loaded => ?_⟩
    obtain ⟨expression, loaded⟩ := (fate.isLoaded_iff found).1 loaded
    rw [rule?_eq_some_iff.2 ⟨expression, loaded, rfl⟩] at noRule
    cases noRule
  · rintro ⟨entry, found, unloaded⟩
    obtain ⟨fate, member⟩ := exists_decision language found
    obtain ⟨_, _, has⟩ := hasFate_of_trace member
    have noRule : (⟨index, entry, fate⟩ : Decision).rule? = none := by
      rw [Option.eq_none_iff_forall_ne_some]
      intro rule made
      obtain ⟨expression, loaded, _⟩ := rule?_eq_some_iff.1 made
      exact unloaded ((has.isLoaded_iff found).2 ⟨expression, loaded⟩)
    obtain ⟨issue, made, error⟩ := Decision.rule?_eq_none_iff.1 noRule
    exact ⟨_, ⟨found, has⟩, issue, made, error, Decision.index?_of_issue? made⟩

/-- Which rules have errors does not depend on the language. -/
theorem reports_ofEntries_eq (language' : Language) (entries : List RuleEntry) :
    (ofEntries language entries).1.reports = (ofEntries language' entries).1.reports := by
  funext index
  rw [Bool.eq_iff_iff, reports_iff, reports_iff]
  simp only [isLoaded_iff, isTaken_iff, compiles_iff]

theorem mem_warnings_ofEntries_iff (language' : Language) (entries : List RuleEntry)
    (issue : Issue) :
    issue ∈ (ofEntries language entries).1.warnings ↔
      issue ∈ (ofEntries language' entries).1.warnings := by
  rw [outcome_mem_warnings_iff, outcome_mem_warnings_iff]
  simp only [isLoaded_iff, isTaken_iff, compiles_iff]

theorem without_reports_eq (entries : List RuleEntry) :
    without (ofEntries language entries).1.reports entries =
      (kept (trace language [] 0 entries)).map Decision.entry := by
  rw [without, zipIdx_eq_map_trace language [] 0, List.filter_map, List.map_map, kept]
  congr 1
  apply List.filter_congr
  intro decision member
  obtain ⟨found, fate⟩ := mem_trace_iff.1 member
  have loaded := fate.isLoaded_iff found
  have reported := reports_iff language entries decision.index
  rw [Bool.eq_iff_iff, Function.comp_apply, Bool.not_eq_true', ← Bool.not_eq_true, reported,
    Option.isSome_iff_exists]
  simp only [found, Option.some.injEq, exists_eq_left', not_not, loaded, rule?_eq_some_iff]
  exact ⟨fun ⟨expression, same⟩ => ⟨_, expression, same, rfl⟩,
    fun ⟨_, expression, same, _⟩ => ⟨expression, same⟩⟩

/-- What is read off the decisions that made a rule stays the same when the entries with errors are
deleted. -/
theorem filterMap_trace_without {β : Type} (entries : List RuleEntry)
    (read : RuleEntry × Fate → Option β)
    (silent : ∀ decision : Decision, decision.rule? = none → read decision.verdict = none) :
    (trace language [] 0 (without (ofEntries language entries).1.reports entries)).filterMap
        (fun decision => read decision.verdict) =
      (trace language [] 0 entries).filterMap fun decision => read decision.verdict := by
  have verdicts := trace_kept language [] 0 0 entries
  rw [← without_reports_eq] at verdicts
  calc (trace language [] 0 (without (ofEntries language entries).1.reports entries)).filterMap
        (fun decision => read decision.verdict)
      = ((kept (trace language [] 0 entries)).map Decision.verdict).filterMap read := by
        rw [← verdicts, List.filterMap_map]
        rfl
    _ = (trace language [] 0 entries).filterMap fun decision => read decision.verdict := by
        rw [List.filterMap_map, kept, List.filterMap_filter]
        apply List.filterMap_congr
        intro decision _
        cases made : decision.rule? with
        | none => simp [silent decision made]
        | some rule => simp

/-- What a warning on an entry with a fate says, wherever the entry stands. -/
def warning? (verdict : RuleEntry × Fate) : Option Finding :=
  ((verdict.1.issue? 0 verdict.2).filter Issue.isWarning).map Issue.finding

theorem warning?_verdict (decision : Decision) :
    warning? decision.verdict =
      (decision.issue?.filter Issue.isWarning).map Issue.finding := by
  obtain ⟨index, entry, fate⟩ := decision
  cases fate with
  | duplicate => rfl
  | rejected error => rfl
  | loaded expression =>
    change ((entry.issue? 0 (.loaded expression)).filter Issue.isWarning).map Issue.finding =
      ((entry.issue? index (.loaded expression)).filter Issue.isWarning).map Issue.finding
    simp only [RuleEntry.issue?]
    split <;> rfl

theorem warning?_eq_none {decision : Decision} (noRule : decision.rule? = none) :
    warning? decision.verdict = none := by
  obtain ⟨issue, made, error⟩ := Decision.rule?_eq_none_iff.1 noRule
  have noWarning : issue.isWarning = false := by
    simp only [Issue.isError, decide_eq_true_eq] at error
    simp [Issue.isWarning, error]
  rw [warning?_verdict, made]
  simp [noWarning]

theorem findings_warnings_eq (entries : List RuleEntry) :
    (ofEntries language entries).1.warnings.map Issue.finding =
      (trace language [] 0 entries).filterMap fun decision => warning? decision.verdict := by
  simp only [warnings, ofEntries_eq, List.filter_filterMap, List.map_filterMap, warning?_verdict]

theorem rules_eq (entries : List RuleEntry) :
    (ofEntries language entries).1.rules =
      (trace language [] 0 entries).filterMap fun decision =>
        decision.verdict.1.rule? decision.verdict.2 := by
  rw [ofEntries_eq]
  rfl

theorem ofEntries_without_reports (entries : List RuleEntry) :
    let book := (ofEntries language entries).1
    let repaired := (ofEntries language (without book.reports entries)).1
    repaired.errors = [] ∧ repaired.rules = book.rules ∧
      repaired.warnings.map Issue.finding = book.warnings.map Issue.finding := by
  have rules : (ofEntries language
      (without (ofEntries language entries).1.reports entries)).1.rules =
        (ofEntries language entries).1.rules := by
    rw [rules_eq, rules_eq]
    exact filterMap_trace_without language entries (fun verdict => verdict.1.rule? verdict.2)
      fun _ noRule => noRule
  have count : (ofEntries language entries).1.rules.length =
      (without (ofEntries language entries).1.reports entries).length := by
    rw [without_reports_eq, ofEntries_eq, List.length_map, kept, ← List.countP_eq_length_filter,
      List.length_filterMap_eq_countP]
  refine ⟨?_, rules, ?_⟩
  · have total := outcome_length_eq language
      (without (ofEntries language entries).1.reports entries)
    rw [← List.length_eq_zero_iff]
    rw [rules, count] at total
    omega
  · rw [findings_warnings_eq, findings_warnings_eq]
    exact filterMap_trace_without language entries warning? fun _ => warning?_eq_none

/-! ## The book of a repaired document -/

theorem ofDocument_deleteRules {document : Document} {items : List Document} {gone : Nat → Bool}
    (list : (document.field? "rules").bind Document.items? = some items) :
    RuleEntry.ofDocument (document.deleteRules gone) =
      without gone (RuleEntry.ofDocument document) := by
  rw [RuleEntry.ofDocument, RuleEntry.ofDocument, list, Document.rules_deleteRules gone list,
    Option.getD_some, Option.getD_some, map_without]

/-- A document that conforms has the same rules and the same warnings without the rules that have
errors, and no errors. -/
theorem ofStream_repaired {document : Document}
    (conforms : ∀ place violation, ¬Violates document place violation) :
    ∃ book events repaired events',
      ofStream language document = .ok (book, events) ∧
      (∀ place violation, ¬Violates (document.deleteRules book.reports) place violation) ∧
      ofStream language (document.deleteRules book.reports) = .ok (repaired, events') ∧
      repaired.errors = [] ∧ repaired.rules = book.rules ∧
      repaired.warnings.map Issue.finding = book.warnings.map Issue.finding := by
  obtain ⟨items, list, _⟩ :=
    RuleEntry.written_ofDocument (violations_rulesSchema_eq_nil_iff.2 conforms)
  have conforms' := Document.conforms_deleteRules
    (ofEntries language (RuleEntry.ofDocument document)).1.reports conforms list
  have loaded := ofStream_of_conforms language conforms
  have loaded' := ofStream_of_conforms language conforms'
  rw [ofDocument_deleteRules list] at loaded'
  exact ⟨_, _, _, _, loaded, conforms', loaded',
    ofEntries_without_reports language (RuleEntry.ofDocument document)⟩

end

end RuleBook

end FileRouting
