import FileRouting.Proofs.Expression.Dispatch
import FileRouting.Proofs.Rules.Entries
import FileRouting.Proofs.Rules.Outcome
import FileRouting.Proofs.Rules.Violation
import FileRouting.Rules.File

/-!
# Books without errors

A book of entries has no errors exactly if the names of the entries are distinct and their patterns
compile, `errors_ofEntries_eq_nil_iff`; then every entry has become a rule. What file a book was
loaded from decides whether it is such a book, `load_cases`.
-/

namespace FileRouting

open FileRouting.Text

/-! ## Faults of patterns -/

/-- A pattern behind `date:` is not a command and a date pattern with a colon between them, and
perhaps colons at the end. -/
def IsMalformedDate (pattern : RawText) : Prop :=
  ∃ text, pattern.shown = "date:" ++ text ∧
    ¬∃ command format count, ':' ∉ command.toList ∧ format ≠ "" ∧ ':' ∉ format.toList ∧
      text = command ++ ":" ++ format ++ String.ofList (List.replicate count ':')

def IsUnknownAttribute (pattern : RawText) : Prop :=
  ∃ key, pattern.shown = "file:" ++ key ∧ ∀ read : Attribute, read.key ≠ key

namespace RuleBook

section

variable (language : Language)

theorem compiles_iff {entry : RuleEntry} :
    Compiles language entry ↔ ¬IsMalformedDate entry.pattern := by
  constructor
  · rintro ⟨expression, created⟩ ⟨text, written, malformed⟩
    rw [written] at created
    rcases (language.create_date text).1 with ⟨command, format, form, _⟩ | ⟨_, fails⟩
    · obtain ⟨apart, nonempty, apart', count, same⟩ := Form.ofDate_eq_date_iff.1 form
      exact malformed ⟨command, format, count, apart, nonempty, apart', same⟩
    · rw [fails] at created
      cases created
  · intro wellFormed
    cases created : language.create entry.pattern.shown with
    | ok expression => exact ⟨expression, created⟩
    | error error =>
      obtain ⟨text, written⟩ := language.exists_date_of_create_eq_error created
      refine absurd ⟨text, written, ?_⟩ wellFormed
      rintro ⟨command, format, count, apart, nonempty, apart', same⟩
      have form := Form.ofDate_eq_date_iff.2 ⟨apart, nonempty, apart', count, same⟩
      rw [written] at created
      rcases (language.create_date text).1 with ⟨command', format', _, passes⟩ | ⟨other, _⟩
      · rw [passes] at created
        cases created
      · exact other command format form

theorem exists_compiled?_of_compiles {entry : RuleEntry} (h : Compiles language entry) :
    ∃ rule, compiled? language entry = some rule := by
  obtain ⟨expression, created⟩ := h
  rw [compiled?, created]
  exact ⟨_, rfl⟩

/-- Entries under new and distinct names whose patterns compile are all loaded. -/
theorem filterMap_rule?_trace_of_distinct (rules : List Rule) (index : Nat)
    {entries : List RuleEntry} (distinct : (rules.map (·.name) ++ entries.map (·.name)).Nodup)
    (compiles : ∀ entry ∈ entries, Compiles language entry) :
    (trace language rules index entries).filterMap Decision.rule? =
      entries.filterMap (compiled? language) := by
  -- The names of the rules so far and of the entries to come are distinct at every step.
  induction entries generalizing rules index with
  | nil => rfl
  | cons entry entries ih =>
    obtain ⟨first, others⟩ := List.forall_mem_cons.1 compiles
    obtain ⟨rule, compiled⟩ := exists_compiled?_of_compiles language first
    have free : rules.any (·.name = entry.name) = false := by
      simp only [List.any_eq_false, decide_eq_true_eq]
      intro other member same
      have apart := (List.nodup_append.1 distinct).2.2 _ (List.mem_map_of_mem member) entry.name
        (by simp)
      exact apart same
    rw [trace, filterMap_cons_eq, filterMap_cons_eq, Decision.rule?, rule?_fate, free,
      if_neg Bool.false_ne_true, compiled]
    have behind : ((rules ++ [rule]).map (·.name) ++ entries.map (·.name)).Nodup := by
      simpa [name_of_compiled? language compiled] using distinct
    rw [← ih (rules ++ [rule]) (index + 1) behind others]
    rfl

theorem forall₂_filterMap_compiled? {entries : List RuleEntry}
    (compiles : ∀ entry ∈ entries, Compiles language entry) :
    List.Forall₂ (fun entry rule => compiled? language entry = some rule) entries
      (entries.filterMap (compiled? language)) := by
  induction entries with
  | nil => exact .nil
  | cons entry entries ih =>
    obtain ⟨first, others⟩ := List.forall_mem_cons.1 compiles
    obtain ⟨rule, compiled⟩ := exists_compiled?_of_compiles language first
    rw [List.filterMap_cons_some compiled]
    exact .cons compiled (ih others)

/-- Entries without a fault have a rule each. -/
theorem rules_ofEntries_eq {entries : List RuleEntry} (distinct : (entries.map (·.name)).Nodup)
    (compiles : ∀ entry ∈ entries, Compiles language entry) :
    (ofEntries language entries).1.rules = entries.filterMap (compiled? language) := by
  rw [ofEntries_eq]
  exact filterMap_rule?_trace_of_distinct language [] 0 distinct compiles

theorem warnings_eq_issues {book : RuleBook} (none : book.errors = []) :
    book.warnings = book.issues := by
  rw [warnings, List.filter_eq_self]
  intro issue member
  have noError := List.filter_eq_nil_iff.1 none issue member
  unfold Issue.isError at noError
  unfold Issue.isWarning
  cases severity : issue.severity with
  | error => simp [severity] at noError
  | warning => rfl

theorem isLoaded_of_errors_eq_nil {entries : List RuleEntry}
    (none : (ofEntries language entries).1.errors = []) {index : Nat}
    (inside : index < entries.length) : IsLoaded language entries index := by
  have outcome := outcome_ofEntries language entries
  have noDuplicate : ¬IsDuplicate language entries index := by
    rw [outcome.duplicate_iff, none]
    simp
  have noRejected : ¬IsRejected language entries index := by
    rw [outcome.rejected_iff, none]
    simp
  rcases outcome.one_fate index inside with ⟨duplicate, _⟩ | ⟨_, rejected, _⟩ | ⟨_, _, loaded⟩
  · exact absurd duplicate noDuplicate
  · exact absurd rejected noRejected
  · exact loaded

theorem errors_ofEntries_eq_nil_iff (entries : List RuleEntry) :
    (ofEntries language entries).1.errors = [] ↔
      (entries.map (·.name)).Nodup ∧ ∀ entry ∈ entries, Compiles language entry := by
  constructor
  · intro none
    constructor
    · rw [List.Nodup, List.pairwise_map, List.pairwise_iff_getElem]
      intro earlier index _ inside before same
      have loaded := isLoaded_of_errors_eq_nil language none (Nat.lt_trans before inside)
      have duplicate : IsDuplicate language entries index :=
        ⟨_, List.getElem?_eq_getElem inside, earlier, before, _, List.getElem?_eq_getElem _, same,
          loaded⟩
      rw [(outcome_ofEntries language entries).duplicate_iff, none] at duplicate
      simp at duplicate
    · intro entry member
      obtain ⟨index, found⟩ := List.mem_iff_getElem?.1 member
      obtain ⟨inside, _⟩ := List.getElem?_eq_some_iff.1 found
      obtain ⟨entry', found', _, compiles⟩ :=
        (isLoaded_iff language entries index).1 (isLoaded_of_errors_eq_nil language none inside)
      obtain rfl := Option.some.inj (found.symm.trans found')
      exact compiles
  · rintro ⟨distinct, compiles⟩
    have rules := (forall₂_filterMap_compiled? language compiles).length_eq
    rw [← rules_ofEntries_eq language distinct compiles] at rules
    have length := outcome_length_eq language entries
    rw [← List.length_eq_zero_iff]
    omega

theorem mem_warnings_of_errors_eq_nil {entries : List RuleEntry}
    (none : (ofEntries language entries).1.errors = []) {issue : Issue} :
    issue ∈ (ofEntries language entries).1.warnings ↔
      ∃ index entry, entries[index]? = some entry ∧ IsUnknownAttribute entry.pattern ∧
        issue = ⟨Place.field index .pattern, .unknownAttribute entry.pattern⟩ := by
  rw [(outcome_ofEntries language entries).mem_warnings_iff]
  constructor
  · rintro ⟨index, entry, key, found, _, written, unknown, rfl⟩
    exact ⟨index, entry, found, ⟨key, written, unknown⟩, rfl⟩
  · rintro ⟨index, entry, found, ⟨key, written, unknown⟩, rfl⟩
    obtain ⟨inside, _⟩ := List.getElem?_eq_some_iff.1 found
    exact ⟨index, entry, key, found, isLoaded_of_errors_eq_nil language none inside, written,
      unknown, rfl⟩

end

/-! ## Books of documents -/

section

variable {language : Language} {document : Document} {book : RuleBook} {events : List LoadEvent}

theorem ofDocument_cases (h : ofDocument language document = .ok (book, events)) :
    (book.errors ≠ [] ∧ ∃ place violation, Violates document place violation) ∨
      ((∀ place violation, ¬Violates document place violation) ∧
        book = (ofEntries language (RuleEntry.ofDocument document)).1) := by
  rw [ofDocument, Issue.ofDocument] at h
  cases refused : rulesSchema.unprintable? document with
  | some reason =>
    rw [refused] at h
    cases h
  | none =>
    rw [refused] at h
    cases found : rulesSchema.sortedViolations document with
    | nil =>
      rw [found] at h
      cases h
      exact .inr ⟨violations_rulesSchema_eq_nil_iff.1 (Schema.sortedViolations_eq_nil_iff.1 found),
        rfl⟩
    | cons first others =>
      rw [found] at h
      cases h
      have member : first ∈ rulesSchema.sortedViolations document := by
        rw [found]
        exact List.mem_cons_self
      refine .inl ⟨?_, first.1, first.2, ?_⟩
      · exact List.ne_nil_of_mem (List.mem_filter.2 ⟨List.mem_cons_self, rfl⟩)
      · exact mem_violations_rulesSchema_iff.1 (List.mem_mergeSort.1 member)

theorem ofStream_cases (h : ofStream language document = .ok (book, events)) :
    (book.errors ≠ [] ∧ ∃ place violation, Violates document place violation) ∨
      ((∀ place violation, ¬Violates document place violation) ∧
        book = (ofEntries language (RuleEntry.ofDocument document)).1) := by
  rw [ofStream] at h
  split at h
  · next empty =>
    cases h
    exact .inl ⟨List.cons_ne_nil _ _, _, _, .notMapping (by rw [Document.entries?, empty])⟩
  · cases made : ofDocument language document with
    | error reason =>
      rw [made] at h
      cases h
    | ok result =>
      rw [made] at h
      cases h
      exact ofDocument_cases made

theorem ofStream_of_conforms (language : Language) {document : Document}
    (conforms : ∀ place violation, ¬Violates document place violation) :
    ofStream language document =
      .ok (ofEntries language (RuleEntry.ofDocument document)) := by
  have none := violations_rulesSchema_eq_nil_iff.2 conforms
  have printable : rulesSchema.unprintable? document = .none := by simp [Schema.unprintable?, none]
  have issues : Issue.ofDocument document = .ok [] := by
    rw [Issue.ofDocument, printable, Schema.sortedViolations_eq_nil_iff.2 none]
    rfl
  rw [ofStream]
  split
  · next empty => exact absurd (.notMapping (by rw [Document.entries?, empty])) (conforms _ _)
  · rw [ofDocument, issues]
    rfl

theorem issues_ofDocument_ne_nil (violates : ∃ place violation, Violates document place violation) :
    Issue.ofDocument document ≠ .ok [] := by
  rw [Issue.ofDocument]
  split
  · simp
  · intro none
    have valid := Schema.sortedViolations_eq_nil_iff.1 (List.map_eq_nil_iff.1 (Except.ok.inj none))
    obtain ⟨place, violation, here⟩ := violates
    exact violations_rulesSchema_eq_nil_iff.1 valid place violation here

/-- One violation anywhere in a document keeps all of its rules from being loaded. -/
theorem ofStream_of_violates (violates : ∃ place violation, Violates document place violation)
    (h : ofStream language document = .ok (book, events)) :
    book.rules = [] ∧ (events = [] ∨ events = [.violations]) := by
  have some := issues_ofDocument_ne_nil violates
  rw [ofStream] at h
  split at h
  · cases h
    exact ⟨rfl, .inl rfl⟩
  · rw [ofDocument] at h
    cases found : Issue.ofDocument document with
    | error reason =>
      rw [found] at h
      cases h
    | ok issues =>
      rw [found] at h
      cases issues with
      | nil => exact absurd found some
      | cons issue issues =>
        cases h
        exact ⟨rfl, .inr rfl⟩

/-- A file whose book was loaded has a document that violates nothing, or its book has errors. -/
theorem load_cases {files : FileSystem} {path : Path}
    (h : load language files path = .ok (book, events)) :
    ∃ bytes, files.read path = .ok bytes ∧
      ((book.errors ≠ [] ∧ ∀ document, Yaml.read (.ofBytes bytes) = .ok document →
          ∃ place violation, Violates document place violation) ∨
        ∃ document, Yaml.read (.ofBytes bytes) = .ok document ∧
          (∀ place violation, ¬Violates document place violation) ∧
          book = (ofEntries language (RuleEntry.ofDocument document)).1) := by
  rw [load] at h
  split at h
  · next bytes read =>
    refine ⟨bytes, read, ?_⟩
    unfold ofBytes at h
    split at h
    · next document parsed =>
      rcases ofStream_cases h with ⟨errors, violates⟩ | ⟨conforms, made⟩
      · refine .inl ⟨errors, ?_⟩
        intro document' same
        obtain rfl := Except.ok.inj (parsed.symm.trans same)
        exact violates
      · exact .inr ⟨document, parsed, conforms, made⟩
    · next malformed =>
      cases h
      refine .inl ⟨List.cons_ne_nil _ _, ?_⟩
      intro document parsed
      rw [malformed] at parsed
      cases parsed
    · cases h
  · cases h

end

end RuleBook

end FileRouting
