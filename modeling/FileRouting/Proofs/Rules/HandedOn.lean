import FileRouting.Proofs.Expression.Dispatch
import FileRouting.Proofs.Rules.Faultless
import FileRouting.Proofs.Rules.Loading

/-!
# Texts handed on while loading

The languages see of a rules file what compiling its patterns hands on, and nothing else. A pattern
is compiled, once and in the order of the file, unless its name already belongs to a rule; so the
pattern of a duplicate is never handed on, while that of an entry behind rejected ones of its name
is. A file that does not conform hands on nothing. The main statement is `handedOn_load`.
-/

namespace FileRouting

open FileRouting.Text

/-- The text that a language is handed in an event. -/
def LoadEvent.delegation? : LoadEvent → Option Delegation
  | compiling _ event => event.delegation?
  | _ => none

namespace RuleBook

/-- The texts handed on on the way to a book; where none is reached, no pattern was compiled. -/
def delegations (result : Except LoadError (RuleBook × List LoadEvent)) : List Delegation :=
  match result with
  | .ok (_, events) => events.filterMap LoadEvent.delegation?
  | .error _ => []

section

variable (language : Language)

/-- The names of the rules that the entries before an index have become. -/
def namesBefore (entries : List RuleEntry) (index : Nat) : List String :=
  (ofEntries language (entries.take index)).1.names

/-- The entries, each with its index, whose name is not yet among those of the rules. -/
def newEntries (entries : List RuleEntry) : List (RuleEntry × Nat) :=
  entries.zipIdx.filter fun entry => entry.1.name ∉ namesBefore language entries entry.2

theorem mem_newEntries_iff (entries : List RuleEntry) (entry : RuleEntry) (index : Nat) :
    (entry, index) ∈ newEntries language entries ↔ entries[index]? = some entry ∧
      ∀ earlier < index, ∀ other, entries[earlier]? = some other → other.name = entry.name →
        ¬Compiles language other := by
  rw [newEntries, List.mem_filter, List.mk_mem_zipIdx_iff_getElem?, decide_eq_true_eq,
    namesBefore, mem_names_ofEntries_iff]
  refine and_congr_right fun _ => ?_
  simp only [mem_take_iff]
  constructor
  · intro new earlier before other found same compiles
    exact new ⟨other, ⟨earlier, before, found⟩, same, compiles⟩
  · rintro first ⟨other, ⟨earlier, before, found⟩, same, compiles⟩
    exact first earlier before other found same compiles

/-! ## Events -/

/-- Every decision is made on the rules that the entries before have become. -/
theorem trace_eq_map (entries : List RuleEntry) :
    trace language [] 0 entries = entries.zipIdx.map fun entry =>
      ⟨entry.2, entry.1,
        entry.1.fate language (ofEntries language (entries.take entry.2)).1.rules⟩ := by
  apply List.ext_getElem?
  intro k
  rw [trace_getElem?, List.getElem?_map, List.getElem?_zipIdx, Option.map_map]
  simp only [Function.comp_def, ofEntries_eq, trace_take, List.nil_append, Nat.zero_add]

theorem events_addAll (book : RuleBook) (index : Nat) (entries : List RuleEntry) :
    (book.addAll language index entries).2 =
      (trace language book.rules index entries).flatMap fun decision =>
        decision.entry.events language decision.fate := by
  induction entries generalizing book index with
  | nil => rfl
  | cons entry entries ih =>
    have behind := ih (book.add language index entry).1 (index + 1)
    rw [trace, List.flatMap_cons]
    exact congrArg (entry.events language (entry.fate language book.rules) ++ ·) behind

theorem delegations_events (rules : List Rule) (entry : RuleEntry) :
    (entry.events language (entry.fate language rules)).filterMap LoadEvent.delegation? =
      if entry.name ∉ rules.map (·.name) then language.delegations entry.pattern.shown
      else [] := by
  have compiling : ((language.events entry.pattern.shown).map
      (LoadEvent.compiling entry.pattern)).filterMap LoadEvent.delegation? =
        language.delegations entry.pattern.shown := by
    rw [List.filterMap_map]
    rfl
  rw [RuleEntry.fate]
  by_cases duplicate : entry.name ∈ rules.map (·.name)
  · have any : rules.any (·.name = entry.name) := by simpa using duplicate
    rw [if_neg (not_not.2 duplicate), if_pos any]
    rfl
  · have none : ¬rules.any (·.name = entry.name) := by simpa using duplicate
    rw [if_pos duplicate, if_neg none]
    cases language.create entry.pattern.shown <;> exact compiling

theorem flatMap_filter {α β : Type} (p : α → Prop) [DecidablePred p] (f : α → List β)
    (l : List α) : (l.filter p).flatMap f = l.flatMap fun a => if p a then f a else [] := by
  induction l with
  | nil => rfl
  | cons a l ih => by_cases h : p a <;> simp [h, ih]

theorem delegations_ofEntries (entries : List RuleEntry) :
    (ofEntries language entries).2.filterMap LoadEvent.delegation? =
      (newEntries language entries).flatMap fun new =>
        language.delegations new.1.pattern.shown := by
  have summary : (if (empty.addAll language 0 entries).1.issues.isEmpty then []
      else [LoadEvent.issues (empty.addAll language 0 entries).1.issues.length]).filterMap
        LoadEvent.delegation? = [] := by
    split <;> rfl
  rw [ofEntries, List.filterMap_append, summary, List.append_nil, events_addAll, empty,
    trace_eq_map, List.flatMap_map, List.filterMap_flatMap, newEntries, flatMap_filter]
  simp only [delegations_events]
  rfl

end

/-! ## Files -/

/-- One violation anywhere in a document keeps all of its patterns from being compiled. -/
theorem delegations_ofStream_of_violates (language : Language) {document : Document}
    (violates : ∃ place violation, Violates document place violation) :
    delegations (ofStream language document) = [] := by
  cases made : ofStream language document with
  | error error => rfl
  | ok result =>
    obtain ⟨book, events⟩ := result
    obtain ⟨_, rfl | rfl⟩ := ofStream_of_violates violates made
    · rfl
    · rfl

theorem handedOn_load (session : Session) (files : FileSystem) (path : Path) :
    (∀ bytes document, files.read path = .ok bytes → Yaml.read (.ofBytes bytes) = .ok document →
      (∀ place violation, ¬Violates document place violation) →
      ∃ items entries, (document.field? "rules").bind Document.items? = some items ∧
        List.Forall₂ RuleEntry.Written items entries ∧
        session.handedOn ++ delegations (load session.language files path) =
          (session.run ((newEntries session.language entries).map fun new =>
            .compile new.1.pattern.shown "")).2.handedOn ∧
        ∀ index entry, entries[index]? = some entry →
          ((entry, index) ∈ newEntries session.language entries ↔
            ∀ earlier < index, ∀ other, entries[earlier]? = some other →
              other.name = entry.name → ¬Compiles session.language other)) ∧
    ((∀ bytes document, files.read path = .ok bytes → Yaml.read (.ofBytes bytes) = .ok document →
      document.top = .null ∨ ∃ place violation, Violates document place violation) →
      delegations (load session.language files path) = []) := by
  constructor
  · intro bytes document file parsed conforms
    obtain ⟨items, list, written⟩ :=
      RuleEntry.written_ofDocument (violations_rulesSchema_eq_nil_iff.2 conforms)
    refine ⟨items, RuleEntry.ofDocument document, list, written, ?_, ?_⟩
    · have compiled := session.handedOn_run_compile
        ((newEntries session.language (RuleEntry.ofDocument document)).map fun new =>
          (new.1.pattern.shown, ""))
      rw [List.map_map, List.flatMap_map] at compiled
      rw [load_of_document file parsed, ofStream_of_conforms session.language conforms,
        delegations, delegations_ofEntries]
      exact compiled.symm
    · intro index entry found
      rw [mem_newEntries_iff, and_iff_right found]
  · intro unfit
    cases file : files.read path with
    | error error =>
      rw [load, file]
      rfl
    | ok bytes =>
      rw [load_eq_ofBytes file]
      unfold ofBytes
      split
      · next document parsed =>
        rcases unfit bytes document file parsed with empty | violates
        · rw [ofStream, empty]
          rfl
        · exact delegations_ofStream_of_violates _ violates
      · rfl
      · rfl

/-- A document whose second rule takes the name that the first one left free, and keeps it from the
third. -/
def contestedName : Document :=
  let rule := fun (name pattern : String) =>
    Value.mapping [(.text "name", .text name), (.text "pattern", .text pattern)]
  .ofValue (.mapping [(.text "rules", .list [rule "a" "date:now", rule "a" "bean:x.y",
    rule "a" "simple:z", rule "b" "file:name", rule "c" "file:size"])])

example : delegations (ofStream (.standard none) contestedName) =
    [.bean "x.y", .simple "file:size"] := by
  decide +kernel

end RuleBook

end FileRouting
