import FileRouting.Rules.RuleBook

/-!
# The trace of loading

Loading decides on one entry after another, and every decision depends on the rules that the
entries before have become. The trace keeps the decisions. The rules and the issues of the book are
read off it, `ofEntries_eq`, and every decision in it is that of the code on the rules of the trace
before it, `trace_getElem?`.

An entry is loaded if its pattern compiles and no earlier entry of its name was loaded. That is the
first entry of its name whose pattern compiles, `find?_trace`: an entry that was not loaded
leaves its name free.
-/

namespace FileRouting

open FileRouting.Text

/-- An entry at its index, with what became of it. -/
structure Decision where
  index : Nat
  entry : RuleEntry
  fate : Fate

namespace Decision

def rule? (decision : Decision) : Option Rule :=
  decision.entry.rule? decision.fate

def issue? (decision : Decision) : Option Issue :=
  decision.entry.issue? decision.index decision.fate

end Decision

namespace RuleBook

/-- What becomes of entries behind some rules, of which the first has an index. -/
def trace (language : Language) (rules : List Rule) (index : Nat) :
    List RuleEntry → List Decision
  | [] => []
  | entry :: entries =>
    let decision : Decision := ⟨index, entry, entry.fate language rules⟩
    decision :: trace language (rules ++ decision.rule?.toList) (index + 1) entries

section

variable (language : Language)

theorem filterMap_cons_eq {α β : Type} (f : α → Option β) (a : α) (l : List α) :
    (a :: l).filterMap f = (f a).toList ++ l.filterMap f := by
  cases h : f a <;> simp [h]

theorem addAll_eq (book : RuleBook) (index : Nat) (entries : List RuleEntry) :
    (book.addAll language index entries).1 =
      ⟨book.rules ++ (trace language book.rules index entries).filterMap Decision.rule?,
        book.issues ++ (trace language book.rules index entries).filterMap Decision.issue?⟩ := by
  induction entries generalizing book index with
  | nil => simp [addAll, trace]
  | cons entry entries ih =>
    rw [addAll, trace, filterMap_cons_eq, filterMap_cons_eq, ih]
    simp [add, Decision.rule?, Decision.issue?]

theorem ofEntries_eq (entries : List RuleEntry) :
    (ofEntries language entries).1 =
      ⟨(trace language [] 0 entries).filterMap Decision.rule?,
        (trace language [] 0 entries).filterMap Decision.issue?⟩ := by
  have added := addAll_eq language empty 0 entries
  simpa [ofEntries, empty] using added

theorem trace_getElem? (rules : List Rule) (index : Nat) (entries : List RuleEntry) (k : Nat) :
    (trace language rules index entries)[k]? =
      entries[k]?.map fun entry =>
        ⟨index + k, entry, entry.fate language
          (rules ++ ((trace language rules index entries).take k).filterMap Decision.rule?)⟩ := by
  induction entries generalizing rules index k with
  | nil => simp [trace]
  | cons entry entries ih =>
    cases k with
    | zero => simp [trace]
    | succ k =>
      rw [trace, List.getElem?_cons_succ, List.getElem?_cons_succ, ih, List.take_succ_cons,
        filterMap_cons_eq, List.append_assoc, Nat.add_right_comm, Nat.add_assoc]

theorem trace_take (rules : List Rule) (index : Nat) (entries : List RuleEntry) (k : Nat) :
    trace language rules index (entries.take k) = (trace language rules index entries).take k := by
  induction entries generalizing rules index k with
  | nil => simp [trace]
  | cons entry entries ih =>
    cases k with
    | zero => simp [trace]
    | succ k => rw [List.take_succ_cons, trace, trace, List.take_succ_cons, ih]

theorem map_index_trace (rules : List Rule) (index : Nat) (entries : List RuleEntry) :
    (trace language rules index entries).map Decision.index =
      List.range' index entries.length := by
  induction entries generalizing rules index with
  | nil => rfl
  | cons entry entries ih => simp [trace, ih, List.range'_succ]

theorem length_trace (rules : List Rule) (index : Nat) (entries : List RuleEntry) :
    (trace language rules index entries).length = entries.length := by
  simpa using congrArg List.length (map_index_trace language rules index entries)

/-! ## The fates of entries -/

/-- The pattern of an entry compiles. -/
def Compiles (entry : RuleEntry) : Prop :=
  ∃ expression, language.create entry.pattern.shown = .ok expression

/-- The entry at an index is loaded: its pattern compiles, and no earlier entry of its name is
loaded. -/
def IsLoaded (entries : List RuleEntry) (index : Nat) : Prop :=
  ∃ entry, entries[index]? = some entry ∧ Compiles language entry ∧
    ∀ earlier, earlier < index → ∀ other, entries[earlier]? = some other →
      other.name = entry.name → ¬IsLoaded entries earlier
termination_by index

/-- The name is that of an entry before an index that is loaded. -/
def IsTaken (entries : List RuleEntry) (index : Nat) (name : String) : Prop :=
  ∃ earlier < index, ∃ other, entries[earlier]? = some other ∧ other.name = name ∧
    IsLoaded language entries earlier

/-- Some earlier entry of the same name is loaded. -/
def IsDuplicate (entries : List RuleEntry) (index : Nat) : Prop :=
  ∃ entry, entries[index]? = some entry ∧ IsTaken language entries index entry.name

/-- No earlier entry of the same name is loaded, and the pattern does not compile. -/
def IsRejected (entries : List RuleEntry) (index : Nat) : Prop :=
  ∃ entry, entries[index]? = some entry ∧ ¬IsTaken language entries index entry.name ∧
    ¬Compiles language entry

theorem isLoaded_iff (entries : List RuleEntry) (index : Nat) :
    IsLoaded language entries index ↔
      ∃ entry, entries[index]? = some entry ∧ ¬IsTaken language entries index entry.name ∧
        Compiles language entry := by
  rw [IsLoaded]
  constructor
  · rintro ⟨entry, found, compiles, first⟩
    refine ⟨entry, found, ?_, compiles⟩
    rintro ⟨earlier, before, other, found', same, loaded⟩
    exact first earlier before other found' same loaded
  · rintro ⟨entry, found, free, compiles⟩
    refine ⟨entry, found, compiles, ?_⟩
    intro earlier before other found' same loaded
    exact free ⟨earlier, before, other, found', same, loaded⟩

/-- An entry that was not loaded leaves its name free, so the first one that compiles takes it. -/
theorem isTaken_iff (entries : List RuleEntry) (index : Nat) (name : String) :
    IsTaken language entries index name ↔ ∃ earlier < index, ∃ other,
      entries[earlier]? = some other ∧ other.name = name ∧ Compiles language other := by
  constructor
  · rintro ⟨earlier, before, other, found, same, loaded⟩
    obtain ⟨other', found', _, compiles⟩ := (isLoaded_iff language entries earlier).1 loaded
    obtain rfl := Option.some.inj (found.symm.trans found')
    exact ⟨earlier, before, other, found, same, compiles⟩
  · rintro ⟨earlier, before, other, found, rfl, compiles⟩
    by_cases taken : IsTaken language entries earlier other.name
    · obtain ⟨first, before', others⟩ := taken
      exact ⟨first, Nat.lt_trans before' before, others⟩
    · have loaded := (isLoaded_iff language entries earlier).2 ⟨other, found, taken, compiles⟩
      exact ⟨earlier, before, other, found, rfl, loaded⟩

/-- What becomes of an entry at an index. -/
inductive HasFate (entries : List RuleEntry) (index : Nat) (entry : RuleEntry) : Fate → Prop
  | duplicate (taken : IsTaken language entries index entry.name) :
      HasFate entries index entry .duplicate
  | rejected {error : SyntaxError} (free : ¬IsTaken language entries index entry.name)
      (fails : language.create entry.pattern.shown = .error error) :
      HasFate entries index entry (.rejected error)
  | loaded {expression : Expression} (free : ¬IsTaken language entries index entry.name)
      (compiles : language.create entry.pattern.shown = .ok expression) :
      HasFate entries index entry (.loaded expression)

variable {language}

theorem HasFate.unique {entries : List RuleEntry} {index : Nat} {entry : RuleEntry}
    {fate fate' : Fate} (h : HasFate language entries index entry fate)
    (h' : HasFate language entries index entry fate') : fate = fate' := by
  cases h <;> cases h' <;> simp_all

theorem HasFate.isLoaded_iff {entries : List RuleEntry} {index : Nat} {entry : RuleEntry}
    {fate : Fate} (h : HasFate language entries index entry fate)
    (found : entries[index]? = some entry) :
    IsLoaded language entries index ↔ ∃ expression, fate = .loaded expression := by
  rw [RuleBook.isLoaded_iff, found]
  cases h with
  | duplicate taken => simp [taken]
  | rejected free fails => simp [free, Compiles, fails]
  | loaded free compiles => simp [free, Compiles, compiles]

theorem mem_take_iff {α : Type} {l : List α} {k : Nat} {a : α} :
    a ∈ l.take k ↔ ∃ index < k, l[index]? = some a := by
  rw [List.mem_iff_getElem?]
  constructor
  · rintro ⟨index, found⟩
    rw [List.getElem?_take] at found
    split at found
    · next before => exact ⟨index, before, found⟩
    · cases found
  · rintro ⟨index, before, found⟩
    exact ⟨index, by rw [List.getElem?_take_of_lt before, found]⟩

theorem rule?_eq_some_iff {decision : Decision} {rule : Rule} :
    decision.rule? = some rule ↔ ∃ expression, decision.fate = .loaded expression ∧
      rule = ⟨decision.entry.name, decision.entry.pattern, expression,
        decision.entry.description⟩ := by
  rw [Decision.rule?, RuleEntry.rule?.eq_def]
  cases decision.fate <;> simp [eq_comm]

theorem hasFate_of_rules {entries : List RuleEntry} {index : Nat} {entry : RuleEntry}
    {rules : List Rule}
    (taken : (∃ rule ∈ rules, rule.name = entry.name) ↔ IsTaken language entries index entry.name) :
    HasFate language entries index entry (entry.fate language rules) := by
  unfold RuleEntry.fate
  split
  · next named => exact .duplicate (taken.1 (by simpa using named))
  · next unnamed =>
    have free : ¬IsTaken language entries index entry.name :=
      fun h => unnamed (by simpa using taken.2 h)
    split
    · next compiles => exact .loaded free compiles
    · next fails => exact .rejected free fails

theorem exists_decision (language : Language) {entries : List RuleEntry} {index : Nat}
    {entry : RuleEntry} (found : entries[index]? = some entry) :
    ∃ fate, (trace language [] 0 entries)[index]? = some ⟨index, entry, fate⟩ := by
  rw [trace_getElem?, found, Nat.zero_add]
  exact ⟨_, rfl⟩

/-- Every decision of the trace is on the entry at its index and gives it its fate. -/
theorem hasFate_of_trace {entries : List RuleEntry} {index : Nat} {decision : Decision}
    (h : (trace language [] 0 entries)[index]? = some decision) :
    decision.index = index ∧ entries[index]? = some decision.entry ∧
      HasFate language entries index decision.entry decision.fate := by
  induction index using Nat.strongRecOn generalizing decision with
  | ind index ih =>
    have whole := h
    rw [trace_getElem?] at h
    obtain ⟨entry, found, rfl⟩ := Option.map_eq_some_iff.1 h
    refine ⟨Nat.zero_add index, found, hasFate_of_rules ?_⟩
    rw [List.nil_append]
    constructor
    · rintro ⟨rule, member, same⟩
      obtain ⟨earlier, behind, made⟩ := List.mem_filterMap.1 member
      obtain ⟨expression, loaded, rfl⟩ := rule?_eq_some_iff.1 made
      obtain ⟨before, before_lt, decided⟩ := mem_take_iff.1 behind
      obtain ⟨_, found', fate⟩ := ih before before_lt decided
      exact ⟨before, before_lt, earlier.entry, found', same,
        (fate.isLoaded_iff found').2 ⟨expression, loaded⟩⟩
    · rintro ⟨before, before_lt, other, found', same, loaded⟩
      obtain ⟨fate, decided⟩ := exists_decision language found'
      obtain ⟨_, _, has⟩ := ih before before_lt decided
      obtain ⟨expression, rfl⟩ := (has.isLoaded_iff found').1 loaded
      exact ⟨_, List.mem_filterMap.2 ⟨_, mem_take_iff.2 ⟨before, before_lt, decided⟩,
        rule?_eq_some_iff.2 ⟨expression, rfl, rfl⟩⟩, same⟩

theorem mem_trace_iff {entries : List RuleEntry} {decision : Decision} :
    decision ∈ trace language [] 0 entries ↔
      entries[decision.index]? = some decision.entry ∧
        HasFate language entries decision.index decision.entry decision.fate := by
  constructor
  · intro member
    obtain ⟨index, found⟩ := List.mem_iff_getElem?.1 member
    obtain ⟨rfl, found', has⟩ := hasFate_of_trace found
    exact ⟨found', has⟩
  · rintro ⟨found, has⟩
    obtain ⟨fate, decided⟩ := exists_decision language found
    obtain ⟨_, _, has'⟩ := hasFate_of_trace decided
    obtain rfl := has.unique has'
    exact List.mem_of_getElem? decided

/-! ## The rules of a trace -/

section

variable (language)

/-- The rule that an entry becomes if its pattern compiles. -/
def compiled? (entry : RuleEntry) : Option Rule :=
  match language.create entry.pattern.shown with
  | .ok expression => some ⟨entry.name, entry.pattern, expression, entry.description⟩
  | .error _ => none

theorem name_of_compiled? {entry : RuleEntry} {rule : Rule}
    (h : compiled? language entry = some rule) : rule.name = entry.name := by
  unfold compiled? at h
  split at h <;> cases h
  rfl

theorem rule?_fate (rules : List Rule) (entry : RuleEntry) :
    entry.rule? (entry.fate language rules) =
      if rules.any (·.name = entry.name) then none else compiled? language entry := by
  rw [RuleEntry.fate, compiled?]
  split
  · rfl
  · cases language.create entry.pattern.shown <;> rfl

theorem nodup_names (rules : List Rule) (index : Nat) (entries : List RuleEntry)
    (nodup : (rules.map (·.name)).Nodup) :
    ((rules ++ (trace language rules index entries).filterMap Decision.rule?).map
      (·.name)).Nodup := by
  induction entries generalizing rules index with
  | nil => simpa [trace] using nodup
  | cons entry entries ih =>
    rw [trace, filterMap_cons_eq, ← List.append_assoc]
    apply ih
    rw [Decision.rule?, rule?_fate]
    split
    · simpa using nodup
    · next free =>
      cases compiled : compiled? language entry with
      | none => simpa using nodup
      | some rule =>
        have same := name_of_compiled? language compiled
        simp only [Bool.not_eq_true, List.any_eq_false, decide_eq_true_eq] at free
        rw [Option.toList_some, List.map_append, List.nodup_append]
        refine ⟨nodup, by simp, ?_⟩
        intro name earlier other last equal
        obtain ⟨rule', member, rfl⟩ := List.mem_map.1 earlier
        simp only [List.map_cons, List.map_nil, List.mem_singleton] at last
        exact free rule' member (by rw [equal, last, same])

theorem find?_trace (rules : List Rule) (index : Nat) (entries : List RuleEntry) {name : String}
    (free : ∀ rule ∈ rules, rule.name ≠ name) :
    ((trace language rules index entries).filterMap Decision.rule?).find? (·.name = name) =
      (entries.filter (·.name = name)).findSome? (compiled? language) := by
  induction entries generalizing rules index with
  | nil => simp [trace]
  | cons entry entries ih =>
    rw [trace, filterMap_cons_eq, Decision.rule?, rule?_fate, List.find?_append]
    by_cases same : entry.name = name
    · have unnamed : rules.any (·.name = entry.name) = false := by simpa [same] using free
      rw [unnamed, if_neg (by simp), List.filter_cons_of_pos (by simpa using same),
        List.findSome?_cons]
      cases compiled : compiled? language entry with
      | none => simpa using ih rules (index + 1) free
      | some rule => simp [name_of_compiled? language compiled, same]
    · rw [List.filter_cons_of_neg (by simpa using same)]
      cases made : if rules.any (·.name = entry.name) then none else compiled? language entry with
      | none => simpa using ih rules (index + 1) free
      | some rule =>
        have compiled : compiled? language entry = some rule := by
          split at made
          · cases made
          · exact made
        have other : rule.name ≠ name := by rwa [name_of_compiled? language compiled]
        have behind := ih (rules ++ [rule]) (index + 1) (by
          intro rule' member
          rcases List.mem_append.1 member with member | member
          · exact free rule' member
          · rwa [List.mem_singleton.1 member])
        simpa [other] using behind

theorem isSome_compiled?_iff (entry : RuleEntry) :
    (compiled? language entry).isSome ↔ Compiles language entry := by
  unfold compiled? Compiles
  cases language.create entry.pattern.shown <;> simp

theorem mem_names_ofEntries_iff (entries : List RuleEntry) (name : String) :
    name ∈ (ofEntries language entries).1.names ↔
      ∃ entry ∈ entries, entry.name = name ∧ Compiles language entry := by
  have free : ∀ rule ∈ ([] : List Rule), rule.name ≠ name := by simp
  have found := find?_trace language [] 0 entries free
  have named : name ∈ (ofEntries language entries).1.names ↔
      (((trace language [] 0 entries).filterMap Decision.rule?).find? (·.name = name)).isSome := by
    rw [ofEntries_eq, names, List.mem_map, List.find?_isSome]
    simp
  rw [named, found, List.isSome_findSome?]
  simp [isSome_compiled?_iff]

end

end

end RuleBook

end FileRouting
