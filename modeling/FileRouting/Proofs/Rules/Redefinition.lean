import FileRouting.Proofs.Rules.Faultless

/-!
# Names that are defined again

A rule that defines a name again has an error of its own if some earlier definition of the name was
loaded, or if its own pattern does not compile. If all earlier definitions of the name were rejected
for their patterns, the name is free again and the rule is loaded without an error. The main
statement is `ofStream_redefined`.
-/

namespace FileRouting

open FileRouting.Text

/-- A rule of a document gives a pattern to a name. -/
structure Defines (item : Document) (name pattern : RawText) : Prop where
  name : (item.field? "name").bind Document.text? = some name
  pattern : (item.field? "pattern").bind Document.text? = some pattern

/-- No rule before an index gives the name a pattern that compiles. -/
def IsFreeName (items : List Document) (index : Nat) (name : RawText) : Prop :=
  ∀ earlier < index, ∀ item pattern, items[earlier]? = some item → Defines item name pattern →
    IsMalformedDate pattern

namespace RuleBook

section

variable {document : Document} {items : List Document}

theorem written_of_conforms (conforms : ∀ place violation, ¬Violates document place violation)
    (list : (document.field? "rules").bind Document.items? = some items) :
    RuleEntry.ofDocument document = items.map RuleEntry.ofMapping ∧
      ∀ item ∈ items, RuleEntry.Written item (RuleEntry.ofMapping item) := by
  have entries : RuleEntry.ofDocument document = items.map RuleEntry.ofMapping := by
    rw [RuleEntry.ofDocument, list, Option.getD_some]
  obtain ⟨items', list', written⟩ :=
    RuleEntry.written_ofDocument (violations_rulesSchema_eq_nil_iff.2 conforms)
  obtain rfl := Option.some.inj (list.symm.trans list')
  rw [entries, List.forall₂_map_right_iff, List.forall₂_same] at written
  exact ⟨entries, written⟩

theorem defines_iff {item : Document} {entry : RuleEntry} (written : RuleEntry.Written item entry)
    {name pattern : RawText} :
    Defines item name pattern ↔ name = .ofString entry.name ∧ pattern = entry.pattern := by
  constructor
  · rintro ⟨named, given⟩
    rw [written.name] at named
    rw [written.pattern] at given
    exact ⟨(Option.some.inj named).symm, (Option.some.inj given).symm⟩
  · rintro ⟨rfl, rfl⟩
    exact ⟨written.name, written.pattern⟩

theorem isTaken_map_iff (language : Language)
    (written : ∀ item ∈ items, RuleEntry.Written item (RuleEntry.ofMapping item))
    (index : Nat) (name : String) :
    IsTaken language (items.map RuleEntry.ofMapping) index name ↔
      ¬IsFreeName items index (.ofString name) := by
  rw [isTaken_iff]
  simp only [compiles_iff, IsFreeName, not_forall]
  constructor
  · rintro ⟨earlier, before, other, found, rfl, compiles⟩
    rw [List.getElem?_map, Option.map_eq_some_iff] at found
    obtain ⟨item, found, rfl⟩ := found
    have writes := written item (List.mem_of_getElem? found)
    exact ⟨earlier, before, item, _, found, (defines_iff writes).2 ⟨rfl, rfl⟩, compiles⟩
  · rintro ⟨earlier, before, item, pattern, found, defines, compiles⟩
    have writes := written item (List.mem_of_getElem? found)
    obtain ⟨same, rfl⟩ := (defines_iff writes).1 defines
    refine ⟨earlier, before, RuleEntry.ofMapping item, ?_, (RawText.ofString_inj.1 same).symm,
      compiles⟩
    rw [List.getElem?_map, found, Option.map_some]

end

/-- What becomes of the later of two rules of one name: it has an error at its place exactly if an
earlier rule of the name was loaded, and an error at its pattern exactly if none was and the
pattern does not compile. -/
theorem ofStream_redefined (language : Language) {document : Document} {items : List Document}
    (conforms : ∀ place violation, ¬Violates document place violation)
    (list : (document.field? "rules").bind Document.items? = some items) :
    ∃ book events, ofStream language document = .ok (book, events) ∧
      ∀ first second item item' name pattern pattern', first < second →
        items[first]? = some item → items[second]? = some item' →
        Defines item name pattern → Defines item' name pattern' →
        (¬IsMalformedDate pattern → ∃ issue ∈ book.errors, issue.place = Place.rule second) ∧
        ((∃ issue ∈ book.errors, issue.place = Place.rule second) ↔
          ¬IsFreeName items second name) ∧
        ((∃ issue ∈ book.errors, issue.place = Place.field second .pattern) ↔
          IsFreeName items second name ∧ IsMalformedDate pattern') := by
  obtain ⟨entries, written⟩ := written_of_conforms conforms list
  have loaded := ofStream_of_conforms language conforms
  rw [entries] at loaded
  have outcome := outcome_ofEntries language (items.map RuleEntry.ofMapping)
  generalize ofEntries language (items.map RuleEntry.ofMapping) = result at loaded outcome
  obtain ⟨book, events⟩ := result
  refine ⟨book, events, loaded, ?_⟩
  intro first second item item' name pattern pattern' before found found' defines defines'
  obtain ⟨rfl, rfl⟩ := (defines_iff (written item' (List.mem_of_getElem? found'))).1 defines'
  have taken := isTaken_map_iff language written second (RuleEntry.ofMapping item').name
  have at_second : (items.map RuleEntry.ofMapping)[second]? = some (.ofMapping item') := by
    rw [List.getElem?_map, found', Option.map_some]
  have atRule : (∃ issue ∈ book.errors, issue.place = Place.rule second) ↔
      ¬IsFreeName items second (.ofString (RuleEntry.ofMapping item').name) := by
    rw [← outcome.duplicate_iff, ← taken, IsDuplicate, at_second]
    simp only [Option.some.injEq, exists_eq_left']
  refine ⟨?_, atRule, ?_⟩
  · intro compiles
    exact atRule.2 fun free => compiles (free first before item pattern found defines)
  · rw [← outcome.rejected_iff, IsRejected, at_second]
    simp only [Option.some.injEq, exists_eq_left', taken, not_not, compiles_iff]

/-! ## A name that becomes free again -/

def namedRule (pattern : String) : Value :=
  .mapping [(.text "name", .text "a"), (.text "pattern", .text pattern)]

/-- A document with two rules of one name. The pattern of the first does not compile. -/
def secondChance : Document :=
  .ofValue (.mapping [(.text "rules", .list [namedRule "date:now", namedRule "b"])])

theorem rules_secondChance : (secondChance.field? "rules").bind Document.items? =
    some [.ofValue (namedRule "date:now"), .ofValue (namedRule "b")] := rfl

theorem defines_namedRule (pattern : String) :
    Defines (.ofValue (namedRule pattern)) (.ofString "a") (.ofString pattern) :=
  ⟨rfl, rfl⟩

theorem conforms_secondChance : ∀ place violation, ¬Violates secondChance place violation :=
  violations_rulesSchema_eq_nil_iff.1 (List.isEmpty_iff.1 (by decide))

theorem errors_secondChance :
    ∃ book events, ofStream (.standard none) secondChance = .ok (book, events) ∧
      book.names = ["a"] ∧ book.errors.map Issue.place = [Place.field 0 .pattern] :=
  ⟨_, _, ofStream_of_conforms _ conforms_secondChance, by decide, by decide⟩

theorem ofStream_redefined_secondChance :
    ∃ items book events, (secondChance.field? "rules").bind Document.items? = some items ∧
      ofStream (.standard none) secondChance = .ok (book, events) ∧
      IsFreeName items 1 (.ofString "a") ∧ ¬∃ issue ∈ book.errors, issue.place = Place.rule 1 := by
  obtain ⟨book, events, loaded, fates⟩ :=
    ofStream_redefined (.standard none) conforms_secondChance rules_secondChance
  obtain ⟨_, atRule, _⟩ := fates 0 1 _ _ _ _ _ (by decide) rfl rfl
    (defines_namedRule "date:now") (defines_namedRule "b")
  obtain ⟨book', events', loaded', _, places⟩ := errors_secondChance
  obtain ⟨rfl, _⟩ := Prod.mk.inj (Except.ok.inj (loaded.symm.trans loaded'))
  have noError : ¬∃ issue ∈ book.errors, issue.place = Place.rule 1 := by
    rintro ⟨issue, member, here⟩
    have listed := List.mem_map_of_mem (f := Issue.place) member
    rw [places, here] at listed
    simp [Place.rule, Place.field] at listed
  exact ⟨_, book, events, rules_secondChance, loaded, not_not.1 (mt atRule.2 noError), noError⟩

theorem ofStream_secondChance :
    (∀ place violation, ¬Violates secondChance place violation) ∧
      ∃ items item item' name pattern pattern' book events,
        (secondChance.field? "rules").bind Document.items? = some items ∧
        items[0]? = some item ∧ items[1]? = some item' ∧
        Defines item name pattern ∧ Defines item' name pattern' ∧
        ofStream (.standard none) secondChance = .ok (book, events) ∧ book.names = ["a"] ∧
        ¬∃ issue ∈ book.errors,
          issue.place = Place.rule 1 ∨ issue.place = Place.field 1 .pattern := by
  obtain ⟨book, events, loaded, names, places⟩ := errors_secondChance
  refine ⟨conforms_secondChance, _, _, _, _, _, _, book, events, rules_secondChance, rfl, rfl,
    defines_namedRule "date:now", defines_namedRule "b", loaded, names, ?_⟩
  rintro ⟨issue, member, here⟩
  have listed := List.mem_map_of_mem (f := Issue.place) member
  rw [places] at listed
  rcases here with here | here <;> simp [here, Place.rule, Place.field] at listed

end RuleBook

end FileRouting
