import FileRouting.Proofs.Rules.Faultless

/-!
# Names of rules

Every name in a document that conforms has the form of names, and every name of that form can be
given to a rule. The form is that of the names proper, `IsName`, with one gap: a newline at the end
is let through. The main statement is `mem_names_ofStream_iff`.
-/

namespace FileRouting

open FileRouting.Text

/-! ## The form of a name -/

/-- A text of ASCII letters, digits, underscores, dots and hyphens that starts with a letter or an
underscore. -/
def IsName (name : String) : Prop :=
  ∃ first rest, name.toList = first :: rest ∧ startsName first ∧ ∀ c ∈ rest, continuesName c

theorem holdsName_ofString_iff {name : String} :
    HoldsName (.ofString name) ↔ IsName name ∨ ∃ stem, IsName stem ∧ name = stem ++ "\n" := by
  constructor
  · rintro ⟨first, rest, behind, same, starts, continues, rfl | rfl⟩
    · refine .inl ⟨first, rest, ?_, starts, continues⟩
      rw [RawText.ofChars_inj.1 same, List.append_nil]
    · refine .inr ⟨String.ofList (first :: rest), ⟨first, rest, String.toList_ofList, starts,
        continues⟩, ?_⟩
      rw [← String.toList_inj, RawText.ofChars_inj.1 same, String.toList_append,
        String.toList_ofList]
      rfl
  · rintro (⟨first, rest, same, starts, continues⟩ | ⟨stem, named, rfl⟩)
    · refine ⟨first, rest, [], ?_, starts, continues, .inl rfl⟩
      rw [RawText.ofString, same, List.append_nil]
    · obtain ⟨first, rest, same, starts, continues⟩ := named
      refine ⟨first, rest, ['\n'], ?_, starts, continues, .inr rfl⟩
      rw [RawText.ofString, String.toList_append, same]
      rfl

/-! ## Names of a document -/

section

variable {document : Document} {items : List Document} {entries : List RuleEntry}

theorem exists_item_of_forall₂ {index : Nat} {entry : RuleEntry}
    (written : List.Forall₂ RuleEntry.Written items entries)
    (found : entries[index]? = some entry) :
    ∃ item, items[index]? = some item ∧ RuleEntry.Written item entry := by
  induction written generalizing index with
  | nil => cases found
  | @cons item _ _ _ here _ ih =>
    cases index with
    | zero =>
      obtain rfl := Option.some.inj found
      exact ⟨item, rfl, here⟩
    | succ index => exact ih found

theorem holdsName_of_written (conforms : ∀ place violation, ¬Violates document place violation)
    (list : (document.field? "rules").bind Document.items? = some items)
    (written : List.Forall₂ RuleEntry.Written items entries) :
    ∀ entry ∈ entries, HoldsName (.ofString entry.name) := by
  intro entry member
  obtain ⟨rules, found, listed⟩ := Option.bind_eq_some_iff.1 list
  obtain ⟨index, here⟩ := List.mem_iff_getElem?.1 member
  obtain ⟨item, at_index, writes⟩ := exists_item_of_forall₂ written here
  obtain ⟨value, named, shows⟩ := Option.bind_eq_some_iff.1 writes.name
  by_contra other
  exact conforms _ _ (.rule found listed at_index (.otherName named shows other))

end

/-! ## A document with one rule -/

def plainRule (name : String) : Document :=
  .ofValue (.mapping [(.text "name", .text name), (.text "pattern", .text "b")])

/-- A document with one rule, which has a name. -/
def soleRule (name : String) : Document :=
  .ofValue (.mapping [(.text "rules", .list [(plainRule name).root])])

theorem ofDocument_soleRule (name : String) :
    RuleEntry.ofDocument (soleRule name) = [⟨name, .ofString "b", []⟩] := by
  have named : RuleEntry.textOf (plainRule name) .name = .ofString name := rfl
  have list : RuleEntry.ofDocument (soleRule name) = [.ofMapping (plainRule name)] := rfl
  rw [list, RuleEntry.ofMapping, named, RawText.shown_ofString]
  rfl

theorem conforms_plainRule {name : String} (valid : HoldsName (.ofString name)) :
    ∀ place violation, ¬RuleViolates (plainRule name) place violation := by
  intro place violation violates
  cases violates with
  | notMapping h => cases h
  | missing field _ required h => rcases required with rfl | rfl <;> cases h
  | otherKeys h => exact h rfl
  | @notText field value found h => cases field <;> cases found <;> cases h
  | otherName found shows h =>
    cases found
    cases shows
    exact h valid
  | emptyPattern found shows =>
    cases found
    cases shows

theorem conforms_soleRule {name : String} (valid : HoldsName (.ofString name)) :
    ∀ place violation, ¬Violates (soleRule name) place violation := by
  intro place violation violates
  cases violates with
  | notMapping h => cases h
  | missing _ h => cases h
  | otherKeys h => exact h rfl
  | notList found h =>
    cases found
    cases h
  | @rule _ _ _ index _ _ found list at_index h =>
    cases found
    cases list
    cases index with
    | zero =>
      cases at_index
      exact conforms_plainRule valid _ _ h
    | succ index => cases at_index

namespace RuleBook

theorem not_isMalformedDate_plain : ¬IsMalformedDate (.ofString "b") := by
  rintro ⟨text, written, _⟩
  rw [RawText.shown_ofString] at written
  have first := congrArg (fun text => text.toList.head?) written
  simp at first

/-- The names that rules can be given: a newline at the end is let through. -/
theorem mem_names_ofStream_iff (language : Language) (name : String) :
    (∃ document book events, ofStream language document = .ok (book, events) ∧
      name ∈ book.names) ↔ IsName name ∨ ∃ stem, IsName stem ∧ name = stem ++ "\n" := by
  rw [← holdsName_ofString_iff]
  constructor
  · rintro ⟨document, book, events, loaded, member⟩
    by_cases violates : ∃ place violation, Violates document place violation
    · rw [names, (ofStream_of_violates violates loaded).1] at member
      cases member
    · push Not at violates
      obtain ⟨items, list, written⟩ :=
        RuleEntry.written_ofDocument (violations_rulesSchema_eq_nil_iff.2 violates)
      rw [ofStream_of_conforms language violates] at loaded
      obtain ⟨rfl, _⟩ := Prod.mk.inj (Except.ok.inj loaded)
      obtain ⟨entry, listed, rfl, _⟩ := (mem_names_ofEntries_iff language _ name).1 member
      exact holdsName_of_written violates list written entry listed
  · intro valid
    have loaded := ofStream_of_conforms language (conforms_soleRule valid)
    rw [ofDocument_soleRule] at loaded
    have named := (mem_names_ofEntries_iff language [⟨name, .ofString "b", []⟩] name).2
      ⟨_, List.mem_singleton_self _, rfl, (compiles_iff language).2 not_isMalformedDate_plain⟩
    exact ⟨_, _, _, loaded, named⟩

theorem ofStream_newlineName :
    ∃ book events, ofStream (.standard none) (soleRule "a\n") = .ok (book, events) ∧
      book.names = ["a\n"] ∧ ¬IsName "a\n" := by
  have valid : HoldsName (.ofString "a\n") :=
    ⟨'a', [], ['\n'], rfl, by decide, List.forall_mem_nil _, .inr rfl⟩
  refine ⟨_, _, ofStream_of_conforms _ (conforms_soleRule valid), by decide, ?_⟩
  rintro ⟨first, rest, same, _, continues⟩
  obtain ⟨_, rfl⟩ : 'a' = first ∧ ['\n'] = rest := List.cons.inj same
  exact absurd (continues '\n' (List.mem_singleton_self _)) (by decide)

end RuleBook

end FileRouting
