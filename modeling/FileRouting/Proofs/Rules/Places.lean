import FileRouting.Proofs.Rules.Issues
import FileRouting.Proofs.Rules.Loading
import FileRouting.Proofs.Rules.Names
import FileRouting.Proofs.Text.Marker
import FileRouting.Proofs.Text.Numeral

/-!
# Places of issues

The text of the place of an issue can be read back, and leads to something that is in the document.
It does not matter who found the issue: checking the form of a document writes the steps to a
place, taking the rules one by one writes `rules[0]` and `rules[0]/pattern`, and the texts are the
same. A document of the right form has no two issues at one place. The main statement is
`ofStream_places`.
-/

namespace FileRouting

open FileRouting.Text

/-! ## Reading a place -/

namespace Place

/-- A number by its decimal numeral, which starts with a zero only for zero. -/
def index? (digits : List Char) : Option Nat :=
  if decimal (numberOf 10 digits) = digits then some (numberOf 10 digits) else none

/-- A rule or a field of a rule, by what stands behind the bracket of the index. -/
def inside? (index : Nat) : List Char → Option Place
  | [] => some (rule index)
  | '/' :: key => (RuleField.all.find? fun which => which.key.toList = key).map (field index)
  | _ => none

/-- The place in a rules document that a text writes. -/
def ofText? (text : String) : Option Place :=
  if text = "" then some document
  else
    match after? "rules".toList text.toList with
    | some [] => some rules
    | some ('[' :: behind) =>
      (cutAt? [']'] behind).bind fun cut => (index? cut.1).bind (inside? · cut.2)
    | _ => none

theorem field_eq (index : Nat) (which : RuleField) :
    field index which = rule index ++ [.key which.key] := rfl

theorem index?_decimal (number : Nat) : index? (decimal number) = some number := by
  rw [index?, numberOf_decimal, if_pos rfl]

theorem ofText?_inside {text : String} {index : Nat} {behind : List Char}
    (written : text.toList = "rules".toList ++ '[' :: (decimal index ++ ']' :: behind)) :
    ofText? text = inside? index behind := by
  have nonempty : text ≠ "" := by
    rintro rfl
    simp at written
  have free : ¬[']'] <:+: decimal index := by
    intro held
    have digit := isDigit_of_mem_decimal (held.subset (List.mem_singleton_self ']'))
    exact absurd digit (by decide)
  have cut : cutAt? [']'] (decimal index ++ ']' :: behind) = some (decimal index, behind) :=
    cutAt?_append List.not_mem_nil free behind
  rw [ofText?, if_neg nonempty, written, after?_append]
  simp only [cut, Option.bind_some, index?_decimal]

theorem ofText?_text {place : Place} (h : IsRulesPlace place) :
    ofText? place.text = some place := by
  cases h with
  | document => rfl
  | rules => rfl
  | inside index h =>
    cases h with
    | rule =>
      have named : inside? index [] = some (rule index) := rfl
      rw [List.append_nil, ← named]
      exact ofText?_inside (by simp [text_rule])
    | field which =>
      have named : inside? index ('/' :: which.key.toList) = some (field index which) := by
        cases which <;> rfl
      rw [← field_eq, ← named]
      exact ofText?_inside (by simp [text_field])

theorem text_inj {place place' : Place} (h : IsRulesPlace place) (h' : IsRulesPlace place')
    (same : place.text = place'.text) : place = place' :=
  Option.some.inj ((ofText?_text h).symm.trans (same ▸ ofText?_text h'))

end Place

/-! ## Places in a document -/

section

variable {document rules item : Document} {items : List Document} {index : Nat}

theorem Document.at?_rule (found : document.field? "rules" = some rules)
    (list : rules.items? = some items) (here : items[index]? = some item) (place : Place) :
    document.at? (Place.rule index ++ place) = item.at? place := by
  simp [Place.rule, at?, step?, found, list, here]

theorem RuleViolates.isSome_at? {place : Place} {violation : Violation}
    (h : RuleViolates item place violation) : (item.at? place).isSome := by
  cases h with
  | notMapping | missing | otherKeys => rfl
  | notText found | otherName found | emptyPattern found =>
    simp [Document.at?, Document.step?, found]

theorem Violates.isSome_at? {place : Place} {violation : Violation}
    (h : Violates document place violation) : (document.at? place).isSome := by
  cases h with
  | notMapping | missing | otherKeys => rfl
  | notList found => simp [Place.rules, Document.at?, Document.step?, found]
  | rule found list here h => rw [Document.at?_rule found list here]; exact h.isSome_at?

end

/-! ## Issues of rules -/

theorem Decision.place_of_issue? {decision : Decision} {issue : Issue}
    (h : decision.issue? = some issue) :
    issue.place = Place.rule decision.index ∨
      issue.place = Place.field decision.index .pattern := by
  unfold issue? RuleEntry.issue? at h
  split at h
  · cases h
    exact .inl rfl
  · cases h
    exact .inr rfl
  · split at h <;> cases h
    exact .inr rfl

/-- An issue is at a place that rules documents have, and that this one has. -/
structure Issue.IsPlaced (document : Document) (issue : Issue) : Prop where
  isRulesPlace : IsRulesPlace issue.place
  exists_at : (document.at? issue.place).isSome

namespace RuleBook

section

variable {language : Language} {document : Document} {book : RuleBook} {events : List LoadEvent}

theorem isPlaced_of_conforms (conforms : ∀ place violation, ¬Violates document place violation) :
    ∀ issue ∈ (ofEntries language (RuleEntry.ofDocument document)).1.issues,
      issue.IsPlaced document := by
  intro issue member
  rw [ofEntries_eq] at member
  obtain ⟨decision, decided, made⟩ := List.mem_filterMap.1 member
  obtain ⟨items, list, written⟩ :=
    RuleEntry.written_ofDocument (violations_rulesSchema_eq_nil_iff.2 conforms)
  obtain ⟨rules, found, listed⟩ := Option.bind_eq_some_iff.1 list
  obtain ⟨item, here, writes⟩ := exists_item_of_forall₂ written (mem_trace_iff.1 decided).1
  obtain ⟨value, pattern, _⟩ := Option.bind_eq_some_iff.1 writes.pattern
  rcases Decision.place_of_issue? made with place | place
  · refine ⟨place ▸ .inside decision.index .rule, ?_⟩
    rw [place, ← List.append_nil (Place.rule _), Document.at?_rule found listed here]
    rfl
  · refine ⟨place ▸ .inside decision.index (.field .pattern), ?_⟩
    have at_pattern : item.at? [.key RuleField.pattern.key] = some value := by
      simp [Document.at?, Document.step?, RuleField.key, pattern]
    have there := Document.at?_rule found listed here [.key RuleField.pattern.key]
    rw [place]
    exact Option.isSome_of_eq_some (there.trans at_pattern)

theorem isPlaced_of_violates {issues : List Issue}
    (found : Issue.ofDocument document = .ok issues) :
    ∀ issue ∈ issues, issue.IsPlaced document := by
  intro issue member
  rw [Issue.ofDocument] at found
  split at found
  · cases found
  · cases found
    obtain ⟨⟨place, violation⟩, listed, rfl⟩ := List.mem_map.1 member
    have violates := mem_violations_rulesSchema_iff.1 (Schema.mem_sortedViolations.1 listed)
    exact ⟨violates.isRulesPlace, violates.isSome_at?⟩

theorem isPlaced_of_ofStream (loaded : ofStream language document = .ok (book, events)) :
    ∀ issue ∈ book.issues, issue.IsPlaced document := by
  by_cases violates : ∃ place violation, Violates document place violation
  · rw [ofStream] at loaded
    split at loaded
    · cases loaded
      exact List.forall_mem_singleton.2 ⟨.document, rfl⟩
    · rw [ofDocument] at loaded
      cases found : Issue.ofDocument document with
      | error reason =>
        rw [found] at loaded
        cases loaded
      | ok issues =>
        rw [found] at loaded
        cases issues with
        | nil => exact absurd found (issues_ofDocument_ne_nil violates)
        | cons issue issues =>
          cases loaded
          exact isPlaced_of_violates found
  · push Not at violates
    rw [ofStream_of_conforms language violates] at loaded
    obtain ⟨rfl, _⟩ := Prod.mk.inj (Except.ok.inj loaded)
    exact isPlaced_of_conforms violates

/-- Rules are taken one by one, and each of them gives no more than one issue. -/
theorem pairwise_places (entries : List RuleEntry) :
    (ofEntries language entries).1.issues.Pairwise fun issue issue' =>
      issue.place ≠ issue'.place := by
  obtain ⟨indices, increasing, _, same⟩ := (outcome_ofEntries language entries).issues_in_order
  have distinct : ((ofEntries language entries).1.issues.map Issue.index?).Nodup := by
    rw [same]
    refine List.pairwise_map.2 (increasing.imp fun before => ?_)
    exact fun same => Nat.ne_of_lt before (Option.some.inj same)
  refine (List.pairwise_map.1 distinct).imp ?_
  intro issue issue' apart place
  exact apart (by rw [Issue.index?, Issue.index?, place])

/-- Every issue is at a place of the document that its text leads back to. -/
theorem ofStream_places (loaded : ofStream language document = .ok (book, events)) :
    (∀ issue ∈ book.issues, ∃ place, Place.ofText? issue.place.text = some place ∧
        place = issue.place ∧ (document.at? place).isSome) ∧
      (∀ place place', IsRulesPlace place → IsRulesPlace place' → place ≠ place' →
        place.text ≠ place'.text) ∧
      (∀ index, (Place.rule index).text = "rules[" ++ String.ofList (decimal index) ++ "]" ∧
        (Place.field index .pattern).text =
          "rules[" ++ String.ofList (decimal index) ++ "]" ++ "/pattern") ∧
      ((∀ place violation, ¬Violates document place violation) →
        (book.issues.map fun issue => issue.place.text).Nodup) := by
  have placed := isPlaced_of_ofStream loaded
  refine ⟨?_, ?_, ?_, ?_⟩
  · intro issue member
    obtain ⟨here, found⟩ := placed issue member
    exact ⟨issue.place, Place.ofText?_text here, rfl, found⟩
  · intro place place' here here' apart same
    exact apart (Place.text_inj here here' same)
  · intro index
    refine ⟨Place.text_rule index, (Place.text_field index .pattern).trans ?_⟩
    simp only [String.append_assoc]
    rfl
  · intro conforms
    rw [ofStream_of_conforms language conforms] at loaded
    obtain ⟨rfl, _⟩ := Prod.mk.inj (Except.ok.inj loaded)
    refine List.pairwise_map.2 ((pairwise_places _).imp_of_mem ?_)
    intro issue issue' member member' apart same
    exact apart (Place.text_inj (placed issue member).1 (placed issue' member').1 same)

end

/-- The document with three rules of one name has an error at the pattern of the first and at the
third, and a warning at the pattern of the second. -/
theorem ofStream_places_repeatedName :
    ∃ book events, ofStream (.standard none) repeatedName = .ok (book, events) ∧
      book.issues.map (fun issue => issue.place.text) =
        ["rules[0]/pattern", "rules[1]/pattern", "rules[2]"] ∧
      (∀ issue ∈ book.issues, ∃ place, Place.ofText? issue.place.text = some place ∧
        place = issue.place ∧ (repeatedName.at? place).isSome) ∧
      (book.issues.map fun issue => issue.place.text).Nodup := by
  have conforms : ∀ place violation, ¬Violates repeatedName place violation :=
    violations_rulesSchema_eq_nil_iff.1 (List.isEmpty_iff.1 (by decide))
  have loaded := ofStream_of_conforms (.standard none) conforms
  obtain ⟨placed, _, _, distinct⟩ := ofStream_places loaded
  exact ⟨_, _, loaded, by decide, placed, distinct conforms⟩

end RuleBook

end FileRouting
