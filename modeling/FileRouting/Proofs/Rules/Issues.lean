import FileRouting.Proofs.Rules.IssueOrder
import FileRouting.Rules.Issue

/-!
# The issues of a document

A document that does not have the form of a rules document has one issue for everything that it
violates, in the order of the issues. It has none to show if one of their messages cannot be
written. The main statement is `ofDocument_violates`.
-/

namespace FileRouting

open FileRouting.Text

/-! ## Places as texts -/

theorem slash_not_mem_decimal (number : Nat) : '/' ∉ decimal number := by
  intro member
  have digit := isDigitOf_of_mem_toDigits (by decide) (by decide) member
  exact absurd digit (by decide)

theorem Place.closeUp_rule (index : Nat) (text : List Char) :
    closeUp ("rules/[".toList ++ (decimal index ++ ']' :: text)) =
      "rules[".toList ++ (decimal index ++ ']' :: closeUp text) := by
  have behind : closeUp (decimal index ++ ']' :: text) = decimal index ++ ']' :: closeUp text := by
    rw [closeUp_append (slash_not_mem_decimal index)]
    rfl
  rw [← behind]
  rfl

theorem Place.text_rule (index : Nat) :
    (Place.rule index).text = "rules[" ++ String.ofList (decimal index) ++ "]" := by
  have written := closeUp_rule index []
  apply String.ext
  simpa [Place.rule, Place.text, Place.stepText, joinFields, closeUp] using written

theorem Place.text_field (index : Nat) (field : RuleField) :
    (Place.field index field).text =
      "rules[" ++ String.ofList (decimal index) ++ "]/" ++ field.key := by
  have written := closeUp_rule index ('/' :: field.key.toList)
  have key : closeUp ('/' :: field.key.toList) = '/' :: field.key.toList := by
    cases field <;> rfl
  rw [key] at written
  apply String.ext
  simpa [Place.field, Place.text, Place.stepText, joinFields] using written

/-! ## Messages that cannot be written -/

theorem Schema.exists_of_unprintable? {schema : Schema} {document : Document}
    {reason : Document.Unprintable} (h : schema.unprintable? document = some reason) :
    ∃ found ∈ schema.sortedViolations document, found.2.unprintable? = some reason := by
  obtain ⟨found, member, refused⟩ := List.exists_of_findSome?_eq_some h
  exact ⟨found, Schema.mem_sortedViolations.2 member, refused⟩

theorem Schema.unprintable?_eq_none_iff {schema : Schema} {document : Document} :
    schema.unprintable? document = none ↔
      ∀ found ∈ schema.sortedViolations document, found.2.unprintable? = none := by
  rw [Schema.unprintable?, List.findSome?_eq_none_iff]
  exact forall_congr' fun found => by rw [Schema.mem_sortedViolations]

/-! ## Issues -/

namespace Issue

/-- The issue of a violation at a place. -/
def ofViolation (found : Place × Violation) : Issue :=
  ⟨found.1, .violation found.2⟩

/-- A document whose rules are the least number that has no literal form. -/
def longNumberDocument : Document :=
  .ofValue (.mapping [(.text "rules", .int (.ofNat Document.longNumber))])

end Issue

end FileRouting
