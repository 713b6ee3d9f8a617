import FileRouting.Proofs.Rules.Entries
import FileRouting.Proofs.Rules.Outcome
import FileRouting.Proofs.Yaml.Numeral
import FileRouting.Rules.File

/-!
# Loading a document

A document with violations has a book of their messages and no rules, and one without violations
has the book of its entries. The only document that has no book is one with a violation that cannot
be written: its message would show a number or a nesting that has no literal form. The main
statement is `ofStream_outcome`.
-/

namespace FileRouting

open FileRouting.Text

namespace RuleBook

section

variable {language : Language} {files : FileSystem} {path : Path} {bytes : List UInt8}

theorem load_eq_ofBytes (file : files.read path = .ok bytes) :
    load language files path = ofBytes language bytes := by
  rw [load, file]

theorem load_of_document (file : files.read path = .ok bytes) {document : Document}
    (parsed : Yaml.read (.ofBytes bytes) = .ok document) :
    load language files path = ofStream language document := by
  rw [load_eq_ofBytes file]
  unfold ofBytes
  rw [parsed]

end

theorem ofStream_eq (language : Language) {document : Document} (content : document.top ≠ .null) :
    ofStream language document = (ofDocument language document).mapError .unprintable := by
  rw [ofStream]
  split
  · next empty => exact absurd empty content
  · rfl

theorem ofStream_of_unprintable (language : Language) {document : Document}
    (content : document.top ≠ .null) {reason : Document.Unprintable}
    (refused : rulesSchema.unprintable? document = some reason) :
    ofStream language document = .error (.unprintable reason) := by
  rw [ofStream_eq language content, ofDocument, Issue.ofDocument, refused]
  rfl

/-- A document with three rules of one name. The pattern of the first does not compile. -/
def repeatedName : Document :=
  let rule := fun (pattern : String) =>
    Value.mapping [(.text "name", .text "a"), (.text "pattern", .text pattern)]
  .ofValue (.mapping [(.text "rules", .list [rule "date:now", rule "file:size", rule "b"])])

/-- The shortest hexadecimal numeral of a number that has no literal form. -/
def longNumeral : List Char :=
  '0' :: 'x' :: List.replicate 3572 'f'

/-- Whether some tokens make up a document that is not empty and has a violation with a number that
has no literal form. -/
def holdsLongNumber (tokens : Yaml.Tokens) : Bool :=
  match Yaml.Graph.ofTokens? tokens with
  | .ok (some graph) =>
    match graph.document with
    | .ok document =>
      !(document.top matches .null) &&
        rulesSchema.unprintable? document = some .longNumber
    | .error _ => false
  | _ => false

theorem isWordChar_longNumeral : ∀ c ∈ longNumeral, Yaml.isWordChar c := by
  intro c member
  simp only [longNumeral, List.mem_cons, List.mem_replicate] at member
  rcases member with rfl | rfl | ⟨_, rfl⟩ <;> decide

end RuleBook

end FileRouting
