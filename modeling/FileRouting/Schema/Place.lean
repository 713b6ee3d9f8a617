import FileRouting.Text.Numeral
import FileRouting.Text.Split
import FileRouting.Document

/-!
# Places in a document

A place in a document is reached by steps through mappings and lists. It is written as its steps
with a slash between them, which is left out before an index. Places are ordered step by step,
indices by number and keys as texts, and a place comes before those below it.
-/

namespace FileRouting

open FileRouting.Text

/-- A step into a mapping or into a list. -/
inductive Step
  | key (name : String)
  | index (position : Nat)
deriving DecidableEq, Repr

/-- The steps from a document to a part of it. -/
abbrev Place := List Step

def Document.step? (document : Document) : Step → Option Document
  | .key name => document.field? name
  | .index position => document.items?.bind (·[position]?)

def Document.at? (document : Document) : Place → Option Document
  | [] => some document
  | step :: place => (document.step? step).bind (·.at? place)

namespace Place

/-! ## Written form -/

def stepText : Step → List Char
  | .key name => name.toList
  | .index position => '[' :: decimal position ++ [']']

/-- A text without the slashes that stand before a bracket. -/
def closeUp : List Char → List Char
  | [] => []
  | '/' :: '[' :: text => '[' :: closeUp text
  | c :: text => c :: closeUp text

theorem closeUp_append {head : List Char} (h : '/' ∉ head) (text : List Char) :
    closeUp (head ++ text) = head ++ closeUp text := by
  induction head with
  | nil => rfl
  | cons c head ih =>
    simp only [List.mem_cons, not_or] at h
    rw [List.cons_append, closeUp, ih h.2, List.cons_append]
    exact fun _ slash => absurd slash.symm h.1

/-- The text of a place; that of the whole document is empty. -/
def text (place : Place) : String :=
  String.ofList (closeUp (joinFields '/' (place.map stepText)))

/-! ## Order -/

/-- Whether a place is not behind another. -/
def le : Place → Place → Bool
  | [], _ => true
  | _ :: _, [] => false
  | .key a :: place, .key b :: other => if a = b then le place other else decide (a < b)
  | .index i :: place, .index j :: other => if i = j then le place other else decide (i < j)
  | .key _ :: _, .index _ :: _ => true
  | .index _ :: _, .key _ :: _ => false

end Place

end FileRouting
