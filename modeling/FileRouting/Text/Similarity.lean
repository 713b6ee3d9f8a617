/-!
# Similar words

Two words are similar if most of their characters stand in blocks that they share. The longest
shared block is taken first, and then the longest ones on its left and on its right.
-/

namespace FileRouting.Text

/-- How many characters two texts share at their start. -/
def sharedStart : List Char → List Char → Nat
  | c :: text, d :: other => if c = d then sharedStart text other + 1 else 0
  | _, _ => 0

/-- A block that stands in two texts. -/
structure SharedBlock where
  start : Nat
  otherStart : Nat
  size : Nat

/-- The longest block that stands in two texts; of several the first. -/
def longestBlock (text other : List Char) : SharedBlock :=
  let blocks := (List.range text.length).flatMap fun start =>
    (List.range other.length).map fun otherStart =>
      ⟨start, otherStart, sharedStart (text.drop start) (other.drop otherStart)⟩
  blocks.foldl (fun best block => if best.size < block.size then block else best) ⟨0, 0, 0⟩

/-- How many characters two texts share in blocks, the second text no longer than `limit`. -/
def sharedWithin : (limit : Nat) → List Char → List Char → Nat
  | 0, _, _ => 0
  | limit + 1, text, other =>
    let block := longestBlock text other
    if block.size = 0 then 0
    else
      sharedWithin limit (text.take block.start) (other.take block.otherStart) + block.size +
        sharedWithin limit (text.drop (block.start + block.size))
          (other.drop (block.otherStart + block.size))

/-- Whether six of ten characters of two words are shared. -/
def areSimilar (word other : String) : Bool :=
  let shared := sharedWithin other.length word.toList other.toList
  3 * (word.length + other.length) ≤ 10 * shared

/-- The words that are similar to one, in alphabetical order. -/
def similarWords (words : List String) (word : String) : List String :=
  (words.filter (areSimilar · word)).mergeSort fun a b => decide (a ≤ b)

end FileRouting.Text
