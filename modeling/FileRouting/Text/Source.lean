import FileRouting.Text.Utf8

/-!
# Reading a file of text

The bytes of a file are decoded in pieces, as the reader asks for characters. Every line break, be
it a carriage return, a newline or both, is read as a newline. An error in the bytes shows only when
the piece that holds it is needed.
-/

namespace FileRouting.Text

/-- A text with every line break written as a newline: a carriage return, with or without a newline
behind it, is one break. -/
def unifyBreaks : List Char → List Char
  | [] => []
  | '\r' :: '\n' :: text => '\n' :: unifyBreaks text
  | '\r' :: text => '\n' :: unifyBreaks text
  | c :: text => c :: unifyBreaks text

/-- A file that is being read: the bytes to come, those of a character that was cut off, whether a
carriage return is held back, the characters that no one has asked for yet, and the numbers of bytes
and characters of the last piece. -/
structure Source where
  bytes : List UInt8
  cutOff : List UInt8
  heldReturn : Bool
  waiting : List Char
  lastBytes : Nat
  lastChars : Nat

namespace Source

def ofBytes (bytes : List UInt8) : Source :=
  ⟨bytes, [], false, [], 0, 0⟩

/-- The least number of bytes in a piece. -/
def leastPiece : Nat := 8192

/-- How many bytes are decoded next if some characters are wanted: as many as these should take by
the last piece. -/
def pieceSize (source : Source) (wanted : Nat) : Nat :=
  max leastPiece (source.lastBytes * wanted / source.lastChars)

/-- The source with its next piece decoded. A carriage return at the end of a piece is held back, as
a newline may follow it. -/
def decodeNext (source : Source) (wanted : Nat) : Except Utf8Error Source := do
  let size := source.pieceSize wanted
  let piece := source.bytes.take size
  let last := piece.isEmpty
  let (text, cutOff) ← decodePiece last (source.cutOff ++ piece)
  let whole := if source.heldReturn ∧ (last ∨ text ≠ []) then '\r' :: text else text
  let holds := !last && (whole.getLast? = some '\r' || (source.heldReturn && whole.isEmpty))
  let chars := unifyBreaks (if whole.getLast? = some '\r' ∧ holds then whole.dropLast else whole)
  .ok ⟨source.bytes.drop size, cutOff, holds, source.waiting ++ chars, piece.length, chars.length⟩

/-- The next characters, of which there are fewer than asked for only at the end. -/
def readWith : (fuel : Nat) → (count : Nat) → Source → Except Utf8Error (List Char × Source)
  | 0, count, source =>
    .ok (source.waiting.take count, { source with waiting := source.waiting.drop count })
  | fuel + 1, count, source => do
    if count ≤ source.waiting.length then
      .ok (source.waiting.take count, { source with waiting := source.waiting.drop count })
    else
      let next ← source.decodeNext (count - source.waiting.length)
      if source.bytes.isEmpty then
        .ok (next.waiting.take count, { next with waiting := next.waiting.drop count })
      else readWith fuel count next

/-- The next characters, of which there are fewer than asked for only at the end. Every piece but
the last takes a byte. -/
def read (count : Nat) (source : Source) : Except Utf8Error (List Char × Source) :=
  readWith (source.bytes.length + 1) count source

end Source

end FileRouting.Text
