import FileRouting.Yaml.Block
import FileRouting.Yaml.Quoted
import FileRouting.Yaml.Token

/-!
# Names and tags

Anchors, aliases, tags and directives: the pieces of a stream that name things.
-/

namespace FileRouting.Yaml.Name

open FileRouting.Text

/-! ## Anchors -/

/-- The characters that may stand behind the name of an anchor. -/
def endsAnchor (c : Char) : Bool :=
  isBlankOrEnd c || "?:,]\x7d%@\x60".toList.contains c

/-- The name behind the mark of an anchor or alias. -/
def anchor (cursor : Cursor) : Except Error (String × Cursor) := do
  let (name, cursor) ← (← cursor.skip 1).takeWhile isNameChar
  if name ≠ [] ∧ (← cursor.sees 0 endsAnchor) then .ok (String.ofList name, cursor)
  else .error .malformed

/-! ## Tags -/

/-- Bytes written as two digits behind a percent sign each. -/
def tagBytes : (fuel : Nat) → Cursor → Except Error (List UInt8 × Cursor)
  | 0, _ => .error .malformed
  | fuel + 1, cursor => do
    if (← cursor.peek 0) = '%' then
      let cursor ← cursor.skip 1
      let number ← Quoted.hexNumber cursor 2
      let (bytes, cursor) ← tagBytes fuel (← cursor.skip 2)
      .ok (number.toUInt8 :: bytes, cursor)
    else .ok ([], cursor)

/-- The characters of a tag, with escaped bytes read as UTF-8. -/
def tagText : (fuel : Nat) → Cursor → Except Error (List Char × Cursor)
  | 0, _ => .error .malformed
  | fuel + 1, cursor => do
    let (plain, cursor) ← cursor.takeWhile fun c => isTagChar c && c != '%'
    if (← cursor.peek 0) = '%' then
      let (bytes, cursor) ← tagBytes (cursor.left + 1) cursor
      match decodeUtf8 bytes with
      | .error _ => .error .malformed
      | .ok text =>
        let (rest, cursor) ← tagText fuel cursor
        .ok (plain ++ text ++ rest, cursor)
    else .ok (plain, cursor)

/-- The characters of a tag, of which there must be one. -/
def suffix (cursor : Cursor) : Except Error (String × Cursor) := do
  let (text, cursor) ← tagText (cursor.left + 1) cursor
  if text = [] then .error .malformed else .ok (String.ofList text, cursor)

/-- A handle: a name between exclamation marks, or a single one before a space. -/
def handle (cursor : Cursor) : Except Error (String × Cursor) := do
  if (← cursor.peek 0) ≠ '!' then .error .malformed
  else if (← cursor.peek 1) = ' ' then .ok ("!", ← cursor.skip 1)
  else
    let (name, behind) ← cursor.next.takeWhile isNameChar
    if (← behind.peek 0) = '!' then .ok ("!" ++ String.ofList name ++ "!", ← behind.skip 1)
    else .error .malformed

/-- A tag in angle brackets. -/
def wholeTag (cursor : Cursor) : Except Error (TagName × Cursor) := do
  let (text, cursor) ← suffix (← cursor.skip 2)
  if (← cursor.peek 0) = '>' then .ok (⟨none, text⟩, ← cursor.skip 1) else .error .malformed

/-- A tag with a handle, which is a single mark unless another one stands in the word. -/
def shortTag (cursor : Cursor) : Except Error (TagName × Cursor) := do
  let (_, stop) ← cursor.next.takeWhile fun c => c != '!' && !isSpaceOrEnd c
  let (head, cursor) ←
    if (← stop.peek 0) = '!' then handle cursor else (cursor.skip 1).map ("!", ·)
  let (text, cursor) ← suffix cursor
  .ok (⟨some head, text⟩, cursor)

/-- A tag: a whole one in angle brackets, a handle with a suffix, or a single mark. -/
def tag (cursor : Cursor) : Except Error (TagName × Cursor) := do
  let c ← cursor.peek 1
  let (name, cursor) ←
    if c = '<' then wholeTag cursor
    else if isBlankOrEnd c then (cursor.skip 1).map (⟨none, "!"⟩, ·)
    else shortTag cursor
  if ← cursor.sees 0 isSpaceOrEnd then .ok (name, cursor) else .error .malformed

/-! ## Directives -/

def number (cursor : Cursor) : Except Error (Nat × Cursor) := do
  let digits := cursor.rest.takeWhile Char.isDigit
  let _ ← cursor.peek digits.length
  if digits = [] then .error .malformed
  else if digits.length > maxDigits then .error (.fault (.tooManyDigits digits.length))
  else .ok (numberOf 10 digits, ← cursor.skip digits.length)

def version (cursor : Cursor) : Except Error (Directive × Cursor) := do
  let (major, cursor) ← number (← cursor.skipWhile (· = ' '))
  if (← cursor.peek 0) ≠ '.' then .error .malformed
  else
    let (minor, cursor) ← number (← cursor.skip 1)
    if ← cursor.sees 0 isSpaceOrEnd then .ok (.version major minor, cursor)
    else .error .malformed

/-- A handle and what it stands for. -/
def tagHandle (cursor : Cursor) : Except Error (Directive × Cursor) := do
  let (handle, cursor) ← handle (← cursor.skipWhile (· = ' '))
  if (← cursor.peek 0) ≠ ' ' then .error .malformed
  else
    let (head, cursor) ← suffix (← cursor.skipWhile (· = ' '))
    if ← cursor.sees 0 isSpaceOrEnd then .ok (.tag handle head, cursor) else .error .malformed

/-- A directive with the rest of its line. -/
def directive (cursor : Cursor) : Except Error (Directive × Cursor) := do
  let (name, cursor) ← (← cursor.skip 1).takeWhile isNameChar
  if name = [] ∨ !(← cursor.sees 0 isSpaceOrEnd) then .error .malformed
  else
    let (value, cursor) ←
      if name = "YAML".toList then version cursor
      else if name = "TAG".toList then tagHandle cursor
      else (cursor.skipWhile (!isLineEnd ·)).map (.unknown, ·)
    .ok (value, ← Block.endOfLine cursor)

end FileRouting.Yaml.Name
