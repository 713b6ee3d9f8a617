import FileRouting.Text.Numeral
import FileRouting.Yaml.Cursor

/-!
# Quoted scalars

Text between quotes may run over several lines: a break between two lines is read as a space, and of
more breaks the first is dropped. In single quotes a quote is written twice; in double quotes a
backslash starts an escape, and one at the end of a line joins it with the next.
-/

namespace FileRouting.Yaml.Quoted

open FileRouting.Text

/-! ## Escapes -/

/-- The character that one character behind a backslash stands for. -/
def escape? : Char → Option Char
  | '0' => some '\x00'
  | 'a' => some '\x07'
  | 'b' => some '\x08'
  | 't' => some '\t'
  | '\t' => some '\t'
  | 'n' => some '\n'
  | 'v' => some '\x0b'
  | 'f' => some '\x0c'
  | 'r' => some '\r'
  | 'e' => some '\x1b'
  | ' ' => some ' '
  | '"' => some '"'
  | '\\' => some '\\'
  | '/' => some '/'
  | 'N' => some '\x85'
  | '_' => some '\xa0'
  | 'L' => some '\u2028'
  | 'P' => some '\u2029'
  | _ => none

/-- How many digits follow a character behind a backslash. -/
def escapeDigits? : Char → Option Nat
  | 'x' => some 2
  | 'u' => some 4
  | 'U' => some 8
  | _ => none

/-- The number that some hexadecimal digits ahead write. -/
def hexNumber (cursor : Cursor) (count : Nat) : Except Error Nat := do
  for ahead in List.range count do
    if !isDigitOf 16 (← cursor.peek ahead) then throw .malformed
  return numberOf 16 (cursor.rest.take count)

/-- The code point that an escape by number stands for. -/
def numbered (count : Nat) (cursor : Cursor) : Except Error (Glyph × Cursor) := do
  let number ← hexNumber cursor count
  if number < 0x110000 then .ok (.ofNumber number, ← cursor.skip count)
  else .error (.fault (.character number))

/-! ## Lines -/

/-- The breaks of empty lines. A document mark may not stand among them. -/
def emptyLines : (fuel : Nat) → Cursor → Except Error (List Char × Cursor)
  | 0, _ => .error .malformed
  | fuel + 1, cursor => do
    if ← cursor.atDocumentMark then .error .malformed
    else
      let cursor ← cursor.skipWhile isSpaceOrTab
      if ← cursor.sees 0 isBreak then
        let (lineBreak, cursor) ← cursor.lineBreak
        let (breaks, cursor) ← emptyLines fuel cursor
        .ok (lineBreak ++ breaks, cursor)
      else .ok ([], cursor)

/-- The blanks and breaks between two words. -/
def gap (fuel : Nat) (cursor : Cursor) : Except Error (List Char × Cursor) := do
  let (blanks, cursor) ← cursor.takeWhile isSpaceOrTab
  let c ← cursor.peek 0
  if c = endMark then .error .malformed
  else if isBreak c then
    let (lineBreak, cursor) ← cursor.lineBreak
    let (breaks, cursor) ← emptyLines fuel cursor
    let first := if lineBreak ≠ ['\n'] then lineBreak else if breaks = [] then [' '] else []
    .ok (first ++ breaks, cursor)
  else .ok (blanks, cursor)

/-! ## Words -/

/-- Characters that mean nothing special in quotes. -/
def isOrdinary (c : Char) : Bool :=
  !isBlankOrEnd c && c != '\'' && c != '"' && c != '\\'

/-- What stands behind a backslash: the text it stands for. -/
def escaped (fuel : Nat) (cursor : Cursor) : Except Error (RawText × Cursor) := do
  let c ← cursor.peek 0
  match escape? c, escapeDigits? c with
  | some replaced, _ => .ok ([.char replaced], ← cursor.skip 1)
  | none, some count =>
    let (glyph, cursor) ← numbered count (← cursor.skip 1)
    .ok ([glyph], cursor)
  | none, none =>
    if isBreak c then
      let (_, cursor) ← cursor.lineBreak
      let (breaks, cursor) ← emptyLines fuel cursor
      .ok (.ofChars breaks, cursor)
    else .error .malformed

/-- The text that stands at a mark in a scalar in double quotes, none at its end. -/
def doubleMark (cursor : Cursor) : Except Error (Option (RawText × Cursor)) := do
  match ← cursor.peek 0 with
  | '\'' => .ok (some ([.char '\''], ← cursor.skip 1))
  | '\\' => (escaped (cursor.left + 1) (← cursor.skip 1)).map some
  | _ => .ok none

/-- The text that stands at a mark in a scalar in single quotes, none at its end. -/
def singleMark (cursor : Cursor) : Except Error (Option (RawText × Cursor)) := do
  let c ← cursor.peek 0
  if c = '\'' then
    if (← cursor.peek 1) = '\'' then .ok (some ([.char c], ← cursor.skip 2)) else .ok none
  else if c = '"' ∨ c = '\\' then .ok (some ([.char c], ← cursor.skip 1))
  else .ok none

/-- The text up to the next blank, break or closing quote. -/
def word (double : Bool) : (fuel : Nat) → Cursor → Except Error (RawText × Cursor)
  | 0, _ => .error .malformed
  | fuel + 1, cursor => do
    let (ordinary, cursor) ← cursor.takeWhile isOrdinary
    match ← if double then doubleMark cursor else singleMark cursor with
    | none => .ok (.ofChars ordinary, cursor)
    | some (text, cursor) =>
      let (rest, cursor) ← word double fuel cursor
      .ok (.ofChars ordinary ++ text ++ rest, cursor)

/-- The words and gaps up to the closing quote. -/
def body (quote : Char) : (fuel : Nat) → Cursor → Except Error (RawText × Cursor)
  | 0, _ => .error .malformed
  | fuel + 1, cursor => do
    let (text, cursor) ← word (quote = '"') (cursor.left + 1) cursor
    if (← cursor.peek 0) = quote then .ok (text, ← cursor.skip 1)
    else
      let (blanks, cursor) ← gap (cursor.left + 1) cursor
      let (rest, cursor) ← body quote fuel cursor
      .ok (text ++ .ofChars blanks ++ rest, cursor)

/-- A quoted scalar. -/
def read (cursor : Cursor) : Except Error (RawText × Cursor) := do
  let quote ← cursor.peek 0
  let cursor ← cursor.skip 1
  body quote (cursor.left + 1) cursor

end FileRouting.Yaml.Quoted
