import FileRouting.Yaml.Stream

/-!
# Places in a stream

A cursor is what is left of a stream of some size, with the number of characters before it and
their last line and column. A byte order mark takes no column. Looking further than the characters
of the stream gives the end mark, or the error that lies behind them. A step forward looks at the
character that it leads to.
-/

namespace FileRouting.Yaml

structure Cursor where
  rest : List Char
  behind : Option Error
  size : Nat
  index : Nat
  line : Nat
  column : Nat

namespace Cursor

def start (stream : Stream) : Cursor :=
  ⟨stream.text, stream.behind, stream.text.length, 0, 0, 0⟩

/-- How many characters are left. -/
def left (cursor : Cursor) : Nat :=
  cursor.size - cursor.index

/-- The character some places ahead. -/
def peek (cursor : Cursor) (ahead : Nat) : Except Error Char :=
  match cursor.rest[ahead]?, cursor.behind with
  | some c, _ => .ok c
  | none, none => .ok endMark
  | none, some error => .error error

/-- Whether the character some places ahead is in a class. -/
def sees (cursor : Cursor) (ahead : Nat) (accepts : Char → Bool) : Except Error Bool :=
  (cursor.peek ahead).map accepts

/-- The place behind the next character. -/
def next (cursor : Cursor) : Cursor :=
  match cursor.rest with
  | [] => cursor
  | c :: rest =>
    let cursor := { cursor with rest, index := cursor.index + 1 }
    if isBreak c then { cursor with line := cursor.line + 1, column := 0 }
    else if c = '\ufeff' then cursor
    else { cursor with column := cursor.column + 1 }

/-- The place behind some characters. -/
def skip (cursor : Cursor) (count : Nat) : Except Error Cursor := do
  let _ ← cursor.peek count
  .ok (count.repeat next cursor)

/-- The characters ahead that are in a class, and the place behind them. -/
def takeWhile (cursor : Cursor) (accepts : Char → Bool) : Except Error (List Char × Cursor) := do
  let taken := cursor.rest.takeWhile accepts
  .ok (taken, ← cursor.skip taken.length)

/-- The place behind the characters of a class. -/
def skipWhile (cursor : Cursor) (accepts : Char → Bool) : Except Error Cursor :=
  (cursor.takeWhile accepts).map (·.2)

/-- Takes a line break, if there is one. Those of the Latin ranges are all read as a newline. -/
def lineBreak (cursor : Cursor) : Except Error (List Char × Cursor) := do
  let c ← cursor.peek 0
  if !isBreak c then .ok ([], cursor)
  else
    let after ← cursor.peek 1
    let width := if c = '\r' ∧ after = '\n' then 2 else 1
    .ok ([if c = '\u2028' ∨ c = '\u2029' then c else '\n'], ← cursor.skip width)

/-- Whether `---` or `...` stands here as a document mark. -/
def atDocumentMark (cursor : Cursor) : Except Error Bool := do
  let _ ← cursor.peek 2
  let mark := cursor.rest.take 3
  if mark = ['-', '-', '-'] ∨ mark = ['.', '.', '.'] then cursor.sees 3 isBlankOrEnd else .ok false

/-- The place behind a comment, if there is one. -/
def skipComment (cursor : Cursor) : Except Error Cursor := do
  if (← cursor.peek 0) = '#' then cursor.skipWhile (!isLineEnd ·) else .ok cursor

end Cursor

end FileRouting.Yaml
