import FileRouting.Text.Numeral
import FileRouting.Yaml.Cursor

/-!
# Block scalars

A block scalar takes the lines below its mark that are indented. A literal one keeps their breaks;
in a folded one a break between two lines that start without a blank is read as a space. The breaks
at the end are kept, cut to one, or dropped.
-/

namespace FileRouting.Yaml.Block

open FileRouting.Text

/-- What happens to the breaks at the end. -/
inductive Chomping
  | keep
  | clip
  | strip
deriving DecidableEq

/-- What stands behind the mark. -/
structure Header where
  chomping : Chomping
  indentation : Option Nat

/-- The chomping at a place, if there is one. -/
def chomping (cursor : Cursor) : Except Error (Option Chomping × Cursor) := do
  match ← cursor.peek 0 with
  | '+' => .ok (some .keep, ← cursor.skip 1)
  | '-' => .ok (some .strip, ← cursor.skip 1)
  | _ => .ok (none, cursor)

/-- The indentation at a place, if there is one: a digit other than zero. -/
def indentation (cursor : Cursor) : Except Error (Option Nat × Cursor) := do
  let c ← cursor.peek 0
  if c = '0' then .error .malformed
  else if c.isDigit then .ok (some (numberOf 10 [c]), ← cursor.skip 1)
  else .ok (none, cursor)

/-- The header: a chomping and an indentation in either order. -/
def header (cursor : Cursor) : Except Error (Header × Cursor) := do
  match ← chomping cursor with
  | (some first, cursor) =>
    let (count, cursor) ← indentation cursor
    .ok (⟨first, count⟩, cursor)
  | (none, cursor) =>
    match ← indentation cursor with
    | (none, cursor) => .ok (⟨.clip, none⟩, cursor)
    | (some count, cursor) =>
      let (second, cursor) ← chomping cursor
      .ok (⟨second.getD .clip, some count⟩, cursor)

/-- The rest of a line that may hold no more than a comment. -/
def endOfLine (cursor : Cursor) : Except Error Cursor := do
  let cursor ← (← cursor.skipWhile (· = ' ')).skipComment
  if ← cursor.sees 0 isLineEnd then cursor.lineBreak.map (·.2) else .error .malformed

/-- The breaks of the empty lines at the start, and the widest indentation among them and of the
line behind them. -/
def leading : (fuel : Nat) → (widest : Nat) → Cursor → Except Error (List Char × Nat × Cursor)
  | 0, widest, cursor => .ok ([], widest, cursor)
  | fuel + 1, widest, cursor => do
    let c ← cursor.peek 0
    if c = ' ' then
      let cursor ← cursor.skip 1
      leading fuel (max widest cursor.column) cursor
    else if isBreak c then
      let (lineBreak, cursor) ← cursor.lineBreak
      let (breaks, widest, cursor) ← leading fuel widest cursor
      .ok (lineBreak ++ breaks, widest, cursor)
    else .ok ([], widest, cursor)

/-- Spaces up to an indentation. -/
def indentTo (indent : Nat) : (fuel : Nat) → Cursor → Except Error Cursor
  | 0, cursor => .ok cursor
  | fuel + 1, cursor => do
    if cursor.column < indent then
      if (← cursor.peek 0) = ' ' then indentTo indent fuel (← cursor.skip 1) else .ok cursor
    else .ok cursor

/-- The breaks of empty lines, and the indentation of the line behind them. -/
def emptyLines (indent : Nat) : (fuel : Nat) → Cursor → Except Error (List Char × Cursor)
  | 0, cursor => .ok ([], cursor)
  | fuel + 1, cursor => do
    let cursor ← indentTo indent indent cursor
    if ← cursor.sees 0 isBreak then
      let (lineBreak, cursor) ← cursor.lineBreak
      let (breaks, cursor) ← emptyLines indent fuel cursor
      .ok (lineBreak ++ breaks, cursor)
    else .ok ([], cursor)

/-- Whether a line of the scalar starts here. -/
def startsLine (indent : Nat) (cursor : Cursor) : Except Error Bool :=
  if cursor.column = indent then cursor.sees 0 (· ≠ endMark) else .ok false

/-- The lines of a scalar: their text, the last break, and the breaks behind it. -/
structure Lines where
  text : List Char
  lastBreak : List Char
  breaks : List Char
  cursor : Cursor

def lines (folded : Bool) (indent : Nat) : (fuel : Nat) → (breaks : List Char) → Cursor →
    Except Error Lines
  | 0, breaks, cursor => .ok ⟨[], [], breaks, cursor⟩
  | fuel + 1, breaks, cursor => do
    if ← startsLine indent cursor then
      let startsFull ← cursor.sees 0 (!isSpaceOrTab ·)
      let (line, cursor) ← cursor.takeWhile (!isLineEnd ·)
      let (lineBreak, cursor) ← cursor.lineBreak
      let (after, cursor) ← emptyLines indent (cursor.left + 1) cursor
      if ← startsLine indent cursor then
        let folds := folded && lineBreak = ['\n'] && startsFull
        let joint :=
          if folds && (← cursor.sees 0 (!isSpaceOrTab ·)) then
            if after = [] then [' '] else []
          else lineBreak
        let rest ← lines folded indent fuel after cursor
        .ok { rest with text := breaks ++ line ++ joint ++ rest.text }
      else .ok ⟨breaks ++ line, lineBreak, after, cursor⟩
    else .ok ⟨[], [], breaks, cursor⟩

/-- The indentation of a scalar that is at least as wide as `least`, and the breaks of the empty
lines at its start. -/
def indentOf (least : Nat) (header : Header) (cursor : Cursor) :
    Except Error (Nat × List Char × Cursor) := do
  let fuel := cursor.left + 1
  match header.indentation with
  | none =>
    let (breaks, widest, cursor) ← leading fuel 0 cursor
    .ok (max least widest, breaks, cursor)
  | some count =>
    let indent := least + count - 1
    let (breaks, cursor) ← emptyLines indent fuel cursor
    .ok (indent, breaks, cursor)

/-- The text of the lines with what is left of the breaks at their end. -/
def Lines.chomped (lines : Lines) : Chomping → List Char
  | .strip => lines.text
  | .clip => lines.text ++ lines.lastBreak
  | .keep => lines.text ++ lines.lastBreak ++ lines.breaks

/-- A block scalar in a collection with an indentation, -1 outside of all collections. -/
def read (outer : Int) (cursor : Cursor) : Except Error (List Char × Cursor) := do
  let folded := (← cursor.peek 0) = '>'
  let (header, cursor) ← header (← cursor.skip 1)
  if !(← cursor.sees 0 isSpaceOrEnd) then throw .malformed
  let cursor ← endOfLine cursor
  let (indent, breaks, cursor) ← indentOf (max 1 (outer + 1).toNat) header cursor
  let lines ← lines folded indent (cursor.left + 1) breaks cursor
  .ok (lines.chomped header.chomping, lines.cursor)

end FileRouting.Yaml.Block
