import FileRouting.Yaml.Cursor

/-!
# Plain scalars

A plain scalar is text without quotes. It ends at a colon or a comment that stands behind or before
a blank, at the marks of a flow collection it is in, and at a line that is not indented far enough.
Breaks are read as in quotes.
-/

namespace FileRouting.Yaml.Plain

/-- The text up to the next blank or break or to the end of the scalar. -/
def wordOf (inFlow : Bool) : List Char → List Char
  | [] => []
  | c :: text =>
    let after := text.headD endMark
    let colonEnds := isBlankOrEnd after || (inFlow && (isFlowMark after && after != '?'))
    if isBlankOrEnd c || (c = ':' && colonEnds) || (inFlow && isFlowMark c) then []
    else c :: wordOf inFlow text

/-- The word at a place and the place behind it. A colon is looked at with the character behind
it. -/
def word (inFlow : Bool) (cursor : Cursor) : Except Error (List Char × Cursor) := do
  let word := wordOf inFlow cursor.rest
  if (← cursor.peek word.length) = ':' then
    let _ ← cursor.peek (word.length + 1)
  .ok (word, ← cursor.skip word.length)

/-- What stands between two words: the text it is read as, and whether a line ends in it. A scalar
that ends here has no text for it. -/
structure Gap where
  text : Option (List Char)
  endsLine : Bool
  cursor : Cursor

/-- The breaks of empty lines and the indentation behind them; none at a document mark. -/
def emptyLines : (fuel : Nat) → Cursor → Except Error (Option (List Char) × Cursor)
  | 0, cursor => .ok (none, cursor)
  | fuel + 1, cursor => do
    let cursor ← cursor.skipWhile (· = ' ')
    if ← cursor.sees 0 isBreak then
      let (lineBreak, cursor) ← cursor.lineBreak
      if ← cursor.atDocumentMark then .ok (none, cursor)
      else
        let (breaks, cursor) ← emptyLines fuel cursor
        .ok (breaks.map (lineBreak ++ ·), cursor)
    else .ok (some [], cursor)

/-- The gap behind a word. -/
def gap (cursor : Cursor) : Except Error Gap := do
  let (blanks, cursor) ← cursor.takeWhile (· = ' ')
  if ← cursor.sees 0 isBreak then
    let (lineBreak, cursor) ← cursor.lineBreak
    if ← cursor.atDocumentMark then .ok ⟨none, true, cursor⟩
    else
      let (breaks, cursor) ← emptyLines (cursor.left + 1) cursor
      let text := breaks.map fun breaks =>
        (if lineBreak ≠ ['\n'] then lineBreak else if breaks = [] then [' '] else []) ++ breaks
      .ok ⟨text, true, cursor⟩
  else .ok ⟨if blanks = [] then none else some blanks, false, cursor⟩

/-- A plain scalar that is read: its text, and whether a line ended behind its last word. -/
structure Scalar where
  text : List Char
  endsLine : Bool
  cursor : Cursor

/-- The words of a scalar with lines indented by at least `indent`, behind some text and a gap. -/
def words (inFlow : Bool) (indent : Int) : (fuel : Nat) → (text blanks : List Char) →
    (endsLine : Bool) → Cursor → Except Error Scalar
  | 0, text, _, endsLine, cursor => .ok ⟨text, endsLine, cursor⟩
  | fuel + 1, text, blanks, endsLine, cursor => do
    if (← cursor.peek 0) = '#' then .ok ⟨text, endsLine, cursor⟩
    else
      let (word, behind) ← word inFlow cursor
      if word = [] then .ok ⟨text, endsLine, cursor⟩
      else
        let gap ← gap behind
        let text := text ++ blanks ++ word
        match gap.text with
        | none => .ok ⟨text, gap.endsLine, gap.cursor⟩
        | some blanks =>
          let indented := inFlow ∨ indent ≤ (gap.cursor.column : Int)
          if (← gap.cursor.peek 0) = '#' ∨ ¬ indented then .ok ⟨text, gap.endsLine, gap.cursor⟩
          else words inFlow indent fuel text blanks gap.endsLine gap.cursor

def read (inFlow : Bool) (indent : Int) (cursor : Cursor) : Except Error Scalar :=
  words inFlow indent (cursor.left + 1) [] [] false cursor

end FileRouting.Yaml.Plain
