import FileRouting.Yaml.Name
import FileRouting.Yaml.Plain

/-!
# Reading tokens

Tokens are read from left to right. Indentation opens and closes block collections. What turns out
to be a key only shows at the colon behind it, so every place where a key could start is remembered,
one for each depth of flow collections, until the line ends; at the colon the tokens of the key are
put in before it. So a token can be handed out once no key can start at it or before it any more. An
error ends the reading behind the tokens that could be handed out by then.
-/

namespace FileRouting.Yaml

open FileRouting.Text

/-- A place where a key could start: the number of tokens before it, and whether no other thing can
stand there. -/
structure KeyPlace where
  tokens : Nat
  required : Bool
  index : Nat
  line : Nat
  column : Nat

/-- The state of reading: the tokens so far, the last first, and what the next ones depend on. A
closing bracket that nothing has opened takes the depth below zero. -/
structure Lexer where
  cursor : Cursor
  tokens : List Token
  count : Nat
  indent : Int
  indents : List Int
  depth : Int
  keyAllowed : Bool
  keys : List (Int × KeyPlace)

namespace Lexer

def start (stream : Stream) : Lexer :=
  ⟨.start stream, [], 0, -1, [], 0, true, []⟩

/-- Whether the place is outside of all flow collections. -/
def inBlock (lexer : Lexer) : Bool :=
  lexer.depth = 0

def add (lexer : Lexer) (token : Token) : Lexer :=
  { lexer with tokens := token :: lexer.tokens, count := lexer.count + 1 }

/-- Puts a token in behind the first `place` tokens. -/
def insert (lexer : Lexer) (place : Nat) (token : Token) : Lexer :=
  let later := lexer.count - place
  { lexer with
    tokens := lexer.tokens.take later ++ token :: lexer.tokens.drop later
    count := lexer.count + 1 }

/-! ## Indentation -/

/-- Closes the block collections that are indented further than a column. -/
def unindent (lexer : Lexer) (column : Int) : Lexer :=
  if lexer.inBlock then close lexer.indents lexer else lexer
where
  close : List Int → Lexer → Lexer
    | [], lexer => lexer
    | outer :: indents, lexer =>
      if lexer.indent > column then
        close indents { lexer.add .blockEnd with indent := outer, indents }
      else lexer

/-- Whether a block collection starts at a column, and the state with it open. -/
def indentTo (lexer : Lexer) (column : Nat) : Bool × Lexer :=
  if lexer.indent < column then
    (true, { lexer with indent := column, indents := lexer.indent :: lexer.indents })
  else (false, lexer)

/-- Opens a block collection at the column of the next token if it is not open yet. Outside of flow
collections, what starts one must stand where a key could. -/
def openBlock (lexer : Lexer) (token : Token) : Except Error Lexer :=
  if !lexer.inBlock then .ok lexer
  else if !lexer.keyAllowed then .error .malformed
  else
    match lexer.indentTo lexer.cursor.column with
    | (true, lexer) => .ok (lexer.add token)
    | (false, lexer) => .ok lexer

/-! ## Possible keys -/

/-- Forgets the possible key of this depth, which must not be a required one. -/
def dropKey (lexer : Lexer) : Except Error Lexer :=
  match lexer.keys.lookup lexer.depth with
  | some place =>
    if place.required then .error .malformed
    else .ok { lexer with keys := lexer.keys.filter (·.1 ≠ lexer.depth) }
  | none => .ok lexer

/-- Remembers that a key could start here. -/
def saveKey (lexer : Lexer) : Except Error Lexer :=
  if lexer.keyAllowed then do
    let lexer ← lexer.dropKey
    let cursor := lexer.cursor
    let required := lexer.inBlock && lexer.indent = cursor.column
    let place : KeyPlace := ⟨lexer.count, required, cursor.index, cursor.line, cursor.column⟩
    .ok { lexer with keys := (lexer.depth, place) :: lexer.keys }
  else .ok lexer

/-- Whether a possible key is out of reach: on another line or too far back. -/
def isStale (cursor : Cursor) (place : KeyPlace) : Bool :=
  place.line ≠ cursor.line ∨ cursor.index - place.index > 1024

/-- Forgets the possible keys that are out of reach. -/
def dropStale (lexer : Lexer) : Except Error Lexer :=
  if lexer.keys.any fun key => isStale lexer.cursor key.2 && key.2.required then .error .malformed
  else .ok { lexer with keys := lexer.keys.filter fun key => !isStale lexer.cursor key.2 }

/-- How many tokens can be handed out: those before the first possible key. -/
def ready (lexer : Lexer) : Nat :=
  lexer.keys.foldl (fun least key => min least key.2.tokens) lexer.count

/-! ## Between tokens -/

/-- Skips blanks, comments and breaks. A break outside of flow collections allows a key. -/
def skipGap : (fuel : Nat) → Lexer → Except Error Lexer
  | 0, lexer => .ok lexer
  | fuel + 1, lexer => do
    let cursor ← (← lexer.cursor.skipWhile (· = ' ')).skipComment
    if ← cursor.sees 0 isBreak then
      let (_, cursor) ← cursor.lineBreak
      skipGap fuel { lexer with cursor, keyAllowed := lexer.keyAllowed || lexer.inBlock }
    else .ok { lexer with cursor }

/-- Skips a byte order mark at the start of the stream. -/
def skipMark (lexer : Lexer) : Except Error Lexer := do
  if lexer.cursor.index = 0 ∧ (← lexer.cursor.peek 0) = '\ufeff' then
    .ok { lexer with cursor := ← lexer.cursor.skip 1 }
  else .ok lexer

/-! ## Tokens -/

/-- Adds a token that has been read up to a place. -/
def addAt (lexer : Lexer) (token : Token) (cursor : Cursor) : Lexer :=
  { lexer.add token with cursor }

/-- Adds a token of some characters. -/
def addSpan (lexer : Lexer) (token : Token) (length : Nat) : Except Error Lexer := do
  .ok (lexer.addAt token (← lexer.cursor.skip length))

/-- A mark between documents, or a directive, closes all collections. -/
def betweenDocuments (lexer : Lexer) : Except Error Lexer := do
  let lexer ← (lexer.unindent (-1)).dropKey
  .ok { lexer with keyAllowed := false }

def directive (lexer : Lexer) : Except Error Lexer := do
  let lexer ← lexer.betweenDocuments
  let (directive, cursor) ← Name.directive lexer.cursor
  .ok (lexer.addAt (.directive directive) cursor)

def documentMark (lexer : Lexer) (token : Token) : Except Error Lexer := do
  (← lexer.betweenDocuments).addSpan token 3

def flowStart (lexer : Lexer) (token : Token) : Except Error Lexer := do
  let lexer ← lexer.saveKey
  { lexer with depth := lexer.depth + 1, keyAllowed := true }.addSpan token 1

def flowEnd (lexer : Lexer) (token : Token) : Except Error Lexer := do
  let lexer ← lexer.dropKey
  { lexer with depth := lexer.depth - 1, keyAllowed := false }.addSpan token 1

def flowEntry (lexer : Lexer) : Except Error Lexer := do
  let lexer ← lexer.dropKey
  { lexer with keyAllowed := true }.addSpan .flowEntry 1

/-- An entry of a block sequence, which starts at its column if it is not open yet. -/
def blockEntry (lexer : Lexer) : Except Error Lexer := do
  let lexer ← lexer.openBlock .blockSequenceStart
  let lexer ← { lexer with keyAllowed := true }.dropKey
  lexer.addSpan .entry 1

/-- A key or value with a mark of its own. -/
def marked (lexer : Lexer) (token : Token) : Except Error Lexer := do
  let lexer ← lexer.openBlock .blockMappingStart
  let lexer ← { lexer with keyAllowed := lexer.inBlock }.dropKey
  lexer.addSpan token 1

/-- The colon before a value: what was read since a possible key becomes the key. -/
def value (lexer : Lexer) : Except Error Lexer :=
  match lexer.keys.lookup lexer.depth with
  | some place =>
    let lexer := { lexer with keys := lexer.keys.filter (·.1 ≠ lexer.depth) }
    let lexer := lexer.insert place.tokens .key
    let lexer :=
      if lexer.inBlock then
        match lexer.indentTo place.column with
        | (true, lexer) => lexer.insert place.tokens .blockMappingStart
        | (false, lexer) => lexer
      else lexer
    { lexer with keyAllowed := false }.addSpan .value 1
  | none => lexer.marked .value

/-- A token that may be a key or stand at the start of one. -/
def node (lexer : Lexer) (read : Cursor → Except Error (Token × Cursor)) :
    Except Error Lexer := do
  let lexer ← lexer.saveKey
  let (token, cursor) ← read lexer.cursor
  .ok { lexer.addAt token cursor with keyAllowed := false }

def blockScalar (lexer : Lexer) : Except Error Lexer := do
  let lexer ← { lexer with keyAllowed := true }.dropKey
  let (text, cursor) ← Block.read lexer.indent lexer.cursor
  .ok (lexer.addAt (.scalar (.ofChars text) false) cursor)

def plainScalar (lexer : Lexer) : Except Error Lexer := do
  let lexer ← lexer.saveKey
  let scalar ← Plain.read (!lexer.inBlock) (lexer.indent + 1) lexer.cursor
  .ok { lexer.addAt (.scalar (.ofChars scalar.text) true) scalar.cursor with
    keyAllowed := scalar.endsLine }

/-- A token that its first character tells, outside of scalars without quotes. -/
def byFirst? (lexer : Lexer) (c : Char) : Option (Except Error Lexer) :=
  match c with
  | '[' => some (lexer.flowStart .flowSequenceStart)
  | '\x7b' => some (lexer.flowStart .flowMappingStart)
  | ']' => some (lexer.flowEnd .flowSequenceEnd)
  | '\x7d' => some (lexer.flowEnd .flowMappingEnd)
  | ',' => some lexer.flowEntry
  | '*' =>
    some (lexer.node fun cursor =>
      (Name.anchor cursor).map fun (name, cursor) => (.alias name, cursor))
  | '&' =>
    some (lexer.node fun cursor =>
      (Name.anchor cursor).map fun (name, cursor) => (.anchor name, cursor))
  | '!' =>
    some (lexer.node fun cursor =>
      (Name.tag cursor).map fun (name, cursor) => (.tag name, cursor))
  | '\'' | '"' =>
    some (lexer.node fun cursor =>
      (Quoted.read cursor).map fun (text, cursor) => (.scalar text false, cursor))
  | _ => none

/-- Reads a token at a hyphen, a question mark or a colon, which may start a scalar without quotes
or be a mark by itself. -/
def markOrPlain (lexer : Lexer) (c : Char) : Except Error Lexer := do
  let apart ← lexer.cursor.sees 1 isBlankOrEnd
  if c = '-' then
    if apart then lexer.blockEntry else lexer.plainScalar
  else if apart ∨ !lexer.inBlock then
    if c = '?' then lexer.marked .key else lexer.value
  else lexer.plainScalar

/-- Refuses a character that no token starts with, once the one behind it has been looked at. -/
def refuse (lexer : Lexer) : Except Error Lexer := do
  let _ ← lexer.cursor.peek 1
  .error .malformed

/-- Whether a document mark stands here, of which the first character is known. -/
def atDocumentMark (lexer : Lexer) (c : Char) : Except Error Bool :=
  if (c = '-' ∨ c = '.') ∧ lexer.cursor.column = 0 then lexer.cursor.atDocumentMark else .ok false

/-- Reads the next token, which starts with a character that is no blank. -/
def token (lexer : Lexer) (c : Char) : Except Error Lexer := do
  if c = '%' ∧ lexer.cursor.column = 0 then lexer.directive
  else if ← lexer.atDocumentMark c then
    lexer.documentMark (if c = '-' then .documentStart else .documentEnd)
  else
    match lexer.byFirst? c with
    | some read => read
    | none =>
      if c = '-' ∨ c = '?' ∨ c = ':' then lexer.markOrPlain c
      else if (c = '|' ∨ c = '>') ∧ lexer.inBlock then lexer.blockScalar
      else if isBlankOrEnd c ∨ isIndicator c then lexer.refuse
      else lexer.plainScalar

/-- The end of the stream closes all collections. -/
def finish (lexer : Lexer) : Except Error Lexer := do
  let lexer ← (lexer.unindent (-1)).dropKey
  .ok { lexer with keys := [] }

/-- Reads the next token, or finds the end of the stream. -/
def step (lexer : Lexer) : Except Error (Lexer × Bool) := do
  let lexer ← lexer.skipMark
  let lexer ← skipGap (lexer.cursor.left + 1) lexer
  let lexer ← lexer.dropStale
  let lexer := lexer.unindent lexer.cursor.column
  let c ← lexer.cursor.peek 0
  if c = endMark then .ok (← lexer.finish, true) else .ok (← lexer.token c, false)

/-- The tokens that were handed out before an error. -/
def cut (lexer : Lexer) (handedOut : Nat) (error : Error) : Tokens :=
  ⟨lexer.tokens.reverse.take handedOut, some error⟩

/-- Reads the tokens that are left, of which some have been handed out. Every token takes at least
one character. -/
def run : (fuel : Nat) → (handedOut : Nat) → Lexer → Tokens
  | 0, handedOut, lexer => lexer.cut handedOut .malformed
  | fuel + 1, handedOut, lexer =>
    match lexer.dropStale with
    | .error error => lexer.cut handedOut error
    | .ok lexer =>
      match lexer.step with
      | .error error => lexer.cut lexer.ready error
      | .ok (lexer, true) => ⟨lexer.tokens.reverse, none⟩
      | .ok (next, false) => run fuel lexer.ready next

end Lexer

def Tokens.ofStream (stream : Stream) : Tokens :=
  (Lexer.start stream).run (stream.text.length + 2) 0

end FileRouting.Yaml
