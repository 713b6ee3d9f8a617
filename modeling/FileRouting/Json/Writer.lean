import FileRouting.Value

/-!
# Writing JSON

A value is written on one line of ASCII characters, with a blank after each comma and colon. What
JSON has no form for is written as the text of its display form.
-/

namespace FileRouting.Json

open FileRouting.Text FileRouting.Number

/-! ## Texts -/

def unitEscape (unit : Nat) : List Char :=
  '\\' :: 'u' :: paddedHexadecimal 4 unit

/-- A character of a text. A character beyond 16 bits is written as two units. -/
def escape (c : Char) : List Char :=
  if c = '"' ∨ c = '\\' then ['\\', c]
  else if c = '\n' then ['\\', 'n']
  else if c = '\r' then ['\\', 'r']
  else if c = '\t' then ['\\', 't']
  else if c = '\x08' then ['\\', 'b']
  else if c = '\x0c' then ['\\', 'f']
  else if ' ' ≤ c ∧ c ≤ '~' then [c]
  else if c.toNat < 0x10000 then unitEscape c.toNat
  else
    let number := c.toNat - 0x10000
    unitEscape (0xD800 + number / 0x400) ++ unitEscape (0xDC00 + number % 0x400)

/-- A code point of a text. -/
def escapeGlyph : Glyph → List Char
  | .char c => escape c
  | .surrogate number => unitEscape number

/-- A raw text between double quotes. -/
def rawForm (text : RawText) : List Char :=
  '"' :: text.flatMap escapeGlyph ++ ['"']

/-- A text between double quotes. -/
def textForm (text : List Char) : List Char :=
  '"' :: text.flatMap escape ++ ['"']

/-! ## Values -/

/-- Numbers look as in literals, but the names of infinity and of what is no number differ. -/
def floatStyle : Style :=
  { Value.floatStyle with infinity := "Infinity".toList, notANumber := "NaN".toList }

/-- The text that a key of an object is written as. -/
def keyText : Value → List Char
  | .text s => s.toList
  | .null => "null".toList
  | .bool true => "true".toList
  | .bool false => "false".toList
  | .int n => signedDecimal n
  | .float x => floatStyle.text x
  | key => key.display.toList

mutual

def form : Value → List Char
  | .null => "null".toList
  | .bool true => "true".toList
  | .bool false => "false".toList
  | .int n => signedDecimal n
  | .float x => floatStyle.text x
  | .text s => textForm s.toList
  | .raw s => rawForm s
  | .list items => '[' :: itemsForm items ++ [']']
  | .pair key value => '[' :: form key ++ ',' :: ' ' :: form value ++ [']']
  | .mapping entries => '\x7b' :: entriesForm entries ++ ['\x7d']
  | .bytes b => textForm (quotedBytes b)
  | .time stamp => textForm (stamp.isoTextWith ' ')
  | .set items => textForm (Value.set items).literalText
  | .part number => decimal number

def itemsForm : List Value → List Char
  | [] => []
  | [item] => form item
  | item :: items => form item ++ ',' :: ' ' :: itemsForm items

def entriesForm : List (Value × Value) → List Char
  | [] => []
  | [(key, value)] => textForm (keyText key) ++ ':' :: ' ' :: form value
  | (key, value) :: entries =>
    textForm (keyText key) ++ ':' :: ' ' :: form value ++ ',' :: ' ' :: entriesForm entries

end

def write (value : Value) : String :=
  String.ofList (form value)

end FileRouting.Json
