import FileRouting.Text.Numeral
import FileRouting.Text.Printable
import FileRouting.Text.Raw

/-!
# Quoted text

Text between quotes on one line of printable characters. Single quotes are used unless the text
holds a single quote and no double quote. The quote, the backslash and what is not printable are
escaped.
-/

namespace FileRouting.Text

def quoteFor (text : List Char) : Char :=
  if '\'' ∈ text ∧ '"' ∉ text then '"' else '\''

/-- The escape of a character by its number: two digits below 256, four below 65536, else eight. -/
def numberEscape (number : Nat) : List Char :=
  if number < 0x100 then '\\' :: 'x' :: paddedHexadecimal 2 number
  else if number < 0x10000 then '\\' :: 'u' :: paddedHexadecimal 4 number
  else '\\' :: 'U' :: paddedHexadecimal 8 number

/-- A character as it stands between the quotes. -/
def escape (quote c : Char) : List Char :=
  if c = quote ∨ c = '\\' then ['\\', c]
  else if c = '\t' then ['\\', 't']
  else if c = '\n' then ['\\', 'n']
  else if c = '\r' then ['\\', 'r']
  else if isPrintable c then [c]
  else numberEscape c.toNat

def quoted (text : List Char) : List Char :=
  quoteFor text :: text.flatMap (escape (quoteFor text)) ++ [quoteFor text]

def quote (text : String) : String :=
  String.ofList (quoted text.toList)

/-- A code point as it stands between the quotes. -/
def escapeGlyph (quote : Char) : Glyph → List Char
  | .char c => escape quote c
  | .surrogate number => numberEscape number

/-- A raw text in quotes. Surrogates are escaped by their number. -/
def quotedRaw (text : RawText) : List Char :=
  let mark := quoteFor (text.filterMap Glyph.char?)
  mark :: text.flatMap (escapeGlyph mark) ++ [mark]

theorem quotedRaw_ofChars (text : List Char) : quotedRaw (.ofChars text) = quoted text := by
  have hchars : (RawText.ofChars text).filterMap Glyph.char? = text := by
    simp [RawText.ofChars, List.filterMap_map, Function.comp_def, Glyph.char?]
  have hescapes (mark : Char) :
      (RawText.ofChars text).flatMap (escapeGlyph mark) = text.flatMap (escape mark) := by
    simp [RawText.ofChars, List.flatMap_map, escapeGlyph]
  simp only [quotedRaw, quoted, hchars, hescapes]

/-- Bytes in quotes after a `b`; bytes beyond ASCII are escaped by their number. -/
def quotedBytes (bytes : List UInt8) : List Char :=
  let text := bytes.map fun b => Char.ofNat b.toNat
  let mark := quoteFor text
  let escapeByte := fun (c : Char) => if c.toNat < 0x7F then escape mark c else numberEscape c.toNat
  'b' :: mark :: text.flatMap escapeByte ++ [mark]

end FileRouting.Text
