import FileRouting.Text.Raw
import FileRouting.Text.Regex

/-!
# Types of nodes

A node has the type that its tag names. The type of a scalar without quotes and without a tag shows
in its text.
-/

namespace FileRouting.Yaml

open FileRouting.Text

/-- The types of nodes. -/
inductive Tag
  | null
  | bool
  | int
  | float
  | timestamp
  | binary
  | text
  | merge
  | default
  | sequence
  | mapping
  | set
  | orderedMapping
  | pairs
  | unknown
deriving DecidableEq, Repr

namespace Tag

/-- What the standard tags start with. -/
def standardHead : String :=
  "tag:yaml.org,2002:"

/-- The standard tags by what follows their common start. -/
def standard : List (String × Tag) :=
  [("null", null), ("bool", bool), ("int", int), ("float", float), ("timestamp", timestamp),
   ("binary", binary), ("str", text), ("merge", merge), ("value", default), ("seq", sequence),
   ("map", mapping), ("set", set), ("omap", orderedMapping), ("pairs", pairs)]

/-- The type that a whole tag names. -/
def ofText (tag : String) : Tag :=
  ((standard.find? fun entry => standardHead ++ entry.1 = tag).map (·.2)).getD unknown

/-! ## Types by text -/

def digit : Regex := Regex.char Char.isDigit

def digits (count : Nat) : Regex := Regex.all (List.replicate count digit)

/-- One or two digits. -/
def shortNumber : Regex := Regex.seq digit (Regex.opt digit)

def sign : Regex := Regex.opt (Regex.oneOf "+-")

/-- Digits of some characters with underscores among them. -/
def grouped (chars : String) : Regex := Regex.star (Regex.oneOf ("_" ++ chars))

def decimalChars : String := "0123456789"

/-- The places of a number to the base of sixty. -/
def sixtieths : Regex :=
  Regex.plus (Regex.all [Regex.text ":", Regex.opt (Regex.oneOf "012345"), digit])

def boolForm : Regex :=
  Regex.words
    ["yes", "Yes", "YES", "no", "No", "NO", "true", "True", "TRUE", "false", "False", "FALSE",
     "on", "On", "ON", "off", "Off", "OFF"]

def floatForm : Regex :=
  let exponent := Regex.opt (Regex.all [Regex.oneOf "eE", Regex.oneOf "+-", Regex.plus digit])
  let whole := Regex.seq digit (grouped decimalChars)
  Regex.any
    [Regex.all [sign, whole, Regex.text ".", grouped decimalChars, exponent],
     Regex.all [Regex.text ".", digit, grouped decimalChars, exponent],
     Regex.all [sign, whole, sixtieths, Regex.text ".", grouped decimalChars],
     Regex.all [sign, Regex.words [".inf", ".Inf", ".INF"]],
     Regex.words [".nan", ".NaN", ".NAN"]]

def intForm : Regex :=
  let some := fun (chars : String) => Regex.plus (Regex.oneOf ("_" ++ chars))
  let positive := Regex.seq (Regex.oneOf "123456789") (grouped decimalChars)
  Regex.seq sign
    (Regex.any
      [Regex.seq (Regex.text "0b") (some "01"),
       Regex.seq (Regex.text "0") (some "01234567"),
       Regex.text "0",
       positive,
       Regex.seq (Regex.text "0x") (some "0123456789abcdefABCDEF"),
       Regex.seq positive sixtieths])

def nullForm : Regex := Regex.words ["~", "null", "Null", "NULL"]

def timestampForm : Regex :=
  let blanks := Regex.oneOf " \t"
  let zone :=
    Regex.any
      [Regex.text "Z",
       Regex.all [Regex.oneOf "+-", shortNumber, Regex.opt (Regex.seq (Regex.text ":") (digits 2))]]
  Regex.any
    [Regex.all [digits 4, Regex.text "-", digits 2, Regex.text "-", digits 2],
     Regex.all
      [digits 4, Regex.text "-", shortNumber, Regex.text "-", shortNumber,
       Regex.alt (Regex.oneOf "Tt") (Regex.plus blanks),
       shortNumber, Regex.text ":", digits 2, Regex.text ":", digits 2,
       Regex.opt (Regex.seq (Regex.text ".") (Regex.star digit)),
       Regex.opt (Regex.seq (Regex.star blanks) zone)]]

/-- The form of the marks that are reserved. -/
def reservedForm : Regex := Regex.words ["!", "&", "*"]

/-- A type whose form is looked for in texts that start with some characters. -/
structure Clue where
  starts : String
  form : Regex
  tag : Tag

/-- The types that show in a text, in the order in which they are looked for. -/
def clues : List Clue :=
  [⟨"yYnNtTfFoO", boolForm, bool⟩,
   ⟨"-+0123456789.", floatForm, float⟩,
   ⟨"-+0123456789", intForm, int⟩,
   ⟨"<", Regex.text "<<", merge⟩,
   ⟨"~nN", nullForm, null⟩,
   ⟨"0123456789", timestampForm, timestamp⟩,
   ⟨"=", Regex.text "=", default⟩,
   ⟨"!&*", reservedForm, unknown⟩]

/-- The type that shows in the text of a plain scalar. One newline behind the form does not
count. -/
def ofPlain (text : RawText) : Tag :=
  match text.chars? with
  | none => Tag.text
  | some [] => null
  | some (c :: chars) =>
    let found := clues.find? fun clue =>
      clue.starts.toList.contains c &&
        (Regex.seq clue.form (Regex.opt (Regex.text "\n"))).accepts (c :: chars)
    (found.map Clue.tag).getD Tag.text

end Tag

end FileRouting.Yaml
