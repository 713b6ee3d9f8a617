/-!
# Regular expressions

A text matches an expression as a whole. It is matched character by character: the derivative of an
expression by a character matches what may follow that character.
-/

namespace FileRouting.Text

/-- A set of texts. -/
inductive Regex
  | never
  | empty
  | char (accepts : Char → Bool)
  | seq (first second : Regex)
  | alt (first second : Regex)
  | star (item : Regex)

namespace Regex

/-! ## Building -/

def oneOf (chars : String) : Regex :=
  char fun c => chars.toList.contains c

/-- A text. -/
def text (s : String) : Regex :=
  s.toList.foldr (fun c rest => seq (char (· == c)) rest) empty

def words (texts : List String) : Regex :=
  texts.foldr (fun s rest => alt (text s) rest) never

def opt (item : Regex) : Regex :=
  alt item empty

def plus (item : Regex) : Regex :=
  seq item (star item)

/-- Expressions one after another. -/
def all (items : List Regex) : Regex :=
  items.foldr seq empty

/-- One of some expressions. -/
def any (items : List Regex) : Regex :=
  items.foldr alt never

/-! ## Matching -/

/-- Whether the empty text matches. -/
def nullable : Regex → Bool
  | never => false
  | empty => true
  | char _ => false
  | seq first second => first.nullable && second.nullable
  | alt first second => first.nullable || second.nullable
  | star _ => true

/-- One expression after another, in the shortest form. -/
def seqShort : Regex → Regex → Regex
  | never, _ => never
  | empty, second => second
  | first, second => seq first second

/-- One of two expressions, in the shortest form. -/
def altShort : Regex → Regex → Regex
  | never, second => second
  | first, never => first
  | first, second => alt first second

/-- What matches behind a character. -/
def derive (c : Char) : Regex → Regex
  | never => never
  | empty => never
  | char accepts => if accepts c then empty else never
  | seq first second =>
    if first.nullable then altShort (seqShort (first.derive c) second) (second.derive c)
    else seqShort (first.derive c) second
  | alt first second => altShort (first.derive c) (second.derive c)
  | star item => seqShort (item.derive c) (star item)

/-- Whether a text matches. -/
def accepts : Regex → List Char → Bool
  | never, _ => false
  | r, [] => r.nullable
  | r, c :: text => (r.derive c).accepts text

end Regex

end FileRouting.Text
