/-!
# Raw text

A quoted text of a document may name any code point by its number, also the surrogates, which are no
characters. Raw text is text that may hold them.
-/

namespace FileRouting.Text

/-- A code point: a character or a surrogate. -/
inductive Glyph
  | char (c : Char)
  | surrogate (number : Nat)
deriving DecidableEq, Repr

namespace Glyph

/-- The code point with a number. -/
def ofNumber (number : Nat) : Glyph :=
  if 0xD800 ≤ number ∧ number < 0xE000 then surrogate number else char (Char.ofNat number)

def number : Glyph → Nat
  | char c => c.toNat
  | surrogate number => number

def char? : Glyph → Option Char
  | char c => some c
  | surrogate _ => none

def isSurrogate : Glyph → Bool
  | char _ => false
  | surrogate _ => true

/-- Whether a code point is a character of a class. -/
def isIn (accepts : Char → Bool) : Glyph → Bool
  | char c => accepts c
  | surrogate _ => false

def firstSurrogate : Nat := 0xD800

/-- The first of the characters that stand in for surrogates. They have no other meaning. -/
def firstStandIn : Nat := 0x40000

/-- The character that a code point is shown as where only characters can stand. -/
def shown : Glyph → Char
  | char c => c
  | surrogate number => Char.ofNat (firstStandIn + (number - firstSurrogate))

/-- The code point that is shown as a character. -/
def ofShown (c : Char) : Glyph :=
  if firstStandIn ≤ c.toNat ∧ c.toNat < firstStandIn + 0x800 then
    surrogate (firstSurrogate + (c.toNat - firstStandIn))
  else char c

end Glyph

/-- A text that may hold surrogates. -/
abbrev RawText := List Glyph

namespace RawText

def ofChars (text : List Char) : RawText :=
  text.map .char

def ofString (text : String) : RawText :=
  ofChars text.toList

instance : Coe String RawText := ⟨ofString⟩

/-- The characters of a text without surrogates. -/
def chars? : RawText → Option (List Char)
  | [] => some []
  | .char c :: text => (chars? text).map (c :: ·)
  | .surrogate _ :: _ => none

/-- A text with a character in the place of every surrogate. -/
def shown (text : RawText) : String :=
  String.ofList (text.map Glyph.shown)

/-- The text that is shown as another one. -/
def ofShown (text : String) : RawText :=
  text.toList.map Glyph.ofShown

/-- The numbers of the code points, by which texts are ordered. -/
def numbers (text : RawText) : List Nat :=
  text.map Glyph.number

theorem chars?_ofChars (text : List Char) : chars? (ofChars text) = some text := by
  induction text with
  | nil => rfl
  | cons c text ih =>
    rw [show ofChars (c :: text) = .char c :: ofChars text from rfl, chars?, ih]
    rfl

theorem eq_ofChars_of_chars? {text : RawText} {chars : List Char} (h : chars? text = some chars) :
    text = ofChars chars := by
  induction text generalizing chars with
  | nil =>
    cases h
    rfl
  | cons glyph text ih =>
    cases glyph with
    | char c =>
      obtain ⟨rest, found, rfl⟩ := Option.map_eq_some_iff.1 h
      rw [ih found]
      rfl
    | surrogate number => cases h

theorem ofChars_inj {text text' : List Char} : ofChars text = ofChars text' ↔ text = text' := by
  constructor
  · intro same
    have read := congrArg chars? same
    rw [chars?_ofChars, chars?_ofChars] at read
    exact Option.some.inj read
  · rintro rfl
    rfl

theorem ofString_inj {text text' : String} : ofString text = ofString text' ↔ text = text' := by
  rw [ofString, ofString, ofChars_inj, String.toList_inj]

theorem ofString_append (text rest : String) :
    ofString (text ++ rest) = ofString text ++ ofString rest := by
  simp [ofString, ofChars]

theorem shown_ofString (text : String) : shown (ofString text) = text := by
  simp [shown, ofString, ofChars, Glyph.shown, Function.comp_def]

end RawText

end FileRouting.Text
