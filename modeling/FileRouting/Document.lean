import FileRouting.Value

/-!
# Documents

A document is a value with the parts that stand in it by their numbers. A part may stand in several
places, and also inside itself; the literal form of a part that is met inside itself is an ellipsis
between brackets. Some literal forms are refused: those of very long numbers, and those of very deep
values.
-/

namespace FileRouting

open FileRouting.Text

/-- A value and the parts that it refers to. -/
structure Document where
  parts : Array Value
  root : Value

namespace Document

/-- A document that is a value without parts. -/
def ofValue (value : Value) : Document :=
  ⟨#[], value⟩

def focus (document : Document) (value : Value) : Document :=
  { document with root := value }

/-- The value at the top; a part is looked up. -/
def top (document : Document) : Value :=
  match document.root with
  | .part number => document.parts[number]?.getD .null
  | value => value

/-! ## Contents -/

def items? (document : Document) : Option (List Document) :=
  match document.top with
  | .list items => some (items.map document.focus)
  | _ => none

/-- The entries of a mapping. -/
def entries? (document : Document) : Option (List (Value × Value)) :=
  match document.top with
  | .mapping entries => some entries
  | _ => none

/-- The value under a text key of a mapping. -/
def field? (document : Document) (key : String) : Option Document :=
  (document.entries?.bind (Value.lookup? · key)).map document.focus

def text? (document : Document) : Option RawText :=
  document.top.rawText?

/-! ## Literal form -/

/-- What stands for a part inside itself. -/
def ellipsis : Value → List Char
  | .list _ => "[...]".toList
  | .pair _ _ => "(...)".toList
  | .set _ => "set(...)".toList
  | _ => "\x7b...\x7d".toList

/-- The literal form of a part inside of others. -/
def partText (parts : Array Value) : (fuel : Nat) → (around : List Nat) → Nat → List Char
  | 0, _, _ => []
  | fuel + 1, around, number =>
    match parts[number]? with
    | none => []
    | some value =>
      if number ∈ around then ellipsis value
      else value.literalWith (partText parts fuel (number :: around))

/-- The literal form of a document. Parts are nested no deeper than there are parts. -/
def literal (document : Document) : String :=
  String.ofList
    (document.root.literalWith (partText document.parts (document.parts.size + 1) []))

/-! ## Refused literal forms -/

/-- Why a literal form is refused. -/
inductive Unprintable
  | longNumber
  | tooDeep
deriving DecidableEq, Repr

def Unprintable.message : Unprintable → String
  | longNumber =>
    "Exceeds the limit (4300 digits) for integer string conversion; " ++
      "use sys.set_int_max_str_digits() to increase the limit"
  | tooDeep => "maximum recursion depth exceeded while getting the repr of an object"

/-- The least number with more than 4300 digits. -/
def longNumber : Nat :=
  Nat.pow 10 4300

/-- How many parts may be around a part. -/
def maxDepth : Nat := 980

mutual

/-- The first reason to refuse the literal form of a value, given that of each part. -/
def unprintableWith (partFault : Nat → Option Unprintable) : Value → Option Unprintable
  | .int n => if n.natAbs < longNumber then none else some .longNumber
  | .list items | .set items => unprintableItem partFault items
  | .pair key value =>
    unprintableWith partFault key <|> unprintableWith partFault value
  | .mapping entries => unprintableEntry partFault entries
  | .part number => partFault number
  | _ => none

def unprintableItem (partFault : Nat → Option Unprintable) :
    List Value → Option Unprintable
  | [] => none
  | item :: items => unprintableWith partFault item <|> unprintableItem partFault items

def unprintableEntry (partFault : Nat → Option Unprintable) :
    List (Value × Value) → Option Unprintable
  | [] => none
  | (key, value) :: entries =>
    unprintableWith partFault key <|> unprintableWith partFault value <|>
      unprintableEntry partFault entries

end

/-- The first reason to refuse the literal form of a part inside of others. -/
def unprintablePart (parts : Array Value) :
    (fuel : Nat) → (around : List Nat) → Nat → Option Unprintable
  | 0, _, _ => none
  | fuel + 1, around, number =>
    match parts[number]? with
    | none => none
    | some value =>
      if number ∈ around then none
      else if around.length ≥ maxDepth then some .tooDeep
      else unprintableWith (unprintablePart parts fuel (number :: around)) value

/-- The first reason to refuse the literal form of a document. -/
def unprintable? (document : Document) : Option Unprintable :=
  unprintableWith (unprintablePart document.parts (document.parts.size + 1) []) document.root

end Document

end FileRouting
