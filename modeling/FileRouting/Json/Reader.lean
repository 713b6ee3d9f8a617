import FileRouting.Value

/-!
# Reading JSON

A JSON text is read into a value. A number with a point or an exponent is a floating-point number,
any other is an integer. Of equal keys of an object the last one counts, at the place of the first.
-/

namespace FileRouting.Json

open FileRouting.Text FileRouting.Number

def isBlank (c : Char) : Bool :=
  c = ' ' ∨ c = '\n' ∨ c = '\r' ∨ c = '\t'

def skipBlanks (text : List Char) : List Char :=
  text.dropWhile isBlank

/-! ## Texts -/

/-- The four digits behind `\u`. -/
def unit? : List Char → Option (Nat × List Char)
  | a :: b :: c :: d :: rest =>
    if [a, b, c, d].all (isDigitOf 16) then some (numberOf 16 [a, b, c, d], rest) else none
  | _ => none

/-- The character behind a backslash. Two units may stand for one character. -/
def escaped? : List Char → Option (Char × List Char)
  | '"' :: rest => some ('"', rest)
  | '\\' :: rest => some ('\\', rest)
  | '/' :: rest => some ('/', rest)
  | 'b' :: rest => some ('\x08', rest)
  | 'f' :: rest => some ('\x0c', rest)
  | 'n' :: rest => some ('\n', rest)
  | 'r' :: rest => some ('\r', rest)
  | 't' :: rest => some ('\t', rest)
  | 'u' :: rest =>
    match unit? rest with
    | none => none
    | some (unit, rest) =>
      if 0xD800 ≤ unit ∧ unit < 0xDC00 then
        match rest with
        | '\\' :: 'u' :: low =>
          match unit? low with
          | some (second, rest) =>
            if 0xDC00 ≤ second ∧ second < 0xE000 then
              some (Char.ofNat (0x10000 + (unit - 0xD800) * 0x400 + (second - 0xDC00)), rest)
            else none
          | none => none
        | _ => none
      else some (Char.ofNat unit, rest)
  | _ => none

/-- The characters of a text up to its closing quote, and what follows the quote. -/
def textBody? : (fuel : Nat) → List Char → Option (List Char × List Char)
  | 0, _ => none
  | _ + 1, [] => none
  | fuel + 1, c :: rest =>
    if c = '"' then some ([], rest)
    else if c = '\\' then do
      let (c, rest) ← escaped? rest
      let (text, rest) ← textBody? fuel rest
      some (c :: text, rest)
    else do
      let (text, rest) ← textBody? fuel rest
      some (c :: text, rest)

/-! ## Numbers -/

def digits (text : List Char) : List Char × List Char :=
  (text.takeWhile Char.isDigit, text.dropWhile Char.isDigit)

/-- The fraction behind a point. -/
def fraction : List Char → List Char × List Char
  | '.' :: rest => digits rest
  | rest => ([], rest)

def exponent? : List Char → Option (Int × List Char)
  | mark :: rest =>
    if mark = 'e' ∨ mark = 'E' then
      match rest with
      | '-' :: rest => some (-(numberOf 10 (digits rest).1 : Int), (digits rest).2)
      | '+' :: rest => some (numberOf 10 (digits rest).1, (digits rest).2)
      | rest => some (numberOf 10 (digits rest).1, (digits rest).2)
    else none
  | [] => none

def number? (text : List Char) : Option (Value × List Char) :=
  let (negative, text) :=
    match text with
    | '-' :: rest => (true, rest)
    | rest => (false, rest)
  let (whole, rest) := digits text
  if whole = [] then none
  else
    let (part, rest) := fraction rest
    match part, exponent? rest with
    | [], none =>
      let number : Int := numberOf 10 whole
      some (.int (if negative then -number else number), rest)
    | part, power =>
      let size : Decimal := ⟨numberOf 10 (whole ++ part), (power.map (·.1)).getD 0 - part.length⟩
      some (.float (size.nearest negative), (power.map (·.2)).getD rest)

/-! ## Values -/

/-- The entries of an object with one more at the end, in place of an earlier one of its key. -/
def addEntry (key : String) (value : Value) : List (Value × Value) → List (Value × Value)
  | [] => [(.text key, value)]
  | (.text k, old) :: entries =>
    if k = key then (.text k, value) :: entries else (.text k, old) :: addEntry key value entries
  | entry :: entries => entry :: addEntry key value entries

mutual

/-- The value at the start of a text. -/
def value? : (fuel : Nat) → List Char → Option (Value × List Char)
  | 0, _ => none
  | fuel + 1, text =>
    match skipBlanks text with
    | 'n' :: 'u' :: 'l' :: 'l' :: rest => some (.null, rest)
    | 't' :: 'r' :: 'u' :: 'e' :: rest => some (.bool true, rest)
    | 'f' :: 'a' :: 'l' :: 's' :: 'e' :: rest => some (.bool false, rest)
    | '"' :: rest => (textBody? fuel rest).map fun read => (.text (String.ofList read.1), read.2)
    | '[' :: rest =>
      match skipBlanks rest with
      | ']' :: rest => some (.list [], rest)
      | rest => (items? fuel rest).map fun read => (.list read.1, read.2)
    | '\x7b' :: rest =>
      match skipBlanks rest with
      | '\x7d' :: rest => some (.mapping [], rest)
      | rest => (entries? fuel [] rest).map fun read => (.mapping read.1, read.2)
    | rest => number? rest

/-- The items of an array up to its closing bracket. -/
def items? : (fuel : Nat) → List Char → Option (List Value × List Char)
  | 0, _ => none
  | fuel + 1, text => do
    let (item, rest) ← value? fuel text
    match skipBlanks rest with
    | ']' :: rest => some ([item], rest)
    | ',' :: rest =>
      let (items, rest) ← items? fuel rest
      some (item :: items, rest)
    | _ => none

/-- The entries of an object up to its closing brace, behind some that have been read. -/
def entries? : (fuel : Nat) → List (Value × Value) → List Char →
    Option (List (Value × Value) × List Char)
  | 0, _, _ => none
  | fuel + 1, entries, text =>
    match skipBlanks text with
    | '"' :: rest => do
      let (key, rest) ← textBody? fuel rest
      match skipBlanks rest with
      | ':' :: rest =>
        let (value, rest) ← value? fuel rest
        let entries := addEntry (String.ofList key) value entries
        match skipBlanks rest with
        | '\x7d' :: rest => some (entries, rest)
        | ',' :: rest => entries? fuel entries rest
        | _ => none
      | _ => none
    | _ => none

end

def read? (text : String) : Option Value :=
  let chars := text.toList
  match value? (chars.length + 1) chars with
  | some (value, rest) => if skipBlanks rest = [] then some value else none
  | none => none

end FileRouting.Json
