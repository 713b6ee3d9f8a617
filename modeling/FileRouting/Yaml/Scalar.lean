import FileRouting.Text.DecimalDigit
import FileRouting.Text.LowerCase
import FileRouting.Text.Split
import FileRouting.Value
import FileRouting.Yaml.Error
import FileRouting.Yaml.Tag

/-!
# Values of scalars

The text of a scalar of a type, plain or tagged, is read as a value of that type, by rules that are
wider than those that find the type.
-/

namespace FileRouting.Yaml

open FileRouting.Text FileRouting.Time FileRouting.Number

namespace Scalar

/-! ## Truth values -/

def bool (text : RawText) : Except Fault Value :=
  let word := lower text
  let isOneOf := fun (words : List String) => words.any fun s => RawText.ofString s = word
  if isOneOf ["yes", "true", "on"] then .ok (.bool true)
  else if isOneOf ["no", "false", "off"] then .ok (.bool false)
  else .error (.notBool word)

/-! ## Numerals -/

def withoutUnderscores (text : RawText) : RawText :=
  text.filter (· ≠ .char '_')

/-- The sign of a number and what follows it. There must be something. -/
def signed : RawText → Except Fault (Bool × RawText)
  | [] => .error .noDigits
  | .char '-' :: text => .ok (true, text)
  | .char '+' :: text => .ok (false, text)
  | text => .ok (false, text)

/-- Blanks of ASCII. -/
def isBlank (c : Char) : Bool :=
  c = ' ' ∨ ('\t' ≤ c ∧ c ≤ '\r')

/-- Blanks beyond ASCII. -/
def isWideBlank (c : Char) : Bool :=
  [(0x85, 0x85), (0xA0, 0xA0), (0x1680, 0x1680), (0x2000, 0x200A), (0x2028, 0x2029),
    (0x202F, 0x202F), (0x205F, 0x205F), (0x3000, 0x3000)].any
    fun range => range.1 ≤ c.toNat && c.toNat ≤ range.2

/-- A text in ASCII: blanks and digits of all scripts are replaced by those of ASCII, and what else
is not in ASCII by a question mark, which is in no numeral. -/
def plainChars (text : RawText) : List Char :=
  text.map fun glyph =>
    match glyph with
    | .surrogate _ => '?'
    | .char c =>
      if c.toNat < 0x80 then c
      else if isWideBlank c then ' '
      else if (decimalDigit? c).isSome then plainDigit c
      else '?'

/-- The sign of a numeral behind blanks, and what follows it. -/
def signOf (text : List Char) : Bool × List Char :=
  match text.dropWhile isBlank with
  | '-' :: text => (true, text)
  | '+' :: text => (false, text)
  | text => (false, text)

def withSign (negative : Bool) (number : Nat) : Int :=
  if negative then -(number : Int) else number

/-! ## Integers -/

/-- The marks that may stand before the digits of a base. -/
def baseMarks : Nat → List Char
  | 2 => ['b', 'B']
  | 8 => ['o', 'O']
  | 16 => ['x', 'X']
  | _ => []

/-- A numeral of a base, with blanks around it, a sign and a mark for the base. -/
def integer (base : Nat) (text : RawText) : Except Fault Int :=
  let (negative, body) := signOf (plainChars text)
  let body :=
    match body with
    | '0' :: mark :: rest => if mark ∈ baseMarks base then rest else body
    | body => body
  let digits := body.takeWhile (isDigitOf base)
  let rest := (body.dropWhile (isDigitOf base)).dropWhile isBlank
  if base = 10 ∧ digits.length > maxDigits then .error (.tooManyDigits digits.length)
  else if digits = [] ∨ rest ≠ [] then .error (.notInteger base text)
  else .ok (withSign negative (numberOf base digits))

/-- The parts between the colons. -/
def places (text : RawText) : List RawText :=
  let (first, others) :=
    text.foldr
      (fun glyph (first, others) =>
        if glyph = .char ':' then ([], first :: others) else (glyph :: first, others))
      ([], [])
  first :: others

/-- Numbers to the base of sixty, the first the largest. -/
def sixties (numbers : List Int) : Int :=
  numbers.foldl (fun number place => number * 60 + place) 0

def int (text : RawText) : Except Fault Value := do
  let (negative, body) ← signed (withoutUnderscores text)
  let apply := fun (number : Int) => Value.int (if negative then -number else number)
  match body with
  | [] => .error .noDigits
  | .char '0' :: .char 'b' :: digits => (integer 2 digits).map apply
  | .char '0' :: .char 'x' :: digits => (integer 16 digits).map apply
  | .char '0' :: _ => (integer 8 body).map apply
  | body =>
    if .char ':' ∈ body then
      ((places body).mapM (integer 10)).map fun numbers => apply (sixties numbers)
    else (integer 10 body).map apply

/-! ## Floating-point numbers -/

/-- The digits at the start of a text, and what follows them. -/
def leadingDigits (text : List Char) : List Char × List Char :=
  (text.takeWhile Char.isDigit, text.dropWhile Char.isDigit)

/-- The exponent at the end of a decimal. -/
def exponent? : List Char → Option Int
  | [] => some 0
  | 'e' :: text =>
    let (negative, digits) :=
      match text with
      | '-' :: digits => (true, digits)
      | '+' :: digits => (false, digits)
      | digits => (false, digits)
    if digits ≠ [] ∧ digits.all Char.isDigit then some (withSign negative (numberOf 10 digits))
    else none
  | _ => none

def trimEnd (text : List Char) : List Char :=
  (text.reverse.dropWhile isBlank).reverse

/-- A decimal in lower case, with blanks around it and a sign; infinity and what is no number have
names. -/
def decimal (text : RawText) : Except Fault Double :=
  let (negative, body) := signOf (trimEnd (plainChars text))
  if body = "inf".toList ∨ body = "infinity".toList then .ok (.infinite negative)
  else if body = "nan".toList then .ok .undefined
  else
    let (whole, rest) := leadingDigits body
    let (part, rest) :=
      match rest with
      | '.' :: rest => leadingDigits rest
      | rest => ([], rest)
    match exponent? rest with
    | some power =>
      if whole = [] ∧ part = [] then .error (.notFloat text)
      else .ok (Decimal.nearest negative ⟨numberOf 10 (whole ++ part), power - part.length⟩)
    | none => .error (.notFloat text)

/-- Decimals to the base of sixty, the smallest first, with the size of its place. A place must not
be larger than all floating-point numbers. -/
def sixtyDoubles (size : Nat) (sum : Double) : List Double → Except Fault Double
  | [] => .ok sum
  | number :: numbers =>
    let place := Double.ofInt size
    if place.isInfinite then .error .placeTooLarge
    else sixtyDoubles (size * 60) (sum + number * place) numbers

/-- A text in the form in which floating-point numbers are read. -/
def floatText (text : RawText) : RawText :=
  lower (withoutUnderscores text)

def float (text : RawText) : Except Fault Value := do
  let (negative, body) ← signed (floatText text)
  let apply := fun (x : Double) => Value.float (if negative then -x else x)
  if body = RawText.ofString ".inf" then .ok (.float (.infinite negative))
  else if body = RawText.ofString ".nan" then .ok (.float .undefined)
  else if .char ':' ∈ body then
    let numbers ← (places body).mapM decimal
    (sixtyDoubles 1 (Double.ofInt 0) numbers.reverse).map apply
  else (decimal body).map apply

/-- Whether a text names what is no number by the mark for it. -/
def marksUndefined (text : RawText) : Bool :=
  match signed (floatText text) with
  | .ok (_, body) => body = RawText.ofString ".nan"
  | .error _ => false

/-! ## Moments -/

/-- The number that the first digits of a text write, and what stands behind them and one more
character. -/
def numberField (text : List Char) : Nat × List Char :=
  let (digits, rest) := leadingDigits text
  (numberOf 10 digits, rest.drop 1)

/-- The offset of a zone in microseconds; none is written for a time without a zone. -/
def zoneOffset : List Char → Option Int
  | [] => none
  | 'Z' :: _ => some 0
  | mark :: text =>
    let (hours, rest) := numberField text
    let size : Int := (hours * 60 + (numberField rest).1 : Nat) * Zone.microsPerMinute
    some (if mark = '-' then -size else size)

def zone? (text : List Char) : Except Fault (Option Zone) :=
  match zoneOffset text with
  | none => .ok none
  | some offset =>
    if offset.natAbs < Zone.microsPerDay.natAbs then .ok (some (.fixed offset none))
    else .error (.zoneOffset (Value.durationLiteral offset))

/-- A fraction of a second in microseconds, cut down after six digits. -/
def fractionMicros (digits : List Char) : Nat :=
  numberOf 10 ((digits ++ List.replicate 6 '0').take 6)

/-- The moment that a text of the right form writes. -/
def moment (text : List Char) : Except Fault Stamp := do
  let (year, rest) := numberField text
  let (month, rest) := numberField rest
  let (dayDigits, rest) := leadingDigits rest
  let day := numberOf 10 dayDigits
  let date := (Date.ofNumbers year month day).mapError Fault.date
  if rest = [] then date.map .day
  else
    let (hour, rest) := numberField (rest.dropWhile (!Char.isDigit ·))
    let (minute, rest) := numberField rest
    let (secondDigits, rest) := leadingDigits rest
    let (fraction, rest) :=
      match rest with
      | '.' :: rest => leadingDigits rest
      | rest => ([], rest)
    let zone ← zone? (rest.dropWhile fun c => c = ' ' ∨ c = '\t')
    let date ← date
    let time ← (TimeOfDay.ofNumbers hour minute (numberOf 10 secondDigits)
      (fractionMicros fraction)).mapError Fault.time
    match zone with
    | none => .ok (.unzoned date time)
    | some zone => .ok (.zoned ⟨date, time, zone⟩)

/-- The form of a moment that is read, which a date with short numbers has too. -/
def readableMoment : Regex :=
  Regex.alt Tag.timestampForm
    (Regex.all
      [Tag.digits 4, Regex.text "-", Tag.shortNumber, Regex.text "-", Tag.shortNumber])

/-- The moment that a text writes, which one newline may follow. -/
def timestamp (text : RawText) : Except Fault Value :=
  let chars := text.chars?.getD []
  let chars := if chars.getLast? = some '\n' then chars.dropLast else chars
  if readableMoment.accepts chars then (moment chars).map .time else .error .notTimestamp

/-! ## Bytes -/

def base64Value? (c : Char) : Option Nat :=
  if c.isUpper then some (c.toNat - 'A'.toNat)
  else if c.isLower then some (c.toNat - 'a'.toNat + 26)
  else if c.isDigit then some (c.toNat - '0'.toNat + 52)
  else if c = '+' then some 62
  else if c = '/' then some 63
  else none

/-- The bytes of a text in base 64, where `filled` characters of a group of four have left some
bits, and `pads` padding characters followed them. Other characters do not count. Nothing follows a
group that is filled up by padding. -/
def base64 (filled bits pads : Nat) : List Char → Option (List UInt8)
  | [] => if filled = 0 then some [] else none
  | c :: text =>
    if c = '=' then
      if filled ≥ 2 then
        if filled + (pads + 1) ≥ 4 then some [] else base64 filled bits (pads + 1) text
      else base64 filled bits pads text
    else
      match base64Value? c with
      | none => base64 filled bits pads text
      | some value =>
        match filled with
        | 0 => base64 1 value 0 text
        | 1 => (base64 2 (value % 16) 0 text).map ((bits * 4 + value / 16).toUInt8 :: ·)
        | 2 => (base64 3 (value % 4) 0 text).map ((bits * 16 + value / 4).toUInt8 :: ·)
        | _ => (base64 0 0 0 text).map ((bits * 64 + value).toUInt8 :: ·)

/-- Bytes written in base 64, which is ASCII text. -/
def binary (text : RawText) : Except Error Value :=
  match text.chars? with
  | some chars =>
    if chars.all (·.toNat < 0x80) then
      match base64 0 0 0 chars with
      | some bytes => .ok (.bytes bytes)
      | none => .error .malformed
    else .error .malformed
  | none => .error .malformed

/-! ## All types -/

/-- The value of a scalar of a type. Collections and unknown types have no scalars. -/
def value (tag : Tag) (text : RawText) : Except Error Value :=
  match tag with
  | .null => .ok .null
  | .bool => (bool text).mapError .fault
  | .int => (int text).mapError .fault
  | .float => (float text).mapError .fault
  | .timestamp => (timestamp text).mapError .fault
  | .binary => binary text
  | .text => .ok (.ofRaw text)
  | _ => .error .malformed

end Scalar

end FileRouting.Yaml
