import FileRouting.Text.Quoted
import FileRouting.Text.Utf8
import FileRouting.Time.Stamp

/-!
# Errors of YAML streams

A stream may break the grammar, which has no further detail. All other faults are told apart: bytes
that are no text, numbers of characters beyond all characters, scalars whose text does not write a
value of their type, and nodes that are nested too deeply.
-/

namespace FileRouting.Yaml

open FileRouting.Text FileRouting.Time

/-- Why a stream that does not break the grammar has no value. -/
inductive Fault
  | encoding (error : Utf8Error)
  | character (number : Nat)
  | notInteger (base : Nat) (text : RawText)
  | tooManyDigits (count : Nat)
  | notFloat (text : RawText)
  | placeTooLarge
  | notBool (text : RawText)
  | noDigits
  | notTimestamp
  | timestampInMapping
  | date (fault : Date.Fault)
  | time (fault : TimeOfDay.Fault)
  | zoneOffset (literal : List Char)
  | tooDeep
deriving DecidableEq

/-- Why a stream has no value. -/
inductive Error
  | malformed
  | fault (fault : Fault)
deriving DecidableEq

/-- The most digits of a decimal number that is read. -/
def maxDigits : Nat := 4300

/-- How many characters of a text are shown in the message about an integer. -/
def shownLength : Nat := 200

def Fault.message : Fault → String
  | encoding error => error.message
  | character number =>
    if number < 0x80000000 then "chr() arg not in range(0x110000)"
    else "Python int too large to convert to C int"
  | notInteger base text =>
    "invalid literal for int() with base " ++ toString base ++ ": " ++
      String.ofList ((quotedRaw text).take shownLength)
  | tooManyDigits count =>
    "Exceeds the limit (4300 digits) for integer string conversion: value has " ++
      toString count ++ " digits; use sys.set_int_max_str_digits() to increase the limit"
  | notFloat text => "could not convert string to float: " ++ String.ofList (quotedRaw text)
  | placeTooLarge => "int too large to convert to float"
  | notBool text => String.ofList (quotedRaw text)
  | noDigits => "string index out of range"
  | notTimestamp => "'NoneType' object has no attribute 'groupdict'"
  | timestampInMapping => "expected string or bytes-like object, got 'list'"
  | date fault => fault.message
  | time fault => fault.message
  | zoneOffset literal =>
    "offset must be a timedelta strictly between -timedelta(hours=24) and " ++
      "timedelta(hours=24), not " ++ String.ofList literal ++ "."
  | tooDeep => "maximum recursion depth exceeded"

end FileRouting.Yaml
