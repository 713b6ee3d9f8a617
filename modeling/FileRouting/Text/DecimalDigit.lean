import FileRouting.Text.Raw

/-!
# Decimal digits of all scripts

The digits of a script are ten characters in a row, from zero to nine. The table is that of version
14 of the character database.
-/

namespace FileRouting.Text

/-- The zeros of all scripts, in rising order. -/
def digitZeros : List Nat :=
  [
   48, 1632, 1776, 1984, 2406, 2534, 2662, 2790, 2918, 3046, 3174, 3302, 3430, 3558, 3664, 3792,
   3872, 4160, 4240, 6112, 6160, 6470, 6608, 6784, 6800, 6992, 7088, 7232, 7248, 42528, 43216,
   43264, 43472, 43504, 43600, 44016, 65296, 66720, 68912, 69734, 69872, 69942, 70096, 70384,
   70736, 70864, 71248, 71360, 71472, 71904, 72016, 72784, 73040, 73120, 92768, 92864, 93008,
   120782, 120792, 120802, 120812, 120822, 123200, 123632, 125264, 130032]

/-- The value of a character as a decimal digit of some script. -/
def decimalDigit? (c : Char) : Option Nat :=
  (digitZeros.find? fun first => first ≤ c.toNat && c.toNat < first + 10).map (c.toNat - ·)

/-- A digit of another script as the digit of ASCII of its value, and any other character as it
is. -/
def plainDigit (c : Char) : Char :=
  match decimalDigit? c with
  | some value => Char.ofNat ('0'.toNat + value)
  | none => c

end FileRouting.Text
