import FileRouting.Number.Shortest

/-!
# Written numbers

A number is written by the digits of its shortest decimal. A style says which of them are written
positionally, how an exponent is written, and what stands for the numbers that have no digits.
-/

namespace FileRouting.Number

open FileRouting.Text

/-- How numbers are written: positionally for leading exponents from `low` up to but without `high`,
otherwise with a mark and an exponent of at least `width` digits with its sign. -/
structure Style where
  low : Int
  high : Int
  mark : Char
  width : Nat
  infinity : List Char
  notANumber : List Char

/-- A decimal without its last zeros. -/
def Decimal.trim : (zeros : Nat) → Decimal → Decimal
  | 0, d => d
  | zeros + 1, d =>
    if d.digits ≠ 0 ∧ d.digits % 10 = 0 then trim zeros ⟨d.digits / 10, d.exponent + 1⟩ else d

namespace Style

/-- The text of a decimal. A positional text has at least one digit on both sides of the point. -/
def decimalText (style : Style) (d : Decimal) : List Char :=
  let d := d.trim 20
  let digits := decimal d.digits
  let leading : Int := d.exponent + digits.length - 1
  if d.digits = 0 then ['0', '.', '0']
  else if style.low ≤ leading ∧ leading < style.high then
    if leading < 0 then '0' :: '.' :: List.replicate (-leading - 1).toNat '0' ++ digits
    else
      let whole := leading.toNat + 1
      if digits.length ≤ whole then
        digits ++ List.replicate (whole - digits.length) '0' ++ ['.', '0']
      else digits.take whole ++ '.' :: digits.drop whole
  else
    digits.take 1 ++ (if digits.length = 1 then [] else '.' :: digits.drop 1) ++
      style.mark :: (if leading < 0 then '-' else '+') :: padded style.width leading.natAbs

def sign (negative : Bool) : List Char :=
  if negative then ['-'] else []

def text (style : Style) : Double → List Char
  | .finite negative size => sign negative ++ style.decimalText size.shortest
  | .infinite negative => sign negative ++ style.infinity
  | .undefined => style.notANumber

end Style

end FileRouting.Number
