import FileRouting.Number.Double
import FileRouting.Text.Numeral

/-!
# Shortest decimals

Every real number of an interval around a double-precision number rounds to it. Of the decimals in
that interval the shortest is taken, and of the shortest the one nearest to the number.
-/

namespace FileRouting.Number

open FileRouting.Text

/-- The number `digits · 10 ^ exponent`. -/
structure Decimal where
  digits : Nat
  exponent : Int
deriving DecidableEq, Repr

/-- The number nearest to a decimal. Decimals far beyond all magnitudes are not computed. -/
def Decimal.nearest (negative : Bool) (d : Decimal) : Double :=
  let leading : Int := d.exponent + (decimal d.digits).length
  if d.digits = 0 ∨ leading < -400 then .finite negative .zero
  else if leading > 400 then .infinite negative
  else .ofRatio negative (d.digits * Nat.pow 10 d.exponent.toNat) (Nat.pow 10 (-d.exponent).toNat)

namespace Magnitude

/-- The number as `mantissa · 2 ^ exponent`. -/
def exponent (m : Magnitude) : Int :=
  m.power - 1074

/-- Whether the number below is only half as far as the number above. -/
def isNarrow (m : Magnitude) : Bool :=
  m.mantissa = Nat.pow 2 52 ∧ m.power ≠ 0

/-- A ratio for `quarters · 2 ^ (exponent - 2) / 10 ^ grid`, as numerator and denominator. -/
def onGrid (m : Magnitude) (quarters : Nat) (grid : Int) : Nat × Nat :=
  (quarters * Nat.pow 2 (m.exponent - 2).toNat * Nat.pow 10 (-grid).toNat,
    Nat.pow 2 (2 - m.exponent).toNat * Nat.pow 10 grid.toNat)

/-- Whether `digits · 10 ^ grid` rounds to the number. The ends of the interval do if the mantissa
is even. -/
def holds (m : Magnitude) (digits : Nat) (grid : Int) : Bool :=
  let low := m.onGrid (4 * m.mantissa - (if m.isNarrow then 1 else 2)) grid
  let high := m.onGrid (4 * m.mantissa + 2) grid
  if m.mantissa % 2 = 0 then low.1 ≤ digits * low.2 ∧ digits * high.2 ≤ high.1
  else low.1 < digits * low.2 ∧ digits * high.2 < high.1

/-- The neighbour on a grid that rounds to the number; of two the nearer, of two at one distance the
even one. -/
def neighbour? (m : Magnitude) (grid : Int) : Option Decimal :=
  let (top, bottom) := m.onGrid (4 * m.mantissa) grid
  let below := top / bottom
  match m.holds below grid, m.holds (below + 1) grid with
  | false, false => none
  | true, false => some ⟨below, grid⟩
  | false, true => some ⟨below + 1, grid⟩
  | true, true => some ⟨roundedQuotient top bottom, grid⟩

/-- The whole part of the number in units of `10 ^ grid`. -/
def wholeOn (m : Magnitude) (grid : Int) : Nat :=
  (m.onGrid (4 * m.mantissa) grid).1 / (m.onGrid (4 * m.mantissa) grid).2

/-- The exponent of ten of the leading digit: an estimate by the logarithm is at most one off. -/
def leading (m : Magnitude) : Int :=
  let near := ((m.mantissa.log2 + m.exponent) * 30103).fdiv 100000
  if m.wholeOn near = 0 then near - 1
  else if m.wholeOn near < 10 then near
  else near + 1

/-- The first hit on the grids from `grid` downwards. -/
def search (m : Magnitude) : (grids : Nat) → (grid : Int) → Decimal
  | 0, grid => ⟨m.wholeOn grid, grid⟩
  | grids + 1, grid => (m.neighbour? grid).getD (m.search grids (grid - 1))

/-- The shortest decimal that rounds to the number; seventeen digits always suffice. -/
def shortest (m : Magnitude) : Decimal :=
  if m.mantissa = 0 then ⟨0, 0⟩ else m.search 17 m.leading

end Magnitude

end FileRouting.Number
