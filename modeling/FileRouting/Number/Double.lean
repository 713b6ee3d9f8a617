/-!
# Double-precision numbers

A double-precision number has a sign and a magnitude, or it is infinite, or it is no number at all.
Every magnitude is a multiple of the least one, `2 ^ -1074`, so all arithmetic is on natural
numbers: a result that is no magnitude is rounded to the nearest one, and a half goes to the even
mantissa.
-/

namespace FileRouting.Number

/-- A quotient rounded to the nearest natural number, a half to the even one. -/
def roundedQuotient (top bottom : Nat) : Nat :=
  let below := top / bottom
  let twice := 2 * (top % bottom)
  if twice < bottom ∨ (twice = bottom ∧ below % 2 = 0) then below else below + 1

theorem roundedQuotient_mul (n : Nat) {bottom : Nat} (h : 0 < bottom) :
    roundedQuotient (n * bottom) bottom = n := by
  simp [roundedQuotient, Nat.mul_div_cancel _ h, h]

/-! ## Magnitudes -/

/-- The number `mantissa · 2 ^ (power - 1074)` in its only form: the mantissa has 53 bits unless the
power is the least. -/
structure Magnitude where
  mantissa : Nat
  power : Nat
  mantissa_lt : mantissa < Nat.pow 2 53
  power_le : power ≤ 2045
  full : power = 0 ∨ Nat.pow 2 52 ≤ mantissa
deriving DecidableEq

namespace Magnitude

def zero : Magnitude := ⟨0, 0, by decide, by decide, by decide⟩

/-- The magnitude with a mantissa and a power, if they have its form. -/
def of? (mantissa power : Nat) : Option Magnitude :=
  if h : mantissa < Nat.pow 2 53 ∧ power ≤ 2045 ∧ (power = 0 ∨ Nat.pow 2 52 ≤ mantissa) then
    some ⟨mantissa, power, h.1, h.2.1, h.2.2⟩
  else none

/-- How many of the least magnitude make up a magnitude. -/
def units (m : Magnitude) : Nat :=
  m.mantissa * Nat.pow 2 m.power

def unitsOfOne : Nat := Nat.pow 2 1074

/-- The magnitude nearest to `top / bottom` units, if it is not beyond all magnitudes. The mantissa
takes the first 53 bits of the quotient; rounding may carry into one bit more. -/
def nearest? (top bottom : Nat) : Option Magnitude :=
  let power := (top / bottom).log2 + 1 - 53
  let mantissa := roundedQuotient top (bottom * Nat.pow 2 power)
  if mantissa = Nat.pow 2 53 then of? (Nat.pow 2 52) (power + 1) else of? mantissa power

theorem of?_self (m : Magnitude) : of? m.mantissa m.power = some m :=
  dif_pos ⟨m.mantissa_lt, m.power_le, m.full⟩

/-- The power is told by the number of bits. -/
theorem log2_units (m : Magnitude) : m.units.log2 + 1 - 53 = m.power := by
  have hlt := m.mantissa_lt
  by_cases hp : m.power = 0
  · have hu : m.units = m.mantissa := by simp [units, hp]
    by_cases hz : m.mantissa = 0
    · simp [hu, hz, hp]
    · have := (Nat.log2_lt hz).2 hlt
      rw [hu, hp]
      omega
  · have hge := m.full.resolve_left hp
    have hpos : 0 < Nat.pow 2 m.power := Nat.pow_pos (by decide)
    have hmantissa : 0 < m.mantissa := Nat.lt_of_lt_of_le (by decide) hge
    have hz : m.units ≠ 0 := Nat.ne_of_gt (Nat.mul_pos hmantissa hpos)
    have hlow : 52 + m.power ≤ m.units.log2 := by
      rw [Nat.le_log2 hz, Nat.pow_add]
      exact Nat.mul_le_mul_right _ hge
    have hhigh : m.units.log2 < 53 + m.power := by
      rw [Nat.log2_lt hz, Nat.pow_add]
      exact Nat.mul_lt_mul_of_pos_right hlt hpos
    omega

/-- A magnitude is the nearest one to itself. -/
theorem nearest?_units (m : Magnitude) : nearest? m.units 1 = some m := by
  have hpos : 0 < Nat.pow 2 m.power := Nat.pow_pos (by decide)
  have hr : roundedQuotient m.units (1 * Nat.pow 2 m.power) = m.mantissa := by
    rw [Nat.one_mul]
    exact roundedQuotient_mul m.mantissa hpos
  have hne : m.mantissa ≠ Nat.pow 2 53 := Nat.ne_of_lt m.mantissa_lt
  simp only [nearest?, Nat.div_one, log2_units, hr, hne, if_false]
  exact m.of?_self

end Magnitude

/-! ## Numbers -/

/-- A double-precision number; zero has two signs. -/
inductive Double
  | finite (negative : Bool) (size : Magnitude)
  | infinite (negative : Bool)
  | undefined
deriving DecidableEq

namespace Double

/-- The number nearest to `top / bottom` units. -/
def ofUnits (negative : Bool) (top bottom : Nat) : Double :=
  match Magnitude.nearest? top bottom with
  | some size => finite negative size
  | none => infinite negative

/-- The number nearest to a quotient. -/
def ofRatio (negative : Bool) (top bottom : Nat) : Double :=
  ofUnits negative (top * Magnitude.unitsOfOne) bottom

def ofInt (n : Int) : Double :=
  ofRatio (n < 0) n.natAbs 1

def isInfinite : Double → Bool
  | infinite _ => true
  | _ => false

/-- A finite number in units, with its sign; what is not finite has none. -/
def units : Double → Int
  | finite true size => -(size.units : Int)
  | finite false size => size.units
  | infinite _ | undefined => 0

/-! ## Arithmetic -/

def neg : Double → Double
  | finite negative size => finite (!negative) size
  | infinite negative => infinite (!negative)
  | undefined => undefined

/-- A sum. Of zeros it is negative only if both are. -/
def add : Double → Double → Double
  | finite negative size, finite negative' size' =>
    let sum := (finite negative size).units + (finite negative' size').units
    if sum = 0 then finite (negative && negative') .zero else ofUnits (sum < 0) sum.natAbs 1
  | infinite negative, infinite negative' =>
    if negative = negative' then infinite negative else undefined
  | infinite negative, finite _ _ => infinite negative
  | finite _ _, infinite negative => infinite negative
  | undefined, _ | _, undefined => undefined

/-- A product. That of zero and an infinite number is undefined. -/
def mul : Double → Double → Double
  | finite negative size, finite negative' size' =>
    ofUnits (negative != negative') (size.units * size'.units) Magnitude.unitsOfOne
  | infinite negative, infinite negative' => infinite (negative != negative')
  | infinite negative, finite negative' size | finite negative' size, infinite negative =>
    if size.units = 0 then undefined else infinite (negative != negative')
  | undefined, _ | _, undefined => undefined

instance : Neg Double := ⟨neg⟩

instance : Add Double := ⟨add⟩

instance : Mul Double := ⟨mul⟩

/-! ## Whole numbers -/

/-- The whole part, cut toward zero. -/
def whole (x : Double) : Int :=
  x.units.tdiv Magnitude.unitsOfOne

/-- What is left without the whole part. -/
def part (x : Double) : Double :=
  let rest := x.units.tmod Magnitude.unitsOfOne
  ofUnits (rest < 0) rest.natAbs 1

/-- The nearest whole number, of two the even one. -/
def rounded (x : Double) : Int :=
  let size := roundedQuotient x.units.natAbs Magnitude.unitsOfOne
  if x.units < 0 then -(size : Int) else size

def toInt? : Double → Option Int
  | finite negative size =>
    let x := finite negative size
    if x.units.tmod Magnitude.unitsOfOne = 0 then some x.whole else none
  | infinite _ | undefined => none

end Double

end FileRouting.Number
