import FileRouting.Number.Shortest
import Mathlib.Algebra.Order.Field.Power
import Mathlib.Tactic.FieldSimp
import Mathlib.Tactic.Linarith
import Mathlib.Tactic.Positivity
import Mathlib.Tactic.Ring

/-!
# Rounding to the nearest magnitude

The rational numbers that are rounded to a magnitude are those of an interval around it. The main
statement, `Magnitude.nearest?_of_rounds`, says so of the magnitude found for a ratio: its power is
told by the bits of the whole part, except just below a power of two, where rounding carries.
-/

namespace FileRouting.Number

/-! ## Rounded quotients -/

/-- A quotient is rounded to a number if it lies within half of it, or on the half if the number is
even. -/
theorem roundedQuotient_eq {top bottom n : Nat} (low : 2 * n * bottom ≤ 2 * top + bottom)
    (high : 2 * top ≤ 2 * n * bottom + bottom)
    (odd : n % 2 = 1 → 2 * n * bottom < 2 * top + bottom ∧ 2 * top < 2 * n * bottom + bottom)
    (pos : 0 < bottom) : roundedQuotient top bottom = n := by
  have whole := Nat.div_add_mod top bottom
  have rest := Nat.mod_lt top pos
  rw [roundedQuotient]
  generalize top / bottom = below at *
  generalize top % bottom = rest at *
  subst whole
  have above : n < below + 2 := by
    by_contra far
    have : bottom * (below + 2) ≤ bottom * n := Nat.mul_le_mul_left _ (by omega)
    nlinarith
  have under : below < n + 1 := by
    by_contra far
    have : bottom * (n + 1) ≤ bottom * below := Nat.mul_le_mul_left _ (by omega)
    nlinarith
  obtain rfl | rfl : n = below ∨ n = below + 1 := by omega
  · have scaled : 2 * n * bottom = 2 * (bottom * n) := by ring
    rw [scaled] at low high odd
    rw [if_pos (by omega)]
  · have scaled : 2 * (below + 1) * bottom = 2 * (bottom * below) + 2 * bottom := by ring
    rw [scaled] at low high odd
    rw [if_neg (by omega)]

/-! ## The nearest magnitude -/

namespace Magnitude

/-- The lower end of the interval of a magnitude, in quarters of the distance to the next one. -/
def lowQuarters (m : Magnitude) : ℕ :=
  4 * m.mantissa - if m.isNarrow then 1 else 2

theorem sub_two_le_lowQuarters (m : Magnitude) : 4 * m.mantissa - 2 ≤ m.lowQuarters := by
  rw [lowQuarters]
  split <;> omega

theorem lowQuarters_of_odd {m : Magnitude} (odd : m.mantissa % 2 = 1) :
    m.lowQuarters = 4 * m.mantissa - 2 := by
  have wide : m.isNarrow = false := by
    have : m.mantissa ≠ Nat.pow 2 52 := fun same => by rw [same] at odd; cases odd
    simp [isNarrow, this]
  simp [lowQuarters, wide]

theorem log2_add_one_sub {q power : ℕ} (less : q < 2 ^ 53 * 2 ^ power)
    (full : power = 0 ∨ 2 ^ 52 * 2 ^ power ≤ q) : q.log2 + 1 - 53 = power := by
  by_cases zero : q = 0
  · subst zero
    have : 0 < 2 ^ 52 * 2 ^ power := by positivity
    simp
    omega
  · rw [← pow_add] at less full
    have below := (Nat.log2_lt zero).2 less
    rcases full with rfl | full
    · omega
    · have above := (Nat.le_log2 zero).2 full
      omega

section

variable {m : Magnitude} {top bottom : ℕ} (pos : 0 < bottom)

include pos

/-- Where the whole part has the bits of the magnitude, the mantissa is found at once. -/
theorem nearest?_of_full (full : m.power = 0 ∨ 2 ^ 52 * 2 ^ m.power * bottom ≤ top)
    (low : m.lowQuarters * (bottom * 2 ^ m.power) ≤ 4 * top)
    (high : 4 * top ≤ (4 * m.mantissa + 2) * (bottom * 2 ^ m.power))
    (odd : m.mantissa % 2 = 1 → m.lowQuarters * (bottom * 2 ^ m.power) < 4 * top ∧
      4 * top < (4 * m.mantissa + 2) * (bottom * 2 ^ m.power)) :
    nearest? top bottom = some m := by
  have unit_pos : 0 < bottom * 2 ^ m.power := by positivity
  have mantissa_lt : m.mantissa < 2 ^ 53 := m.mantissa_lt
  have power : (top / bottom).log2 + 1 - 53 = m.power := by
    apply log2_add_one_sub
    · rw [Nat.div_lt_iff_lt_mul pos, mul_assoc, mul_comm (2 ^ m.power)]
      have := Nat.mul_le_mul_right (bottom * 2 ^ m.power)
        (show 4 * m.mantissa + 2 ≤ 4 * 2 ^ 53 - 2 by omega)
      omega
    · rw [Nat.le_div_iff_mul_le pos]
      exact full
  have rounded : roundedQuotient top (bottom * 2 ^ m.power) = m.mantissa := by
    have scaled := Nat.mul_le_mul_right (bottom * 2 ^ m.power) m.sub_two_le_lowQuarters
    rw [Nat.sub_mul] at scaled
    generalize bottom * 2 ^ m.power = unit at *
    have both : 4 * m.mantissa * unit = 2 * (2 * m.mantissa * unit) := by ring
    rw [Nat.add_mul] at high odd
    apply roundedQuotient_eq _ _ _ unit_pos
    · omega
    · omega
    · intro isOdd
      obtain ⟨above, under⟩ := odd isOdd
      rw [lowQuarters_of_odd isOdd, Nat.sub_mul] at above
      omega
  have ne : m.mantissa ≠ Nat.pow 2 53 := Nat.ne_of_lt m.mantissa_lt
  have spelled : bottom * Nat.pow 2 m.power = bottom * 2 ^ m.power := rfl
  simp only [nearest?, power, spelled, rounded, if_neg ne]
  exact m.of?_self

/-- Below a power of two the mantissa is rounded up to one bit more. -/
theorem nearest?_of_below (nonzero : m.power ≠ 0) (below : top < 2 ^ 52 * 2 ^ m.power * bottom)
    (low : m.lowQuarters * (bottom * 2 ^ m.power) ≤ 4 * top) : nearest? top bottom = some m := by
  have full : 2 ^ 52 ≤ m.mantissa := m.full.resolve_left nonzero
  have unit_pos : 0 < bottom * 2 ^ m.power := by positivity
  have least : m.mantissa = 2 ^ 52 := by
    by_contra more
    have more' : 4 * 2 ^ 52 ≤ m.lowQuarters := by
      have := m.sub_two_le_lowQuarters
      omega
    have := Nat.mul_le_mul_right (bottom * 2 ^ m.power) more'
    have same : 4 * 2 ^ 52 * (bottom * 2 ^ m.power) = 4 * (2 ^ 52 * 2 ^ m.power * bottom) := by ring
    omega
  have quarters : m.lowQuarters = 4 * 2 ^ 52 - 1 := by
    have narrow : m.isNarrow := by simp [isNarrow, least, nonzero]
    simp [lowQuarters, narrow, least]
  obtain ⟨power, powers⟩ := Nat.exists_eq_succ_of_ne_zero nonzero
  have double : 2 ^ m.power = 2 * 2 ^ power := by rw [powers, pow_succ, mul_comm]
  have unit : bottom * 2 ^ m.power = 2 * (bottom * 2 ^ power) := by rw [double]; ring
  have half_pos : 0 < bottom * 2 ^ power := by positivity
  have below_half : top < 2 ^ 53 * (bottom * 2 ^ power) := by
    rw [mul_assoc, mul_comm (2 ^ m.power), unit] at below
    omega
  rw [quarters, unit] at low
  have power_eq : (top / bottom).log2 + 1 - 53 = power := by
    apply log2_add_one_sub
    · rw [Nat.div_lt_iff_lt_mul pos, mul_assoc, mul_comm (2 ^ power)]
      exact below_half
    · right
      rw [Nat.le_div_iff_mul_le pos, mul_assoc, mul_comm (2 ^ power)]
      omega
  have rounded : roundedQuotient top (bottom * 2 ^ power) = 2 ^ 53 := by
    apply roundedQuotient_eq _ _ _ half_pos
    · omega
    · omega
    · intro odd
      cases odd
  have spelled : bottom * Nat.pow 2 power = bottom * 2 ^ power := rfl
  have carry : (2 ^ 53 : ℕ) = Nat.pow 2 53 := rfl
  simp only [nearest?, power_eq, spelled, rounded, if_pos carry]
  have itself := m.of?_self
  rw [least, powers] at itself
  exact itself

end

/-! ## The interval of a magnitude -/

/-- A quarter of the distance from a magnitude to the next one. -/
def quarter (m : Magnitude) : ℚ :=
  2 ^ (m.exponent - 2)

/-- A number lies in the interval of a magnitude. The ends are in it if the mantissa is even. -/
def Rounds (m : Magnitude) (x : ℚ) : Prop :=
  if m.mantissa % 2 = 0 then
    m.lowQuarters * m.quarter ≤ x ∧ x ≤ (4 * m.mantissa + 2 : ℕ) * m.quarter
  else m.lowQuarters * m.quarter < x ∧ x < (4 * m.mantissa + 2 : ℕ) * m.quarter

theorem cast_unitsOfOne : (unitsOfOne : ℚ) = 2 ^ 1074 := by
  unfold unitsOfOne
  -- The power is too large to be computed.
  generalize 1074 = power
  exact Nat.cast_pow 2 power

theorem quarter_pos (m : Magnitude) : 0 < m.quarter :=
  zpow_pos two_pos _

section

variable {m : Magnitude} {x : ℚ}

theorem Rounds.low_le (h : m.Rounds x) : m.lowQuarters * m.quarter ≤ x := by
  unfold Rounds at h
  split at h
  · exact h.1
  · exact h.1.le

theorem Rounds.le_high (h : m.Rounds x) : x ≤ (4 * m.mantissa + 2 : ℕ) * m.quarter := by
  unfold Rounds at h
  split at h
  · exact h.2
  · exact h.2.le

theorem rounds_of_lt (low : m.lowQuarters * m.quarter < x)
    (high : x < (4 * m.mantissa + 2 : ℕ) * m.quarter) : m.Rounds x := by
  unfold Rounds
  split
  · exact ⟨low.le, high.le⟩
  · exact ⟨low, high⟩

theorem quarters_eq (m : Magnitude) (quarters : ℕ) {bottom : ℕ} (pos : 0 < bottom) :
    quarters * m.quarter =
      ((quarters * (bottom * 2 ^ m.power) : ℕ) : ℚ) / (4 * (bottom * 2 ^ 1074)) := by
  have bottom_ne : (bottom : ℚ) ≠ 0 := by positivity
  have apart : m.exponent - 2 = m.power - 1074 - 2 := rfl
  have unit : (2 : ℚ) ^ (1074 : ℤ) = 2 ^ 1074 := zpow_natCast 2 1074
  rw [quarter, apart, zpow_sub₀ two_ne_zero, zpow_sub₀ two_ne_zero, zpow_natCast, unit]
  push_cast
  have unit_ne : (2 : ℚ) ^ 1074 ≠ 0 := by positivity
  generalize (2 : ℚ) ^ 1074 = unit at unit_ne
  field_simp

theorem nearest?_of_rounds {top bottom : ℕ} (pos : 0 < bottom) (h : m.Rounds (top / bottom)) :
    nearest? (top * unitsOfOne) bottom = some m := by
  have scale_pos : (0 : ℚ) < 4 * (bottom * 2 ^ 1074) := by positivity
  have scaled : (top : ℚ) / bottom =
      ((4 * (top * unitsOfOne) : ℕ) : ℚ) / (4 * (bottom * 2 ^ 1074)) := by
    have bottom_ne : (bottom : ℚ) ≠ 0 := by positivity
    push_cast
    rw [cast_unitsOfOne]
    field_simp
  have low := h.low_le
  have high := h.le_high
  rw [scaled, quarters_eq m _ pos, div_le_div_iff_of_pos_right scale_pos, Nat.cast_le] at low high
  by_cases full : m.power = 0 ∨ 2 ^ 52 * 2 ^ m.power * bottom ≤ top * unitsOfOne
  · apply nearest?_of_full pos full low high
    intro odd
    rw [Rounds, if_neg (by omega), scaled, quarters_eq m _ pos, quarters_eq m _ pos,
      div_lt_div_iff_of_pos_right scale_pos, div_lt_div_iff_of_pos_right scale_pos, Nat.cast_lt,
      Nat.cast_lt] at h
    exact h
  · rw [not_or, not_le] at full
    exact nearest?_of_below pos full.1 full.2 low

theorem Rounds.least_le (nonzero : m.mantissa ≠ 0) (h : m.Rounds x) : 2 ^ (-1075 : ℤ) ≤ x := by
  apply le_trans _ h.low_le
  have quarters : 2 ≤ m.lowQuarters := by
    have := m.sub_two_le_lowQuarters
    omega
  have unit : (2 : ℚ) ^ (-1076 : ℤ) ≤ m.quarter := by
    apply zpow_le_zpow_right₀ one_le_two
    rw [exponent]
    omega
  calc (2 : ℚ) ^ (-1075 : ℤ) = 2 * 2 ^ (-1076 : ℤ) := by
        rw [← zpow_one_add₀ two_ne_zero]
        rfl
    _ ≤ m.lowQuarters * m.quarter := by gcongr; exact_mod_cast quarters

theorem Rounds.le_greatest (h : m.Rounds x) : x ≤ 2 ^ (1024 : ℤ) := by
  apply h.le_high.trans
  have quarters : 4 * m.mantissa + 2 ≤ 2 ^ 55 := by
    have : m.mantissa < 2 ^ 53 := m.mantissa_lt
    omega
  have unit : m.quarter ≤ 2 ^ (969 : ℤ) := by
    apply zpow_le_zpow_right₀ one_le_two
    have := m.power_le
    rw [exponent]
    omega
  calc ((4 * m.mantissa + 2 : ℕ) : ℚ) * m.quarter ≤ (2 ^ 55 : ℕ) * 2 ^ (969 : ℤ) :=
        mul_le_mul (Nat.cast_le.2 quarters) unit m.quarter_pos.le (Nat.cast_nonneg _)
    _ = 2 ^ (1024 : ℤ) := by
        rw [Nat.cast_pow, ← zpow_natCast, Nat.cast_ofNat, ← zpow_add₀ two_ne_zero]
        rfl

end

end Magnitude

theorem Double.ofUnits_of_nearest? {top bottom : ℕ} {m : Magnitude}
    (h : Magnitude.nearest? top bottom = some m) (negative : Bool) :
    ofUnits negative top bottom = .finite negative m := by
  unfold ofUnits
  split
  · next found =>
    rw [h] at found
    cases found
    rfl
  · next none =>
    rw [h] at none
    cases none

/-! ## Decimals -/

/-- Powers of two bases are compared by one pair of powers, as `10 ^ 3 ≤ 2 ^ 10`. -/
theorem zpow_le_zpow_of_pow_le {x y : ℚ} {p q : ℕ} {a b : ℤ} (one_le : 1 ≤ x)
    (step : x ^ p ≤ y ^ q) (nonzero : p ≠ 0) (nonneg : 0 ≤ a) (le : q * a ≤ p * b)
    (one_le' : 1 ≤ y) : x ^ a ≤ y ^ b := by
  apply le_of_pow_le_pow_left₀ nonzero (by positivity)
  calc (x ^ a) ^ p = (x ^ p) ^ a := by rw [← zpow_natCast, ← zpow_mul, mul_comm, zpow_mul,
        zpow_natCast]
    _ ≤ (y ^ q) ^ a := zpow_le_zpow_left₀ nonneg (by positivity) step
    _ = y ^ (q * a) := by rw [zpow_mul, zpow_natCast]
    _ ≤ y ^ (p * b) := zpow_le_zpow_right₀ one_le' le
    _ = (y ^ b) ^ p := by rw [mul_comm, zpow_mul, zpow_natCast]

theorem two_zpow_le_ten_zpow {a b : ℤ} (nonneg : 0 ≤ a) (le : 16 * a ≤ 53 * b) :
    (2 : ℚ) ^ a ≤ 10 ^ b :=
  zpow_le_zpow_of_pow_le (p := 53) (q := 16) (by norm_num) (by norm_num) (by norm_num) nonneg le
    (by norm_num)

theorem ten_zpow_le_two_zpow {a b : ℤ} (nonpos : a ≤ 0) (le : 53 * b ≤ 16 * a) :
    (10 : ℚ) ^ b ≤ 2 ^ a := by
  have inverse := two_zpow_le_ten_zpow (a := -a) (b := -b) (by omega) (by omega)
  rw [zpow_neg, zpow_neg] at inverse
  exact (inv_le_inv₀ (by positivity) (by positivity)).1 inverse

theorem zpow_eq_div (base : ℚ) (n : ℤ) : base ^ n = base ^ n.toNat / base ^ (-n).toNat := by
  obtain ⟨k, rfl | rfl⟩ := n.eq_nat_or_neg
  · simp
  · simp

namespace Decimal

def value (d : Decimal) : ℚ :=
  d.digits * 10 ^ d.exponent

theorem value_eq_div (d : Decimal) : d.value =
    ((d.digits * 10 ^ d.exponent.toNat : ℕ) : ℚ) / ((10 ^ (-d.exponent).toNat : ℕ) : ℚ) := by
  rw [value, zpow_eq_div, ← mul_div_assoc]
  push_cast
  rfl

theorem value_lt (d : Decimal) :
    d.value < 10 ^ (d.exponent + (Text.decimal d.digits).length) := by
  have digits : d.digits < 10 ^ (Text.decimal d.digits).length :=
    (Nat.length_toDigits_le_iff (by norm_num) Nat.length_toDigits_pos).1 le_rfl
  rw [value, zpow_add₀ (by norm_num), mul_comm, zpow_natCast]
  exact mul_lt_mul_of_pos_left (by exact_mod_cast digits) (by positivity)

theorem le_digits {number : ℕ} (nonzero : number ≠ 0) :
    10 ^ ((Text.decimal number).length - 1) ≤ number := by
  obtain single | several := Nat.eq_zero_or_pos ((Text.decimal number).length - 1)
  · rw [single]
    omega
  · by_contra less
    have short := (Nat.length_toDigits_le_iff (by norm_num) several).2 (Nat.lt_of_not_le less)
    rw [Text.decimal] at several short
    omega

theorem le_value {d : Decimal} (nonzero : d.digits ≠ 0) :
    10 ^ (d.exponent + (Text.decimal d.digits).length - 1) ≤ d.value := by
  have some_digit : 1 ≤ (Text.decimal d.digits).length := Nat.length_toDigits_pos
  have digits := le_digits nonzero
  rw [value, add_sub_assoc, zpow_add₀ (by norm_num), mul_comm]
  apply mul_le_mul_of_nonneg_right _ (by positivity)
  rw [← Nat.cast_one, ← Nat.cast_sub some_digit, zpow_natCast]
  exact_mod_cast digits

/-- A decimal in the interval of a magnitude is read as that magnitude. -/
theorem nearest_of_rounds {m : Magnitude} {d : Decimal} (nonzero : m.mantissa ≠ 0)
    (h : m.Rounds d.value) (negative : Bool) : d.nearest negative = .finite negative m := by
  have least := h.least_le nonzero
  have digits_ne : d.digits ≠ 0 := by
    intro none
    rw [value, none, Nat.cast_zero, zero_mul] at least
    exact absurd least (not_le.2 (by positivity))
  have not_small : ¬ d.exponent + (Text.decimal d.digits).length < -400 := by
    intro small
    have below : (10 : ℚ) ^ (d.exponent + (Text.decimal d.digits).length) ≤ 2 ^ (-1075 : ℤ) :=
      ten_zpow_le_two_zpow (by omega) (by omega)
    exact absurd (least.trans_lt d.value_lt) (not_lt.2 below)
  have not_large : ¬ d.exponent + (Text.decimal d.digits).length > 400 := by
    intro large
    have above : (2 : ℚ) ^ (1025 : ℤ) ≤ 10 ^ (d.exponent + (Text.decimal d.digits).length - 1) :=
      two_zpow_le_ten_zpow (by omega) (by omega)
    have strictly : (2 : ℚ) ^ (1024 : ℤ) < 2 ^ (1025 : ℤ) :=
      zpow_lt_zpow_right₀ one_lt_two (by norm_num)
    exact absurd (above.trans ((le_value digits_ne).trans h.le_greatest)) (not_le.2 strictly)
  have pos : 0 < 10 ^ (-d.exponent).toNat := by positivity
  rw [value_eq_div] at h
  have rounded := Magnitude.nearest?_of_rounds pos h
  rw [nearest, if_neg (not_or.2 ⟨digits_ne, not_small⟩), if_neg not_large, Nat.pow_eq, Nat.pow_eq,
    Double.ofRatio, Double.ofUnits_of_nearest? rounded]

end Decimal

end FileRouting.Number
