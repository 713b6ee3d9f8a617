import FileRouting.Proofs.Number.Rounding

/-!
# Shortest decimals are read back

The shortest decimal of a number lies in its interval. The search begins at the leading digit, and
the grid that it ends at is finer than the interval is wide.
-/

namespace FileRouting.Number

namespace Magnitude

def value (m : Magnitude) : ℚ :=
  m.mantissa * 2 ^ m.exponent

theorem value_eq (m : Magnitude) : m.value = (4 * m.mantissa : ℕ) * m.quarter := by
  rw [value, quarter, zpow_sub₀ two_ne_zero]
  push_cast
  ring

/-! ## Grids -/

section

variable (m : Magnitude) (quarters : ℕ) (grid : ℤ)

theorem onGrid_pos : 0 < (m.onGrid quarters grid).2 := by
  simp only [onGrid, Nat.pow_eq]
  positivity

theorem onGrid_ratio : ((m.onGrid quarters grid).1 : ℚ) / (m.onGrid quarters grid).2 =
    quarters * m.quarter / 10 ^ grid := by
  have inverse : (2 - m.exponent).toNat = (-(m.exponent - 2)).toNat := by rw [neg_sub]
  rw [quarter, zpow_eq_div, zpow_eq_div 10, ← inverse]
  simp only [onGrid, Nat.pow_eq]
  push_cast
  field_simp

theorem onGrid_le_iff (digits : ℕ) :
    (m.onGrid quarters grid).1 ≤ digits * (m.onGrid quarters grid).2 ↔
      quarters * m.quarter ≤ digits * 10 ^ grid := by
  have pos : (0 : ℚ) < (m.onGrid quarters grid).2 := Nat.cast_pos.2 (m.onGrid_pos quarters grid)
  rw [← div_le_iff₀ (by positivity), ← m.onGrid_ratio, div_le_iff₀ pos]
  exact_mod_cast Iff.rfl

theorem le_onGrid_iff (digits : ℕ) :
    digits * (m.onGrid quarters grid).2 ≤ (m.onGrid quarters grid).1 ↔
      digits * 10 ^ grid ≤ quarters * m.quarter := by
  have pos : (0 : ℚ) < (m.onGrid quarters grid).2 := Nat.cast_pos.2 (m.onGrid_pos quarters grid)
  rw [← le_div_iff₀ (by positivity), ← m.onGrid_ratio, le_div_iff₀ pos]
  exact_mod_cast Iff.rfl

end

section

variable (m : Magnitude) (grid : ℤ)

theorem holds_iff (digits : ℕ) :
    m.holds digits grid = true ↔ m.Rounds (digits * 10 ^ grid) := by
  rw [holds, Rounds, ← lowQuarters]
  split
  · simp only [Bool.decide_and, Bool.and_eq_true, decide_eq_true_eq, onGrid_le_iff, le_onGrid_iff]
  · simp only [Bool.decide_and, Bool.and_eq_true, decide_eq_true_eq, ← not_le, onGrid_le_iff,
      le_onGrid_iff]

theorem wholeOn_le : m.wholeOn grid * 10 ^ grid ≤ m.value := by
  rw [value_eq, ← le_onGrid_iff]
  exact Nat.div_mul_le_self _ _

theorem value_lt : m.value < (m.wholeOn grid + 1 : ℕ) * 10 ^ grid := by
  rw [value_eq, ← not_le, ← le_onGrid_iff, not_le]
  exact (Nat.div_lt_iff_lt_mul (m.onGrid_pos _ _)).1 (Nat.lt_succ_self _)

theorem ten_zpow_le (h : m.wholeOn grid ≠ 0) : 10 ^ grid ≤ m.value := by
  apply le_trans _ (m.wholeOn_le grid)
  apply le_mul_of_one_le_left (by positivity)
  exact_mod_cast Nat.one_le_iff_ne_zero.2 h

theorem ten_zpow_succ_le (h : 10 ≤ m.wholeOn grid) : 10 ^ (grid + 1) ≤ m.value := by
  apply le_trans _ (m.wholeOn_le grid)
  rw [zpow_add_one₀ (by norm_num), mul_comm]
  gcongr
  exact_mod_cast h

end

/-! ## The search -/

theorem roundedQuotient_eq_or (top bottom : ℕ) : roundedQuotient top bottom = top / bottom ∨
    roundedQuotient top bottom = top / bottom + 1 := by
  rw [roundedQuotient]
  split
  · exact .inl rfl
  · exact .inr rfl

section

variable {m : Magnitude} {grid : ℤ}

theorem neighbour?_rounds {d : Decimal} (h : m.neighbour? grid = some d) : m.Rounds d.value := by
  rw [Decimal.value, ← holds_iff]
  simp only [neighbour?] at h
  split at h
  · cases h
  · next below _ =>
    cases h
    exact below
  · next above =>
    cases h
    exact above
  · next below above =>
    cases h
    rcases roundedQuotient_eq_or _ _ with same | same <;> rw [same]
    · exact below
    · exact above

/-- Between the ends of the interval there is a number of the grid, unless the grid is coarser than
the interval is wide. -/
theorem le_add_ten_zpow_of_none (h : m.neighbour? grid = none) :
    (4 * m.mantissa + 2 : ℕ) * m.quarter ≤ m.lowQuarters * m.quarter + 10 ^ grid := by
  have neither : m.holds (m.wholeOn grid) grid = false ∧
      m.holds (m.wholeOn grid + 1) grid = false := by
    simp only [neighbour?] at h
    split at h
    · next below above => exact ⟨below, above⟩
    all_goals cases h
  have below := m.wholeOn_le grid
  have above := m.value_lt grid
  rw [← Bool.not_eq_true, ← Bool.not_eq_true, holds_iff, holds_iff] at neither
  have low : m.wholeOn grid * 10 ^ grid ≤ m.lowQuarters * m.quarter := by
    by_contra! inside
    apply neither.1 (rounds_of_lt inside (below.trans_lt _))
    rw [value_eq]
    gcongr
    · exact m.quarter_pos
    · omega
  have high : (4 * m.mantissa + 2 : ℕ) * m.quarter ≤ (m.wholeOn grid + 1 : ℕ) * 10 ^ grid := by
    by_contra! inside
    apply neither.2 (rounds_of_lt (lt_of_le_of_lt _ above) inside)
    rw [value_eq]
    gcongr
    · exact m.quarter_pos.le
    · exact Nat.sub_le _ _
  rw [Nat.cast_add_one (m.wholeOn grid), add_one_mul] at high
  exact high.trans (add_le_add_left low _)

/-- Seventeen digits suffice: a mantissa has less than `10 ^ 16` values. -/
theorem exists_neighbour (fine : 10 ^ (grid + 16) ≤ m.value) : (m.neighbour? grid).isSome := by
  by_contra missing
  have coarse := le_add_ten_zpow_of_none (Option.not_isSome_iff_eq_none.1 missing)
  rw [zpow_add₀ (by norm_num), value_eq, zpow_ofNat] at fine
  have many : (((4 * m.mantissa + 2) * 10 ^ 16 : ℕ) : ℚ) ≤
      (m.lowQuarters * 10 ^ 16 + 4 * m.mantissa : ℕ) := by
    apply le_of_mul_le_mul_right _ m.quarter_pos
    push_cast at coarse fine ⊢
    linarith
  rw [Nat.cast_le, lowQuarters] at many
  have bits : m.mantissa < 2 ^ 53 := m.mantissa_lt
  split at many
  · next narrow =>
    have least : m.mantissa = 2 ^ 52 := by
      simp only [isNarrow, decide_eq_true_eq] at narrow
      exact narrow.1
    omega
  · omega

theorem search_rounds {grids : ℕ} (found : (m.neighbour? (grid - grids)).isSome) :
    m.Rounds (m.search (grids + 1) grid).value := by
  induction grids generalizing grid with
  | zero =>
    obtain ⟨d, hit⟩ := Option.isSome_iff_exists.1 found
    rw [Nat.cast_zero, sub_zero] at hit
    rw [search, hit]
    exact neighbour?_rounds hit
  | succ grids ih =>
    rw [search]
    cases hit : m.neighbour? grid with
    | none =>
      apply ih
      rw [sub_sub, add_comm]
      exact_mod_cast found
    | some d => exact neighbour?_rounds hit

end

/-! ## The leading digit -/

section

variable {m : Magnitude} (nonzero : m.mantissa ≠ 0)

include nonzero

theorem two_zpow_le_value : 2 ^ (m.mantissa.log2 + m.exponent) ≤ m.value := by
  rw [value, zpow_add₀ two_ne_zero, zpow_natCast]
  gcongr
  exact_mod_cast Nat.log2_self_le nonzero

theorem ten_zpow_estimate_le :
    10 ^ (((m.mantissa.log2 + m.exponent) * 30103).fdiv 100000 - 1) ≤ m.value := by
  apply le_trans _ (two_zpow_le_value nonzero)
  have bits := (Nat.log2_lt nonzero).2 m.mantissa_lt
  have power := m.power_le
  have exponent : m.exponent = m.power - 1074 := rfl
  rw [Int.fdiv_eq_ediv_of_nonneg _ (by norm_num)]
  obtain below | above := lt_or_ge (m.mantissa.log2 + m.exponent) 0
  · exact ten_zpow_le_two_zpow below.le (by omega)
  · apply (zpow_le_zpow_right₀ (by norm_num) (le_max_left _ 0)).trans
    exact zpow_le_zpow_of_pow_le (p := 3) (q := 10) (by norm_num) (by norm_num) (by norm_num)
      (le_max_right _ _) (by omega) (by norm_num)

theorem ten_zpow_leading_le : 10 ^ m.leading ≤ m.value := by
  rw [leading]
  split
  · exact ten_zpow_estimate_le nonzero
  · next some_digit =>
    split
    · exact m.ten_zpow_le _ some_digit
    · next more => exact m.ten_zpow_succ_le _ (by omega)

theorem shortest_rounds : m.Rounds m.shortest.value := by
  rw [shortest, if_neg nonzero]
  apply search_rounds
  apply exists_neighbour
  rw [Nat.cast_ofNat, sub_add_cancel]
  exact ten_zpow_leading_le nonzero

end

theorem eq_zero_of_mantissa {m : Magnitude} (h : m.mantissa = 0) : m = zero := by
  obtain ⟨mantissa, power, _, _, full⟩ := m
  cases h
  obtain rfl | full := full
  · rfl
  · cases full

/-- A decimal with the value of the shortest one is read as the number. -/
theorem nearest_of_value_eq {m : Magnitude} {d : Decimal} (h : d.value = m.shortest.value)
    (negative : Bool) : d.nearest negative = .finite negative m := by
  by_cases zero : m.mantissa = 0
  · have none : d.digits = 0 := by
      have power : (10 : ℚ) ^ d.exponent ≠ 0 := by positivity
      simpa [shortest, zero, Decimal.value, power] using h
    rw [Decimal.nearest, if_pos (.inl none), eq_zero_of_mantissa zero]
  · apply Decimal.nearest_of_rounds zero
    rw [h]
    exact shortest_rounds zero

end Magnitude

end FileRouting.Number
