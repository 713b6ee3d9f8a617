import FileRouting.Proofs.Text.Numeral
import Mathlib.Order.Compare

/-!
# Comparing texts

Texts are compared character by character. Where two texts of one length stand before others, they
decide first. Numerals of one width compare as their numbers do, `compare_padded`, since a digit
outweighs all digits behind it: that is the comparison of two numbers that are written by quotient
and rest, `compare_scaled`.
-/

namespace FileRouting.Text

/-! ## Numbers -/

theorem compare_congr {α β : Type} [LinearOrder α] [LinearOrder β] {a b : α} {a' b' : β}
    (lt : a < b ↔ a' < b') (gt : b < a ↔ b' < a') : compare a b = compare a' b' := by
  rcases lt_trichotomy a b with less | rfl | more
  · rw [compare_lt_iff_lt.2 less, compare_lt_iff_lt.2 (lt.1 less)]
  · have same : a' = b' :=
      le_antisymm (not_lt.1 fun more => lt_irrefl a (gt.2 more))
        (not_lt.1 fun less => lt_irrefl a (lt.2 less))
    rw [same, Std.compare_self, Std.compare_self]
  · rw [compare_gt_iff_gt.2 more, compare_gt_iff_gt.2 (gt.1 more)]

/-- What is less by its quotient is less. -/
theorem scaled_lt {base q q' r : Nat} (small : r < base) (less : q < q') (r' : Nat) :
    q * base + r < q' * base + r' := by
  have next : (q + 1) * base ≤ q' * base := Nat.mul_le_mul_right base less
  rw [Nat.add_mul, Nat.one_mul] at next
  omega

theorem compare_scaled {base q q' r r' : Nat} (small : r < base) (small' : r' < base) :
    compare (q * base + r) (q' * base + r') = (compare q q').then (compare r r') := by
  rcases Nat.lt_trichotomy q q' with less | rfl | more
  · rw [Nat.compare_eq_lt.2 less, Nat.compare_eq_lt.2 (scaled_lt small less r')]
    rfl
  · rw [Std.compare_self, Ordering.eq_then]
    exact compare_congr (by omega) (by omega)
  · rw [Nat.compare_eq_gt.2 more, Nat.compare_eq_gt.2 (scaled_lt small' more r)]
    rfl

/-! ## Texts of one length -/

theorem compare_append {α : Type} [Ord α] {first first' : List α}
    (length : first.length = first'.length) (rest rest' : List α) :
    compare (first ++ rest) (first' ++ rest') =
      (compare first first').then (compare rest rest') := by
  induction first generalizing first' with
  | nil =>
    obtain rfl := List.length_eq_zero_iff.1 length.symm
    rfl
  | cons a first ih =>
    obtain _ | ⟨a', first'⟩ := first'
    · cases length
    · rw [List.cons_append, List.cons_append, List.compare_cons_cons, List.compare_cons_cons,
        ih (Nat.succ.inj length), Ordering.then_assoc]

/-! ## Numerals of one width -/

theorem toNat_digit {value : Nat} (small : value < 10) : (digit value).toNat = value + 48 := by
  decide +revert

theorem exists_eq_digit {c : Char} (h : isDigitOf 10 c) : ∃ value < 10, c = digit value := by
  unfold isDigitOf at h
  split at h
  · next value found =>
    have small : value < 10 := by simpa using h
    unfold digitValue? at found
    split at found
    · next range =>
      obtain ⟨le, _⟩ : 48 ≤ c.toNat ∧ c.toNat ≤ 57 := range
      cases found
      refine ⟨_, small, Char.toNat_inj.1 ?_⟩
      rw [toNat_digit small]
      exact (Nat.sub_add_cancel le).symm
    -- The letters stand for values from ten on.
    · split at found
      · cases found
        omega
      · split at found
        · cases found
          omega
        · cases found
  · cases h

theorem compare_digit {value value' : Nat} (small : value < 10) (small' : value' < 10) :
    compare (digit value) (digit value') = compare value value' := by
  have all : ∀ value < 10, ∀ value' < 10,
      compare (digit value) (digit value') = compare value value' := by decide
  exact all value small value' small'

theorem numberOf_cons (base : Nat) (c : Char) (digits : List Char) :
    numberOf base (c :: digits) =
      (digitValue? c).getD 0 * base ^ digits.length + numberOf base digits := by
  have apart := numberOf_append base [c] digits
  simpa [numberOf] using apart

theorem numberOf_lt {digits : List Char} (h : ∀ c ∈ digits, isDigitOf 10 c) :
    numberOf 10 digits < 10 ^ digits.length := by
  induction digits with
  | nil => decide
  | cons c digits ih =>
    obtain ⟨first, others⟩ := List.forall_mem_cons.1 h
    obtain ⟨value, small, rfl⟩ := exists_eq_digit first
    have behind := ih others
    have weight : value * 10 ^ digits.length ≤ 9 * 10 ^ digits.length :=
      Nat.mul_le_mul_right _ (Nat.le_of_lt_succ small)
    rw [numberOf_cons, digitValue?_digit (by omega), Option.getD_some, List.length_cons,
      Nat.pow_succ]
    omega

theorem compare_digits {digits digits' : List Char} (h : ∀ c ∈ digits, isDigitOf 10 c)
    (h' : ∀ c ∈ digits', isDigitOf 10 c) (length : digits.length = digits'.length) :
    compare digits digits' = compare (numberOf 10 digits) (numberOf 10 digits') := by
  induction digits generalizing digits' with
  | nil =>
    obtain rfl := List.length_eq_zero_iff.1 length.symm
    rfl
  | cons c digits ih =>
    obtain _ | ⟨c', digits'⟩ := digits'
    · cases length
    · obtain ⟨first, others⟩ := List.forall_mem_cons.1 h
      obtain ⟨first', others'⟩ := List.forall_mem_cons.1 h'
      obtain ⟨value, small, rfl⟩ := exists_eq_digit first
      obtain ⟨value', small', rfl⟩ := exists_eq_digit first'
      have rest := Nat.succ.inj length
      have bound := numberOf_lt others'
      rw [← rest] at bound
      rw [List.compare_cons_cons, numberOf_cons, numberOf_cons, digitValue?_digit (by omega),
        digitValue?_digit (by omega), Option.getD_some, Option.getD_some, ← rest,
        compare_scaled (numberOf_lt others) bound, ih others others' rest,
        compare_digit small small']

theorem isDigitOf_of_mem_padded (width number : Nat) : ∀ c ∈ padded width number, isDigitOf 10 c :=
  forall_mem_padLeft (isDigitOf 10 ·) (by decide)
    (fun _ => isDigitOf_of_mem_toDigits (by decide) (by decide)) width

theorem numberOf_padded (width number : Nat) : numberOf 10 (padded width number) = number := by
  rw [padded, numberOf_padLeft, numberOf_decimal]

section

variable {width number : Nat} (positive : 1 ≤ width) (small : number < 10 ^ width)

include positive small

theorem length_padded : (padded width number).length = width := by
  have digits := (Nat.length_toDigits_le_iff (b := 10) (by decide) positive).2 small
  rw [padded, length_padLeft]
  exact Nat.max_eq_left digits

theorem compare_padded {number' : Nat} (small' : number' < 10 ^ width) :
    compare (padded width number) (padded width number') = compare number number' := by
  have length := (length_padded positive small).trans (length_padded positive small').symm
  rw [compare_digits (isDigitOf_of_mem_padded width number)
    (isDigitOf_of_mem_padded width number') length, numberOf_padded, numberOf_padded]

end

end FileRouting.Text
