import FileRouting.Text.Numeral
import Mathlib.Data.List.Induction
import Mathlib.Tactic.Ring

/-!
# Numerals

What stands in a numeral, and what the parts of a numeral count.
-/

namespace FileRouting.Text

/-! ## Digits -/

theorem isDigit_of_mem_decimal {count : Nat} {c : Char} (h : c ∈ Nat.toDigits 10 count) :
    c.isDigit :=
  Nat.isDigit_of_mem_toDigits (by decide) (by decide) h

theorem forall_mem_padLeft (accepts : Char → Prop) {fill : Char} {text : List Char}
    (fills : accepts fill) (h : ∀ c ∈ text, accepts c) (width : Nat) :
    ∀ c ∈ padLeft fill width text, accepts c := by
  intro c member
  rcases List.mem_append.1 member with member | member
  · rw [List.eq_of_mem_replicate member]
    exact fills
  · exact h c member

/-! ## Parts -/

theorem numberOf_append (base : Nat) (digits more : List Char) :
    numberOf base (digits ++ more) =
      numberOf base digits * base ^ more.length + numberOf base more := by
  induction more using List.reverseRecOn with
  | nil => simp [numberOf]
  | append_singleton more c ih =>
    rw [← List.append_assoc, numberOf_concat, numberOf_concat, ih, List.length_append,
      List.length_singleton]
    ring

theorem numberOf_replicate_zero (base count : Nat) :
    numberOf base (List.replicate count '0') = 0 := by
  induction count with
  | zero => rfl
  | succ count ih =>
    rw [List.replicate_succ', numberOf_concat, ih]
    simp [digitValue?]

theorem numberOf_padLeft (base width : Nat) (text : List Char) :
    numberOf base (padLeft '0' width text) = numberOf base text := by
  rw [padLeft, numberOf_append, numberOf_replicate_zero, Nat.zero_mul, Nat.zero_add]

end FileRouting.Text
