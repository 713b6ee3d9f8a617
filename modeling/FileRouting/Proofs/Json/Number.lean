import FileRouting.Json.Reader
import FileRouting.Json.Writer
import FileRouting.Proofs.Number.Shortest
import FileRouting.Proofs.Text.Numeral

/-!
# Written numbers are read back

An integer and a finite floating-point number are read back from their text, in front of a comma or
a closing bracket. The text of a floating-point number always has a point or an exponent, and it has
the value of the shortest decimal, `exists_spelling`.
-/

namespace FileRouting.Json

open FileRouting.Text FileRouting.Number

/-- What may follow a value. -/
def Ends (rest : List Char) : Prop :=
  ∀ c ∈ rest.head?, c = ',' ∨ c = ']' ∨ c = '\x7d'

/-! ## The parts of a number -/

theorem digits_append {front rest : List Char} (h : ∀ c ∈ front, c.isDigit)
    (stop : ∀ c ∈ rest.head?, c.isDigit = false) : digits (front ++ rest) = (front, rest) := by
  have none : rest.takeWhile Char.isDigit = [] ∧ rest.dropWhile Char.isDigit = rest := by
    cases rest with
    | nil => exact ⟨rfl, rfl⟩
    | cons c rest => simp [stop c rfl]
  rw [digits, List.takeWhile_append_of_pos h, List.dropWhile_append_of_pos h, none.1, none.2,
    List.append_nil]

def fractionText (part : List Char) : List Char :=
  if part = [] then [] else '.' :: part

def exponentText : Option Int → List Char
  | some power => 'e' :: (if power < 0 then '-' else '+') :: padded 2 power.natAbs
  | none => []

theorem fraction_append {part rest : List Char} (h : ∀ c ∈ part, c.isDigit)
    (stop : ∀ c ∈ rest.head?, c.isDigit = false ∧ c ≠ '.') :
    fraction (fractionText part ++ rest) = (part, rest) := by
  rw [fractionText]
  split
  · next none =>
    cases rest with
    | nil => simp [fraction, none]
    | cons c rest =>
      have := (stop c rfl).2
      simp [fraction, none, this]
  · exact digits_append h fun c member => (stop c member).1

theorem isDigit_of_mem_padded {width number : Nat} {c : Char} (h : c ∈ padded width number) :
    c.isDigit :=
  forall_mem_padLeft (fun c => c.isDigit) rfl
    (fun _ member => isDigit_of_mem_decimal member) width c h

section

variable {rest : List Char} (ends : Ends rest)

include ends

theorem exponent?_append (power : Option Int) :
    exponent? (exponentText power ++ rest) = power.map (·, rest) := by
  cases power with
  | none =>
    cases rest with
    | nil => rfl
    | cons c rest =>
      rcases ends c rfl with rfl | rfl | rfl <;> rfl
  | some power =>
    have read : digits (padded 2 power.natAbs ++ rest) = (padded 2 power.natAbs, rest) := by
      apply digits_append fun c => isDigit_of_mem_padded
      intro c member
      rcases ends c member with rfl | rfl | rfl <;> rfl
    have number : numberOf 10 (padded 2 power.natAbs) = power.natAbs := by
      rw [padded, numberOf_padLeft, numberOf_decimal]
    by_cases negative : power < 0
    · have size : -(power.natAbs : Int) = power := by omega
      simp only [exponentText, if_pos negative, List.cons_append, exponent?, read, number, size]
      rfl
    · have size : (power.natAbs : Int) = power := by omega
      simp only [exponentText, if_neg negative, List.cons_append, exponent?, read, number, size]
      rfl

theorem head_exponentText (power : Option Int) {c : Char}
    (h : c ∈ (exponentText power ++ rest).head?) : c = 'e' ∨ c = ',' ∨ c = ']' ∨ c = '\x7d' := by
  cases power with
  | none => exact .inr (ends c h)
  | some power =>
    cases h
    exact .inl rfl

theorem head_fractionText (part : List Char) (power : Option Int) {c : Char}
    (h : c ∈ (fractionText part ++ (exponentText power ++ rest)).head?) :
    c = '.' ∨ c = 'e' ∨ c = ',' ∨ c = ']' ∨ c = '\x7d' := by
  rw [fractionText] at h
  split at h
  · exact .inr (head_exponentText ends power h)
  · cases h
    exact .inl rfl

end

/-! ## Numbers -/

/-- The number that a sign and these parts write. -/
def numberOfParts (negative : Bool) (whole part : List Char) : Option Int → Value
  | none =>
    if part = [] then .int (if negative then -numberOf 10 whole else numberOf 10 whole)
    else .float (Decimal.nearest negative ⟨numberOf 10 (whole ++ part), -part.length⟩)
  | some power =>
    .float (Decimal.nearest negative ⟨numberOf 10 (whole ++ part), power - part.length⟩)

/-- A number is read from its digits, fraction and exponent. -/
theorem number?_append {whole part rest : List Char} (negative : Bool) (power : Option Int)
    (nonempty : whole ≠ []) (whole_digits : ∀ c ∈ whole, c.isDigit)
    (part_digits : ∀ c ∈ part, c.isDigit) (ends : Ends rest) :
    number?
        (Style.sign negative ++ (whole ++ (fractionText part ++ (exponentText power ++ rest)))) =
      some (numberOfParts negative whole part power, rest) := by
  have power_read := exponent?_append ends power
  have part_read : fraction (fractionText part ++ (exponentText power ++ rest)) =
      (part, exponentText power ++ rest) := by
    apply fraction_append part_digits
    intro c member
    rcases head_exponentText ends power member with rfl | rfl | rfl | rfl <;> decide
  have stop := fun c => @head_fractionText rest ends part power c
  generalize fractionText part ++ (exponentText power ++ rest) = more at *
  have whole_read : digits (whole ++ more) = (whole, more) := by
    apply digits_append whole_digits
    intro c member
    rcases stop c member with rfl | rfl | rfl | rfl | rfl <;> rfl
  cases negative with
  | true =>
    simp only [Style.sign, if_true, List.cons_append, List.nil_append, number?, whole_read,
      if_neg nonempty, part_read, power_read]
    cases power <;> cases part <;> simp [numberOfParts, exponentText]
  | false =>
    simp only [Style.sign, Bool.false_eq_true, if_false, List.nil_append, number?]
    split
    · next minus =>
      obtain ⟨c, digits, rfl⟩ := List.exists_cons_of_ne_nil nonempty
      cases minus
      cases whole_digits '-' List.mem_cons_self
    · simp only [whole_read, if_neg nonempty, part_read, power_read]
      cases power <;> cases part <;> simp [numberOfParts, exponentText]

theorem number?_int (n : Int) {rest : List Char} (ends : Ends rest) :
    number? (signedDecimal n ++ rest) = some (.int n, rest) := by
  have read (negative : Bool) (number : Nat) :
      number? (Style.sign negative ++ (decimal number ++ rest)) =
        some (numberOfParts negative (decimal number) [] none, rest) := by
    have nonempty : decimal number ≠ [] := Nat.toDigits_ne_nil
    have no_part : ∀ c ∈ ([] : List Char), c.isDigit := nofun
    exact number?_append negative none nonempty (fun c => isDigit_of_mem_decimal) no_part ends
  simp only [numberOfParts, numberOf_decimal, if_true] at read
  cases n with
  | ofNat number => exact read false number
  | negSucc number => exact read true (number + 1)

/-! ## Floating-point numbers -/

/-- A numeral with a point or an exponent, by its parts. -/
structure Spelling where
  whole : List Char
  part : List Char
  power : Option Int
  nonempty : whole ≠ []
  whole_digits : ∀ c ∈ whole, c.isDigit
  part_digits : ∀ c ∈ part, c.isDigit
  marked : part ≠ [] ∨ power ≠ none

namespace Spelling

def text (s : Spelling) : List Char :=
  s.whole ++ (fractionText s.part ++ exponentText s.power)

def decimal (s : Spelling) : Decimal :=
  ⟨numberOf 10 (s.whole ++ s.part), s.power.getD 0 - s.part.length⟩

theorem number?_text (s : Spelling) (negative : Bool) {rest : List Char} (ends : Ends rest) :
    number? (Style.sign negative ++ (s.text ++ rest)) =
      some (.float (s.decimal.nearest negative), rest) := by
  have read := number?_append negative s.power s.nonempty s.whole_digits s.part_digits ends
  rw [text, List.append_assoc, List.append_assoc, read]
  have marked := s.marked
  cases power : s.power with
  | none =>
    have pointed := marked.resolve_right (not_not_intro power)
    simp [numberOfParts, decimal, power, pointed]
  | some power => simp [numberOfParts, decimal, power]

end Spelling

theorem value_trim (zeros : Nat) (d : Decimal) : (d.trim zeros).value = d.value := by
  induction zeros generalizing d with
  | zero => rfl
  | succ zeros ih =>
    rw [Decimal.trim]
    split
    · next tens =>
      rw [ih, Decimal.value, Decimal.value, zpow_add_one₀ (by norm_num)]
      have digits : (d.digits : ℚ) = (d.digits / 10 : ℕ) * 10 := by
        exact_mod_cast (Nat.div_mul_cancel (Nat.dvd_of_mod_eq_zero tens.2)).symm
      rw [digits]
      ring
    · rfl

theorem isDigit_of_mem_zeros (zeros : Nat) : ∀ c ∈ List.replicate zeros '0', c.isDigit := by
  intro c member
  rw [List.eq_of_mem_replicate member]
  rfl

theorem Spelling.decimal_eq {s : Spelling} {number : Nat} {exponent : Int}
    (digits : numberOf 10 (s.whole ++ s.part) = number)
    (places : s.power.getD 0 - s.part.length = exponent) : s.decimal = ⟨number, exponent⟩ := by
  rw [decimal, digits, places]

section

variable {text : List Char} (digits : ∀ c ∈ text, c.isDigit) (nonempty : text ≠ [])

include digits nonempty

theorem exists_small (zeros : Nat) :
    ∃ s : Spelling, '0' :: '.' :: List.replicate zeros '0' ++ text = s.text ∧
      s.decimal = ⟨numberOf 10 text, -(zeros + text.length)⟩ := by
  have part_digits := List.forall_mem_append.2 ⟨isDigit_of_mem_zeros zeros, digits⟩
  refine ⟨⟨['0'], _, none, by simp, by simp, part_digits, .inl (by simp [nonempty])⟩, ?_, ?_⟩
  · simp [Spelling.text, fractionText, exponentText, nonempty]
  · apply Spelling.decimal_eq
    · rw [numberOf_append, numberOf_append, numberOf_replicate_zero]
      simp [numberOf, digitValue?]
    · simp

theorem exists_whole (zeros : Nat) :
    ∃ s : Spelling, text ++ List.replicate zeros '0' ++ ['.', '0'] = s.text ∧
      s.decimal.value = numberOf 10 text * 10 ^ zeros := by
  have whole_digits := List.forall_mem_append.2 ⟨digits, isDigit_of_mem_zeros zeros⟩
  refine ⟨⟨_, ['0'], none, by simp [nonempty], whole_digits, by simp, by simp⟩, ?_, ?_⟩
  · simp [Spelling.text, fractionText, exponentText]
  · rw [Spelling.decimal_eq rfl rfl, numberOf_append, numberOf_append, numberOf_replicate_zero]
    simp [Decimal.value, numberOf, digitValue?]

theorem exists_cut {count : Nat} (pos : 0 < count) (less : count < text.length) :
    ∃ s : Spelling, text.take count ++ '.' :: text.drop count = s.text ∧
      s.decimal = ⟨numberOf 10 text, count - text.length⟩ := by
  have part : text.drop count ≠ [] := by simp [less]
  refine ⟨⟨text.take count, text.drop count, none, by simp [nonempty, pos.ne'],
    fun c member => digits c (List.mem_of_mem_take member),
    fun c member => digits c (List.mem_of_mem_drop member), .inl part⟩, ?_, ?_⟩
  · simp [Spelling.text, fractionText, exponentText, less]
  · apply Spelling.decimal_eq
    · rw [List.take_append_drop]
    · simp
      omega

theorem exists_power (power : Int) :
    ∃ s : Spelling, text.take 1 ++ (if text.length = 1 then [] else '.' :: text.drop 1) ++
        'e' :: (if power < 0 then '-' else '+') :: padded 2 power.natAbs = s.text ∧
      s.decimal = ⟨numberOf 10 text, power - (text.length - 1)⟩ := by
  have some_digit := List.length_pos_of_ne_nil nonempty
  refine ⟨⟨text.take 1, text.drop 1, some power, by simp [nonempty],
    fun c member => digits c (List.mem_of_mem_take member),
    fun c member => digits c (List.mem_of_mem_drop member), .inr (by simp)⟩, ?_, ?_⟩
  · have single : text.length = 1 ↔ text.drop 1 = [] := by
      rw [List.drop_eq_nil_iff]
      omega
    simp only [Spelling.text, fractionText, exponentText, single, List.append_assoc]
  · apply Spelling.decimal_eq
    · rw [List.take_append_drop]
    · simp
      omega

end

/-- The text of a decimal has a point or an exponent, and its value. -/
theorem exists_spelling (d : Decimal) :
    ∃ s : Spelling, floatStyle.decimalText d = s.text ∧ s.decimal.value = d.value := by
  rw [← value_trim 20 d, Style.decimalText]
  obtain ⟨number, exponent⟩ := d.trim 20
  have digits : ∀ c ∈ decimal number, c.isDigit := fun c => isDigit_of_mem_decimal
  have nonempty : decimal number ≠ [] := Nat.toDigits_ne_nil
  have some_digit := List.length_pos_of_ne_nil nonempty
  have read := numberOf_decimal number
  dsimp only
  generalize decimal number = text at *
  subst read
  split
  · next zero =>
    refine ⟨⟨['0'], ['0'], none, by simp, by simp, by simp, by simp⟩, rfl, ?_⟩
    have digits : numberOf 10 (['0'] ++ ['0']) = 0 := rfl
    rw [Spelling.decimal_eq digits rfl, zero]
    simp [Decimal.value]
  split
  · split
    · next small =>
      obtain ⟨s, text_eq, decimal_eq⟩ :=
        exists_small digits nonempty (-(exponent + text.length - 1) - 1).toNat
      refine ⟨s, text_eq, ?_⟩
      rw [decimal_eq]
      congr 2
      omega
    · next large =>
      split
      · next long =>
        obtain ⟨s, text_eq, value_eq⟩ :=
          exists_whole digits nonempty ((exponent + text.length - 1).toNat + 1 - text.length)
        refine ⟨s, text_eq, ?_⟩
        rw [value_eq, ← zpow_natCast]
        dsimp only [Decimal.value]
        congr 2
        omega
      · next short =>
        obtain ⟨s, text_eq, decimal_eq⟩ :=
          exists_cut digits nonempty (Nat.succ_pos _) (Nat.lt_of_not_le short)
        refine ⟨s, text_eq, ?_⟩
        rw [decimal_eq]
        congr 2
        omega
  · obtain ⟨s, text_eq, decimal_eq⟩ := exists_power digits nonempty (exponent + text.length - 1)
    refine ⟨s, text_eq, ?_⟩
    rw [decimal_eq]
    congr 2
    omega

theorem number?_float (negative : Bool) (size : Magnitude) {rest : List Char} (ends : Ends rest) :
    number? (floatStyle.text (.finite negative size) ++ rest) =
      some (.float (.finite negative size), rest) := by
  obtain ⟨s, text_eq, value_eq⟩ := exists_spelling size.shortest
  rw [Style.text, text_eq, List.append_assoc, s.number?_text negative ends,
    Magnitude.nearest_of_value_eq value_eq]

end FileRouting.Json
