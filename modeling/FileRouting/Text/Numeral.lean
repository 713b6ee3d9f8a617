/-!
# Numerals

Decimal and hexadecimal numerals of natural numbers, padded with zeros on the left to a least
length, and their reading back.
-/

namespace FileRouting.Text

/-! ## Writing -/

/-- The digit of a value below sixteen. -/
def digit (value : Nat) : Char :=
  Nat.digitChar value

def decimal (number : Nat) : List Char :=
  Nat.toDigits 10 number

/-- The lower-case hexadecimal numeral of a number. -/
def hexadecimal (number : Nat) : List Char :=
  Nat.toDigits 16 number

/-- A text with `fill` on its left up to a length of at least `width`. -/
def padLeft (fill : Char) (width : Nat) (text : List Char) : List Char :=
  List.replicate (width - text.length) fill ++ text

/-- The decimal numeral of a number in at least `width` digits. -/
def padded (width number : Nat) : List Char :=
  padLeft '0' width (decimal number)

/-- The hexadecimal numeral of a number in at least `width` digits. -/
def paddedHexadecimal (width number : Nat) : List Char :=
  padLeft '0' width (hexadecimal number)

/-- The decimal numeral of an integer, with a minus sign before a negative one. -/
def signedDecimal : Int → List Char
  | .ofNat n => decimal n
  | .negSucc n => '-' :: decimal (n + 1)

theorem length_padLeft (fill : Char) (width : Nat) (text : List Char) :
    (padLeft fill width text).length = max width text.length := by
  simp only [padLeft, List.length_append, List.length_replicate]
  omega

/-! ## Reading -/

/-- The value of a character as a digit in bases up to thirty-six; letters of both cases count from
ten. -/
def digitValue? (c : Char) : Option Nat :=
  if '0' ≤ c ∧ c ≤ '9' then some (c.toNat - '0'.toNat)
  else if 'a' ≤ c ∧ c ≤ 'z' then some (c.toNat - 'a'.toNat + 10)
  else if 'A' ≤ c ∧ c ≤ 'Z' then some (c.toNat - 'A'.toNat + 10)
  else none

def isDigitOf (base : Nat) (c : Char) : Bool :=
  match digitValue? c with
  | some value => value < base
  | none => false

/-- The number that digits of a base write; other characters count as zero. -/
def numberOf (base : Nat) (digits : List Char) : Nat :=
  digits.foldl (fun number c => number * base + (digitValue? c).getD 0) 0

theorem numberOf_concat (base : Nat) (digits : List Char) (c : Char) :
    numberOf base (digits ++ [c]) = numberOf base digits * base + (digitValue? c).getD 0 := by
  simp [numberOf]

theorem digitValue?_digit {value : Nat} (h : value < 16) :
    digitValue? (digit value) = some value := by
  decide +revert

/-- The last digit of a numeral stands behind the numeral of what the other digits count. -/
theorem toDigits_eq {base : Nat} (h : 1 < base) (number : Nat) :
    Nat.toDigits base number =
      (if number < base then [] else Nat.toDigits base (number / base)) ++
        [digit (number % base)] := by
  split
  · next less => simp [digit, Nat.toDigits_of_lt_base less, Nat.mod_eq_of_lt less]
  · next le =>
    have hd : number % base < base := Nat.mod_lt _ (by omega)
    have happend := Nat.toDigits_append_toDigits h
      (Nat.div_pos (Nat.le_of_not_lt le) (by omega)) hd
    rw [Nat.toDigits_of_lt_base hd, Nat.div_add_mod] at happend
    exact happend.symm

section

variable {base : Nat} (h : 1 < base) (h' : base ≤ 16)

include h h'

/-- Reading gives back what was written. -/
theorem numberOf_toDigits (number : Nat) : numberOf base (Nat.toDigits base number) = number := by
  induction number using Nat.strongRecOn with
  | _ number ih =>
    have small : number % base < base := Nat.mod_lt _ (by omega)
    have hd := digitValue?_digit (show number % base < 16 by omega)
    rw [toDigits_eq h, numberOf_concat, hd, Option.getD_some]
    split
    · next less => simp [numberOf, Nat.mod_eq_of_lt less]
    · next le =>
      rw [ih (number / base) (Nat.div_lt_self (by omega) h), Nat.mul_comm, Nat.div_add_mod]

theorem isDigitOf_of_mem_toDigits {number : Nat} {c : Char}
    (member : c ∈ Nat.toDigits base number) : isDigitOf base c := by
  induction number using Nat.strongRecOn with
  | _ number ih =>
    have small : number % base < base := Nat.mod_lt _ (by omega)
    rw [toDigits_eq h, List.mem_append, List.mem_singleton] at member
    rcases member with member | rfl
    · split at member
      · cases member
      · exact ih (number / base) (Nat.div_lt_self (by omega) h) member
    · simp [isDigitOf, digitValue?_digit (show number % base < 16 by omega), small]

end

theorem numberOf_decimal (number : Nat) : numberOf 10 (decimal number) = number :=
  numberOf_toDigits (by decide) (by decide) number

end FileRouting.Text
