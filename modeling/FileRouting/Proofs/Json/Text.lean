import FileRouting.Json.Reader
import FileRouting.Json.Writer
import FileRouting.Proofs.Text.Numeral
import Mathlib.Data.List.Basic

/-!
# Written texts are read back

Every character is read back from its escaped form, those beyond 16 bits from their two units, and
so is every text from its quoted form.
-/

namespace FileRouting.Json

open FileRouting.Text

/-! ## Units -/

theorem length_paddedHexadecimal {unit : Nat} (h : unit < 0x10000) :
    (paddedHexadecimal 4 unit).length = 4 := by
  have digits : (hexadecimal unit).length ≤ 4 :=
    (Nat.length_toDigits_le_iff (by decide) (by decide)).2 h
  rw [paddedHexadecimal, length_padLeft]
  omega

theorem isDigitOf_of_mem_paddedHexadecimal {unit : Nat} {c : Char}
    (h : c ∈ paddedHexadecimal 4 unit) : isDigitOf 16 c :=
  forall_mem_padLeft (fun c => isDigitOf 16 c) (by decide)
    (fun _ => isDigitOf_of_mem_toDigits (by decide) (by decide)) 4 c h

theorem unit?_append {unit : Nat} (h : unit < 0x10000) (rest : List Char) :
    unit? (paddedHexadecimal 4 unit ++ rest) = some (unit, rest) := by
  have digits : ∀ c ∈ paddedHexadecimal 4 unit, isDigitOf 16 c :=
    fun c => isDigitOf_of_mem_paddedHexadecimal
  have number : numberOf 16 (paddedHexadecimal 4 unit) = unit := by
    rw [paddedHexadecimal, numberOf_padLeft, hexadecimal,
      numberOf_toDigits (by decide) (by decide)]
  obtain ⟨a, tail, cons⟩ := List.exists_cons_of_length_eq_add_one (length_paddedHexadecimal h)
  have length := length_paddedHexadecimal h
  rw [cons, List.length_cons, Nat.add_right_cancel_iff, List.length_eq_three] at length
  obtain ⟨b, c, d, rfl⟩ := length
  rw [cons] at digits number ⊢
  simp only [List.cons_append, List.nil_append, unit?, number]
  rw [if_pos (List.all_eq_true.2 digits)]

/-! ## Characters -/

theorem not_surrogate (c : Char) : c.toNat < 0xD800 ∨ 0xDFFF < c.toNat ∧ c.toNat < 0x110000 :=
  c.valid

theorem escaped?_unit {c : Char} (h : c.toNat < 0x10000) (rest : List Char) :
    escaped? ('u' :: (paddedHexadecimal 4 c.toNat ++ rest)) = some (c, rest) := by
  have apart := not_surrogate c
  simp only [escaped?, unit?_append h]
  rw [if_neg (by omega), Char.ofNat_toNat]

theorem escaped?_pair {high low : Nat} (isHigh : 0xD800 ≤ high ∧ high < 0xDC00)
    (isLow : 0xDC00 ≤ low ∧ low < 0xE000) (rest : List Char) :
    escaped? ('u' :: (paddedHexadecimal 4 high ++ (unitEscape low ++ rest))) =
      some (Char.ofNat (0x10000 + (high - 0xD800) * 0x400 + (low - 0xDC00)), rest) := by
  simp only [escaped?, unit?_append (show high < 0x10000 by omega), unitEscape, List.cons_append,
    unit?_append (show low < 0x10000 by omega)]
  rw [if_pos isHigh, if_pos isLow]

theorem escaped?_units {c : Char} (h : 0x10000 ≤ c.toNat) (rest : List Char) :
    escaped? ('u' :: (paddedHexadecimal 4 (0xD800 + (c.toNat - 0x10000) / 0x400) ++
      (unitEscape (0xDC00 + (c.toNat - 0x10000) % 0x400) ++ rest))) = some (c, rest) := by
  have apart := not_surrogate c
  rw [escaped?_pair (by omega) (by omega)]
  have whole : 0x10000 + (0xD800 + (c.toNat - 0x10000) / 0x400 - 0xD800) * 0x400 +
      (0xDC00 + (c.toNat - 0x10000) % 0x400 - 0xDC00) = c.toNat := by omega
  rw [whole, Char.ofNat_toNat]

/-! ## Texts -/

section

variable {c : Char} {rest : List Char} (fuel : Nat)

theorem textBody?_backslash {more : List Char} (h : escaped? rest = some (c, more)) :
    textBody? (fuel + 1) ('\\' :: rest) =
      (textBody? fuel more).map fun read => (c :: read.1, read.2) := by
  rw [textBody?, if_neg (by decide), if_pos rfl, h]
  dsimp only [Option.bind_eq_bind, Option.bind_some]
  cases textBody? fuel more <;> rfl

theorem textBody?_plain (quote : c ≠ '"') (backslash : c ≠ '\\') :
    textBody? (fuel + 1) (c :: rest) =
      (textBody? fuel rest).map fun read => (c :: read.1, read.2) := by
  rw [textBody?, if_neg quote, if_neg backslash]
  cases textBody? fuel rest <;> rfl

theorem textBody?_escape (c : Char) (rest : List Char) :
    textBody? (fuel + 1) (escape c ++ rest) =
      (textBody? fuel rest).map fun read => (c :: read.1, read.2) := by
  rw [escape]
  split
  · next marked =>
    rcases marked with rfl | rfl
    all_goals exact textBody?_backslash fuel rfl
  next unmarked =>
  rw [not_or] at unmarked
  split
  · next same => exact textBody?_backslash fuel (by rw [same]; rfl)
  split
  · next same => exact textBody?_backslash fuel (by rw [same]; rfl)
  split
  · next same => exact textBody?_backslash fuel (by rw [same]; rfl)
  split
  · next same => exact textBody?_backslash fuel (by rw [same]; rfl)
  split
  · next same => exact textBody?_backslash fuel (by rw [same]; rfl)
  split
  · exact textBody?_plain fuel unmarked.1 unmarked.2
  split
  · next small => exact textBody?_backslash fuel (escaped?_unit small rest)
  · next large =>
    dsimp only
    rw [List.append_assoc, unitEscape, List.cons_append, List.cons_append]
    exact textBody?_backslash fuel (escaped?_units (Nat.le_of_not_lt large) rest)

/-- A text is read back from its escaped form. -/
theorem textBody?_flatMap {text : List Char} {fuel : Nat} (h : text.length < fuel)
    (rest : List Char) :
    textBody? fuel (text.flatMap escape ++ '"' :: rest) = some (text, rest) := by
  induction text generalizing fuel with
  | nil =>
    obtain ⟨fuel, rfl⟩ := Nat.exists_eq_add_one_of_ne_zero (Nat.ne_zero_of_lt h)
    rfl
  | cons c text ih =>
    obtain ⟨fuel, rfl⟩ := Nat.exists_eq_add_one_of_ne_zero (Nat.ne_zero_of_lt h)
    rw [List.flatMap_cons, List.append_assoc, textBody?_escape, ih (Nat.lt_of_succ_lt_succ h)]
    rfl

end

theorem length_le_flatMap_escape (text : List Char) :
    text.length ≤ (text.flatMap escape).length := by
  induction text with
  | nil => exact Nat.le_refl 0
  | cons c text ih =>
    have some_char : 1 ≤ (escape c).length := by
      apply List.length_pos_of_ne_nil
      rw [escape]
      split_ifs <;> exact List.cons_ne_nil _ _
    rw [List.flatMap_cons, List.length_append, List.length_cons]
    omega

theorem length_lt_textForm (text : List Char) : text.length < (textForm text).length := by
  have := length_le_flatMap_escape text
  rw [textForm, List.length_append, List.length_cons]
  omega

end FileRouting.Json
