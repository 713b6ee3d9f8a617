import FileRouting.Proofs.Json.RoundTrip

/-!
# Written values are one line of ASCII

Whatever texts a value holds, its form has only printable characters of ASCII: all others are
escaped. So it has no line break and no control sequence.
-/

namespace FileRouting.Json

open FileRouting.Text FileRouting.Number

/-- A printable character of ASCII. -/
def IsPlain (c : Char) : Prop :=
  ' ' ≤ c ∧ c ≤ '~'

instance : DecidablePred IsPlain :=
  fun c => inferInstanceAs (Decidable (' ' ≤ c ∧ c ≤ '~'))

theorem isPlain_of_all {text : List Char} (h : text.all fun c => decide (IsPlain c)) :
    ∀ c ∈ text, IsPlain c := by
  simpa using h

theorem isPlain_of_isDigit {c : Char} (h : c.isDigit) : IsPlain c := by
  have bounds : 48 ≤ c.val ∧ c.val ≤ 57 := by simpa [Char.isDigit] using h
  exact ⟨UInt32.le_trans (by decide) bounds.1, UInt32.le_trans bounds.2 (by decide)⟩

theorem isPlain_of_isDigitOf {base : Nat} {c : Char} (h : isDigitOf base c) : IsPlain c := by
  have between : ∀ low high, ' ' ≤ low → high ≤ '~' → low ≤ c ∧ c ≤ high → IsPlain c :=
    fun low high above below inside => ⟨Char.le_trans above inside.1, Char.le_trans inside.2 below⟩
  rw [isDigitOf, digitValue?] at h
  split_ifs at h with digit lower upper
  · exact between _ _ (by decide) (by decide) digit
  · exact between _ _ (by decide) (by decide) lower
  · exact between _ _ (by decide) (by decide) upper

theorem isPlain_of_mem_unitEscape {unit : Nat} {c : Char} (h : c ∈ unitEscape unit) :
    IsPlain c := by
  rw [unitEscape, List.mem_cons, List.mem_cons] at h
  rcases h with rfl | rfl | digit
  · decide
  · decide
  · exact isPlain_of_isDigitOf (isDigitOf_of_mem_paddedHexadecimal digit)

theorem isPlain_of_mem_escape {c d : Char} (h : d ∈ escape c) : IsPlain d := by
  -- Short escapes are pairs of a backslash and one of these characters.
  have pair : ∀ mark : Char, IsPlain mark → d ∈ ['\\', mark] → IsPlain d := by
    intro mark plain member
    rcases List.mem_pair.1 member with rfl | rfl
    · decide
    · exact plain
  rw [escape] at h
  split_ifs at h with marked _ _ _ _ _ plain
  · rcases marked with rfl | rfl <;> exact pair _ (by decide) h
  · exact pair _ (by decide) h
  · exact pair _ (by decide) h
  · exact pair _ (by decide) h
  · exact pair _ (by decide) h
  · exact pair _ (by decide) h
  · rw [List.mem_singleton.1 h]
    exact plain
  · exact isPlain_of_mem_unitEscape h
  · rcases List.mem_append.1 h with high | low
    · exact isPlain_of_mem_unitEscape high
    · exact isPlain_of_mem_unitEscape low

theorem isPlain_of_mem_textForm {text : List Char} {c : Char} (h : c ∈ textForm text) :
    IsPlain c := by
  rw [textForm, List.mem_append, List.mem_cons, List.mem_flatMap, List.mem_singleton] at h
  rcases h with (rfl | ⟨d, _, member⟩) | rfl
  · decide
  · exact isPlain_of_mem_escape member
  · decide

/-! ## Numbers -/

theorem isPlain_of_mem_signedDecimal {n : Int} {c : Char} (h : c ∈ signedDecimal n) :
    IsPlain c := by
  cases n with
  | ofNat number => exact isPlain_of_isDigit (isDigit_of_mem_decimal h)
  | negSucc number =>
    rcases List.mem_cons.1 h with rfl | digit
    · decide
    · exact isPlain_of_isDigit (isDigit_of_mem_decimal digit)

theorem isPlain_of_mem_spelling {s : Spelling} {c : Char} (h : c ∈ s.text) : IsPlain c := by
  rw [Spelling.text, List.mem_append, List.mem_append] at h
  rcases h with digit | pointed | marked
  · exact isPlain_of_isDigit (s.whole_digits c digit)
  · rw [fractionText] at pointed
    split at pointed
    · cases pointed
    · rcases List.mem_cons.1 pointed with rfl | digit
      · decide
      · exact isPlain_of_isDigit (s.part_digits c digit)
  · cases power : s.power with
    | none =>
      rw [power] at marked
      cases marked
    | some power =>
      rw [power, exponentText, List.mem_cons, List.mem_cons] at marked
      rcases marked with rfl | sign | digit
      · decide
      · split at sign <;> rw [sign] <;> decide
      · exact isPlain_of_isDigit (isDigit_of_mem_padded digit)

theorem isPlain_of_mem_float {negative : Bool} {size : Magnitude} {c : Char}
    (h : c ∈ floatStyle.text (.finite negative size)) : IsPlain c := by
  obtain ⟨s, text_eq, _⟩ := exists_spelling size.shortest
  rw [Style.text, text_eq, List.mem_append, Style.sign] at h
  rcases h with sign | member
  · split at sign
    · rw [List.mem_singleton.1 sign]
      decide
    · cases sign
  · exact isPlain_of_mem_spelling member

/-! ## Values -/

theorem isPlain_of_mem_itemsForm {items : List Value}
    (each : ∀ item ∈ items, ∀ c ∈ form item, IsPlain c) : ∀ c ∈ itemsForm items, IsPlain c := by
  induction items with
  | nil => exact nofun
  | cons item items ih =>
    have first := each item List.mem_cons_self
    cases items with
    | nil => exact first
    | cons next items =>
      rw [itemsForm_cons]
      have more := ih fun item member => each item (List.mem_cons_of_mem _ member)
      simp only [List.forall_mem_append, List.forall_mem_cons]
      exact ⟨first, by decide, by decide, more⟩

theorem isPlain_of_mem_entriesForm {entries : List (Value × Value)}
    (each : ∀ entry ∈ entries, ∀ c ∈ form entry.2, IsPlain c) :
    ∀ c ∈ entriesForm entries, IsPlain c := by
  induction entries with
  | nil => exact nofun
  | cons entry entries ih =>
    obtain ⟨key, value⟩ := entry
    have first := each _ List.mem_cons_self
    have quoted : ∀ c ∈ textForm (keyText key), IsPlain c := fun c => isPlain_of_mem_textForm
    cases entries with
    | nil =>
      simp only [entriesForm, List.forall_mem_append, List.forall_mem_cons]
      exact ⟨quoted, by decide, by decide, first⟩
    | cons next entries =>
      have more := ih fun entry member => each entry (List.mem_cons_of_mem _ member)
      simp only [entriesForm_cons, List.forall_mem_append, List.forall_mem_cons]
      exact ⟨quoted, by decide, by decide, first, by decide, by decide, more⟩

theorem isPlain_of_mem_form {value : Value} (h : value.IsJson) : ∀ c ∈ form value, IsPlain c := by
  induction h with
  | null => exact isPlain_of_all rfl
  | bool value => cases value <;> exact isPlain_of_all rfl
  | int value => exact fun c => isPlain_of_mem_signedDecimal
  | float negative size => exact fun c => isPlain_of_mem_float
  | text value => exact fun c => isPlain_of_mem_textForm
  | list h ih =>
    rw [form, List.forall_mem_append, List.forall_mem_cons]
    exact ⟨⟨by decide, isPlain_of_mem_itemsForm ih⟩, isPlain_of_all rfl⟩
  | @mapping entries distinct h ih =>
    have each : ∀ entry ∈ Value.textKeyed entries, ∀ c ∈ form entry.2, IsPlain c := by
      intro entry keyed
      obtain ⟨source, member, rfl⟩ := List.mem_map.1 keyed
      exact ih source member
    rw [form, List.forall_mem_append, List.forall_mem_cons]
    exact ⟨⟨by decide, isPlain_of_mem_entriesForm each⟩, isPlain_of_all rfl⟩

end FileRouting.Json
