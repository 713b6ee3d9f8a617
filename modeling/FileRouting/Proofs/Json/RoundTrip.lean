import FileRouting.Proofs.Json.Number
import FileRouting.Proofs.Json.Text

/-!
# Written values are read back

The values that JSON has a form for are read back from it, whatever follows behind a comma or a
closing bracket. The main statement is `Json.read?_write`.
-/

namespace FileRouting

open FileRouting.Text FileRouting.Number

/-- The entries of a mapping with texts for keys. -/
def Value.textKeyed (entries : List (String × Value)) : List (Value × Value) :=
  entries.map fun entry => (.text entry.1, entry.2)

/-- A value that JSON has a form for. -/
inductive Value.IsJson : Value → Prop
  | null : IsJson .null
  | bool (value : Bool) : IsJson (.bool value)
  | int (value : Int) : IsJson (.int value)
  | float (negative : Bool) (size : Magnitude) : IsJson (.float (.finite negative size))
  | text (value : String) : IsJson (.text value)
  | list {items : List Value} (h : ∀ item ∈ items, IsJson item) : IsJson (.list items)
  | mapping {entries : List (String × Value)} (distinct : (entries.map (·.1)).Nodup)
      (h : ∀ entry ∈ entries, IsJson entry.2) : IsJson (.mapping (textKeyed entries))

namespace Json

open Value (textKeyed)

/-! ## Numbers -/

def IsNumberStart (c : Char) : Prop :=
  c = '-' ∨ c.isDigit

theorem head_signedDecimal (n : Int) : ∃ c rest, signedDecimal n = c :: rest ∧ IsNumberStart c := by
  cases n with
  | ofNat number =>
    have nonempty : decimal number ≠ [] := Nat.toDigits_ne_nil
    obtain ⟨c, rest, cons⟩ := List.exists_cons_of_ne_nil nonempty
    have member : c ∈ decimal number := by
      rw [cons]
      exact List.mem_cons_self
    exact ⟨c, rest, cons, .inr (isDigit_of_mem_decimal member)⟩
  | negSucc number => exact ⟨'-', _, rfl, .inl rfl⟩

theorem head_float (negative : Bool) (size : Magnitude) :
    ∃ c rest, floatStyle.text (.finite negative size) = c :: rest ∧ IsNumberStart c := by
  obtain ⟨s, text_eq, _⟩ := exists_spelling size.shortest
  rw [Style.text, text_eq]
  cases negative with
  | true => exact ⟨'-', _, rfl, .inl rfl⟩
  | false =>
    obtain ⟨c, rest, cons⟩ := List.exists_cons_of_ne_nil s.nonempty
    refine ⟨c, rest ++ (fractionText s.part ++ exponentText s.power), ?_, .inr ?_⟩
    · rw [Spelling.text, cons]
      rfl
    · apply s.whole_digits
      rw [cons]
      exact List.mem_cons_self

theorem isBlank_of_start {c : Char} (start : IsNumberStart c) : isBlank c = false := by
  by_contra blank
  simp only [isBlank, Bool.not_eq_false, decide_eq_true_eq] at blank
  rcases start with rfl | digit
  · simp at blank
  · rcases blank with rfl | rfl | rfl | rfl <;> cases digit

theorem skipBlanks_cons {c : Char} (solid : isBlank c = false) (rest : List Char) :
    skipBlanks (c :: rest) = c :: rest := by
  rw [skipBlanks, List.dropWhile_cons_of_neg (by simp [solid])]

theorem value?_number {c : Char} (start : IsNumberStart c) (fuel : Nat) (rest : List Char) :
    value? (fuel + 1) (c :: rest) = number? (c :: rest) := by
  rw [value?, skipBlanks_cons (isBlank_of_start start)]
  -- No other form begins like a number.
  rcases start with rfl | digit
  · rfl
  · split
    case h_7 => rfl
    all_goals
      next same =>
        cases same
        cases digit

/-! ## Blanks -/

section

variable (fuel : Nat) (rest : List Char)

theorem value?_blank : value? fuel (' ' :: rest) = value? fuel rest := by
  cases fuel with
  | zero => rfl
  | succ fuel =>
    rw [value?, value?]
    rfl

theorem items?_blank : items? fuel (' ' :: rest) = items? fuel rest := by
  cases fuel with
  | zero => rfl
  | succ fuel => rw [items?, items?, value?_blank]

theorem entries?_blank (entries : List (Value × Value)) :
    entries? fuel entries (' ' :: rest) = entries? fuel entries rest := by
  cases fuel with
  | zero => rfl
  | succ fuel =>
    rw [entries?, entries?]
    rfl

end

/-! ## Collections -/

/-- A value is read back from its form, with enough fuel, in front of all that may follow. -/
def ReadBack (value : Value) : Prop :=
  ∀ fuel rest, (form value).length < fuel → Ends rest →
    value? fuel (form value ++ rest) = some (value, rest)

theorem ends_comma (rest : List Char) : Ends (',' :: rest) := by
  rintro c ⟨⟩
  exact .inl rfl

theorem ends_bracket (rest : List Char) : Ends (']' :: rest) := by
  rintro c ⟨⟩
  exact .inr (.inl rfl)

theorem ends_brace (rest : List Char) : Ends ('\x7d' :: rest) := by
  rintro c ⟨⟩
  exact .inr (.inr rfl)

section

variable {fuel : Nat} {text rest : List Char} {value : Value}

theorem items?_last (read : value? fuel text = some (value, ']' :: rest)) :
    items? (fuel + 1) text = some ([value], rest) := by
  rw [items?, read]
  rfl

theorem items?_step (read : value? fuel text = some (value, ',' :: rest)) :
    items? (fuel + 1) text = (items? fuel rest).map fun read => (value :: read.1, read.2) := by
  rw [items?, read]
  change (items? fuel rest).bind _ = _
  cases items? fuel rest <;> rfl

variable {key : String} (enough : key.toList.length < fuel) (entries : List (Value × Value))

include enough

/-- An entry is read up to what follows its value. -/
theorem entries?_entry (read : value? fuel text = some (value, rest)) :
    entries? (fuel + 1) entries (textForm key.toList ++ ':' :: ' ' :: text) =
      match skipBlanks rest with
      | '\x7d' :: rest => some (addEntry key value entries, rest)
      | ',' :: rest => entries? fuel (addEntry key value entries) rest
      | _ => none := by
  rw [← value?_blank] at read
  rw [textForm, entries?]
  change (textBody? fuel (key.toList.flatMap escape ++ ['"'] ++ ':' :: ' ' :: text)).bind _ = _
  rw [List.append_assoc, List.singleton_append, textBody?_flatMap enough, Option.bind_some]
  change (value? fuel (' ' :: text)).bind _ = _
  rewrite [read, Option.bind_some, String.ofList_toList]
  rfl

end

theorem itemsForm_cons (item next : Value) (items : List Value) :
    itemsForm (item :: next :: items) = form item ++ ',' :: ' ' :: itemsForm (next :: items) := by
  rw [itemsForm]
  exact nofun

theorem items?_itemsForm {items : List Value} (nonempty : items ≠ [])
    (each : ∀ item ∈ items, ReadBack item) {fuel : Nat}
    (enough : (itemsForm items).length + 1 < fuel) (rest : List Char) : items? fuel (itemsForm items ++ ']' :: rest) = some (items, rest) := by
  induction items generalizing fuel with
  | nil => exact absurd rfl nonempty
  | cons item items ih =>
    obtain ⟨fuel, rfl⟩ := Nat.exists_eq_add_one_of_ne_zero (Nat.ne_zero_of_lt enough)
    have first := each item List.mem_cons_self fuel
    cases items with
    | nil =>
      rw [itemsForm] at enough ⊢
      exact items?_last (first _ (by omega) (ends_bracket rest))
    | cons next items =>
      rw [itemsForm_cons, List.length_append, List.length_cons, List.length_cons] at enough
      have more : items? fuel (itemsForm (next :: items) ++ ']' :: rest) =
          some (next :: items, rest) :=
        ih (List.cons_ne_nil _ _) (fun item member => each item (List.mem_cons_of_mem _ member))
          (by omega)
      rw [itemsForm_cons, List.append_assoc, List.cons_append, List.cons_append,
        items?_step (first _ (by omega) (ends_comma _)), items?_blank, more]
      rfl

theorem entriesForm_cons (key value : Value) (next : Value × Value)
    (entries : List (Value × Value)) :
    entriesForm ((key, value) :: next :: entries) =
      textForm (keyText key) ++
        (':' :: ' ' :: (form value ++ ',' :: ' ' :: entriesForm (next :: entries))) := by
  rw [entriesForm]
  · simp only [List.append_assoc, List.cons_append]
  · exact nofun

theorem addEntry_textKeyed {key : String} (value : Value) {entries : List (String × Value)}
    (fresh : key ∉ entries.map (·.1)) :
    addEntry key value (textKeyed entries) = textKeyed (entries ++ [(key, value)]) := by
  induction entries with
  | nil => rfl
  | cons entry entries ih =>
    rw [List.map_cons, List.mem_cons, not_or] at fresh
    have kept := ih fresh.2
    rw [textKeyed] at kept ⊢
    rw [List.map_cons, addEntry, if_neg (Ne.symm fresh.1), kept]
    rfl

theorem entries?_entriesForm (before : List (String × Value)) {entries : List (String × Value)}
    (nonempty : entries ≠ []) (distinct : ((before ++ entries).map (·.1)).Nodup)
    (each : ∀ entry ∈ entries, ReadBack entry.2) {fuel : Nat}
    (enough : (entriesForm (textKeyed entries)).length + 1 < fuel) (rest : List Char) :
    entries? fuel (textKeyed before) (entriesForm (textKeyed entries) ++ '\x7d' :: rest) =
      some (textKeyed (before ++ entries), rest) := by
  induction entries generalizing before fuel with
  | nil => exact absurd rfl nonempty
  | cons entry entries ih =>
    obtain ⟨key, value⟩ := entry
    obtain ⟨fuel, rfl⟩ := Nat.exists_eq_add_one_of_ne_zero (Nat.ne_zero_of_lt enough)
    have first : ReadBack value := each _ List.mem_cons_self
    have fresh : key ∉ before.map (·.1) := by
      rw [List.map_append, List.nodup_append] at distinct
      intro member
      exact distinct.2.2 key member key List.mem_cons_self rfl
    have added := addEntry_textKeyed value fresh
    have key_length := length_lt_textForm key.toList
    cases entries with
    | nil =>
      simp only [textKeyed, List.map_cons, List.map_nil, entriesForm, keyText, List.length_append,
        List.length_cons] at enough ⊢
      rw [List.append_assoc, List.cons_append, List.cons_append,
        entries?_entry (by omega) _ (first fuel _ (by omega) (ends_brace rest))]
      exact congrArg (fun entries => some (entries, rest)) added
    | cons next entries =>
      have form_eq : entriesForm (textKeyed ((key, value) :: next :: entries)) =
          textForm key.toList ++ (':' :: ' ' ::
            (form value ++ ',' :: ' ' :: entriesForm (textKeyed (next :: entries)))) :=
        entriesForm_cons _ _ _ _
      rw [form_eq] at enough ⊢
      simp only [List.length_append, List.length_cons] at enough
      simp only [List.append_assoc, List.cons_append]
      rw [entries?_entry (by omega) _ (first fuel _ (by omega) (ends_comma _)), added]
      change entries? fuel _ (' ' :: _) = _
      rw [entries?_blank, List.append_cons before _ (next :: entries)]
      apply ih _ (List.cons_ne_nil _ _)
      · rwa [← List.append_cons]
      · exact fun entry member => each entry (List.mem_cons_of_mem _ member)
      · omega

/-! ## Values -/

theorem form_start {value : Value} (h : value.IsJson) :
    ∃ c rest, form value = c :: rest ∧ isBlank c = false ∧ c ≠ ']' := by
  have number : ∀ {c}, IsNumberStart c → isBlank c = false ∧ c ≠ ']' := by
    intro c start
    refine ⟨isBlank_of_start start, ?_⟩
    rintro rfl
    rcases start with same | digit
    · cases same
    · cases digit
  cases h with
  | null => exact ⟨'n', _, rfl, rfl, by decide⟩
  | bool value => cases value <;> exact ⟨_, _, rfl, rfl, by decide⟩
  | int value =>
    obtain ⟨c, rest, cons, start⟩ := head_signedDecimal value
    exact ⟨c, rest, cons, number start⟩
  | float negative size =>
    obtain ⟨c, rest, cons, start⟩ := head_float negative size
    exact ⟨c, rest, cons, number start⟩
  | text value => exact ⟨'"', _, rfl, rfl, by decide⟩
  | list h => exact ⟨'[', _, rfl, rfl, by decide⟩
  | mapping distinct h => exact ⟨'\x7b', _, rfl, rfl, by decide⟩

theorem value?_items {items : List Value} (nonempty : items ≠ [])
    (each : ∀ item ∈ items, item.IsJson) (fuel : Nat) (rest : List Char) :
    value? (fuel + 1) ('[' :: (itemsForm items ++ ']' :: rest)) =
      (items? fuel (itemsForm items ++ ']' :: rest)).map fun read => (.list read.1, read.2) := by
  obtain ⟨item, items, rfl⟩ := List.exists_cons_of_ne_nil nonempty
  obtain ⟨c, more, cons, solid, unclosed⟩ := form_start (each item List.mem_cons_self)
  have start : ∃ more, itemsForm (item :: items) ++ ']' :: rest = c :: more := by
    cases items with
    | nil => exact ⟨more ++ ']' :: rest, by rw [itemsForm, cons]; rfl⟩
    | cons next items => exact ⟨_, by rw [itemsForm_cons, cons]; rfl⟩
  obtain ⟨more, start⟩ := start
  have bracket : isBlank '[' = false := rfl
  simp only [start, value?, skipBlanks_cons bracket, skipBlanks_cons solid]
  split
  · next same =>
    cases same
    exact absurd rfl unclosed
  · rfl

theorem value?_entries {entries : List (String × Value)} (nonempty : entries ≠ []) (fuel : Nat)
    (rest : List Char) :
    value? (fuel + 1) ('\x7b' :: (entriesForm (textKeyed entries) ++ '\x7d' :: rest)) =
      (entries? fuel [] (entriesForm (textKeyed entries) ++ '\x7d' :: rest)).map
        fun read => (.mapping read.1, read.2) := by
  have start : ∃ more, entriesForm (textKeyed entries) ++ '\x7d' :: rest = '"' :: more := by
    rcases entries with _ | ⟨entry, _ | ⟨next, entries⟩⟩
    · exact absurd rfl nonempty
    · exact ⟨_, rfl⟩
    · exact ⟨_, rfl⟩
  obtain ⟨more, start⟩ := start
  rw [start]
  rfl

theorem readBack_of_isJson {value : Value} (h : value.IsJson) : ReadBack value := by
  induction h with
  | null =>
    rintro (_ | fuel) rest enough ends
    · cases enough
    · rfl
  | bool value =>
    rintro (_ | fuel) rest enough ends
    · cases enough
    · cases value <;> rfl
  | int value =>
    rintro (_ | fuel) rest enough ends
    · cases enough
    · obtain ⟨c, more, cons, start⟩ := head_signedDecimal value
      have read := number?_int value ends
      rw [form, cons, List.cons_append] at *
      rw [value?_number start, read]
  | float negative size =>
    rintro (_ | fuel) rest enough ends
    · cases enough
    · obtain ⟨c, more, cons, start⟩ := head_float negative size
      have read := number?_float negative size ends
      rw [form, cons, List.cons_append] at *
      rw [value?_number start, read]
  | text value =>
    rintro (_ | fuel) rest enough ends
    · cases enough
    · have length := length_lt_textForm value.toList
      rw [form] at enough
      rw [form, textForm, List.append_assoc]
      change (textBody? fuel (value.toList.flatMap escape ++ '"' :: rest)).map _ = _
      rw [textBody?_flatMap (by omega), Option.map_some, String.ofList_toList]
  | @list items h ih =>
    rintro (_ | fuel) rest enough ends
    · cases enough
    · rw [form, List.length_append, List.length_cons, List.length_singleton] at enough
      rw [form, List.append_assoc, List.cons_append, List.singleton_append]
      by_cases none : items = []
      · rw [none]
        rfl
      · rw [value?_items none h, items?_itemsForm none ih (by omega)]
        rfl
  | @mapping entries distinct h ih =>
    rintro (_ | fuel) rest enough ends
    · cases enough
    · rw [form, List.length_append, List.length_cons, List.length_singleton] at enough
      rw [form, List.append_assoc, List.cons_append, List.singleton_append]
      by_cases none : entries = []
      · rw [none]
        rfl
      · rw [value?_entries none]
        exact congrArg (Option.map _) (entries?_entriesForm [] none distinct ih (by omega) rest)

/-- A value that JSON has a form for is read back from it. -/
theorem read?_write {value : Value} (h : value.IsJson) : read? (write value) = some value := by
  have read := readBack_of_isJson h ((form value).length + 1) [] (Nat.lt_succ_self _) nofun
  rw [List.append_nil] at read
  rw [read?, write, String.toList_ofList]
  simp only [read]
  rfl

end Json

end FileRouting
