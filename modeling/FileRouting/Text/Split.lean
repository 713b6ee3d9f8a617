/-!
# Cutting text

Text is cut here as a list of characters: at its start, at a separator, at the first place where a
marker stands, or at the last place where a character stands. The lemmas beside each cut say that
nothing is lost: putting the parts together again gives back the text.
-/

namespace FileRouting.Text

/-! ## At the start -/

/-- What follows `head`, for a text that starts with it. -/
def after? : (head text : List Char) → Option (List Char)
  | [], text => some text
  | _ :: _, [] => none
  | h :: head, c :: text => if h = c then after? head text else none

theorem after?_eq_some_iff {head text rest : List Char} :
    after? head text = some rest ↔ text = head ++ rest := by
  induction head generalizing text with
  | nil => simp [after?, eq_comm]
  | cons h head ih =>
    cases text with
    | nil => simp [after?]
    | cons c text =>
      by_cases hc : h = c
      · simp [after?, hc, ih]
      · simp [after?, hc, Ne.symm hc]

theorem after?_append (head rest : List Char) : after? head (head ++ rest) = some rest :=
  after?_eq_some_iff.2 rfl

/-! ## At every separator -/

/-- The parts of a text between the occurrences of `sep`, one part more than there are
occurrences. -/
def fields (sep : Char) : List Char → List (List Char)
  | [] => [[]]
  | c :: text =>
    if c = sep then [] :: fields sep text
    else
      match fields sep text with
      | [] => [[c]]
      | part :: parts => (c :: part) :: parts

/-- Parts put together with `sep` between them. -/
def joinFields (sep : Char) : List (List Char) → List Char
  | [] => []
  | [part] => part
  | part :: parts => part ++ sep :: joinFields sep parts

theorem fields_ne_nil (sep : Char) (text : List Char) : fields sep text ≠ [] := by
  cases text with
  | nil => simp [fields]
  | cons c text =>
    simp only [fields]
    split
    · simp
    · split <;> simp

theorem joinFields_cons_cons (sep c : Char) (part : List Char) (parts : List (List Char)) :
    joinFields sep ((c :: part) :: parts) = c :: joinFields sep (part :: parts) := by
  cases parts <;> simp [joinFields]

theorem joinFields_fields (sep : Char) (text : List Char) :
    joinFields sep (fields sep text) = text := by
  induction text with
  | nil => rfl
  | cons c text ih =>
    obtain ⟨part, parts, h⟩ := List.exists_cons_of_ne_nil (fields_ne_nil sep text)
    rw [h] at ih
    by_cases hc : c = sep
    · simp [fields, hc, h, joinFields, ih]
    · simp [fields, hc, h, joinFields_cons_cons, ih]

theorem not_mem_of_mem_fields {sep : Char} {text part : List Char}
    (h : part ∈ fields sep text) : sep ∉ part := by
  induction text generalizing part with
  | nil => simp_all [fields]
  | cons c text ih =>
    obtain ⟨first, parts, hf⟩ := List.exists_cons_of_ne_nil (fields_ne_nil sep text)
    by_cases hc : c = sep
    · simp only [fields, hc, if_true, List.mem_cons] at h
      rcases h with rfl | h
      · simp
      · exact ih h
    · simp only [fields, hc, if_false, hf, List.mem_cons] at h
      rcases h with rfl | h
      · simp [Ne.symm hc, ih (hf ▸ List.mem_cons_self)]
      · exact ih (hf ▸ List.mem_cons_of_mem _ h)

theorem fields_eq_singleton {sep : Char} {text : List Char} (h : sep ∉ text) :
    fields sep text = [text] := by
  induction text with
  | nil => rfl
  | cons c text ih =>
    simp only [List.mem_cons, not_or] at h
    simp [fields, ih h.2, Ne.symm h.1]

theorem fields_append {sep : Char} {part : List Char} (h : sep ∉ part) (text : List Char) :
    fields sep (part ++ sep :: text) = part :: fields sep text := by
  induction part with
  | nil => simp [fields]
  | cons c part ih =>
    simp only [List.mem_cons, not_or] at h
    simp [fields, ih h.2, Ne.symm h.1]

/-! ## At a marker -/

/-- The text before and after the first occurrence of `marker`. -/
def cutAt? (marker : List Char) : List Char → Option (List Char × List Char)
  | [] => (after? marker []).map fun rest => ([], rest)
  | c :: text =>
    match after? marker (c :: text) with
    | some rest => some ([], rest)
    | none => (cutAt? marker text).map fun cut => (c :: cut.1, cut.2)

theorem eq_of_cutAt? {marker text before rest : List Char}
    (h : cutAt? marker text = some (before, rest)) : text = before ++ marker ++ rest := by
  induction text generalizing before with
  | nil =>
    obtain ⟨r, hr, he⟩ := Option.map_eq_some_iff.1 h
    cases he
    simpa using after?_eq_some_iff.1 hr
  | cons c text ih =>
    simp only [cutAt?] at h
    split at h
    · next r hr =>
      cases h
      simpa using after?_eq_some_iff.1 hr
    · obtain ⟨⟨b, r⟩, hb, he⟩ := Option.map_eq_some_iff.1 h
      cases he
      simp [ih hb]

/-- The text before and after the last occurrence of `sep`. -/
def cutAtLast? (sep : Char) : List Char → Option (List Char × List Char)
  | [] => none
  | c :: text =>
    match cutAtLast? sep text with
    | some cut => some (c :: cut.1, cut.2)
    | none => if c = sep then some ([], text) else none

theorem cutAtLast?_eq_none_iff {sep : Char} {text : List Char} :
    cutAtLast? sep text = none ↔ sep ∉ text := by
  induction text with
  | nil => simp [cutAtLast?]
  | cons c text ih =>
    by_cases hc : c = sep
    · simp only [cutAtLast?]
      split <;> simp_all
    · simp only [cutAtLast?]
      split <;> simp_all [eq_comm]

theorem cutAtLast?_eq_some_iff {sep : Char} {text before rest : List Char} :
    cutAtLast? sep text = some (before, rest) ↔ text = before ++ sep :: rest ∧ sep ∉ rest := by
  induction text generalizing before rest with
  | nil => simp [cutAtLast?]
  | cons c text ih =>
    cases h : cutAtLast? sep text with
    | some cut =>
      obtain ⟨b, r⟩ := cut
      obtain ⟨ht, hr⟩ := ih.1 h
      constructor
      · intro he
        simp only [cutAtLast?, h, Option.some.injEq, Prod.mk.injEq] at he
        obtain ⟨rfl, rfl⟩ := he
        exact ⟨by simp [ht], hr⟩
      · rintro ⟨he, hn⟩
        cases before with
        | nil =>
          simp only [List.nil_append, List.cons.injEq] at he
          exact absurd (by simp [← he.2, ht]) hn
        | cons d before =>
          simp only [List.cons_append, List.cons.injEq] at he
          have := ih.2 ⟨he.2, hn⟩
          rw [h] at this
          cases this
          simp [cutAtLast?, h, he.1]
    | none =>
      have hm := cutAtLast?_eq_none_iff.1 h
      by_cases hc : c = sep
      · simp only [cutAtLast?, h, hc, if_true, Option.some.injEq, Prod.mk.injEq]
        constructor
        · rintro ⟨rfl, rfl⟩
          exact ⟨rfl, hm⟩
        · rintro ⟨he, _⟩
          cases before with
          | nil => simp_all
          | cons d before =>
            simp only [List.cons_append, List.cons.injEq] at he
            exact absurd (by simp [he.2]) hm
      · simp only [cutAtLast?, h, hc, if_false, reduceCtorEq, false_iff, not_and]
        intro he
        cases before with
        | nil => simp_all
        | cons d before =>
          simp only [List.cons_append, List.cons.injEq] at he
          exact absurd (by simp [he.2]) hm

end FileRouting.Text
