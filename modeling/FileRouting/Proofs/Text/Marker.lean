import FileRouting.Text.Split

/-!
# Texts around a marker

A text is cut at a marker if it holds the marker, `cutAt?_eq_none_iff`, and then in front of the
first one, `not_infix_of_cutAt?`. Conversely, a text put together around a marker is cut again where
it was put together, `cutAt?_append`, if there is no marker in the text before and the marker cannot
begin inside another one.
-/

namespace FileRouting.Text

theorem after?_eq_none_iff {head text : List Char} : after? head text = none ↔ ¬head <+: text := by
  rw [Option.eq_none_iff_forall_ne_some]
  constructor
  · rintro other ⟨rest, rfl⟩
    exact other rest (after?_append head rest)
  · rintro other rest found
    exact other ⟨rest, (after?_eq_some_iff.1 found).symm⟩

theorem cutAt?_eq_none_iff {marker text : List Char} :
    cutAt? marker text = none ↔ ¬marker <:+: text := by
  induction text with
  | nil => simp [cutAt?, after?_eq_none_iff]
  | cons c text ih =>
    rw [List.infix_cons_iff, not_or, ← after?_eq_none_iff, ← ih, cutAt?]
    cases after? marker (c :: text) <;> simp

/-- A text is cut at the first marker in it. -/
theorem not_infix_of_cutAt? {marker text before rest : List Char} (nonempty : marker ≠ [])
    (h : cutAt? marker text = some (before, rest)) : ¬marker <:+: before := by
  induction text generalizing before with
  | nil =>
    obtain ⟨_, _, same⟩ := Option.map_eq_some_iff.1 h
    cases same
    simpa using nonempty
  | cons c text ih =>
    rw [cutAt?] at h
    split at h
    · cases h
      simpa using nonempty
    · next other =>
      obtain ⟨⟨before', rest'⟩, behind, same⟩ := Option.map_eq_some_iff.1 h
      cases same
      rw [List.infix_cons_iff, not_or]
      refine ⟨?_, ih behind⟩
      intro starts
      refine after?_eq_none_iff.1 other (starts.trans ?_)
      rw [eq_of_cutAt? behind]
      exact ⟨marker ++ rest', by simp⟩

section

variable {c : Char} {marker : List Char} (apart : c ∉ marker)

include apart

/-- A marker whose first character is nowhere else in it does not begin before another one and end
inside it. -/
theorem not_prefix_append {before : List Char} (nonempty : before ≠ [])
    (free : ¬c :: marker <:+: before) (rest : List Char) :
    ¬c :: marker <+: before ++ (c :: marker ++ rest) := by
  rintro ⟨more, same⟩
  rcases List.append_eq_append_iff.1 same with ⟨inside, rfl, _⟩ | ⟨across, split, goesOn⟩
  · exact free (List.prefix_append _ _).isInfix
  · obtain ⟨d, before, rfl⟩ := List.exists_cons_of_ne_nil nonempty
    rw [List.cons_append, List.cons.injEq] at split
    obtain ⟨rfl, split⟩ := split
    cases across with
    | nil =>
      rw [List.append_nil] at split
      exact free (split ▸ List.infix_rfl)
    | cons e across =>
      -- What goes on behind the text is the next marker, so its first character is in this one.
      obtain rfl : c = e := (List.cons.inj goesOn).1
      exact apart (split ▸ List.mem_append_right _ List.mem_cons_self)

theorem cutAt?_append {before : List Char} (free : ¬c :: marker <:+: before) (rest : List Char) :
    cutAt? (c :: marker) (before ++ (c :: marker ++ rest)) = some (before, rest) := by
  induction before with
  | nil =>
    rw [List.nil_append, List.cons_append, cutAt?, ← List.cons_append, after?_append]
  | cons d before ih =>
    have starts := after?_eq_none_iff.2
      (not_prefix_append apart (List.cons_ne_nil d before) free rest)
    rw [List.infix_cons_iff, not_or] at free
    rw [List.cons_append] at starts ⊢
    rw [cutAt?, starts, ih free.2]
    rfl

end

end FileRouting.Text
