import FileRouting.Text.Regex

/-!
# What regular expressions match

`Regex.Matches` says which texts an expression stands for, and `accepts_iff_matches` that matching
by derivatives finds exactly these.
-/

namespace FileRouting.Text.Regex

/-- The texts that an expression stands for. -/
def Matches : Regex → List Char → Prop
  | never, _ => False
  | empty, text => text = []
  | char accepts, text => ∃ c, accepts c ∧ text = [c]
  | seq first second, text =>
    ∃ before behind, first.Matches before ∧ second.Matches behind ∧ text = before ++ behind
  | alt first second, text => first.Matches text ∨ second.Matches text
  | star item, text => ∃ parts : List (List Char), (∀ part ∈ parts, item.Matches part) ∧
    text = parts.flatten

section

variable {first second item : Regex} {text : List Char}

@[simp]
theorem not_matches_never : ¬never.Matches text := id

@[simp]
theorem matches_empty : empty.Matches text ↔ text = [] := .rfl

@[simp]
theorem matches_char {accepts : Char → Bool} :
    (char accepts).Matches text ↔ ∃ c, accepts c ∧ text = [c] := .rfl

@[simp]
theorem matches_seq : (seq first second).Matches text ↔
    ∃ before behind, first.Matches before ∧ second.Matches behind ∧ text = before ++ behind := .rfl

@[simp]
theorem matches_alt :
    (alt first second).Matches text ↔ first.Matches text ∨ second.Matches text := .rfl

@[simp]
theorem matches_star : (star item).Matches text ↔
    ∃ parts : List (List Char), (∀ part ∈ parts, item.Matches part) ∧ text = parts.flatten := .rfl

end

theorem matches_seqShort {first second : Regex} {text : List Char} :
    (seqShort first second).Matches text ↔ (seq first second).Matches text := by
  cases first <;> simp [seqShort]

theorem matches_altShort {first second : Regex} {text : List Char} :
    (altShort first second).Matches text ↔ (alt first second).Matches text := by
  cases first <;> cases second <;> simp [altShort]

theorem nullable_iff_matches (r : Regex) : r.nullable ↔ r.Matches [] := by
  induction r with
  | never => simp [nullable]
  | empty => simp [nullable]
  | char accepts => simp [nullable]
  | seq first second ih ih' =>
    rw [nullable, Bool.and_eq_true, ih, ih']
    constructor
    · rintro ⟨matched, matched'⟩
      exact ⟨[], [], matched, matched', rfl⟩
    · rintro ⟨before, behind, matched, matched', whole⟩
      obtain ⟨rfl, rfl⟩ := List.append_eq_nil_iff.1 whole.symm
      exact ⟨matched, matched'⟩
  | alt first second ih ih' => simp [nullable, ih, ih']
  | star item ih => exact iff_of_true rfl ⟨[], by simp, rfl⟩

/-- A repetition that starts with a character starts with an item that does. -/
theorem matches_star_cons {item : Regex} {c : Char} {text : List Char} :
    (star item).Matches (c :: text) ↔
      ∃ before behind, item.Matches (c :: before) ∧ (star item).Matches behind ∧
        text = before ++ behind := by
  constructor
  · rintro ⟨parts, matched, whole⟩
    induction parts with
    | nil => cases whole
    | cons part parts ih =>
      obtain ⟨first, others⟩ := List.forall_mem_cons.1 matched
      cases part with
      | nil => exact ih others whole
      | cons d before =>
        obtain ⟨rfl, rfl⟩ := List.cons.inj whole
        exact ⟨before, parts.flatten, first, ⟨parts, others, rfl⟩, rfl⟩
  · rintro ⟨before, behind, first, ⟨parts, others, rfl⟩, rfl⟩
    exact ⟨(c :: before) :: parts, List.forall_mem_cons.2 ⟨first, others⟩, rfl⟩

theorem matches_seq_cons {first second : Regex} {c : Char} {text : List Char} :
    (seq first second).Matches (c :: text) ↔
      (∃ before behind, first.Matches (c :: before) ∧ second.Matches behind ∧
        text = before ++ behind) ∨ (first.Matches [] ∧ second.Matches (c :: text)) := by
  constructor
  · rintro ⟨before, behind, matched, matched', whole⟩
    cases before with
    | nil => exact .inr ⟨matched, whole ▸ matched'⟩
    | cons d before =>
      obtain ⟨rfl, rfl⟩ := List.cons.inj whole
      exact .inl ⟨before, behind, matched, matched', rfl⟩
  · rintro (⟨before, behind, matched, matched', rfl⟩ | ⟨matched, matched'⟩)
    · exact ⟨c :: before, behind, matched, matched', rfl⟩
    · exact ⟨[], c :: text, matched, matched', rfl⟩

theorem matches_derive {r : Regex} {c : Char} {text : List Char} :
    (r.derive c).Matches text ↔ r.Matches (c :: text) := by
  induction r generalizing text with
  | never => rfl
  | empty => simp [derive]
  | char accepts =>
    by_cases h : accepts c
    · simp only [derive, h, if_true, matches_empty, matches_char]
      constructor
      · rintro rfl
        exact ⟨c, h, rfl⟩
      · rintro ⟨d, _, same⟩
        exact (List.cons.inj same).2
    · simp only [derive, h, Bool.false_eq_true, if_false, matches_char, not_matches_never,
        false_iff]
      rintro ⟨d, accepted, same⟩
      exact h ((List.cons.inj same).1 ▸ accepted)
  | seq first second ih ih' =>
    rw [matches_seq_cons, ← nullable_iff_matches]
    by_cases h : first.nullable <;>
      simp [derive, h, matches_altShort, matches_seqShort, ih, ih']
  | alt first second ih ih' => simp [derive, matches_altShort, ih, ih']
  | star item ih =>
    rw [matches_star_cons, derive, matches_seqShort]
    simp [ih]

theorem accepts_iff_matches {r : Regex} {text : List Char} : r.accepts text ↔ r.Matches text := by
  induction text generalizing r with
  | nil =>
    rw [← nullable_iff_matches]
    cases r <;> rfl
  | cons c text ih =>
    rw [← matches_derive, ← ih]
    cases r with
    | never => simp [accepts, derive]
    | _ => rfl

theorem matches_star_char {accepts : Char → Bool} {text : List Char} :
    (star (char accepts)).Matches text ↔ ∀ c ∈ text, accepts c := by
  constructor
  · rintro ⟨parts, matched, rfl⟩ c member
    obtain ⟨part, part_member, member⟩ := List.mem_flatten.1 member
    obtain ⟨d, accepted, rfl⟩ := matched part part_member
    rwa [List.mem_singleton.1 member]
  · intro accepted
    induction text with
    | nil => exact ⟨[], by simp, rfl⟩
    | cons c text ih =>
      obtain ⟨first, others⟩ := List.forall_mem_cons.1 accepted
      obtain ⟨parts, matched, rfl⟩ := ih others
      exact ⟨[c] :: parts, List.forall_mem_cons.2 ⟨⟨c, first, rfl⟩, matched⟩, rfl⟩

end FileRouting.Text.Regex
