import FileRouting.Text.Split

/-!
# Matching with backtracking

A matcher reads a text from its start. It answers with the rests that it can leave, the one it
prefers first, so that what follows it may refuse a rest and be given the next one. A repetition
prefers to read as much as it can.
-/

namespace FileRouting.Text

/-- The rests that can be left of a text, in the order in which they are tried. -/
abbrev Matcher := List Char → List (List Char)

namespace Matcher

/-! ## Building -/

/-- One character of a class. -/
def one (accepts : Char → Bool) : Matcher
  | [] => []
  | c :: text => if accepts c then [text] else []

/-- A text as it stands. -/
def exactly (head : List Char) : Matcher := fun text =>
  (after? head text).toList

/-- A matcher, and another one behind it. -/
def seq (first second : Matcher) : Matcher := fun text =>
  (first text).flatMap second

/-- A matcher, or else another one. -/
def alt (first second : Matcher) : Matcher := fun text =>
  first text ++ second text

/-- One item or more. An item of no characters is not repeated. -/
def many (item : Matcher) : Matcher
  | text => (item text).flatMap fun rest =>
    if rest.length < text.length then many item rest ++ [rest] else [rest]
termination_by text => text.length

/-- A character of a class, and the same character any number of times behind it. -/
def run (accepts : Char → Bool) : Matcher
  | [] => []
  | c :: text => if accepts c then many (one (· == c)) text ++ [text] else []

/-- What is read of a text and what is left of it, if it matches. -/
def read? (matcher : Matcher) (text : List Char) : Option (List Char × List Char) :=
  (matcher text).head?.map fun rest => (text.take (text.length - rest.length), rest)

theorem read?_append {matcher : Matcher} {read rest : List Char}
    (h : (matcher (read ++ rest)).head? = some rest) :
    matcher.read? (read ++ rest) = some (read, rest) := by
  simp [read?, h]

theorem read?_eq_none {matcher : Matcher} {text : List Char} (h : matcher text = []) :
    matcher.read? text = none := by
  simp [read?, h]

/-! ## Progress -/

/-- Whatever the matcher reads holds a character. -/
def Advances (matcher : Matcher) : Prop :=
  ∀ text, ∀ rest ∈ matcher text, ∃ read, read ≠ [] ∧ text = read ++ rest

theorem one_advances (accepts : Char → Bool) : (one accepts).Advances := by
  intro text rest member
  cases text with
  | nil => simp [one] at member
  | cons c text =>
    simp only [one] at member
    split at member
    · exact ⟨[c], by simp, by simp [List.mem_singleton.1 member]⟩
    · simp at member

theorem exactly_advances {head : List Char} (nonempty : head ≠ []) :
    (exactly head).Advances := by
  intro text rest member
  exact ⟨head, nonempty, after?_eq_some_iff.1 (Option.mem_toList.1 member)⟩

theorem Advances.seq {first second : Matcher} (advances : first.Advances)
    (advances' : second.Advances) : (seq first second).Advances := by
  intro text rest member
  obtain ⟨middle, member, member'⟩ := List.mem_flatMap.1 member
  obtain ⟨read, nonempty, rfl⟩ := advances text middle member
  obtain ⟨read', _, rfl⟩ := advances' middle rest member'
  exact ⟨read ++ read', by simp [nonempty], by simp⟩

theorem Advances.alt {first second : Matcher} (advances : first.Advances)
    (advances' : second.Advances) : (alt first second).Advances := by
  intro text rest member
  rcases List.mem_append.1 member with member | member
  · exact advances text rest member
  · exact advances' text rest member

theorem Advances.many {item : Matcher} (advances : item.Advances) : (many item).Advances := by
  intro text
  induction h : text.length using Nat.strongRecOn generalizing text with
  | ind length ih =>
    intro rest member
    rw [Matcher.many] at member
    obtain ⟨middle, item_member, member⟩ := List.mem_flatMap.1 member
    obtain ⟨read, nonempty, rfl⟩ := advances text middle item_member
    split at member
    · next shorter =>
      rcases List.mem_append.1 member with member | member
      · obtain ⟨read', _, rfl⟩ := ih middle.length (h ▸ shorter) middle rfl rest member
        exact ⟨read ++ read', by simp [nonempty], by simp⟩
      · exact ⟨read, nonempty, by rw [List.mem_singleton.1 member]⟩
    · exact ⟨read, nonempty, by rw [List.mem_singleton.1 member]⟩

theorem Advances.many_eq {item : Matcher} (advances : item.Advances) (text : List Char) :
    Matcher.many item text = (item text).flatMap fun rest => Matcher.many item rest ++ [rest] := by
  rw [Matcher.many, List.flatMap_def, List.flatMap_def, List.map_congr_left]
  intro rest member
  obtain ⟨read, nonempty, rfl⟩ := advances text rest member
  have := List.length_pos_iff.2 nonempty
  exact if_pos (by simpa using this)

theorem run_advances (accepts : Char → Bool) : (run accepts).Advances := by
  intro text rest member
  cases text with
  | nil => simp [run] at member
  | cons c text =>
    simp only [run] at member
    split at member
    · rcases List.mem_append.1 member with member | member
      · obtain ⟨read, _, rfl⟩ := (one_advances (· == c)).many text rest member
        exact ⟨c :: read, by simp, by simp⟩
      · exact ⟨[c], by simp, by simp [List.mem_singleton.1 member]⟩
    · simp at member

/-! ## Preference -/

theorem head?_many_one (accepts : Char → Bool) (c : Char) (text : List Char) :
    (many (one accepts) (c :: text)).head? =
      if accepts c then some (text.dropWhile accepts) else none := by
  induction text generalizing c with
  | nil =>
    have none_left := (one_advances accepts).many_eq []
    rw [(one_advances accepts).many_eq]
    by_cases h : accepts c <;> simp [one, h, none_left]
  | cons d text ih =>
    rw [(one_advances accepts).many_eq]
    by_cases h : accepts c
    · by_cases h' : accepts d <;> simp [one, h, h', ih]
    · simp [one, h]

theorem head?_run (accepts : Char → Bool) (c : Char) (text : List Char) :
    (run accepts (c :: text)).head? =
      if accepts c then some (text.dropWhile (· == c)) else none := by
  by_cases h : accepts c
  · cases text with
    | nil => simp [run, h, many, one]
    | cons d text =>
      have := head?_many_one (· == c) d text
      by_cases same : d = c <;> simp_all [run]
  · simp [run, h]

/-- What is read and what is left are the text again, and something is read. -/
theorem Advances.read? {matcher : Matcher} (advances : matcher.Advances)
    {text read rest : List Char} (h : matcher.read? text = some (read, rest)) :
    read ≠ [] ∧ text = read ++ rest ∧ (matcher text).head? = some rest := by
  obtain ⟨left, first, same⟩ := Option.map_eq_some_iff.1 h
  obtain ⟨rfl, rfl⟩ := Prod.mk.inj same
  obtain ⟨read, nonempty, rfl⟩ := advances text left (List.mem_of_mem_head? first)
  simpa using ⟨nonempty, first⟩

end Matcher

end FileRouting.Text
