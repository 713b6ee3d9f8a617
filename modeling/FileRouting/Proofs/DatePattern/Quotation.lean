import FileRouting.Proofs.DatePattern.Parity
import FileRouting.Proofs.DatePattern.Scan

/-!
# Quoting a text

A text can be written into a date pattern with its quotes doubled, between two quotes. Formatting
such a pattern gives back the text, if there is anything in it but quotes. The quotes at the start
of the text are read as pairs before the quotation opens, and so a text of quotes alone comes back
with one quote more: nothing but the two quotes around it is left to open and close a quotation, and
they are read as a pair themselves. The main statement is `format_quotation`.
-/

namespace FileRouting.DatePattern

open FileRouting.Text FileRouting.Time

/-- A text with its quotes doubled, between two quotes. -/
def quotation (text : String) : String :=
  String.ofList ('\'' :: doubled text.toList ++ ['\''])

/-! ## A quotation can be read -/

theorem count_quotation (text : List Char) :
    Even (('\'' :: doubled text ++ ['\'']).count '\'') := by
  have inside := even_count_doubled text
  simpa [List.count_cons, Nat.even_add_one] using inside

/-- The letters of a quotation stand behind an odd number of quotes. -/
theorem legal_quotation (text : List Char) : Legal ('\'' :: doubled text ++ ['\'']) := by
  rintro (_ | index) c ⟨found, letter, outside⟩
  · exact absurd (Option.some.inj found).symm (isLetter_ne_quote letter)
  · exfalso
    rw [List.cons_append, List.getElem?_cons_succ] at found
    rw [List.cons_append, List.take_succ_cons, List.count_cons_self, Nat.even_add_one] at outside
    apply outside
    rcases Nat.lt_or_ge index (doubled text).length with inside | behind
    · rw [List.getElem?_append_left inside] at found
      rw [List.take_append_of_le_length inside.le]
      exact even_count_take_doubled found (isLetter_ne_quote letter)
    · rw [List.getElem?_append_right behind] at found
      have last : c = '\'' := by simpa using List.mem_of_getElem? found
      exact absurd last (isLetter_ne_quote letter)

theorem exists_tokensAt_quotation (text : List Char) :
    ∃ found, tokensAt 0 ('\'' :: doubled text ++ ['\'']) = .ok found :=
  (exists_tokensAt_iff 0 _).2 ⟨count_quotation text, legal_quotation text⟩

/-! ## The pass over a quotation -/

section

variable (moment : ZonedTime)

theorem doubled_replicate (count : Nat) :
    doubled (List.replicate count '\'') = List.replicate (2 * count) '\'' := by
  induction count with
  | zero => rfl
  | succ count ih => simp [List.replicate_succ, doubled, ih, Nat.mul_succ]

theorem doubled_append (text rest : List Char) :
    doubled (text ++ rest) = doubled text ++ doubled rest := by
  induction text with
  | nil => rfl
  | cons c text ih =>
    by_cases quote : c = '\'' <;> simp [doubled, quote, ih]

theorem scan_pairs (quoted : Bool) (count : Nat) (rest : List Char) :
    scan moment quoted (List.replicate (2 * count) '\'' ++ rest) =
      List.replicate count '\'' ++ scan moment quoted rest := by
  induction count with
  | zero => rfl
  | succ count ih => simp [List.replicate_succ, Nat.mul_succ, scan_pair, ih]

theorem scan_quotation_quotes (count : Nat) :
    scan moment false ('\'' :: doubled (List.replicate count '\'') ++ ['\'']) =
      List.replicate (count + 1) '\'' := by
  have pairs : '\'' :: doubled (List.replicate count '\'') ++ ['\''] =
      List.replicate (2 * (count + 1)) '\'' ++ [] := by
    rw [doubled_replicate, List.append_nil, Nat.mul_succ, List.replicate_succ',
      List.replicate_succ]
  rw [pairs, scan_pairs, scan_nil, List.append_nil]

/-- Behind the quotes at its start, a text is quoted up to the last quote of the quotation. -/
theorem scan_quotation {text : List Char} {c : Char} (other : c ≠ '\'') (count : Nat) :
    scan moment false
      ('\'' :: doubled (List.replicate count '\'' ++ c :: text) ++ ['\'']) =
        List.replicate count '\'' ++ c :: text := by
  have opening : '\'' :: List.replicate (2 * count) '\'' =
      List.replicate (2 * count) '\'' ++ ['\''] := by
    rw [← List.replicate_succ, List.replicate_succ']
  have quoted : scan moment false ('\'' :: doubled (c :: text) ++ ['\''] ++ []) =
      c :: text ++ scan moment false [] :=
    scan_quotedText moment (List.cons_ne_nil _ _) (by simpa using other) (by simp)
  rw [scan_nil, List.append_nil, List.append_nil] at quoted
  rw [doubled_append, doubled_replicate, ← List.cons_append, opening]
  simp only [List.append_assoc, List.singleton_append]
  rw [scan_pairs, quoted]

end

/-! ## Formatting a quotation -/

theorem exists_eq_replicate_append {text : List Char} (h : ∃ c ∈ text, c ≠ '\'') :
    ∃ count c rest, text = List.replicate count '\'' ++ c :: rest ∧ c ≠ '\'' := by
  induction text with
  | nil => simp at h
  | cons d text ih =>
    by_cases quote : d = '\''
    · subst quote
      obtain ⟨count, c, rest, rfl, other⟩ := ih (by simpa using h)
      exact ⟨count + 1, c, rest, rfl, other⟩
    · exact ⟨0, d, text, rfl, quote⟩

theorem format_quotation (localZone : Zone) (moment : ZonedTime) :
    (∀ text : String, (∃ c ∈ text.toList, c ≠ '\'') →
      format localZone (.zoned moment) (quotation text) = .ok text) ∧
      ∀ count, format localZone (.zoned moment)
        (quotation (String.ofList (List.replicate count '\''))) =
          .ok (String.ofList (List.replicate (count + 1) '\'')) := by
  have formatted (text : String) : format localZone (.zoned moment) (quotation text) =
      .ok (String.ofList (scan moment false ('\'' :: doubled text.toList ++ ['\'']))) := by
    obtain ⟨found, reads⟩ := exists_tokensAt_quotation text.toList
    have pattern : (quotation text).toList = '\'' :: doubled text.toList ++ ['\''] :=
      String.toList_ofList
    rw [← pattern] at reads ⊢
    exact format_of_tokensAt localZone moment reads
  constructor
  · intro text mixed
    obtain ⟨count, c, rest, same, other⟩ := exists_eq_replicate_append mixed
    rw [formatted, same, scan_quotation moment other, ← same, String.ofList_toList]
  · intro count
    rw [formatted, String.toList_ofList, scan_quotation_quotes]

example : format .utc (.zoned ⟨.first, .midnight, .utc⟩) "'it''s 5 o''clock'''" =
    .ok "it's 5 o'clock'" := by
  decide +kernel

end FileRouting.DatePattern
