import FileRouting.Proofs.DatePattern.Parity
import FileRouting.Proofs.DatePattern.Scan

/-!
# Patterns of several parts

Two patterns that can be read can be put together, and the text of the whole is the text of one part
and then that of the other, unless something goes on across the seam: a pair of quotes or a run of
one letter. Nothing else does, since a pattern that can be read has an even number of quotes and so
leaves the pass outside quotes. The main statement is `format_append`.

The smallest part with a field in it is a run of one letter, `shows_field`.
-/

namespace FileRouting.DatePattern

open FileRouting.Text FileRouting.Time

/-! ## The seam -/

/-- Neither a pair of quotes nor a run of one letter goes across the seam of two texts. -/
structure Apart (text more : List Char) : Prop where
  quotes : ¬(text.getLast? = some '\'' ∧ more.head? = some '\'')
  letters : ∀ c, isLetter c → ¬(text.getLast? = some c ∧ more.head? = some c)

theorem Apart.of_append (before : List Char) {text more : List Char}
    (apart : Apart (before ++ text) more) : Apart text more := by
  have ends (c : Char) (last : text.getLast? = some c) : (before ++ text).getLast? = some c := by
    simp [List.getLast?_append, last]
  constructor
  · rintro ⟨last, starts⟩
    exact apart.quotes ⟨ends _ last, starts⟩
  · rintro c letter ⟨last, starts⟩
    exact apart.letters c letter ⟨ends c last, starts⟩

theorem Apart.of_cons {c : Char} {text more : List Char} (apart : Apart (c :: text) more) :
    Apart text more :=
  Apart.of_append [c] apart

/-- A lone quote stays alone when its text goes on. -/
theorem Apart.head?_append_ne_quote {text more : List Char} (apart : Apart ('\'' :: text) more)
    (lone : text.head? ≠ some '\'') : (text ++ more).head? ≠ some '\'' := by
  cases text with
  | nil => exact fun starts => apart.quotes ⟨rfl, starts⟩
  | cons c text => exact lone

/-- A run of a letter ends where it ended before more text came behind it. -/
theorem letters_append {c : Char} {text more : List Char}
    (apart : ¬((c :: text).getLast? = some c ∧ more.head? = some c)) :
    (text ++ more).takeWhile (· == c) = text.takeWhile (· == c) ∧
      (text ++ more).dropWhile (· == c) = text.dropWhile (· == c) ++ more := by
  induction text with
  | nil =>
    cases more with
    | nil => simp
    | cons d more =>
      have other : d ≠ c := fun same => apart ⟨rfl, congrArg some same⟩
      simp [other]
  | cons d text ih =>
    by_cases same : d = c
    · subst same
      have ended := ih (by simpa using apart)
      simp [ended]
    · simp [same]

theorem Apart.dropWhile {text more : List Char} (apart : Apart text more)
    (accepts : Char → Bool) : Apart (text.dropWhile accepts) more := by
  obtain ⟨before, same⟩ := List.dropWhile_suffix (l := text) accepts
  exact .of_append before (same.symm ▸ apart)

theorem count_quote_dropWhile {c : Char} (other : c ≠ '\'') (text : List Char) :
    (text.dropWhile (· == c)).count '\'' = text.count '\'' := by
  induction text with
  | nil => rfl
  | cons d text ih =>
    by_cases same : d = c
    · subst same
      simpa [other] using ih
    · simp [same]

/-! ## The pass across the seam -/

section

variable (moment : ZonedTime)

/-- The pass starts again behind a text that leaves it outside quotes. -/
theorem scan_append {quoted : Bool} {text more : List Char} (apart : Apart text more)
    (closed : Even (text.count '\'') ↔ quoted = false) :
    scan moment quoted (text ++ more) =
      scan moment quoted text ++ scan moment false more := by
  induction quoted, text using scan.induct with
  | case1 quoted =>
    obtain rfl : quoted = false := closed.1 Even.zero
    rw [scan_nil, List.nil_append, List.nil_append]
  | case2 quoted text ih =>
    have pairs : Even (text.count '\'') ↔ quoted = false := by
      simpa [Nat.even_add_one] using closed
    rw [List.cons_append, List.cons_append, scan_pair, scan_pair, ih apart.of_cons.of_cons pairs,
      List.cons_append]
  | case3 quoted text notPair ih =>
    have lone : text.head? ≠ some '\'' := by
      intro starts
      obtain ⟨text, rfl⟩ := List.head?_eq_some_iff.1 starts
      exact notPair text rfl
    have turned : Even (text.count '\'') ↔ (!quoted) = false := by
      rw [List.count_cons_self, Nat.even_add_one] at closed
      cases quoted <;> simpa using closed
    rw [List.cons_append, scan_lone moment quoted (apart.head?_append_ne_quote lone),
      scan_lone moment quoted lone, ih apart.of_cons turned]
  | case4 c text _ other ih =>
    rw [List.count_cons_of_ne other] at closed
    rw [List.cons_append, scan_quoted moment other, scan_quoted moment other,
      ih apart.of_cons closed, List.cons_append]
  | case5 c text _ other _ letter ih =>
    have ended := letters_append (apart.letters c letter)
    rw [List.count_cons_of_ne other, ← count_quote_dropWhile other] at closed
    rw [List.cons_append, scan_letter moment letter, scan_letter moment letter, ended.1, ended.2,
      ih (apart.of_cons.dropWhile _) closed, List.append_assoc]
  | case6 c text _ other _ notLetter ih =>
    have plain : isPlain c := by simpa [isPlain, notLetter] using other
    rw [List.count_cons_of_ne other] at closed
    rw [List.cons_append, scan_plain moment plain, scan_plain moment plain,
      ih apart.of_cons closed, List.cons_append]

end

/-! ## Formatting the parts -/

theorem exists_tokensAt_append {text more : List Char} {found found' : List Token}
    (reads : tokensAt 0 text = .ok found) (reads' : tokensAt 0 more = .ok found') :
    ∃ all, tokensAt 0 (text ++ more) = .ok all := by
  obtain ⟨even, legal⟩ := (exists_tokensAt_iff 0 text).1 ⟨found, reads⟩
  obtain ⟨even', legal'⟩ := (exists_tokensAt_iff 0 more).1 ⟨found', reads'⟩
  rw [exists_tokensAt_iff, List.count_append]
  exact ⟨even.add even', legal.append even legal'⟩

theorem format_append (localZone : Zone) (moment : ZonedTime) {pattern more : String}
    {found found' : List Token} (reads : tokens pattern = .ok found)
    (reads' : tokens more = .ok found') (apart : Apart pattern.toList more.toList) :
    (∃ all, tokens (pattern ++ more) = .ok all) ∧
      ∃ text text', format localZone (.zoned moment) pattern = .ok text ∧
        format localZone (.zoned moment) more = .ok text' ∧
        format localZone (.zoned moment) (pattern ++ more) = .ok (text ++ text') := by
  rw [tokens_eq_ok_iff] at reads reads'
  have closed : Even (pattern.toList.count '\'') :=
    ((exists_tokensAt_iff 0 _).1 ⟨found, reads⟩).1
  obtain ⟨all, reads_all⟩ := exists_tokensAt_append reads reads'
  rw [← String.toList_append] at reads_all
  refine ⟨⟨all, tokens_eq_ok_iff.2 reads_all⟩, _, _, format_of_tokensAt localZone moment reads,
    format_of_tokensAt localZone moment reads', ?_⟩
  rw [format_of_tokensAt localZone moment reads_all, String.toList_append,
    scan_append moment apart (by simp [closed]), String.ofList_append]

theorem format_append_behindQuote :
    (∃ all, tokens ("d'd'" ++ "dd'''d'") = .ok all) ∧
      ∃ text text', format .utc (.zoned ⟨.first, .midnight, .utc⟩) "d'd'" = .ok text ∧
        format .utc (.zoned ⟨.first, .midnight, .utc⟩) "dd'''d'" = .ok text' ∧
        format .utc (.zoned ⟨.first, .midnight, .utc⟩) ("d'd'" ++ "dd'''d'") =
          .ok (text ++ text') := by
  have reads : tokens "d'd'" = .ok [⟨.field .dayOfMonth 1, 0⟩, ⟨.literal ['d'], 1⟩] := by
    decide +kernel
  have reads' : tokens "dd'''d'" =
      .ok [⟨.field .dayOfMonth 2, 0⟩, ⟨.literal ['\''], 2⟩, ⟨.literal ['d'], 4⟩] := by
    decide +kernel
  refine format_append .utc ⟨.first, .midnight, .utc⟩ reads reads' ⟨by decide, ?_⟩
  rintro c letter ⟨last, starts⟩
  obtain rfl : '\'' = c := Option.some.inj last
  exact absurd letter (by decide)

-- A pair of quotes on the seam is read as one quote.
example : format .utc (.zoned ⟨.first, .midnight, .utc⟩) ("'d'" ++ "'d'") = .ok "d'd" := by
  decide +kernel

/-! ## A run of one letter -/

/-- A letter a number of times. -/
def letterRun (letter : Char) (count : Nat) : String :=
  String.ofList (List.replicate count letter)

theorem isLetter_letter (field : Field) : isLetter field.letter := by
  cases field <;> rfl

/-- A text without quotes can be read if all of its letters name fields. -/
theorem exists_tokensAt_of_plain_or_letter {text : List Char}
    (h : ∀ c ∈ text, isPlain c ∨ ∃ field : Field, field.letter = c) :
    ∃ found, tokensAt 0 text = .ok found := by
  refine (exists_tokensAt_iff 0 text).2 ⟨?_, ?_⟩
  · have unquoted : '\'' ∉ text := by
      intro member
      rcases h _ member with plain | ⟨field, same⟩
      · exact absurd plain (by decide)
      · exact isLetter_ne_quote (isLetter_letter field) same
    rw [List.count_eq_zero.2 unquoted]
    exact Even.zero
  · intro index c free
    rcases h c (List.mem_of_getElem? free.getElem?_eq) with plain | ⟨field, rfl⟩
    · simp [isPlain, free.letter] at plain
    · exact (mem_fieldLetters_iff _).2 ⟨field, Field.ofLetter?_letter field⟩

/-- What a run of a letter shows of a moment. -/
def Shows (moment : ZonedTime) (letter : Char) (count : Nat) (text : List Char) : Prop :=
  ∀ localZone, format localZone (.zoned moment) (letterRun letter count) =
    .ok (String.ofList text)

theorem shows_field (moment : ZonedTime) (field : Field) (count : Nat) :
    Shows moment field.letter (count + 1) (field.text moment (count + 1)) := by
  intro localZone
  have letters : ∀ c ∈ List.replicate (count + 1) field.letter,
      isPlain c ∨ ∃ field : Field, field.letter = c :=
    fun c member => .inr ⟨field, (List.eq_of_mem_replicate member).symm⟩
  obtain ⟨found, reads⟩ := exists_tokensAt_of_plain_or_letter letters
  have shown : scan moment false (List.replicate (count + 1) field.letter ++ []) =
      letterText moment field.letter (count + 1) ++ scan moment false [] :=
    scan_replicate moment (isLetter_letter field) count (by simp)
  rw [scan_nil, List.append_nil, List.append_nil, letterText, Field.ofLetter?_letter] at shown
  have pattern : (letterRun field.letter (count + 1)).toList =
      List.replicate (count + 1) field.letter := String.toList_ofList
  rw [← pattern] at reads shown
  rw [format_of_tokensAt localZone moment reads, shown]

end FileRouting.DatePattern
