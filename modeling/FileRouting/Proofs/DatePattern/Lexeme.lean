import FileRouting.DatePattern.Token
import Mathlib.Data.List.TakeWhile

/-!
# The lexemes of a date pattern

The forms of lexemes are tried in order, and quoted text is matched with backtracking: where the
quote behind a pair cannot be closed any more, the pair is split and its first quote closes the
text. The main statements say what that comes to.

* `Lexeme.first?_cases`: a lexeme is an escaped quote, quoted text, a whole run of one letter, or a
  whole run of plain characters. Quoted text is followed by a quote only if no other quote comes
  behind that one. Only the empty text and a last quote start with no lexeme.
* `tokensAt_of_first?_eq_some`: the tokens of a text are the token of its first lexeme and the
  tokens of the rest.
-/

namespace FileRouting.DatePattern

open FileRouting.Text

/-! ## Doubled quotes -/

/-- A text with every quote written twice. -/
def doubled : List Char → List Char
  | [] => []
  | c :: text => if c = '\'' then '\'' :: '\'' :: doubled text else c :: doubled text

theorem undoubled_doubled (text : List Char) : undoubled (doubled text) = text := by
  induction text with
  | nil => rfl
  | cons c text ih =>
    by_cases quote : c = '\''
    · simp [doubled, undoubled, quote, ih]
    · rw [doubled, if_neg quote, undoubled, ih]
      exact fun _ same => absurd same quote

theorem head?_doubled (text : List Char) : (doubled text).head? = text.head? := by
  cases text with
  | nil => rfl
  | cons c text =>
    by_cases quote : c = '\'' <;> simp [doubled, quote]

/-! ## Closing a quotation -/

theorem exactly_quote (text : List Char) :
    Matcher.exactly ['\''] text = if text.head? = some '\'' then [text.tail] else [] := by
  cases text with
  | nil => rfl
  | cons c text =>
    by_cases quote : c = '\''
    · simp [Matcher.exactly, after?, quote]
    · simp [Matcher.exactly, after?, quote, Ne.symm quote]

theorem quotedCharacter_pair (text : List Char) :
    quotedCharacter ('\'' :: '\'' :: text) = [text] := by
  simp [quotedCharacter, Matcher.alt, Matcher.one, escapedQuote, Matcher.exactly, after?]

theorem quotedCharacter_cons {c : Char} (text : List Char) (other : c ≠ '\'') :
    quotedCharacter (c :: text) = [text] := by
  simp [quotedCharacter, Matcher.alt, Matcher.one, escapedQuote, Matcher.exactly, after?, other,
    other.symm]

theorem quotedCharacter_lone {text : List Char} (lone : text.head? ≠ some '\'') :
    quotedCharacter ('\'' :: text) = [] := by
  cases text with
  | nil => rfl
  | cons c text =>
    have other : '\'' ≠ c := fun same => lone (congrArg some same.symm)
    simp [quotedCharacter, Matcher.alt, Matcher.one, escapedQuote, Matcher.exactly, after?, other]

theorem closing_eq (text : List Char) :
    closing text = (quotedCharacter text).flatMap fun rest =>
      closing rest ++ Matcher.exactly ['\''] rest := by
  rw [closing, Matcher.seq, quotedCharacter_advances.many_eq, List.flatMap_assoc]
  simp [Matcher.seq]

/-- A quotation that cannot be closed has no quote behind its first character. -/
theorem not_mem_of_closing_eq_nil {text : List Char} (h : closing text = [])
    (lone : text.head? ≠ some '\'') : '\'' ∉ text := by
  induction text with
  | nil => simp
  | cons c text ih =>
    have other : c ≠ '\'' := fun same => lone (congrArg some same)
    rw [closing_eq, quotedCharacter_cons text other] at h
    simp only [List.flatMap_singleton, List.append_eq_nil_iff, exactly_quote] at h
    have lone' : text.head? ≠ some '\'' := by
      intro quote
      simp [quote] at h
    simpa [other.symm] using ih h.1 lone'

/-- A quotation with some content is closed before a rest. The rest starts with a quote only if that
is the last one. -/
structure Closes (text content rest : List Char) : Prop where
  eq_append : text = doubled content ++ '\'' :: rest
  last : ∀ more, rest = '\'' :: more → '\'' ∉ more

theorem Closes.cons {text content rest : List Char} (closes : Closes text content rest)
    {c : Char} (other : c ≠ '\'') : Closes (c :: text) (c :: content) rest where
  eq_append := by simp [doubled, other, closes.eq_append]
  last := closes.last

theorem Closes.pair {text content rest : List Char} (closes : Closes text content rest) :
    Closes ('\'' :: '\'' :: text) ('\'' :: content) rest where
  eq_append := by simp [doubled, closes.eq_append]
  last := closes.last

/-- Behind a character of a quotation, closing it later comes before closing it here. -/
theorem closes_of_behind {text rest : List Char}
    (later : ∀ rest, (closing text).head? = some rest → ∃ content, Closes text content rest)
    (h : (closing text ++ Matcher.exactly ['\''] text).head? = some rest) :
    ∃ content, Closes text content rest := by
  cases found : (closing text).head? with
  | some closed =>
    simp only [List.head?_append, found, Option.some_or, Option.some.injEq] at h
    exact h ▸ later closed found
  | none =>
    have unclosed : closing text = [] := List.head?_eq_none_iff.1 found
    rw [unclosed, List.nil_append, exactly_quote] at h
    cases text with
    | nil => simp at h
    | cons c text =>
      by_cases quote : c = '\''
      · subst quote
        simp only [List.head?_cons, List.tail_cons, if_true, Option.some.injEq] at h
        refine ⟨[], by simp [doubled, h], ?_⟩
        rintro more rfl
        rw [h, closing_eq, quotedCharacter_pair] at unclosed
        simp only [List.flatMap_singleton, List.append_eq_nil_iff, exactly_quote] at unclosed
        apply not_mem_of_closing_eq_nil unclosed.1
        intro starts
        simp [starts] at unclosed
      · simp [quote] at h

theorem closes_of_closing {text rest : List Char} (h : (closing text).head? = some rest) :
    ∃ content, content ≠ [] ∧ Closes text content rest := by
  induction text using undoubled.induct generalizing rest with
  | case1 => rw [closing_eq] at h; cases h
  | case2 text ih =>
    rw [closing_eq, quotedCharacter_pair, List.flatMap_singleton] at h
    obtain ⟨content, closes⟩ :=
      closes_of_behind (fun _ found => (ih found).imp fun _ => And.right) h
    exact ⟨_, by simp, closes.pair⟩
  | case3 c text notPair ih =>
    by_cases quote : c = '\''
    · subst quote
      have lone : text.head? ≠ some '\'' := by
        intro starts
        cases text with
        | nil => simp at starts
        | cons d text => exact notPair text rfl (by simpa using starts)
      rw [closing_eq, quotedCharacter_lone lone] at h
      cases h
    · rw [closing_eq, quotedCharacter_cons text quote, List.flatMap_singleton] at h
      obtain ⟨content, closes⟩ :=
        closes_of_behind (fun _ found => (ih found).imp fun _ => And.right) h
      exact ⟨_, by simp, closes.cons quote⟩

/-! ## The first lexeme -/

theorem read?_escapedQuote_lone {text : List Char} (lone : text.head? ≠ some '\'') :
    escapedQuote.read? ('\'' :: text) = none := by
  apply Matcher.read?_eq_none
  cases text with
  | nil => rfl
  | cons c text =>
    have other : '\'' ≠ c := fun same => lone (congrArg some same.symm)
    simp [escapedQuote, Matcher.exactly, after?, other]

theorem read?_escapedQuote_cons {c : Char} (other : c ≠ '\'') (text : List Char) :
    escapedQuote.read? (c :: text) = none := by
  apply Matcher.read?_eq_none
  simp [escapedQuote, Matcher.exactly, after?, other.symm]

theorem read?_quotedText_cons {c : Char} (other : c ≠ '\'') (text : List Char) :
    quotedText.read? (c :: text) = none := by
  apply Matcher.read?_eq_none
  simp [quotedText, Matcher.seq, exactly_quote, other]

namespace Lexeme

theorem first?_nil : first? [] = none := by
  simp [first?, forms, Matcher.read?, escapedQuote, quotedText, Matcher.seq, Matcher.exactly,
    after?, Matcher.run, Matcher.many, Matcher.one]

theorem first?_pair (rest : List Char) :
    first? ('\'' :: '\'' :: rest) = some ⟨.literal, ['\'', '\''], rest⟩ := by
  have read : escapedQuote.read? (['\'', '\''] ++ rest) = some (['\'', '\''], rest) :=
    Matcher.read?_append (by simp [escapedQuote, Matcher.exactly, after?])
  simp only [List.cons_append, List.nil_append] at read
  simp [first?, forms, read]

theorem first?_unclosed {text : List Char} (lone : text.head? ≠ some '\'')
    (unclosed : closing text = []) : first? ('\'' :: text) = none := by
  have escaped := read?_escapedQuote_lone lone
  have quoted : quotedText.read? ('\'' :: text) = none :=
    Matcher.read?_eq_none (by simp [quotedText, Matcher.seq, exactly_quote, unclosed])
  have letter : (Matcher.run isLetter).read? ('\'' :: text) = none :=
    Matcher.read?_eq_none rfl
  have plain : (Matcher.many (.one isPlain)).read? ('\'' :: text) = none := by
    simp [Matcher.read?, Matcher.head?_many_one, isPlain]
  simp [first?, forms, escaped, quoted, letter, plain]

theorem first?_closed {text content rest : List Char} (lone : text.head? ≠ some '\'')
    (closed : (closing text).head? = some rest) (closes : Closes text content rest) :
    first? ('\'' :: text) = some ⟨.literal, '\'' :: doubled content ++ ['\''], rest⟩ := by
  have escaped := read?_escapedQuote_lone lone
  have equal : '\'' :: text = ('\'' :: doubled content ++ ['\'']) ++ rest := by
    simp [closes.eq_append]
  have quoted : quotedText.read? ('\'' :: text) =
      some ('\'' :: doubled content ++ ['\''], rest) := by
    rw [equal]
    apply Matcher.read?_append
    rw [← equal]
    simpa [quotedText, Matcher.seq, exactly_quote] using closed
  simp [first?, forms, escaped, quoted]

theorem first?_letter {c : Char} (letter : isLetter c) (text : List Char) :
    first? (c :: text) =
      some ⟨.field, c :: text.takeWhile (· == c), text.dropWhile (· == c)⟩ := by
  have other : c ≠ '\'' := fun same => by simp [same, isLetter] at letter
  have escaped := read?_escapedQuote_cons other text
  have quoted := read?_quotedText_cons other text
  have equal : c :: text = (c :: text.takeWhile (· == c)) ++ text.dropWhile (· == c) := by simp
  have run : (Matcher.run isLetter).read? (c :: text) =
      some (c :: text.takeWhile (· == c), text.dropWhile (· == c)) := by
    rw [equal]
    apply Matcher.read?_append
    rw [← equal, Matcher.head?_run, if_pos letter]
  simp [first?, forms, escaped, quoted, run]

theorem first?_plain {c : Char} (plain : isPlain c) (text : List Char) :
    first? (c :: text) =
      some ⟨.literal, c :: text.takeWhile isPlain, text.dropWhile isPlain⟩ := by
  have other : c ≠ '\'' := fun same => by simp [same, isPlain] at plain
  have notLetter : isLetter c = false := by simpa [isPlain, other] using plain
  have escaped := read?_escapedQuote_cons other text
  have quoted := read?_quotedText_cons other text
  have letter : (Matcher.run isLetter).read? (c :: text) = none :=
    Matcher.read?_eq_none (by simp [Matcher.run, notLetter])
  have equal : c :: text = (c :: text.takeWhile isPlain) ++ text.dropWhile isPlain := by simp
  have many : (Matcher.many (.one isPlain)).read? (c :: text) =
      some (c :: text.takeWhile isPlain, text.dropWhile isPlain) := by
    rw [equal]
    apply Matcher.read?_append
    rw [← equal, Matcher.head?_many_one, if_pos plain]
  simp [first?, forms, escaped, quoted, letter, many]

theorem first?_last {rest : List Char} (last : '\'' ∉ rest) : first? ('\'' :: rest) = none := by
  apply first?_unclosed
  · intro starts
    exact last (List.mem_of_mem_head? starts)
  · rw [← List.head?_eq_none_iff, Option.eq_none_iff_forall_ne_some]
    intro behind closed
    obtain ⟨content, _, closes⟩ := closes_of_closing closed
    exact last (by simp [closes.eq_append])

/-- What a text can start with. -/
inductive Form : Lexeme → Prop
  | escapedQuote (rest : List Char) : Form ⟨.literal, ['\'', '\''], rest⟩
  | quotedText {content rest : List Char} (nonempty : content ≠ [])
      (starts : content.head? ≠ some '\'') (last : ∀ more, rest = '\'' :: more → '\'' ∉ more) :
      Form ⟨.literal, '\'' :: doubled content ++ ['\''], rest⟩
  | field {c : Char} (letter : isLetter c) (count : Nat) {rest : List Char}
      (ends : rest.head? ≠ some c) : Form ⟨.field, List.replicate (count + 1) c, rest⟩
  | plain {text rest : List Char} (nonempty : text ≠ []) (plain : ∀ c ∈ text, isPlain c)
      (ends : ∀ c, rest.head? = some c → isPlain c = false) : Form ⟨.literal, text, rest⟩

theorem takeWhile_eq_replicate (c : Char) (text : List Char) :
    text.takeWhile (· == c) = List.replicate (text.takeWhile (· == c)).length c := by
  rw [List.eq_replicate_iff]
  exact ⟨rfl, fun d member => by simpa using List.mem_takeWhile_imp member⟩

theorem head?_dropWhile {accepts : Char → Bool} {text : List Char} {c : Char}
    (h : (text.dropWhile accepts).head? = some c) : accepts c = false := by
  have := List.head?_dropWhile_not accepts text
  simpa [h] using this

/-- Every text starts with a lexeme of one of the forms, but for the empty text and a last quote. -/
theorem first?_cases (text : List Char) :
    (first? text = none ∧ (text = [] ∨ ∃ rest, text = '\'' :: rest ∧ '\'' ∉ rest)) ∨
      ∃ lexeme, first? text = some lexeme ∧ lexeme.Form := by
  cases text with
  | nil => exact .inl ⟨first?_nil, .inl rfl⟩
  | cons c text =>
    by_cases quote : c = '\''
    · subst quote
      by_cases pair : text.head? = some '\''
      · obtain ⟨rest, rfl⟩ := List.head?_eq_some_iff.1 pair
        exact .inr ⟨_, first?_pair rest, .escapedQuote rest⟩
      · cases found : (closing text).head? with
        | none =>
          have unclosed : closing text = [] := List.head?_eq_none_iff.1 found
          exact .inl ⟨first?_unclosed pair unclosed,
            .inr ⟨text, rfl, not_mem_of_closing_eq_nil unclosed pair⟩⟩
        | some rest =>
          obtain ⟨content, nonempty, closes⟩ := closes_of_closing found
          have starts : content.head? ≠ some '\'' := by
            intro starts
            apply pair
            rw [closes.eq_append, List.head?_append, head?_doubled, starts]
            rfl
          exact .inr ⟨_, first?_closed pair found closes,
            .quotedText nonempty starts closes.last⟩
    · by_cases letter : isLetter c
      · refine .inr ⟨_, first?_letter letter text, ?_⟩
        rw [takeWhile_eq_replicate, ← List.replicate_succ]
        exact .field letter _ fun same => by simpa using head?_dropWhile same
      · have plain : isPlain c := by simp [isPlain, letter, quote]
        refine .inr ⟨_, first?_plain plain text, .plain (by simp) ?_ fun _ => head?_dropWhile⟩
        intro d member
        rcases List.mem_cons.1 member with rfl | member
        · exact plain
        · exact List.mem_takeWhile_imp member

end Lexeme

/-! ## The piece of a lexeme -/

theorem ofLexeme_quotedText {content : List Char} (nonempty : content ≠ []) (rest : List Char) :
    Piece.ofLexeme ⟨.literal, '\'' :: doubled content ++ ['\''], rest⟩ =
      .ok (.literal content) := by
  have longer : doubled content ++ ['\''] ≠ ['\''] := by
    obtain ⟨c, text, rfl⟩ := List.exists_cons_of_ne_nil nonempty
    by_cases quote : c = '\'' <;> simp [doubled, quote]
  have undone : undoubled (doubled content ++ ['\'']).dropLast = content := by
    rw [List.dropLast_concat, undoubled_doubled]
  rw [List.cons_append]
  generalize doubled content ++ ['\''] = text at longer undone
  simp [Piece.ofLexeme, undone]

theorem ofLexeme_plain {text : List Char} (plain : ∀ c ∈ text, isPlain c) (rest : List Char) :
    Piece.ofLexeme ⟨.literal, text, rest⟩ = .ok (.literal text) := by
  cases text with
  | nil => rfl
  | cons c text =>
    have other : c ≠ '\'' := fun same => by simpa [same, isPlain] using plain c (by simp)
    simp [Piece.ofLexeme, other]

theorem ofLexeme_field (c : Char) (count : Nat) (rest : List Char) :
    Piece.ofLexeme ⟨.field, List.replicate (count + 1) c, rest⟩ =
      match Field.ofLetter? c with
      | some field => .ok (.field field (count + 1))
      | none => .error (.unknownLetter c) := by
  cases named : Field.ofLetter? c <;> simp [Piece.ofLexeme, List.replicate_succ, named]

/-! ## The tokens behind a lexeme -/

theorem tokensAt_of_first?_eq_none {text : List Char} (h : Lexeme.first? text = none)
    (position : Nat) : tokensAt position text =
      if text = [] then .ok [] else .error ⟨.unterminatedQuote, position⟩ := by
  rw [tokensAt]
  split
  · rfl
  · next found => simp [h] at found

theorem tokensAt_of_first?_eq_some {text : List Char} {lexeme : Lexeme}
    (h : Lexeme.first? text = some lexeme) (position : Nat) : tokensAt position text =
      match Piece.ofLexeme lexeme with
      | .error fault => .error ⟨fault, position⟩
      | .ok piece =>
        (tokensAt (position + lexeme.text.length) lexeme.rest).map (⟨piece, position⟩ :: ·) := by
  rw [tokensAt]
  split
  · next found => simp [h] at found
  · next found =>
    rw [h, Option.some.injEq] at found
    subst found
    rfl

theorem tokens_eq_ok_iff {pattern : String} {found : List Token} :
    tokens pattern = .ok found ↔ tokensAt 0 pattern.toList = .ok found := by
  unfold tokens
  cases tokensAt 0 pattern.toList <;> simp

end FileRouting.DatePattern
