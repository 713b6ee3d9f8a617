import FileRouting.Proofs.DatePattern.Lexeme
import Mathlib.Algebra.Group.Nat.Even

/-!
# Which patterns can be read

A pattern can be read if it has an even number of quotes and every letter that comes behind an even
number of quotes names a field. Otherwise the first of these letters that names no field is
reported, or else the last quote. The main statement is `tokens_verdict`.

Every lexeme has an even number of quotes, so that the letters outside quotes of a text are those of
its first lexeme and those of the rest.
-/

namespace FileRouting.DatePattern

open FileRouting.Text

/-! ## Letters outside quotes -/

/-- The letters that name a field. -/
def fieldLetters : List Char :=
  "GyMdDEuFwWaHkKhmsSzZX".toList

/-- A letter with an even number of quotes before it. -/
structure FreeLetter (text : List Char) (index : Nat) (c : Char) : Prop where
  getElem?_eq : text[index]? = some c
  letter : isLetter c
  outside : Even ((text.take index).count '\'')

/-- Every free letter names a field. -/
def Legal (text : List Char) : Prop :=
  ∀ index c, FreeLetter text index c → c ∈ fieldLetters

/-- The first free letter that names no field. -/
structure FirstIllegal (text : List Char) (index : Nat) (c : Char) : Prop where
  free : FreeLetter text index c
  illegal : c ∉ fieldLetters
  first : ∀ other d, FreeLetter text other d → d ∉ fieldLetters → index ≤ other

structure LastQuote (text : List Char) (index : Nat) : Prop where
  getElem?_eq : text[index]? = some '\''
  last : '\'' ∉ text.drop (index + 1)

/-- What comes of a text at a position of a pattern. -/
inductive Verdict (position : Nat) (text : List Char) : Except FaultAt (List Token) → Prop
  | ok (found : List Token) (even : Even (text.count '\'')) (legal : Legal text) :
      Verdict position text (.ok found)
  | unknownLetter (index : Nat) (c : Char) (first : FirstIllegal text index c) :
      Verdict position text (.error ⟨.unknownLetter c, position + index⟩)
  | unterminatedQuote (index : Nat) (last : LastQuote text index)
      (odd : ¬Even (text.count '\'')) (legal : Legal text) :
      Verdict position text (.error ⟨.unterminatedQuote, position + index⟩)

theorem mem_fieldLetters_iff (c : Char) :
    c ∈ fieldLetters ↔ ∃ field, Field.ofLetter? c = some field := by
  constructor
  · have named : fieldLetters.all fun c => (Field.ofLetter? c).isSome := by rfl
    exact fun member => Option.isSome_iff_exists.1 (List.all_eq_true.1 named c member)
  · rintro ⟨field, named⟩
    rw [← Field.letter_of_ofLetter? named]
    cases field <;> decide

/-! ## Free letters of two texts -/

theorem freeLetter_append_left {before : List Char} (after : List Char) {index : Nat}
    (inside : index < before.length) (c : Char) :
    FreeLetter (before ++ after) index c ↔ FreeLetter before index c := by
  have same : (before ++ after)[index]? = before[index]? := List.getElem?_append_left inside
  have taken : (before ++ after).take index = before.take index :=
    List.take_append_of_le_length (Nat.le_of_lt inside)
  constructor
  · rintro ⟨found, letter, outside⟩
    exact ⟨same ▸ found, letter, taken ▸ outside⟩
  · rintro ⟨found, letter, outside⟩
    exact ⟨same ▸ found, letter, taken ▸ outside⟩

theorem freeLetter_append_right {before : List Char} (even : Even (before.count '\''))
    (after : List Char) (index : Nat) (c : Char) :
    FreeLetter (before ++ after) (before.length + index) c ↔ FreeLetter after index c := by
  have same : (before ++ after)[before.length + index]? = after[index]? := by
    rw [List.getElem?_append_right (Nat.le_add_right _ _), Nat.add_sub_cancel_left]
  have count : Even (((before ++ after).take (before.length + index)).count '\'') ↔
      Even ((after.take index).count '\'') := by
    rw [List.take_length_add_append, List.count_append, Nat.even_add]
    simp [even]
  constructor
  · rintro ⟨found, letter, outside⟩
    exact ⟨same ▸ found, letter, count.1 outside⟩
  · rintro ⟨found, letter, outside⟩
    exact ⟨same ▸ found, letter, count.2 outside⟩

theorem FreeLetter.append_cases {before after : List Char} (even : Even (before.count '\''))
    {index : Nat} {c : Char} (free : FreeLetter (before ++ after) index c) :
    FreeLetter before index c ∨
      ∃ behind, index = before.length + behind ∧ FreeLetter after behind c := by
  rcases Nat.lt_or_ge index before.length with inside | outside
  · exact .inl ((freeLetter_append_left after inside c).1 free)
  · obtain ⟨behind, rfl⟩ := Nat.exists_eq_add_of_le outside
    exact .inr ⟨behind, rfl, (freeLetter_append_right even after behind c).1 free⟩

/-! ## Free letters of a lexeme -/

theorem even_count_doubled (text : List Char) : Even ((doubled text).count '\'') := by
  induction text with
  | nil => simp [doubled]
  | cons c text ih =>
    by_cases quote : c = '\''
    · simpa [doubled, quote, Nat.even_add_one] using ih
    · simpa [doubled, quote] using ih

/-- A letter of a text with doubled quotes has an even number of quotes before it. -/
theorem even_count_take_doubled {text : List Char} {index : Nat} {c : Char}
    (found : (doubled text)[index]? = some c) (other : c ≠ '\'') :
    Even (((doubled text).take index).count '\'') := by
  induction text generalizing index with
  | nil => simp [doubled]
  | cons d text ih =>
    by_cases quote : d = '\''
    · simp only [doubled, quote, if_true] at found ⊢
      rcases index with _ | _ | index
      · simp
      · simp [other.symm] at found
      · simpa [Nat.even_add_one] using ih (by simpa using found)
    · simp only [doubled, quote, if_false] at found ⊢
      rcases index with _ | index
      · simp
      · simpa [quote] using ih (by simpa using found)

theorem isLetter_ne_quote {c : Char} (letter : isLetter c) : c ≠ '\'' := by
  rintro rfl
  simp [isLetter] at letter

theorem Lexeme.Form.even_count {lexeme : Lexeme} (form : lexeme.Form) :
    Even (lexeme.text.count '\'') := by
  cases form with
  | escapedQuote rest => exact ⟨1, rfl⟩
  | @quotedText content rest nonempty starts last =>
    simpa [Nat.even_add_one] using even_count_doubled content
  | field letter count ends =>
    simp [List.count_replicate, isLetter_ne_quote letter]
  | plain nonempty plain ends =>
    rw [List.count_eq_zero.2 fun member => by simpa [isPlain] using plain _ member]
    exact Even.zero

/-- The only lexemes with free letters are runs of a letter. -/
theorem Lexeme.Form.eq_replicate_of_free {lexeme : Lexeme} (form : lexeme.Form) {index : Nat}
    {c : Char} (free : FreeLetter lexeme.text index c) :
    lexeme.kind = .field ∧ ∃ count, lexeme.text = List.replicate (count + 1) c := by
  obtain ⟨found, letter, outside⟩ := free
  have other := isLetter_ne_quote letter
  have member := List.mem_of_getElem? found
  cases form with
  | escapedQuote rest =>
    simp [other] at member
  | @quotedText content rest nonempty starts last =>
    exfalso
    rcases index with _ | index
    · simp [other.symm] at found
    · simp only [List.cons_append, List.getElem?_cons_succ, List.take_succ_cons] at found outside
      rcases Nat.lt_or_ge index (doubled content).length with inside | behind
      · rw [List.getElem?_append_left inside] at found
        rw [List.take_append_of_le_length (Nat.le_of_lt inside)] at outside
        have even := even_count_take_doubled found other
        simp [Nat.even_add_one, even] at outside
      · rw [List.getElem?_append_right behind, List.getElem?_singleton] at found
        split at found
        · exact other (Option.some.inj found).symm
        · cases found
  | field letter count ends =>
    obtain rfl := List.eq_of_mem_replicate member
    exact ⟨rfl, count, rfl⟩
  | plain nonempty plain ends =>
    have := plain c member
    simp [isPlain, letter] at this

theorem legal_of_ofLexeme_eq_ok {lexeme : Lexeme} (form : lexeme.Form) {piece : Piece}
    (reads : Piece.ofLexeme lexeme = .ok piece) : Legal lexeme.text := by
  intro index c free
  obtain ⟨kind, count, text⟩ := form.eq_replicate_of_free free
  obtain ⟨_, _, rest⟩ := lexeme
  obtain rfl : _ = Kind.field := kind
  obtain rfl : _ = List.replicate (count + 1) c := text
  rw [ofLexeme_field] at reads
  cases named : Field.ofLetter? c with
  | none => simp [named] at reads
  | some field => exact (mem_fieldLetters_iff c).2 ⟨field, named⟩

theorem firstIllegal_of_ofLexeme_eq_error {lexeme : Lexeme} (form : lexeme.Form) {fault : Fault}
    (fails : Piece.ofLexeme lexeme = .error fault) :
    ∃ c, fault = .unknownLetter c ∧ FirstIllegal lexeme.text 0 c := by
  cases form with
  | escapedQuote rest => cases fails
  | quotedText nonempty starts last =>
    rw [ofLexeme_quotedText nonempty] at fails
    cases fails
  | @field c letter count rest ends =>
    rw [ofLexeme_field] at fails
    cases named : Field.ofLetter? c with
    | some field => simp [named] at fails
    | none =>
      simp only [named, Except.error.injEq] at fails
      have illegal : c ∉ fieldLetters := by simp [mem_fieldLetters_iff, named]
      exact ⟨c, fails.symm, ⟨by simp, letter, by simp⟩, illegal, fun _ _ _ _ => Nat.zero_le _⟩
  | plain nonempty plain ends =>
    rw [ofLexeme_plain plain] at fails
    cases fails

/-! ## The verdict on a text -/

theorem Legal.append {before after : List Char} (legal : Legal before)
    (even : Even (before.count '\'')) (legal' : Legal after) : Legal (before ++ after) := by
  intro index c free
  rcases free.append_cases even with free | ⟨behind, _, free⟩
  · exact legal index c free
  · exact legal' behind c free

theorem FirstIllegal.append_left {before : List Char} {index : Nat} {c : Char}
    (found : FirstIllegal before index c) (after : List Char) :
    FirstIllegal (before ++ after) index c where
  free := by
    obtain ⟨inside, _⟩ := List.getElem?_eq_some_iff.1 found.free.getElem?_eq
    exact (freeLetter_append_left after inside c).2 found.free
  illegal := found.illegal
  first := by
    obtain ⟨inside, _⟩ := List.getElem?_eq_some_iff.1 found.free.getElem?_eq
    intro other d free illegal
    rcases Nat.lt_or_ge other before.length with earlier | later
    · exact found.first other d ((freeLetter_append_left after earlier d).1 free) illegal
    · omega

theorem FirstIllegal.append_right {before after : List Char} {index : Nat} {c : Char}
    (found : FirstIllegal after index c) (legal : Legal before)
    (even : Even (before.count '\'')) :
    FirstIllegal (before ++ after) (before.length + index) c where
  free := (freeLetter_append_right even after index c).2 found.free
  illegal := found.illegal
  first := by
    intro other d free illegal
    rcases free.append_cases even with earlier | ⟨behind, rfl, later⟩
    · exact absurd (legal other d earlier) illegal
    · exact Nat.add_le_add_left (found.first behind d later illegal) _

theorem LastQuote.append_right {after : List Char} {index : Nat} (found : LastQuote after index)
    (before : List Char) : LastQuote (before ++ after) (before.length + index) where
  getElem?_eq := by
    rw [List.getElem?_append_right (Nat.le_add_right _ _), Nat.add_sub_cancel_left,
      found.getElem?_eq]
  last := by
    rw [Nat.add_assoc, List.drop_length_add_append]
    exact found.last

theorem Verdict.append {before after : List Char} {position : Nat}
    {result : Except FaultAt (List Token)}
    (verdict : Verdict (position + before.length) after result)
    (even : Even (before.count '\'')) (legal : Legal before) (token : Token) :
    Verdict position (before ++ after) (result.map (token :: ·)) := by
  have count : Even ((before ++ after).count '\'') ↔ Even (after.count '\'') := by
    rw [List.count_append, Nat.even_add]
    simp [even]
  cases verdict with
  | ok found even' legal' => exact .ok _ (count.2 even') (legal.append even legal')
  | unknownLetter index c first =>
    rw [Nat.add_assoc]
    exact .unknownLetter _ c (first.append_right legal even)
  | unterminatedQuote index last odd legal' =>
    rw [Nat.add_assoc]
    exact .unterminatedQuote _ (last.append_right before) (fun even => odd (count.1 even))
      (legal.append even legal')

theorem verdict_last {rest : List Char} (last : '\'' ∉ rest) (position : Nat) :
    Verdict position ('\'' :: rest) (.error ⟨.unterminatedQuote, position⟩) := by
  refine .unterminatedQuote 0 ⟨rfl, by simpa using last⟩ ?_ ?_
  · simp [List.count_eq_zero.2 last]
  · rintro (_ | index) c ⟨found, letter, outside⟩
    · simp [(isLetter_ne_quote letter).symm] at found
    · have none_behind : (rest.take index).count '\'' = 0 :=
        List.count_eq_zero.2 fun member => last (List.mem_of_mem_take member)
      simp [none_behind] at outside

theorem tokensAt_verdict (position : Nat) (text : List Char) :
    Verdict position text (tokensAt position text) := by
  induction length : text.length using Nat.strongRecOn generalizing position text with
  | ind length ih =>
    rcases Lexeme.first?_cases text with ⟨missing, rfl | ⟨rest, rfl, last⟩⟩ | ⟨lexeme, first, form⟩
    · rw [tokensAt_of_first?_eq_none missing, if_pos rfl]
      exact .ok _ Even.zero (fun index c free => by simpa using free.getElem?_eq)
    · rw [tokensAt_of_first?_eq_none missing, if_neg (by simp)]
      exact verdict_last last position
    · have shorter := length ▸ Lexeme.length_rest_lt first
      rw [tokensAt_of_first?_eq_some first, (Lexeme.eq_append_of_first? first).2]
      cases reads : Piece.ofLexeme lexeme with
      | error fault =>
        obtain ⟨c, rfl, illegal⟩ := firstIllegal_of_ofLexeme_eq_error form reads
        exact .unknownLetter 0 c (illegal.append_left lexeme.rest)
      | ok piece =>
        have behind := ih lexeme.rest.length shorter
          (position + lexeme.text.length) lexeme.rest rfl
        exact behind.append form.even_count (legal_of_ofLexeme_eq_ok form reads) ⟨piece, position⟩

theorem exists_tokensAt_iff (position : Nat) (text : List Char) :
    (∃ found, tokensAt position text = .ok found) ↔ Even (text.count '\'') ∧ Legal text := by
  have verdict := tokensAt_verdict position text
  generalize tokensAt position text = result at verdict
  constructor
  · rintro ⟨found, rfl⟩
    cases verdict with
    | ok _ even legal => exact ⟨even, legal⟩
  · rintro ⟨even, legal⟩
    cases verdict with
    | ok found => exact ⟨found, rfl⟩
    | unknownLetter index c first => exact absurd (legal index c first.free) first.illegal
    | unterminatedQuote index last odd => exact absurd even odd

theorem FirstIllegal.unique {text : List Char} {index index' : Nat} {c c' : Char}
    (h : FirstIllegal text index c) (h' : FirstIllegal text index' c') :
    index = index' ∧ c = c' := by
  have same : index = index' :=
    Nat.le_antisymm (h.first index' c' h'.free h'.illegal) (h'.first index c h.free h.illegal)
  subst same
  exact ⟨rfl, Option.some.inj (h.free.getElem?_eq.symm.trans h'.free.getElem?_eq)⟩

theorem LastQuote.le {text : List Char} {index index' : Nat} (h : LastQuote text index)
    (h' : LastQuote text index') : index' ≤ index := by
  refine Nat.le_of_not_lt fun behind => h.last ?_
  obtain ⟨distance, rfl⟩ := Nat.exists_eq_add_of_lt behind
  have found : (text.drop (index + 1))[distance]? = some '\'' := by
    rw [List.getElem?_drop, Nat.add_right_comm]
    exact h'.getElem?_eq
  exact List.mem_of_getElem? found

/-- There is only one fault to report of a text. -/
theorem Verdict.fault_unique {position : Nat} {text : List Char} {fault fault' : FaultAt}
    (h : Verdict position text (.error fault)) (h' : Verdict position text (.error fault')) :
    fault = fault' := by
  cases h with
  | unknownLetter index c first =>
    cases h' with
    | unknownLetter index' c' first' =>
      obtain ⟨rfl, rfl⟩ := first.unique first'
      rfl
    | unterminatedQuote _ _ _ legal => exact absurd (legal index c first.free) first.illegal
  | unterminatedQuote index last odd legal =>
    cases h' with
    | unknownLetter index' c' first' => exact absurd (legal index' c' first'.free) first'.illegal
    | unterminatedQuote index' last' => rw [Nat.le_antisymm (last'.le last) (last.le last')]

/-! ## The verdict on a pattern -/

theorem tokens_verdict (pattern : String) :
    ((tokens pattern).isOk ↔
      Even (pattern.toList.count '\'') ∧
        ∀ index c, FreeLetter pattern.toList index c → c ∈ fieldLetters) ∧
    ((∃ index c, FreeLetter pattern.toList index c ∧ c ∉ fieldLetters) →
      ∃ index c, FirstIllegal pattern.toList index c ∧
        tokens pattern = .error ⟨pattern, .unknownLetter c, index⟩) ∧
    ((∀ index c, FreeLetter pattern.toList index c → c ∈ fieldLetters) →
      ¬Even (pattern.toList.count '\'') →
      ∃ index, LastQuote pattern.toList index ∧
        tokens pattern = .error ⟨pattern, .unterminatedQuote, index⟩) := by
  have verdict := tokensAt_verdict 0 pattern.toList
  unfold tokens
  generalize tokensAt 0 pattern.toList = result at verdict
  cases verdict with
  | ok found even legal =>
    refine ⟨⟨fun _ => ⟨even, legal⟩, fun _ => rfl⟩, ?_, fun _ odd => absurd even odd⟩
    rintro ⟨index, c, free, illegal⟩
    exact absurd (legal index c free) illegal
  | unknownLetter index c first =>
    have illegal : ¬∀ index c, FreeLetter pattern.toList index c → c ∈ fieldLetters :=
      fun legal => first.illegal (legal index c first.free)
    refine ⟨⟨?_, fun both => absurd both.2 illegal⟩, ?_, fun legal => absurd legal illegal⟩
    · intro ok
      cases ok
    · exact fun _ => ⟨index, c, first, by rw [Nat.zero_add]⟩
  | unterminatedQuote index last odd legal =>
    refine ⟨⟨?_, fun both => absurd both.1 odd⟩, ?_, ?_⟩
    · intro ok
      cases ok
    · rintro ⟨index, c, free, illegal⟩
      exact absurd (legal index c free) illegal
    · exact fun _ _ => ⟨index, last, by rw [Nat.zero_add]⟩

-- The letter is reported although the quote behind it is not closed.
example : tokens "yy'T'b'" = .error ⟨"yy'T'b'", .unknownLetter 'b', 5⟩ := by decide +kernel

end FileRouting.DatePattern
