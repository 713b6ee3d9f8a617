import FileRouting.Proofs.DatePattern.Parity
import Mathlib.Data.List.Chain
import Mathlib.Data.List.Forall2

/-!
# What the tokens of a pattern cover

A token covers the part of the pattern from its own position to that of the next token, the last one
up to the end. The parts follow one another without a gap, none of them is empty, and each is
written as the piece of its token is: a field as a run of its letter, literal text as itself or
between quotes. A run does not end before the same letter, nor plain text before a plain character.
The main statement is `tokens_cover`.
-/

namespace FileRouting.DatePattern

open FileRouting.Text

/-! ## Covered parts -/

/-- The parts of a text that start at the positions of tokens, each up to the next one. -/
def slices (text : List Char) : List Token → List (List Char)
  | [] => []
  | [token] => [text.drop token.position]
  | token :: next :: others =>
    (text.drop token.position).take (next.position - token.position) ::
      slices text (next :: others)

/-- How a token can be written. Quotes inside a quotation stand in pairs, each read as one. -/
inductive Covers (token : Token) (slice : List Char) : Prop
  | field (named : Field) (count : Nat) (piece : token.piece = .field named (count + 1))
      (value : slice = token.value) (run : slice = List.replicate (count + 1) named.letter)
      (listed : named.letter ∈ fieldLetters)
  | plain (piece : token.piece = .literal slice) (value : slice = token.value)
      (nonempty : slice ≠ []) (plain : ∀ c ∈ slice, isPlain c)
  | escapedQuote (piece : token.piece = .literal ['\'']) (pair : slice = ['\'', '\''])
  | quotation (inside : List Char) (piece : token.piece = .literal (undoubled inside))
      (quoted : slice = '\'' :: inside ++ ['\'']) (nonempty : inside ≠ [])
      (pairs : inside = doubled (undoubled inside))

/-- Two tokens with their parts, the second right behind the first. -/
structure Adjoins (first second : Token × List Char) : Prop where
  fields : ∀ field count field' count', first.1.piece = .field field count →
    second.1.piece = .field field' count' → field.letter ≠ field'.letter
  plain : ¬((∀ c ∈ first.2, isPlain c) ∧ ∀ c ∈ second.2, isPlain c)

/-- Tokens with their parts, one behind the other from a position on. -/
inductive Covering : Nat → List (Token × List Char) → Prop
  | nil (position : Nat) : Covering position []
  | cons {position : Nat} {token : Token} {slice : List Char} {others : List (Token × List Char)}
      (starts : token.position = position) (covers : Covers token slice)
      (adjoins : ∀ next ∈ others.head?, Adjoins (token, slice) next)
      (behind : Covering (position + slice.length) others) :
      Covering position ((token, slice) :: others)

theorem Covers.ne_nil {token : Token} {slice : List Char} (covers : Covers token slice) :
    slice ≠ [] := by
  cases covers with
  | field named count piece value run => simp [run]
  | plain piece value nonempty => exact nonempty
  | escapedQuote piece pair => simp [pair]
  | quotation inside piece quoted => simp [quoted]

/-- What a field covers starts with its letter. -/
theorem Covers.eq_letter {token : Token} {c : Char} {slice : List Char}
    (covers : Covers token (c :: slice)) {field : Field} {count : Nat}
    (isField : token.piece = .field field count) : c = field.letter := by
  cases covers with
  | field named count piece value run =>
    rw [isField] at piece
    obtain ⟨rfl, _⟩ := Piece.field.inj piece
    exact (List.cons.inj run).1
  | plain piece | escapedQuote piece | quotation _ piece =>
    rw [isField] at piece
    cases piece

/-! ## The parts of lexemes -/

/-- The piece of a lexeme that can be read covers the text of the lexeme. -/
theorem Lexeme.Form.covers {lexeme : Lexeme} (form : lexeme.Form) {piece : Piece}
    (reads : Piece.ofLexeme lexeme = .ok piece) (position : Nat) :
    Covers ⟨piece, position⟩ lexeme.text := by
  cases form with
  | escapedQuote rest =>
    cases reads
    exact .escapedQuote rfl rfl
  | @quotedText content rest nonempty starts last =>
    rw [ofLexeme_quotedText nonempty] at reads
    cases reads
    refine .quotation (doubled content) ?_ rfl ?_ ?_
    · rw [undoubled_doubled]
    · intro empty
      have undone := undoubled_doubled content
      rw [empty] at undone
      exact nonempty undone.symm
    · rw [undoubled_doubled]
  | @field c letter count rest ends =>
    rw [ofLexeme_field] at reads
    cases named : Field.ofLetter? c with
    | none => simp [named] at reads
    | some field =>
      simp only [named, Except.ok.injEq] at reads
      subst reads
      obtain rfl := Field.letter_of_ofLetter? named
      exact .field field count rfl rfl rfl ((mem_fieldLetters_iff _).2 ⟨field, named⟩)
  | plain nonempty plain ends =>
    rw [ofLexeme_plain plain] at reads
    cases reads
    exact .plain rfl rfl nonempty plain

/-- What comes behind a lexeme cannot be added to it. -/
theorem Lexeme.Form.adjoins {lexeme : Lexeme} (form : lexeme.Form) {piece : Piece}
    (reads : Piece.ofLexeme lexeme = .ok piece) (position : Nat) {next : Token}
    {slice behind : List Char} (covers : Covers next slice) (rest : lexeme.rest = slice ++ behind) :
    Adjoins (⟨piece, position⟩, lexeme.text) (next, slice) := by
  obtain ⟨c, more, rfl⟩ := List.exists_cons_of_ne_nil covers.ne_nil
  have starts : lexeme.rest.head? = some c := by rw [rest]; rfl
  have quote : ∀ text, ¬∀ d ∈ '\'' :: text, isPlain d := by
    intro text plain
    exact absurd (plain '\'' List.mem_cons_self) (by decide)
  cases form with
  | escapedQuote rest =>
    cases reads
    refine ⟨fun _ _ _ _ isField => ?_, fun plain => quote _ plain.1⟩
    cases isField
  | quotedText nonempty =>
    rw [ofLexeme_quotedText nonempty] at reads
    cases reads
    refine ⟨fun _ _ _ _ isField => ?_, fun plain => quote _ plain.1⟩
    cases isField
  | @field d letter count rest ends =>
    constructor
    · intro field count field' count' isField isField' same
      rw [ofLexeme_field] at reads
      cases named : Field.ofLetter? d with
      | none => simp [named] at reads
      | some first =>
        simp only [named, Except.ok.injEq] at reads
        subst reads
        obtain ⟨rfl, _⟩ := Piece.field.inj isField
        apply ends
        rw [starts, ← Field.letter_of_ofLetter? named, same, covers.eq_letter isField']
    · rintro ⟨plain, _⟩
      have := plain d (by simp)
      simp [isPlain, letter] at this
  | plain nonempty plain ends =>
    rw [ofLexeme_plain plain] at reads
    cases reads
    refine ⟨fun _ _ _ _ isField => ?_, ?_⟩
    · cases isField
    rintro ⟨_, plain'⟩
    have := ends c starts
    rw [plain' c List.mem_cons_self] at this
    cases this

/-! ## The parts of a text -/

/-- The text that is covered. -/
def covered (parts : List (Token × List Char)) : List Char :=
  (parts.map Prod.snd).flatten

theorem exists_covering {position : Nat} {text : List Char} {found : List Token}
    (reads : tokensAt position text = .ok found) :
    ∃ parts, parts.map Prod.fst = found ∧ covered parts = text ∧ Covering position parts := by
  induction length : text.length using Nat.strongRecOn generalizing position text found with
  | ind length ih =>
    rcases Lexeme.first?_cases text with ⟨missing, rfl | ⟨rest, rfl, last⟩⟩ | ⟨lexeme, first, form⟩
    · rw [tokensAt_of_first?_eq_none missing, if_pos rfl] at reads
      cases reads
      exact ⟨[], rfl, rfl, .nil position⟩
    · rw [tokensAt_of_first?_eq_none missing, if_neg (by simp)] at reads
      cases reads
    · have shorter := length ▸ Lexeme.length_rest_lt first
      rw [tokensAt_of_first?_eq_some first] at reads
      cases reads_piece : Piece.ofLexeme lexeme with
      | error fault => simp [reads_piece] at reads
      | ok piece =>
        rw [reads_piece] at reads
        cases reads_rest : tokensAt (position + lexeme.text.length) lexeme.rest with
        | error fault => simp [reads_rest, Except.map] at reads
        | ok others =>
          simp only [reads_rest, Except.map, Except.ok.injEq] at reads
          subst reads
          obtain ⟨parts, rfl, joined, covering⟩ := ih lexeme.rest.length shorter reads_rest rfl
          refine ⟨(⟨piece, position⟩, lexeme.text) :: parts, rfl, ?_,
            .cons rfl (form.covers reads_piece position) ?_ covering⟩
          · rw [(Lexeme.eq_append_of_first? first).2, ← joined]
            rfl
          · intro next starts
            cases covering with
            | nil => cases starts
            | cons _ covers =>
              obtain rfl := Option.some.inj starts
              exact form.adjoins reads_piece position covers joined.symm

/-- Every part is what the positions of the tokens cut out. -/
theorem slices_of_covering {position : Nat} {parts : List (Token × List Char)}
    (covering : Covering position parts) (before : List Char) (starts : before.length = position) :
    slices (before ++ covered parts) (parts.map Prod.fst) = parts.map Prod.snd := by
  induction covering generalizing before with
  | nil => rfl
  | @cons position token slice others here covers adjoins behind ih =>
    have split : before ++ covered ((token, slice) :: others) =
        before ++ slice ++ covered others := by simp [covered]
    have rest := ih (before ++ slice) (by rw [List.length_append, starts])
    have first : (before ++ slice ++ covered others).drop token.position =
        slice ++ covered others := by
      rw [List.append_assoc, here, ← starts, List.drop_left]
    rw [split]
    cases behind with
    | nil => simpa only [slices, covered, List.map_cons, List.map_nil, List.flatten_nil,
        List.append_nil, List.cons.injEq, and_true] using first
    | @cons _ next _ _ there =>
      have size : next.position - token.position = slice.length := by omega
      simp only [List.map_cons, slices, first, size, List.take_left] at rest ⊢
      rw [rest]

theorem Covering.within {position : Nat} {parts : List (Token × List Char)}
    (covering : Covering position parts) :
    ∀ part ∈ parts, position ≤ part.1.position ∧
      part.1.position < position + (covered parts).length := by
  induction covering with
  | nil => simp
  | @cons position token slice others here covers adjoins behind ih =>
    have some := List.length_pos_iff.2 covers.ne_nil
    have size : (covered ((token, slice) :: others)).length =
        slice.length + (covered others).length := by simp [covered]
    refine List.forall_mem_cons.2 ⟨by simp only [size]; omega, ?_⟩
    intro part member
    have := ih part member
    omega

theorem Covering.pairwise_position {position : Nat} {parts : List (Token × List Char)}
    (covering : Covering position parts) :
    parts.Pairwise fun first second => first.1.position < second.1.position := by
  induction covering with
  | nil => exact .nil
  | @cons position token slice others here covers adjoins behind ih =>
    refine List.pairwise_cons.2 ⟨fun part member => ?_, ih⟩
    have some := List.length_pos_iff.2 covers.ne_nil
    have := behind.within part member
    simp only
    omega

theorem Covering.isChain {position : Nat} {parts : List (Token × List Char)}
    (covering : Covering position parts) : parts.IsChain Adjoins := by
  induction covering with
  | nil => exact .nil
  | cons _ _ adjoins _ ih => exact List.isChain_cons.2 ⟨adjoins, ih⟩

theorem Covering.covers {position : Nat} {parts : List (Token × List Char)}
    (covering : Covering position parts) : ∀ part ∈ parts, Covers part.1 part.2 := by
  induction covering with
  | nil => simp
  | cons _ covers _ _ ih => exact List.forall_mem_cons.2 ⟨covers, ih⟩

/-! ## The parts of a pattern -/

/-- The tokens of a pattern cover it from its first character to its last. -/
theorem tokens_cover {pattern : String} {found : List Token} (h : tokens pattern = .ok found) :
    (found = [] ↔ pattern = "") ∧ (∀ token ∈ found.head?, token.position = 0) ∧
      (found.map Token.position).Pairwise (· < ·) ∧
      (∀ token ∈ found, token.position < pattern.toList.length) ∧
      List.Forall₂ Covers found (slices pattern.toList found) ∧
      (found.zip (slices pattern.toList found)).IsChain Adjoins ∧
      (slices pattern.toList found).flatten = pattern.toList ∧
      ∀ slice ∈ slices pattern.toList found, slice ≠ [] := by
  obtain ⟨parts, rfl, joined, covering⟩ := exists_covering (tokens_eq_ok_iff.1 h)
  have cut := slices_of_covering covering [] rfl
  rw [List.nil_append, joined] at cut
  have all := covering.covers
  refine ⟨?_, ?_, List.pairwise_map.2 (List.pairwise_map.2 covering.pairwise_position), ?_, ?_, ?_,
    ?_, ?_⟩
  · rw [List.map_eq_nil_iff, ← String.toList_eq_nil_iff, ← joined]
    cases covering with
    | nil => simp [covered]
    | cons _ covers => simp [covered, covers.ne_nil]
  · cases covering with
    | nil => simp
    | cons starts => simpa using starts
  · intro token member
    obtain ⟨part, listed, rfl⟩ := List.mem_map.1 member
    have within := (covering.within part listed).2
    rwa [joined, Nat.zero_add] at within
  · rw [cut, List.forall₂_map_left_iff, List.forall₂_map_right_iff, List.forall₂_same]
    exact all
  · rw [cut, List.zip_map', List.map_id'']
    · exact covering.isChain
    · exact fun part => rfl
  · rw [cut]
    exact joined
  · intro slice member
    rw [cut] at member
    obtain ⟨part, listed, rfl⟩ := List.mem_map.1 member
    exact (all part listed).ne_nil

theorem tokens_cover_quotes :
    let found : List Token :=
      [⟨.field .hourOfHalfDay 1, 0⟩, ⟨.literal [' '], 1⟩, ⟨.literal "o'clock".toList, 2⟩,
        ⟨.literal [' '], 12⟩, ⟨.literal ['\''], 13⟩, ⟨.field .year 2, 15⟩]
    tokens "h 'o''clock' ''yy" = .ok found ∧
      slices "h 'o''clock' ''yy".toList found =
        ["h".toList, " ".toList, "'o''clock'".toList, " ".toList, "''".toList, "yy".toList] ∧
      List.Forall₂ Covers found (slices "h 'o''clock' ''yy".toList found) ∧
      (slices "h 'o''clock' ''yy".toList found).flatten = "h 'o''clock' ''yy".toList := by
  intro found
  have reads : tokens "h 'o''clock' ''yy" = .ok found := by decide +kernel
  obtain ⟨_, _, _, _, covers, _, joined, _⟩ := tokens_cover reads
  exact ⟨reads, by decide +kernel, covers, joined⟩

end FileRouting.DatePattern
