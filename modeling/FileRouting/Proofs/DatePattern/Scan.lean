import FileRouting.DatePattern.Format
import FileRouting.Proofs.DatePattern.Lexeme

/-!
# Formatting in one pass

A pattern can be formatted in one pass from left to right that remembers only whether it is inside
quotes. Two quotes side by side give one quote, a lone quote opens or closes, and every other
character is looked at on its own or with the run of the same letter that it starts. The main
statement, `format_eq_scan`, says that this gives the same text as reading the tokens of the pattern
first.

The pass and the lexemes differ on what a lone quote is: the pass has to look no further than the
next character, a lexeme of quoted text as far as its closing quote. They agree since a lexeme that
ends before a quote is the last one of a pattern that can be read.
-/

namespace FileRouting.DatePattern

open FileRouting.Text FileRouting.Time

/-! ## The pass -/

/-- The text of the field that a letter names; other letters have none. -/
def letterText (moment : ZonedTime) (c : Char) (count : Nat) : List Char :=
  match Field.ofLetter? c with
  | some field => field.text moment count
  | none => []

/-- The text of a pattern for a moment, in one pass. -/
def scan (moment : ZonedTime) : Bool → List Char → List Char
  | _, [] => []
  | quoted, '\'' :: '\'' :: text => '\'' :: scan moment quoted text
  | quoted, '\'' :: text => scan moment (!quoted) text
  | true, c :: text => c :: scan moment true text
  | false, c :: text =>
    have := List.length_dropWhile_le (· == c) text
    if isLetter c then
      letterText moment c ((text.takeWhile (· == c)).length + 1) ++
        scan moment false (text.dropWhile (· == c))
    else c :: scan moment false text
termination_by _ text => text.length

section

variable (moment : ZonedTime)

/-! ## Steps of the pass -/

theorem scan_nil (quoted : Bool) : scan moment quoted [] = [] := by
  simp [scan]

theorem scan_pair (quoted : Bool) (text : List Char) :
    scan moment quoted ('\'' :: '\'' :: text) = '\'' :: scan moment quoted text := by
  rw [scan]

theorem scan_lone (quoted : Bool) {text : List Char} (lone : text.head? ≠ some '\'') :
    scan moment quoted ('\'' :: text) = scan moment (!quoted) text := by
  rw [scan]
  rintro text rfl
  exact lone rfl

theorem scan_quoted {c : Char} (other : c ≠ '\'') (text : List Char) :
    scan moment true (c :: text) = c :: scan moment true text := by
  rw [scan]
  · exact fun _ same => absurd same other
  · exact other

theorem scan_plain {c : Char} (plain : isPlain c) (text : List Char) :
    scan moment false (c :: text) = c :: scan moment false text := by
  obtain ⟨notLetter, other⟩ : isLetter c = false ∧ c ≠ '\'' := by simpa [isPlain] using plain
  rw [scan]
  · simp [notLetter]
  · exact fun _ same => absurd same other
  · exact other

theorem scan_letter {c : Char} (letter : isLetter c) (text : List Char) :
    scan moment false (c :: text) =
      letterText moment c ((text.takeWhile (· == c)).length + 1) ++
        scan moment false (text.dropWhile (· == c)) := by
  have other : c ≠ '\'' := fun same => by simp [same, isLetter] at letter
  rw [scan]
  · simp [letter]
  · exact fun _ same => absurd same other
  · exact other

/-! ## The pass over a lexeme -/

theorem scan_doubled (text : List Char) {rest : List Char} (lone : rest.head? ≠ some '\'') :
    scan moment true (doubled text ++ '\'' :: rest) = text ++ scan moment false rest := by
  induction text with
  | nil => simp [doubled, scan_lone moment true lone]
  | cons c text ih =>
    by_cases quote : c = '\''
    · simp [doubled, quote, scan_pair, ih]
    · simp [doubled, quote, scan_quoted moment quote, ih]

theorem scan_quotedText {content rest : List Char} (nonempty : content ≠ [])
    (starts : content.head? ≠ some '\'') (lone : rest.head? ≠ some '\'') :
    scan moment false ('\'' :: doubled content ++ ['\''] ++ rest) =
      content ++ scan moment false rest := by
  have opens : (doubled content ++ '\'' :: rest).head? ≠ some '\'' := by
    rw [List.head?_append, head?_doubled]
    obtain ⟨c, text, rfl⟩ := List.exists_cons_of_ne_nil nonempty
    exact starts
  rw [List.append_assoc, List.singleton_append, List.cons_append, scan_lone moment false opens]
  exact scan_doubled moment content lone

theorem scan_plain_append {text : List Char} (plain : ∀ c ∈ text, isPlain c) (rest : List Char) :
    scan moment false (text ++ rest) = text ++ scan moment false rest := by
  induction text with
  | nil => rfl
  | cons c text ih =>
    obtain ⟨first, others⟩ := List.forall_mem_cons.1 plain
    rw [List.cons_append, scan_plain moment first, ih others, List.cons_append]

theorem scan_replicate {c : Char} (letter : isLetter c) (count : Nat) {rest : List Char}
    (ends : rest.head? ≠ some c) :
    scan moment false (List.replicate (count + 1) c ++ rest) =
      letterText moment c (count + 1) ++ scan moment false rest := by
  have stop : rest.takeWhile (· == c) = [] ∧ rest.dropWhile (· == c) = rest := by
    cases rest with
    | nil => simp
    | cons d rest =>
      have different : d ≠ c := fun same => ends (congrArg some same)
      simp [different]
  rw [List.replicate_succ, List.cons_append, scan_letter moment letter,
    List.takeWhile_append_of_pos (by simp), List.dropWhile_append_of_pos (by simp),
    stop.1, stop.2]
  simp

/-! ## The pass over a pattern -/

/-- A quotation that ends before a quote leaves a text that has no tokens. -/
theorem tokensAt_last {rest : List Char} (last : '\'' ∉ rest) (position : Nat) :
    tokensAt position ('\'' :: rest) = .error ⟨.unterminatedQuote, position⟩ := by
  rw [tokensAt_of_first?_eq_none (Lexeme.first?_last last), if_neg (by simp)]

theorem head?_ne_quote_of_tokensAt {position : Nat} {rest : List Char} {found : List Token}
    (h : tokensAt position rest = .ok found)
    (last : ∀ more, rest = '\'' :: more → '\'' ∉ more) : rest.head? ≠ some '\'' := by
  intro starts
  obtain ⟨more, rfl⟩ := List.head?_eq_some_iff.1 starts
  rw [tokensAt_last (last more rfl)] at h
  cases h

/-- The pass over a lexeme gives the text of its piece, if the rest has tokens. -/
theorem scan_lexeme {lexeme : Lexeme} (form : lexeme.Form) {piece : Piece}
    (reads : Piece.ofLexeme lexeme = .ok piece) {position : Nat} {others : List Token}
    (h : tokensAt position lexeme.rest = .ok others) :
    scan moment false (lexeme.text ++ lexeme.rest) =
      piece.text moment ++ scan moment false lexeme.rest := by
  cases form with
  | escapedQuote rest =>
    cases reads
    exact scan_pair moment false rest
  | quotedText nonempty starts last =>
    rw [ofLexeme_quotedText nonempty] at reads
    cases reads
    exact scan_quotedText moment nonempty starts (head?_ne_quote_of_tokensAt h last)
  | @field c letter count rest ends =>
    rw [ofLexeme_field] at reads
    cases named : Field.ofLetter? c with
    | none => simp [named] at reads
    | some field =>
      simp only [named, Except.ok.injEq] at reads
      subst reads
      rw [scan_replicate moment letter count ends, letterText, named]
      rfl
  | plain nonempty plain ends =>
    rw [ofLexeme_plain plain] at reads
    cases reads
    exact scan_plain_append moment plain _

theorem scan_eq_render {position : Nat} {text : List Char} {found : List Token}
    (h : tokensAt position text = .ok found) : scan moment false text = render moment found := by
  induction text_length : text.length using Nat.strongRecOn generalizing position text found with
  | ind length ih =>
    rcases Lexeme.first?_cases text with ⟨missing, rfl | ⟨rest, rfl, last⟩⟩ | ⟨lexeme, first, form⟩
    · rw [tokensAt_of_first?_eq_none missing, if_pos rfl] at h
      cases h
      simp [scan_nil, render]
    · rw [tokensAt_last last] at h
      cases h
    · have shorter := text_length ▸ Lexeme.length_rest_lt first
      rw [tokensAt_of_first?_eq_some first] at h
      cases reads : Piece.ofLexeme lexeme with
      | error fault => simp [reads] at h
      | ok piece =>
        rw [reads] at h
        cases behind : tokensAt (position + lexeme.text.length) lexeme.rest with
        | error fault => simp [behind, Except.map] at h
        | ok others =>
          simp only [behind, Except.map, Except.ok.injEq] at h
          subst h
          have same := ih lexeme.rest.length shorter behind rfl
          rw [(Lexeme.eq_append_of_first? first).2, scan_lexeme moment form reads behind, same]
          rfl

end

theorem format_of_tokensAt (localZone : Zone) (moment : ZonedTime) {pattern : String}
    {found : List Token} (h : tokensAt 0 pattern.toList = .ok found) :
    format localZone (.zoned moment) pattern =
      .ok (String.ofList (scan moment false pattern.toList)) := by
  simp only [format, Stamp.inZone, formatMoment, tokens, h, scan_eq_render moment h]
  rfl

/-- A pattern that can be read gives in one pass what it gives by its tokens. -/
theorem format_eq_scan (localZone : Zone) (moment : ZonedTime) {pattern : String}
    {found : List Token} (h : tokens pattern = .ok found) :
    format localZone (.zoned moment) pattern =
      .ok (String.ofList (scan moment false pattern.toList)) := by
  have reads : tokensAt 0 pattern.toList = .ok found := by
    unfold tokens at h
    split at h
    · next reads => rw [reads, Except.ok.inj h]
    · cases h
  have formatted : formatMoment moment pattern = .ok (String.ofList (render moment found)) := by
    rw [formatMoment, h]
    rfl
  rw [format, Stamp.inZone, scan_eq_render moment reads]
  simp only [formatted]
  rfl

theorem format_eq_scan_quotes :
    format .utc (.zoned ⟨.first, .midnight, .utc⟩) "h 'o''clock' ''yy" =
        .ok (String.ofList (scan ⟨.first, .midnight, .utc⟩ false "h 'o''clock' ''yy".toList)) ∧
      scan ⟨.first, .midnight, .utc⟩ false "h 'o''clock' ''yy".toList =
        "12 o'clock '01".toList := by
  have reads : tokens "h 'o''clock' ''yy" =
      .ok [⟨.field .hourOfHalfDay 1, 0⟩, ⟨.literal [' '], 1⟩, ⟨.literal "o'clock".toList, 2⟩,
        ⟨.literal [' '], 12⟩, ⟨.literal ['\''], 13⟩, ⟨.field .year 2, 15⟩] := by
    decide +kernel
  exact ⟨format_eq_scan .utc ⟨.first, .midnight, .utc⟩ reads, by decide +kernel⟩

end FileRouting.DatePattern
