import FileRouting.DatePattern.Field
import FileRouting.Text.Match

/-!
# Tokens of a date pattern

A date pattern is a sequence of fields and literal text. A run of one letter is a field. Text
between single quotes is literal; two quotes side by side stand for one quote, inside quoted text
and outside. Every other character outside quotes that is not a letter is literal.
-/

namespace FileRouting.DatePattern

open FileRouting.Text

/-- The letters that a pattern reserves for fields, whether or not a field is named by them. -/
def isLetter (c : Char) : Bool :=
  ('a' ≤ c ∧ c ≤ 'z') ∨ ('A' ≤ c ∧ c ≤ 'Z')

/-- The characters that stand for themselves outside quotes. -/
def isPlain (c : Char) : Bool :=
  !isLetter c && c != '\''

/-- What a token stands for. -/
inductive Piece
  | field (field : Field) (count : Nat)
  | literal (text : List Char)
deriving DecidableEq

/-- A piece and the place in the pattern where it starts. -/
structure Token where
  piece : Piece
  position : Nat
deriving DecidableEq

/-- The repeated letter of a field, or the literal text. -/
def Token.value (token : Token) : List Char :=
  match token.piece with
  | .field field count => List.replicate count field.letter
  | .literal text => text

/-! ## Errors -/

/-- What can be wrong with a pattern. -/
inductive Fault
  | unknownLetter (letter : Char)
  | unterminatedQuote
deriving DecidableEq

/-- What is wrong with a pattern, and where. -/
structure FaultAt where
  fault : Fault
  position : Nat
deriving DecidableEq

/-- A pattern that cannot be read. -/
structure Error where
  pattern : String
  fault : Fault
  position : Nat
deriving DecidableEq

def Fault.message : Fault → String
  | unknownLetter letter => "Illegal pattern character '" ++ letter.toString ++ "'"
  | unterminatedQuote => "Unterminated quote"

def Error.message (e : Error) : String :=
  e.fault.message ++ " in date pattern '" ++ e.pattern ++ "' at position " ++ toString e.position

/-! ## Lexemes -/

/-- The kinds of lexemes. -/
inductive Kind
  | field
  | literal
deriving DecidableEq

/-- Two quotes side by side. -/
def escapedQuote : Matcher :=
  .exactly ['\'', '\'']

/-- A character inside quotes; a quote is written twice. -/
def quotedCharacter : Matcher :=
  .alt (.one (· ≠ '\'')) escapedQuote

/-- The rest of quoted text behind its opening quote. -/
def closing : Matcher :=
  .seq (.many quotedCharacter) (.exactly ['\''])

def quotedText : Matcher :=
  .seq (.exactly ['\'']) closing

theorem quotedCharacter_advances : quotedCharacter.Advances :=
  (Matcher.one_advances _).alt (Matcher.exactly_advances (by simp))

/-- The forms of lexemes in the order in which they are tried: an escaped quote comes before quoted
text. -/
def forms : List (Matcher × Kind) :=
  [(escapedQuote, .literal), (quotedText, .literal), (.run isLetter, .field),
    (.many (.one isPlain), .literal)]

theorem advances_of_mem_forms {form : Matcher × Kind} (h : form ∈ forms) : form.1.Advances := by
  simp only [forms, List.mem_cons, List.not_mem_nil, or_false] at h
  rcases h with rfl | rfl | rfl | rfl
  · exact Matcher.exactly_advances (by simp)
  · have quote : (Matcher.exactly ['\'']).Advances := Matcher.exactly_advances (by simp)
    exact quote.seq (quotedCharacter_advances.many.seq quote)
  · exact Matcher.run_advances isLetter
  · exact (Matcher.one_advances isPlain).many

/-- The text of a lexeme with its kind, and what follows it. -/
structure Lexeme where
  kind : Kind
  text : List Char
  rest : List Char

def Lexeme.first? (text : List Char) : Option Lexeme :=
  forms.findSome? fun form =>
    (form.1.read? text).map fun read => ⟨form.2, read.1, read.2⟩

theorem Lexeme.eq_append_of_first? {text : List Char} {lexeme : Lexeme}
    (h : first? text = some lexeme) : lexeme.text ≠ [] ∧ text = lexeme.text ++ lexeme.rest := by
  obtain ⟨form, member, found⟩ := List.exists_of_findSome?_eq_some h
  obtain ⟨read, matched, rfl⟩ := Option.map_eq_some_iff.1 found
  have advance := (advances_of_mem_forms member).read? matched
  exact ⟨advance.1, advance.2.1⟩

theorem Lexeme.length_rest_lt {text : List Char} {lexeme : Lexeme}
    (h : first? text = some lexeme) : lexeme.rest.length < text.length := by
  obtain ⟨nonempty, rfl⟩ := eq_append_of_first? h
  have := List.length_pos_iff.2 nonempty
  simp only [List.length_append]
  omega

/-- A text in which two quotes side by side are read as one. -/
def undoubled : List Char → List Char
  | [] => []
  | '\'' :: '\'' :: text => '\'' :: undoubled text
  | c :: text => c :: undoubled text

/-- What a lexeme stands for. The letter of a field has to name one. -/
def Piece.ofLexeme (lexeme : Lexeme) : Except Fault Piece :=
  match lexeme.kind, lexeme.text with
  | .field, text =>
    match text.head?.bind Field.ofLetter? with
    | some named => .ok (.field named text.length)
    | none => .error (.unknownLetter (text.headD ' '))
  | .literal, ['\'', '\''] => .ok (.literal ['\''])
  | .literal, '\'' :: text => .ok (.literal (undoubled text.dropLast))
  | .literal, text => .ok (.literal text)

/-! ## Reading a pattern -/

/-- The tokens of a text that stands at a position of a pattern. The only text that starts with no
lexeme is a quote without another one behind it. -/
def tokensAt (position : Nat) (text : List Char) : Except FaultAt (List Token) :=
  match h : Lexeme.first? text with
  | none => if text = [] then .ok [] else .error ⟨.unterminatedQuote, position⟩
  | some lexeme =>
    have := Lexeme.length_rest_lt h
    match Piece.ofLexeme lexeme with
    | .error fault => .error ⟨fault, position⟩
    | .ok piece =>
      (tokensAt (position + lexeme.text.length) lexeme.rest).map (⟨piece, position⟩ :: ·)
  termination_by text.length

def tokens (pattern : String) : Except Error (List Token) :=
  match tokensAt 0 pattern.toList with
  | .ok tokens => .ok tokens
  | .error ⟨fault, position⟩ => .error ⟨pattern, fault, position⟩

end FileRouting.DatePattern
