import FileRouting.Yaml.Lexer

/-!
# Reading a key with a numeral

The tokens of a stream that holds the key `rules` and a plain scalar behind it, of any length, which
starts with a zero as the numerals of other bases do. The main statement is `tokens_ofStream_rules`.
The steps of the lexer before and behind the scalar do not look at it, so they can be run as they
stand; only the step over the scalar needs to know its characters.
-/

namespace FileRouting.Yaml

open FileRouting.Text

/-- The characters that neither end a plain scalar nor the line that it is in. -/
def isWordChar (c : Char) : Bool :=
  !isBlankOrEnd c && c ≠ ':' && !isBreak c && c ≠ '\ufeff'

theorem isWordChar_iff {c : Char} : isWordChar c = true ↔
    (isBlankOrEnd c = false ∧ c ≠ ':') ∧ isBreak c = false ∧ c ≠ '\ufeff' := by
  simp [isWordChar, and_assoc]

/-! ## A word at the end of a stream -/

theorem wordOf_eq_self {word : List Char} (plain : ∀ c ∈ word, isWordChar c) :
    Plain.wordOf false word = word := by
  induction word with
  | nil => rfl
  | cons c word ih =>
    obtain ⟨first, others⟩ := List.forall_mem_cons.1 plain
    obtain ⟨⟨notBlank, notColon⟩, _⟩ := isWordChar_iff.1 first
    simp [Plain.wordOf, notBlank, notColon, ih others]

theorem repeat_succ {α : Type} (f : α → α) (count : Nat) (a : α) :
    (count + 1).repeat f a = count.repeat f (f a) := by
  induction count with
  | zero => rfl
  | succ count ih => rw [Nat.repeat, ih, Nat.repeat]

theorem repeat_next {word : List Char} (plain : ∀ c ∈ word, isWordChar c) (rest : List Char)
    (behind : Option Error) (size index line column : Nat) :
    word.length.repeat Cursor.next ⟨word ++ rest, behind, size, index, line, column⟩ =
      ⟨rest, behind, size, index + word.length, line, column + word.length⟩ := by
  induction word generalizing index column with
  | nil => rfl
  | cons c word ih =>
    obtain ⟨first, others⟩ := List.forall_mem_cons.1 plain
    obtain ⟨_, notBreak, notMark⟩ := isWordChar_iff.1 first
    have stepped : Cursor.next ⟨c :: (word ++ rest), behind, size, index, line, column⟩ =
        ⟨word ++ rest, behind, size, index + 1, line, column + 1⟩ := by
      simp [Cursor.next, notBreak, notMark]
    rw [List.length_cons, repeat_succ, List.cons_append, stepped, ih others]
    simp only [Nat.add_assoc, Nat.add_comm 1]

theorem read_word {c : Char} {word : List Char} (plain : ∀ d ∈ c :: word, isWordChar d)
    (notComment : c ≠ '#') (indent : Int) (size index line column : Nat) :
    Plain.read false indent ⟨c :: word, none, size, index, line, column⟩ =
      .ok ⟨c :: word, false,
        ⟨[], none, size, index + (word.length + 1), line, column + (word.length + 1)⟩⟩ := by
  have skipped := repeat_next plain [] none size index line column
  rw [List.append_nil, List.length_cons] at skipped
  have taken : Plain.word false ⟨c :: word, none, size, index, line, column⟩ =
      .ok (c :: word,
        ⟨[], none, size, index + (word.length + 1), line, column + (word.length + 1)⟩) := by
    simp [Plain.word, wordOf_eq_self plain, Cursor.peek, Cursor.skip, skipped, endMark, bind,
      Except.bind]
  have last : ∀ index column : Nat, Plain.gap ⟨[], none, size, index, line, column⟩ =
      .ok ⟨none, false, ⟨[], none, size, index, line, column⟩⟩ := fun _ _ => rfl
  rw [Plain.read, Plain.words]
  simp [taken, last, notComment, Cursor.peek, bind, Except.bind]

/-! ## The steps of the lexer -/

/-- The lexer behind the word `rules`. -/
def Lexer.behindKey (word : List Char) : Lexer where
  cursor := ⟨':' :: ' ' :: word, none, word.length + 7, 5, 0, 5⟩
  tokens := [.scalar (.ofChars "rules".toList) true]
  count := 1
  indent := -1
  indents := []
  depth := 0
  keyAllowed := false
  keys := [(0, ⟨0, false, 0, 0, 0⟩)]

/-- The lexer behind the colon. -/
def Lexer.behindColon (word : List Char) : Lexer where
  cursor := ⟨' ' :: word, none, word.length + 7, 6, 0, 6⟩
  tokens := [.value, .scalar (.ofChars "rules".toList) true, .key, .blockMappingStart]
  count := 4
  indent := 0
  indents := [-1]
  depth := 0
  keyAllowed := false
  keys := []

/-- The lexer behind the scalar. -/
def Lexer.behindWord (word : List Char) : Lexer where
  cursor := ⟨[], none, word.length + 7, word.length + 7, 0, word.length + 7⟩
  tokens := [.scalar (.ofChars word) true, .value, .scalar (.ofChars "rules".toList) true, .key,
    .blockMappingStart]
  count := 5
  indent := 0
  indents := [-1]
  depth := 0
  keyAllowed := false
  keys := []

theorem step_start (word : List Char) :
    (Lexer.start ⟨"rules: ".toList ++ word, none⟩).step = .ok (.behindKey word, false) := rfl

theorem step_behindKey (word : List Char) :
    (Lexer.behindKey word).step = .ok (.behindColon word, false) := rfl

theorem step_behindColon {word : List Char} (plain : ∀ c ∈ '0' :: word, isWordChar c) :
    (Lexer.behindColon ('0' :: word)).step = .ok (.behindWord ('0' :: word), false) := by
  have looked : (Lexer.behindColon ('0' :: word)).step = (do
      let lexer ← (do
        let scalar ← Plain.read false 1 ⟨'0' :: word, none, word.length + 8, 7, 0, 7⟩
        .ok { (Lexer.behindColon ('0' :: word)).addAt (.scalar (.ofChars scalar.text) true)
            scalar.cursor with keyAllowed := scalar.endsLine })
      .ok (lexer, false)) := rfl
  have places : 7 + (word.length + 1) = word.length + 8 := by omega
  rw [looked, read_word plain (by decide), places]
  rfl

theorem step_behindWord (word : List Char) :
    (Lexer.behindWord word).step =
      .ok ({ Lexer.behindWord word with
        tokens := .blockEnd :: (Lexer.behindWord word).tokens
        count := 6
        indent := -1
        indents := [] }, true) := rfl

theorem run_succ {lexer next : Lexer} (fresh : lexer.dropStale = .ok lexer)
    (stepped : lexer.step = .ok (next, false)) (fuel handedOut : Nat) :
    lexer.run (fuel + 1) handedOut = next.run fuel lexer.ready := by
  rw [Lexer.run, fresh]
  simp only [stepped]

theorem tokens_ofStream_rules {word : List Char} (plain : ∀ c ∈ '0' :: word, isWordChar c) :
    Tokens.ofStream ⟨"rules: ".toList ++ '0' :: word, none⟩ =
      ⟨[.blockMappingStart, .key, .scalar (.ofChars "rules".toList) true, .value,
        .scalar (.ofChars ('0' :: word)) true, .blockEnd], none⟩ := by
  have fuel : Tokens.ofStream ⟨"rules: ".toList ++ '0' :: word, none⟩ =
      (Lexer.start ⟨"rules: ".toList ++ '0' :: word, none⟩).run (word.length + 6 + 1 + 1 + 1 + 1)
        0 := rfl
  rw [fuel, run_succ rfl (step_start _), run_succ rfl (step_behindKey _),
    run_succ rfl (step_behindColon plain), Lexer.run]
  have fresh : (Lexer.behindWord ('0' :: word)).dropStale = .ok (.behindWord ('0' :: word)) := rfl
  simp only [fresh, step_behindWord]
  rfl

end FileRouting.Yaml
