import FileRouting.Command.Rules
import FileRouting.Proofs.Command.Written
import FileRouting.Proofs.Expression.Form
import FileRouting.Proofs.Text.Numeral

/-!
# Validating a book

The outcome of a validation by what is in the book. A clean book, which has no errors, no warnings
that count and no issue that cannot be written, ends with status 0 behind a line for every rule.
Every other book ends with status 1 and without the last line.
-/

namespace FileRouting.Command

open FileRouting.Text

/-! ## The lines of a validation -/

def isCheckLine (text : String) : Bool :=
  (afterPrefix? "  ✓ " text).isSome

def checkText (rule : Rule) : String :=
  "  ✓ " ++ rule.name ++ " (" ++ rule.expression.kindName ++ ")"

/-- The lines between the issues and the rules. -/
def summaries (book : RuleBook) : List String :=
  (if book.warnings.length ≠ 0 then [counted book.warnings.length "warning" ++ " found."] else []) ++
    ["\nCompiled " ++ counted book.rules.length "rule" ++ ":"]

theorem checkLine_eq (rule : Rule) : checkLine rule = .ofString (checkText rule) := by
  simp only [checkLine, checkText, RawText.ofString_append]

theorem issueText_eq (file : String) (issue : Issue) :
    ∃ heading : String, issue.text file =
      .ofString "[" ++ (.ofString heading ++ issue.finding.message) := by
  refine ⟨issue.severity.title ++ "] " ++ file ++
    (if issue.place.text = "" then "" else " at " ++ issue.place.text) ++ ": ", ?_⟩
  rw [← List.append_assoc, ← RawText.ofString_append]
  simp only [Issue.text, String.append_assoc]

theorem any_isSurrogate_issueText (file : String) (issue : Issue) :
    (issue.text file).any Glyph.isSurrogate = issue.finding.message.any Glyph.isSurrogate := by
  rw [Issue.text, List.any_append, any_isSurrogate_ofString, Bool.false_or]

theorem exists_head?_counted (count : Nat) (noun : String) :
    ∃ c, c.isDigit ∧ (counted count noun).toList.head? = some c := by
  cases digits : Nat.toDigits 10 count with
  | nil => exact absurd digits Nat.toDigits_ne_nil
  | cons c rest =>
    have digit : c.isDigit := isDigit_of_mem_decimal (by rw [digits]; exact List.mem_cons_self)
    refine ⟨c, digit, ?_⟩
    simp [counted, Nat.toString_eq_repr, Nat.toList_repr, digits]

theorem not_mem_escape_counted (count : Nat) {noun : String} (plain : '\x1b' ∉ noun.toList) :
    '\x1b' ∉ (counted count noun).toList := by
  have digits : '\x1b' ∉ Nat.toDigits 10 count := by
    intro member
    cases isDigit_of_mem_decimal member
  simp [counted, Nat.toString_eq_repr, Nat.toList_repr, digits, plain]

theorem mem_summaries {book : RuleBook} {line : String} (h : line ∈ summaries book) :
    line = counted book.warnings.length "warning" ++ " found." ∨
      line = "\nCompiled " ++ counted book.rules.length "rule" ++ ":" := by
  simp only [summaries, List.mem_append, List.mem_singleton] at h
  rcases h with warned | compiled
  · split at warned
    · exact .inl (List.mem_singleton.1 warned)
    · cases warned
  · exact .inr compiled

theorem not_mem_escape_summaries (book : RuleBook) :
    ∀ line ∈ summaries book, '\x1b' ∉ line.toList := by
  have warned := @not_mem_escape_counted book.warnings.length "warning" (by decide)
  have compiled := @not_mem_escape_counted book.rules.length "rule" (by decide)
  intro line member
  rcases mem_summaries member with rfl | rfl
  · simp [warned]
  · simp [compiled]

theorem not_mem_escape_checkText {rule : Rule} (plain : '\x1b' ∉ rule.name.toList) :
    '\x1b' ∉ (checkText rule).toList := by
  have kind : '\x1b' ∉ rule.expression.kindName.toList := by
    cases rule.expression <;> simp [Expression.kindName]
  simp [checkText, plain, kind]

theorem isCheckLine_eq_false {text : String} {c : Char} (h : text.toList.head? = some c)
    (other : c ≠ ' ') : isCheckLine text = false := by
  rw [isCheckLine, Option.isSome_eq_false_iff, Option.isNone_iff_eq_none]
  cases found : afterPrefix? "  ✓ " text with
  | none => rfl
  | some name =>
    rw [afterPrefix?_eq_some_iff.1 found] at h
    simp only [String.toList_append, List.head?_append] at h
    exact absurd (Option.some.inj h).symm other

theorem isCheckLine_checkText (rule : Rule) : isCheckLine (checkText rule) := by
  simp only [isCheckLine, checkText, String.append_assoc, afterPrefix?_append]
  rfl

theorem isCheckLine_summaries (book : RuleBook) :
    ∀ line ∈ summaries book, isCheckLine line = false := by
  intro line member
  rcases mem_summaries member with rfl | rfl
  · obtain ⟨c, digit, first⟩ := exists_head?_counted book.warnings.length "warning"
    apply isCheckLine_eq_false (c := c)
    · rw [String.toList_append, List.head?_append, first]
      rfl
    · rintro rfl
      cases digit
  · exact isCheckLine_eq_false (by simp) (by decide : '\n' ≠ ' ')

theorem head?_of_shows_issueText {file : String} {issue : Issue} {text : String}
    (h : Shows (issue.text file) text) : text.toList.head? = some '[' := by
  obtain ⟨heading, line⟩ := issueText_eq file issue
  rw [line] at h
  obtain ⟨rest, rfl, _⟩ := h.of_append (by decide)
  simp

theorem ne_of_shows_errorLine {count : Nat} {rest text : String}
    (h : Shows (.ofString ("\n" ++ (counted count "error" ++ rest))) text) :
    text ≠ "\nAll rules are valid." := by
  have plain := @not_mem_escape_counted count "error" (by decide)
  obtain ⟨c, digit, first⟩ := exists_head?_counted count "error"
  rw [RawText.ofString_append, RawText.ofString_append] at h
  obtain ⟨line, rfl, shows⟩ := h.of_append (by decide)
  obtain ⟨behind, rfl, _⟩ := shows.of_append plain
  intro same
  have second := congrArg (fun text => text.toList.tail.head?) same
  obtain rfl : c = 'A' := by simpa [first] using second
  cases digit

/-! ## The outcome of a validation -/

/-- What a book has to be like for its validation to end well. -/
structure Clean (strict : Bool) (book : RuleBook) : Prop where
  errors : book.errors = []
  warnings : strict = true → book.warnings = []
  writable : ∀ issue ∈ book.issues, issue.finding.message.any Glyph.isSurrogate = false

theorem printed_printing (lines : List RawText) (status : Nat) :
    (Outcome.printing lines status).printed = (written lines).1 := by
  rw [Outcome.printing]
  cases written lines with
  | mk printed broken => cases broken <;> rfl

theorem status_printing (lines : List RawText) (status : Nat) :
    (Outcome.printing lines status).status = if (written lines).2 = none then status else 1 := by
  rw [Outcome.printing]
  cases written lines with
  | mk printed broken => cases broken <;> rfl

section

variable {strict : Bool} {book : RuleBook} (path : Path)

def issueLines (path : Path) (book : RuleBook) : List RawText :=
  book.issues.map (Issue.text path.text)

theorem validationOutcome_of_faulty (h : book.errors ≠ [] ∨ (strict ∧ book.warnings ≠ [])) :
    ∃ rest, validationOutcome strict path book = .printing (issueLines path book ++
      [.ofString ("\n" ++ (counted book.errors.length "error" ++ rest))]) 1 := by
  rw [← List.length_pos_iff, Nat.pos_iff_ne_zero, ← List.length_pos_iff, Nat.pos_iff_ne_zero] at h
  rw [validationOutcome, if_pos h]
  simp only [String.append_assoc]
  exact ⟨_, rfl⟩

theorem validationOutcome_of_passing (errors : book.errors = [])
    (warnings : strict = true → book.warnings = []) :
    validationOutcome strict path book = .printing (issueLines path book ++
      ((summaries book).map .ofString ++
        (book.rules.map checkText ++ ["\nAll rules are valid."]).map .ofString)) 0 := by
  have passing : ¬(book.errors.length ≠ 0 ∨ (strict ∧ book.warnings.length ≠ 0)) := by
    rw [errors]
    rintro (h | ⟨h, some⟩)
    · exact h rfl
    · exact some (by rw [warnings h]; rfl)
  have lines : book.rules.map checkLine = (book.rules.map checkText).map .ofString := by
    rw [List.map_map]
    exact List.map_congr_left fun rule _ => checkLine_eq rule
  rw [validationOutcome, if_neg passing, lines, List.map_append]
  simp only [Outcome.success, List.append_assoc]
  rfl

theorem written_issueLines_snd :
    (written (issueLines path book)).2 = none ↔
      ∀ issue ∈ book.issues, issue.finding.message.any Glyph.isSurrogate = false := by
  rw [written_snd_eq_none_iff, issueLines, List.forall_mem_map]
  simp only [any_isSurrogate_issueText]

theorem head?_of_mem_written_issueLines {text : String}
    (h : text ∈ (written (issueLines path book)).1) : text.toList.head? = some '[' := by
  obtain ⟨line, member, shows⟩ := exists_of_mem_written h
  obtain ⟨issue, _, rfl⟩ := List.mem_map.1 member
  exact head?_of_shows_issueText shows

theorem validationOutcome_of_clean (clean : Clean strict book)
    (plain : ∀ rule ∈ book.rules, '\x1b' ∉ rule.name.toList) :
    (validationOutcome strict path book).status = 0 ∧
      (validationOutcome strict path book).printed = (written (issueLines path book)).1 ++
        (summaries book ++ (book.rules.map checkText ++ ["\nAll rules are valid."])) := by
  have issues := (written_issueLines_snd path).2 clean.writable
  have last : ∀ line ∈ book.rules.map checkText ++ ["\nAll rules are valid."],
      '\x1b' ∉ line.toList := by
    intro line member
    rcases List.mem_append.1 member with check | valid
    · obtain ⟨rule, listed, rfl⟩ := List.mem_map.1 check
      exact not_mem_escape_checkText (plain rule listed)
    · obtain rfl := List.mem_singleton.1 valid
      decide
  have lines := written_append issues ((summaries book).map .ofString ++
    (book.rules.map checkText ++ ["\nAll rules are valid."]).map .ofString)
  rw [← List.map_append, written_map_ofString] at lines
  · rw [validationOutcome_of_passing path clean.errors clean.warnings, status_printing,
      printed_printing, ← List.map_append, lines]
    exact ⟨rfl, rfl⟩
  · intro line member
    rcases List.mem_append.1 member with summary | behind
    · exact not_mem_escape_summaries book line summary
    · exact last line behind

theorem validationOutcome_of_not_clean (h : ¬Clean strict book) :
    (validationOutcome strict path book).status = 1 ∧
      "\nAll rules are valid." ∉ (validationOutcome strict path book).printed := by
  have issue : "\nAll rules are valid." ∉ (written (issueLines path book)).1 := by
    intro member
    cases head?_of_mem_written_issueLines path member
  by_cases faulty : book.errors ≠ [] ∨ (strict ∧ book.warnings ≠ [])
  · obtain ⟨rest, outcome⟩ := validationOutcome_of_faulty path faulty
    rw [outcome, status_printing, printed_printing, ite_self]
    refine ⟨rfl, ?_⟩
    intro member
    obtain ⟨line, listed, shows⟩ := exists_of_mem_written member
    rcases List.mem_append.1 listed with here | last
    · obtain ⟨issue, _, rfl⟩ := List.mem_map.1 here
      cases head?_of_shows_issueText shows
    · obtain rfl := List.mem_singleton.1 last
      exact ne_of_shows_errorLine shows rfl
  · simp only [not_or, not_and, not_not] at faulty
    obtain ⟨errors, warnings⟩ := faulty
    -- All that is left is an issue that cannot be written, and the last line stands behind it.
    have broken : (written (issueLines path book)).2 ≠ none := by
      intro none
      exact h ⟨errors, warnings, (written_issueLines_snd path).1 none⟩
    rw [validationOutcome_of_passing path errors warnings, status_printing, printed_printing,
      written_append_of_broken broken, if_neg broken]
    exact ⟨rfl, issue⟩

/-- A book that is clean for a strict validation is valid just the same for one that is not. -/
theorem validationOutcome_of_strict (clean : Clean true book) :
    validationOutcome false path book = validationOutcome true path book := by
  rw [validationOutcome_of_passing path clean.errors fun _ => clean.warnings rfl,
    validationOutcome_of_passing path clean.errors clean.warnings]

theorem filter_isCheckLine_printed (clean : Clean strict book)
    (plain : ∀ rule ∈ book.rules, '\x1b' ∉ rule.name.toList) :
    (validationOutcome strict path book).printed.filter isCheckLine =
      book.rules.map checkText := by
  have issues : (written (issueLines path book)).1.filter isCheckLine = [] := by
    rw [List.filter_eq_nil_iff]
    intro text member
    have other := isCheckLine_eq_false (head?_of_mem_written_issueLines path member) (by decide)
    simp [other]
  have between : (summaries book).filter isCheckLine = [] := by
    rw [List.filter_eq_nil_iff]
    intro text member
    simp [isCheckLine_summaries book text member]
  have checks : (book.rules.map checkText).filter isCheckLine = book.rules.map checkText := by
    rw [List.filter_eq_self]
    intro text member
    obtain ⟨rule, _, rfl⟩ := List.mem_map.1 member
    exact isCheckLine_checkText rule
  have last : isCheckLine "\nAll rules are valid." = false := by decide
  rw [(validationOutcome_of_clean path clean plain).2]
  simp [List.filter_append, issues, between, checks, last]

end

end FileRouting.Command
