import FileRouting.Proofs.Expression.DateEnding

/-!
# The parts of a date

What stands behind `date:` compiles if it is a command and a date pattern with a colon between them,
and then perhaps some colons. A text can be cut in at most one way like this. The main statement is
`Language.compile_date`.
-/

namespace FileRouting

open FileRouting.Text

/-- A text cut into a command, a date pattern and the colons behind it. -/
structure DateText (text : String) where
  command : String
  format : String
  colons : Nat
  command_apart : ':' ∉ command.toList
  format_nonempty : format ≠ ""
  format_apart : ':' ∉ format.toList
  text_eq : text = command ++ ":" ++ format ++ String.ofList (List.replicate colons ':')

namespace DateText

variable {text : String}

theorem writes (parts : DateText text) : WritesDate text parts.command parts.format :=
  ⟨parts.command_apart, parts.format_nonempty, parts.format_apart, parts.colons, parts.text_eq⟩

theorem nonempty_iff :
    Nonempty (DateText text) ↔ ∃ command format, WritesDate text command format := by
  constructor
  · rintro ⟨parts⟩
    exact ⟨parts.command, parts.format, parts.writes⟩
  · rintro ⟨command, format, command_apart, nonempty, format_apart, colons, same⟩
    exact ⟨⟨command, format, colons, command_apart, nonempty, format_apart, same⟩⟩

/-- The command and the date pattern are what the text is read as, and then the colons are what is
left. -/
theorem eq (parts parts' : DateText text) : parts = parts' := by
  have read := Form.ofDate_eq_date_iff.2 parts.writes
  have read' := Form.ofDate_eq_date_iff.2 parts'.writes
  obtain ⟨command, format⟩ := Form.date.inj (read.symm.trans read')
  have rest : String.ofList (List.replicate parts.colons ':') =
      String.ofList (List.replicate parts'.colons ':') := by
    have whole := parts.text_eq.symm.trans parts'.text_eq
    rw [command, format] at whole
    simpa [← String.toList_inj] using whole
  have colons : parts.colons = parts'.colons := by
    simpa [← String.toList_inj] using congrArg (·.toList.length) rest
  cases parts
  cases parts'
  simp_all

end DateText

theorem Language.compile_date (language : Language) (text : String) :
    ((language.compile ("date:" ++ text)).ok ↔ Nonempty (DateText text)) ∧
      (∀ parts parts' : DateText text, parts = parts') ∧
      (∀ parts : DateText text, language.compile ("date:" ++ text) =
        ⟨"date:" ++ text, some (.date parts.command parts.format), none⟩) ∧
      (¬Nonempty (DateText text) → language.compile ("date:" ++ text) =
        ⟨"date:" ++ text, none, some ⟨"date:" ++ text, dateHint⟩⟩) := by
  have compiles (parts : DateText text) : language.compile ("date:" ++ text) =
      ⟨"date:" ++ text, some (.date parts.command parts.format), none⟩ :=
    compile_of_create (language.create_date_of_writes parts.writes)
  have fails (none : ¬Nonempty (DateText text)) : language.compile ("date:" ++ text) =
      ⟨"date:" ++ text, .none, some ⟨"date:" ++ text, dateHint⟩⟩ := by
    rw [DateText.nonempty_iff] at none
    exact compile_of_error (language.create_date_of_malformed none)
  refine ⟨⟨fun ok => ?_, fun ⟨parts⟩ => ?_⟩, DateText.eq, compiles, fails⟩
  · by_contra none
    rw [fails none] at ok
    cases ok
  · rw [compiles parts]
    rfl

example : Form.ofDate "a:b:::" = .date "a" "b" := by decide

example : Form.ofDate "a::b" = .malformedDate 3 := by decide

end FileRouting
