import FileRouting.Proofs.Expression.Form

/-!
# Expressions and the patterns they are written as

The text of an expression is a pattern. Compiling it gives back the expression exactly where some
pattern stands for the expression at all, and that is so for every expression of an attribute or a
text, for a bean expression whose bean and method are read off its reference, and for a date whose
command and pattern leave the colons of its text apart. The main statement is
`yields_text_iff_expressible`.
-/

namespace FileRouting

namespace Expression

/-- The expressions that a pattern can stand for. -/
def Expressible : Expression → Prop
  | file _ => True
  | date command pattern =>
    ':' ∉ command.toList ∧ pattern ≠ "" ∧ ':' ∉ pattern.toList
  | bean written reference => reference = .ofText written
  | simple .. => True

theorem same_refl (e : Expression) : e.same e :=
  (same_iff e e).2 rfl

theorem expressible_unbound (e : Expression) : e.unbound.Expressible ↔ e.Expressible := by
  cases e <;> rfl

theorem Expressible.of_same {e e' : Expression} (expressible : e.Expressible)
    (same : e.same e') : e'.Expressible := by
  rw [← expressible_unbound, ← (same_iff e e').1 same, expressible_unbound]
  exact expressible

end Expression

namespace Language

/-- Compiling a pattern gives an expression that equals this one. -/
def Yields (language : Language) (pattern : String) (e : Expression) : Prop :=
  ∃ found, language.compile pattern = ⟨pattern, some found, none⟩ ∧ found.same e

section

variable (renderer : Option Renderer)

theorem compile_eq_iff (language : Language) (pattern : String) (e : Expression) :
    language.compile pattern = ⟨pattern, some e, none⟩ ↔ language.create pattern = .ok e := by
  rw [compile]
  cases language.create pattern <;> simp [Compilation.ofResult]

/-- Whatever a pattern stands for can be written. -/
theorem expressible_of_create {pattern : String} {e : Expression}
    (h : (standard renderer).create pattern = .ok e) : e.Expressible := by
  unfold create at h
  cases form : Form.ofPattern pattern with
  | file read =>
    rw [form] at h
    cases h
    trivial
  | unknownAttribute key =>
    rw [form] at h
    cases h
    trivial
  | date command datePattern =>
    rw [form] at h
    cases h
    obtain ⟨parts, _, found⟩ := Form.eq_of_ofPattern_eq_date form
    obtain ⟨command_apart, nonempty, pattern_apart, _⟩ := Form.ofDate_eq_date_iff.1 found
    exact ⟨command_apart, nonempty, pattern_apart⟩
  | malformedDate parts =>
    rw [form] at h
    cases h
  | bean reference =>
    rw [form] at h
    cases h
    rfl
  | simple text =>
    rw [form] at h
    cases h
    trivial

/-- The text of an expression that can be written stands for the expression. -/
theorem yields_text {e : Expression} (expressible : e.Expressible) :
    (standard renderer).Yields e.text e := by
  cases e with
  | file read =>
    refine ⟨.file read, ?_, Expression.same_refl _⟩
    rw [compile_eq_iff, create, Expression.text, Form.ofPattern_file]
    rfl
  | date command pattern =>
    obtain ⟨command_apart, nonempty, pattern_apart⟩ := expressible
    have parts : Form.ofDate (command ++ ":" ++ pattern) = .date command pattern :=
      Form.ofDate_eq_date_iff.2 ⟨command_apart, nonempty, pattern_apart, 0, by simp⟩
    have text : (Expression.date command pattern).text =
        "date:" ++ (command ++ ":" ++ pattern) := by
      simp only [Expression.text, String.append_assoc]
    refine ⟨.date command pattern, ?_, Expression.same_refl _⟩
    rw [compile_eq_iff, create, text, Form.ofPattern_date, parts]
    rfl
  | bean written reference =>
    obtain rfl : reference = .ofText written := expressible
    refine ⟨.bean written (.ofText written), ?_, Expression.same_refl _⟩
    rw [compile_eq_iff, create, Expression.text, Form.ofPattern_bean]
    rfl
  | simple text engine =>
    refine ⟨.simple text renderer, ?_, by simp [Expression.same]⟩
    rw [compile_eq_iff, create, Expression.text, Form.ofPattern_simple]
    rfl

theorem expressible_of_yields {pattern : String} {e : Expression}
    (h : (standard renderer).Yields pattern e) : e.Expressible := by
  obtain ⟨found, compiled, same⟩ := h
  exact (expressible_of_create renderer ((compile_eq_iff _ _ _).1 compiled)).of_same same

/-- The text of an expression stands for the expression if any pattern does, which is so for the
expressions that can be written. -/
theorem yields_text_iff_expressible (e : Expression) :
    ((standard renderer).Yields e.text e ↔ ∃ pattern, (standard renderer).Yields pattern e) ∧
      ((standard renderer).Yields e.text e ↔ e.Expressible) ∧
      ∀ pattern found, (standard renderer).compile pattern = ⟨pattern, some found, none⟩ →
        (standard renderer).Yields found.text found := by
  refine ⟨⟨fun yields => ⟨e.text, yields⟩, ?_⟩,
    ⟨expressible_of_yields renderer, yields_text renderer⟩, ?_⟩
  · rintro ⟨pattern, yields⟩
    exact yields_text renderer (expressible_of_yields renderer yields)
  · intro pattern found compiled
    exact yields_text renderer
      (expressible_of_create renderer ((compile_eq_iff _ _ _).1 compiled))

end

end Language

end FileRouting
