import FileRouting.Proofs.Expression.Dispatch
import FileRouting.Proofs.Expression.RoundTrip
import Mathlib.Data.List.DropRight

/-!
# Patterns with one meaning

Which patterns stand for equal expressions. Equal expressions have equal texts, so it is enough to
know the text of the expression that a pattern stands for: an attribute, a reference and a prefixed
text are written as they were, a date without the colons at its end, and a whole text with its
prefix. The main statement is `compile_same_iff`.
-/

namespace FileRouting

/-! ## Dates and their texts -/

def withoutTrailingColons (text : String) : String :=
  String.ofList (text.toList.rdropWhile (· = ':'))

theorem rdropWhile_append_replicate {part : List Char} (h : part ≠ []) (apart : ':' ∉ part)
    (before : List Char) (count : Nat) :
    (before ++ part ++ List.replicate count ':').rdropWhile (· = ':') = before ++ part := by
  induction count with
  | zero =>
    rw [List.replicate_zero, List.append_nil, List.rdropWhile_eq_self_iff]
    intro nonempty last
    rw [List.getLast_append_of_ne_nil nonempty h, decide_eq_true_eq] at last
    exact apart (last ▸ List.getLast_mem h)
  | succ count ih =>
    rw [List.replicate_succ', ← List.append_assoc, List.rdropWhile_concat_pos _ _ _ (by simp), ih]

namespace Language

variable {renderer renderer' : Option Renderer}

theorem text_of_create_date {text : String} {e : Expression}
    (h : (standard renderer).create ("date:" ++ text) = .ok e) :
    ∃ parts, e.text = "date:" ++ parts ∧ withoutTrailingColons ("date:" ++ text) = e.text := by
  rcases ((standard renderer).create_date text).1 with ⟨command, pattern, form, created⟩ | ⟨_, failed⟩
  · rw [created] at h
    cases h
    obtain ⟨_, nonempty, apart, count, rfl⟩ := Form.ofDate_eq_date_iff.1 form
    have part : pattern.toList ≠ [] := by simpa using nonempty
    refine ⟨command ++ ":" ++ pattern, by simp [Expression.text, String.append_assoc], ?_⟩
    have dropped := rdropWhile_append_replicate part apart ("date:" ++ command ++ ":").toList count
    rw [withoutTrailingColons, Expression.text, ← String.toList_inj]
    simpa [String.append_assoc] using dropped
  · rw [failed] at h
    cases h

/-! ## The text of what a pattern stands for -/

/-- What is written for the expression that a pattern stands for. -/
inductive Rewritten : String → String → Prop
  | kept {pattern : String} (notDate : ∀ text, pattern ≠ "date:" ++ text) :
      Rewritten pattern pattern
  | date {text parts : String} (h : withoutTrailingColons ("date:" ++ text) = "date:" ++ parts) :
      Rewritten ("date:" ++ text) ("date:" ++ parts)
  | wholeText {pattern : String} (h : IsWholeText pattern) : Rewritten pattern ("simple:" ++ pattern)

theorem rewritten_of_create {pattern : String} {e : Expression}
    (h : (standard renderer).create pattern = .ok e) : Rewritten pattern e.text := by
  rcases pattern_cases pattern with
    ⟨read, rfl⟩ | ⟨text, rfl⟩ | ⟨reference, rfl⟩ | ⟨text, rfl⟩ | whole
  · rw [((standard renderer).create_attribute read).1] at h
    cases h
    exact .kept fun text => by simp [← String.toList_inj]
  · obtain ⟨parts, written, dropped⟩ := text_of_create_date h
    rw [written] at dropped ⊢
    exact .date dropped
  · rw [((standard renderer).create_bean reference).1] at h
    cases h
    exact .kept fun text => by simp [← String.toList_inj]
  · rw [((standard renderer).create_simple text).1] at h
    cases h
    exact .kept fun _ => by simp [← String.toList_inj]
  · rw [((standard renderer).create_wholeText whole).1] at h
    cases h
    exact .wholeText whole

/-! ## Equal expressions -/

theorem text_unbound (e : Expression) : e.unbound.text = e.text := by
  cases e <;> rfl

theorem text_eq_of_same {e e' : Expression} (h : e.same e') : e.text = e'.text := by
  rw [← text_unbound e, (Expression.same_iff e e').1 h, text_unbound]

theorem same_of_text_eq {e e' : Expression} (expressible : e.Expressible)
    (expressible' : e'.Expressible) (h : e.text = e'.text) : e.same e' := by
  obtain ⟨found, compiled, same⟩ := yields_text none expressible
  obtain ⟨found', compiled', same'⟩ := yields_text none expressible'
  rw [h, compiled'] at compiled
  cases compiled
  rw [Expression.same_iff] at same same' ⊢
  rw [← same, same']

theorem same_iff_text_eq {pattern pattern' : String} {e e' : Expression}
    (h : (standard renderer).create pattern = .ok e)
    (h' : (standard renderer').create pattern' = .ok e') : e.same e' ↔ e.text = e'.text :=
  ⟨text_eq_of_same,
    same_of_text_eq (expressible_of_create renderer h) (expressible_of_create renderer' h')⟩

/-- The template engine has no part in what a pattern stands for. -/
theorem create_renderer (renderer renderer' : Option Renderer) (pattern : String) :
    ((standard renderer').create pattern).map Expression.unbound =
      ((standard renderer).create pattern).map Expression.unbound := by
  unfold create
  cases Form.ofPattern pattern <;> rfl

theorem same_of_create {pattern : String} {e e' : Expression}
    (h : (standard renderer).create pattern = .ok e)
    (h' : (standard renderer').create pattern = .ok e') : e.same e' := by
  have unbound := create_renderer renderer renderer' pattern
  rw [h, h'] at unbound
  exact (Expression.same_iff e e').2 (Except.ok.inj unbound).symm

/-! ## Synonyms -/

/-- Two patterns are equal, or dates that differ in the colons at their end, or one is the other
with the prefix of a text, where the other is a text as a whole. -/
def Synonyms (p q : String) : Prop :=
  p = q ∨
    ((∃ text, p = "date:" ++ text) ∧ (∃ text, q = "date:" ++ text) ∧
      withoutTrailingColons p = withoutTrailingColons q) ∨
    (p = "simple:" ++ q ∧ IsWholeText q) ∨ (q = "simple:" ++ p ∧ IsWholeText p)

theorem date_ne_simple (text text' : String) : "date:" ++ text ≠ "simple:" ++ text' := by
  simp [← String.toList_inj]

theorem synonyms_of_rewritten {p q text : String} (h : Rewritten p text) (h' : Rewritten q text) :
    Synonyms p q := by
  cases h with
  | kept notDate =>
    cases h' with
    | kept => exact .inl rfl
    | date => exact absurd rfl (notDate _)
    | wholeText whole => exact .inr (.inr (.inl ⟨rfl, whole⟩))
  | date dropped =>
    generalize made : "date:" ++ _ = written at h'
    cases h' with
    | kept notDate => exact absurd made.symm (notDate _)
    | date dropped' => exact .inr (.inl ⟨⟨_, rfl⟩, ⟨_, rfl⟩, by rw [dropped, dropped', made]⟩)
    | wholeText => exact absurd made (date_ne_simple _ _)
  | wholeText whole =>
    generalize made : "simple:" ++ p = written at h'
    cases h' with
    | kept => exact .inr (.inr (.inr ⟨made.symm, whole⟩))
    | date => exact absurd made.symm (date_ne_simple _ _)
    | wholeText => exact .inl (by simpa [← String.toList_inj] using made)

theorem same_of_alias {text : String} (whole : IsWholeText text) {e e' : Expression}
    (h : (standard renderer).create ("simple:" ++ text) = .ok e)
    (h' : (standard renderer').create text = .ok e') : e.same e' := by
  rw [((standard renderer).create_simple text).1] at h
  rw [((standard renderer').create_wholeText whole).1] at h'
  cases h
  cases h'
  simp [standard, Expression.same]

theorem same_iff_synonyms {p q : String} {e e' : Expression}
    (h : (standard renderer).create p = .ok e) (h' : (standard renderer').create q = .ok e') :
    e.same e' ↔ Synonyms p q := by
  constructor
  · intro same
    have written := rewritten_of_create h
    rw [text_eq_of_same same] at written
    exact synonyms_of_rewritten written (rewritten_of_create h')
  · rintro (rfl | ⟨⟨text, rfl⟩, ⟨text', rfl⟩, equal⟩ | ⟨rfl, whole⟩ | ⟨rfl, whole⟩)
    · exact same_of_create h h'
    · obtain ⟨_, _, written⟩ := text_of_create_date h
      obtain ⟨_, _, written'⟩ := text_of_create_date h'
      exact (same_iff_text_eq h h').2 (by rw [← written, ← written', equal])
    · exact same_of_alias whole h h'
    · rw [Expression.same_iff, eq_comm, ← Expression.same_iff]
      exact same_of_alias whole h' h

/-! ## Equal results -/

theorem ok_iff_create (language : Language) (pattern : String) :
    (language.compile pattern).ok ↔ ∃ e, language.create pattern = .ok e := by
  cases created : language.create pattern with
  | ok e => simp [compile_of_create created, Compilation.ok]
  | error error => simp [compile_of_error created, Compilation.ok]

theorem pattern_compile (language : Language) (pattern : String) :
    (language.compile pattern).pattern = pattern := by
  cases created : language.create pattern with
  | ok e => rw [compile_of_create created]
  | error error => rw [compile_of_error created]

theorem exists_create_of_create {pattern : String} {e : Expression}
    (h : (standard renderer).create pattern = .ok e) (renderer' : Option Renderer) :
    ∃ e', (standard renderer').create pattern = .ok e' := by
  have unbound := create_renderer renderer renderer' pattern
  rw [h] at unbound
  cases created : (standard renderer').create pattern with
  | ok e' => exact ⟨e', rfl⟩
  | error error =>
    rw [created] at unbound
    cases unbound

theorem same_compile_iff (renderer renderer' : Option Renderer) (p q : String) :
    ((standard renderer).compile p).same ((standard renderer').compile q) ↔
      p = q ∧ ((standard renderer).compile p).ok := by
  constructor
  · intro same
    simp only [Compilation.same, Bool.decide_and, Bool.and_eq_true, decide_eq_true_eq,
      pattern_compile] at same
    obtain ⟨pattern, _, succeeded, _⟩ := same
    exact ⟨pattern, succeeded⟩
  · rintro ⟨rfl, succeeded⟩
    obtain ⟨e, created⟩ := (ok_iff_create _ _).1 succeeded
    obtain ⟨e', created'⟩ := exists_create_of_create created renderer'
    rw [compile_of_create created, compile_of_create created']
    simp [Compilation.same, Compilation.same.sameExpression, same_of_create created created']

/-- The expressions of two patterns are equal exactly for synonyms, whatever the template engines,
and the results as a whole only if the patterns are one, which compiles. -/
theorem compile_same_iff (renderer renderer' : Option Renderer) (p q : String) :
    (((standard renderer).compile p).ok → ((standard renderer').compile q).ok →
      (((standard renderer).compile p).sameExpressions ((standard renderer').compile q) ↔
        Synonyms p q)) ∧
    (((standard renderer).compile p).same ((standard renderer').compile q) ↔
      p = q ∧ ((standard renderer).compile p).ok) := by
  refine ⟨?_, same_compile_iff renderer renderer' p q⟩
  intro succeeded succeeded'
  obtain ⟨e, created⟩ := (ok_iff_create _ _).1 succeeded
  obtain ⟨e', created'⟩ := (ok_iff_create _ _).1 succeeded'
  rw [compile_of_create created, compile_of_create created']
  exact same_iff_synonyms created created'

theorem compile_same_iff_unknownAttribute :
    ((standard none).compile "simple:file:size").ok ∧
      ((standard (some .fillHeaders)).compile "file:size").ok ∧
      ((standard none).compile "simple:file:size").sameExpressions
        ((standard (some .fillHeaders)).compile "file:size") := by
  have whole : IsWholeText "file:size" := by
    refine ⟨?_, ?_, ?_, ?_⟩
    · intro read
      cases read <;> decide
    all_goals
      intro text
      simp [← String.toList_inj]
  have ok : ((standard none).compile "simple:file:size").ok :=
    (ok_iff_create _ _).2 ⟨_, ((standard none).create_simple "file:size").1⟩
  have ok' : ((standard (some .fillHeaders)).compile "file:size").ok :=
    (ok_iff_create _ _).2 ⟨_, ((standard _).create_wholeText whole).1⟩
  exact ⟨ok, ok', ((compile_same_iff none (some .fillHeaders) _ _).1 ok ok').2
    (.inr (.inr (.inl ⟨rfl, whole⟩)))⟩

end Language

end FileRouting
