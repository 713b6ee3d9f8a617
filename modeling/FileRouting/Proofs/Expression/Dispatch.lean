import FileRouting.Proofs.Expression.Form
import FileRouting.Session
import Mathlib.Data.List.Forall2

/-!
# What patterns hand on

A pattern is an attribute, a date, a bean reference or a text behind its prefix, or else a text as a
whole, and this decides what compiling it hands on: nothing, one reference or one text. A session
keeps what its language was handed. The main statement, `run_compile_dispatched`, is about a
sequence of patterns; it rests on `handedOn_run`, which is about all steps of a session.
-/

namespace FileRouting

/-! ## Kinds of patterns -/

/-- A pattern that is text for the template engine as a whole: it has none of the prefixes `date:`,
`bean:` and `simple:`, and it is not an attribute. -/
structure IsWholeText (pattern : String) : Prop where
  notAttribute : ∀ read : Attribute, pattern ≠ "file:" ++ read.key
  notDate : ∀ text, pattern ≠ "date:" ++ text
  notBean : ∀ reference, pattern ≠ "bean:" ++ reference
  notSimple : ∀ text, pattern ≠ "simple:" ++ text

theorem pattern_cases (pattern : String) :
    (∃ read : Attribute, pattern = "file:" ++ read.key) ∨ (∃ text, pattern = "date:" ++ text) ∨
      (∃ reference, pattern = "bean:" ++ reference) ∨ (∃ text, pattern = "simple:" ++ text) ∨
      IsWholeText pattern := by
  by_contra none
  simp only [not_or, not_exists] at none
  obtain ⟨notAttribute, notDate, notBean, notSimple, notText⟩ := none
  exact notText ⟨notAttribute, notDate, notBean, notSimple⟩

theorem afterPrefix?_eq_none {head pattern : String} (h : ∀ text, pattern ≠ head ++ text) :
    afterPrefix? head pattern = none := by
  cases found : afterPrefix? head pattern with
  | none => rfl
  | some text => exact absurd (afterPrefix?_eq_some_iff.1 found) (h text)

namespace Form

/-- A whole text is taken for an unknown attribute if it starts with `file:`. -/
theorem ofPattern_wholeText {pattern : String} (h : IsWholeText pattern) :
    (∃ key, ofPattern pattern = .unknownAttribute key) ∨ ofPattern pattern = .simple pattern := by
  unfold ofPattern
  cases file : afterPrefix? "file:" pattern with
  | some key =>
    have written := afterPrefix?_eq_some_iff.1 file
    cases known : Attribute.ofKey? key with
    | some read =>
      rw [← Attribute.key_of_ofKey? known] at written
      exact absurd written (h.notAttribute read)
    | none => exact .inl ⟨key, by simp [known]⟩
  | none =>
    right
    simp [afterPrefix?_eq_none h.notDate, afterPrefix?_eq_none h.notBean,
      afterPrefix?_eq_none h.notSimple]

theorem ofDate_cases (text : String) :
    (∃ command pattern, ofDate text = .date command pattern) ∨
      ∃ parts, ofDate text = .malformedDate parts := by
  unfold ofDate
  split
  · exact .inl ⟨_, _, rfl⟩
  · exact .inr ⟨_, rfl⟩

end Form

/-! ## Compiling a pattern -/

namespace Language

/-- What compiling a pattern hands on, in order. -/
def delegations (language : Language) (pattern : String) : List Delegation :=
  (language.events pattern).filterMap Event.delegation?

section

variable (language : Language)

theorem create_attribute (read : Attribute) :
    language.create ("file:" ++ read.key) = .ok (.file read) ∧
      language.delegations ("file:" ++ read.key) = [] := by
  rw [create, delegations, events, Form.ofPattern_file]
  exact ⟨rfl, rfl⟩

theorem create_date (text : String) :
    ((∃ command pattern, Form.ofDate text = .date command pattern ∧
        language.create ("date:" ++ text) = .ok (.date command pattern)) ∨
      ((∀ command pattern, Form.ofDate text ≠ .date command pattern) ∧
        language.create ("date:" ++ text) = .error ⟨"date:" ++ text, dateHint⟩)) ∧
      language.delegations ("date:" ++ text) = [] := by
  rw [create, delegations, events, Form.ofPattern_date]
  rcases Form.ofDate_cases text with ⟨command, pattern, form⟩ | ⟨parts, form⟩
  · rw [form]
    exact ⟨.inl ⟨command, pattern, rfl, rfl⟩, rfl⟩
  · rw [form]
    exact ⟨.inr ⟨by simp, rfl⟩, rfl⟩

theorem create_bean (reference : String) :
    language.create ("bean:" ++ reference) = .ok (language.bean reference) ∧
      language.delegations ("bean:" ++ reference) = [.bean reference] := by
  rw [create, delegations, events, Form.ofPattern_bean]
  exact ⟨rfl, rfl⟩

theorem create_simple (text : String) :
    language.create ("simple:" ++ text) = .ok (language.simple text) ∧
      language.delegations ("simple:" ++ text) = [.simple text] := by
  rw [create, delegations, events, Form.ofPattern_simple]
  exact ⟨rfl, rfl⟩

theorem create_wholeText {pattern : String} (h : IsWholeText pattern) :
    language.create pattern = .ok (language.simple pattern) ∧
      language.delegations pattern = [.simple pattern] := by
  rw [create, delegations, events]
  rcases Form.ofPattern_wholeText h with ⟨key, form⟩ | form
  · rw [form]
    exact ⟨rfl, rfl⟩
  · rw [form]
    exact ⟨rfl, rfl⟩

/-- Only a date can fail to compile. -/
theorem exists_date_of_create_eq_error {pattern : String} {error : SyntaxError}
    (h : language.create pattern = .error error) : ∃ text, pattern = "date:" ++ text := by
  rcases pattern_cases pattern with ⟨read, rfl⟩ | date | ⟨reference, rfl⟩ | ⟨text, rfl⟩ | whole
  · rw [(language.create_attribute read).1] at h
    cases h
  · exact date
  · rw [(language.create_bean reference).1] at h
    cases h
  · rw [(language.create_simple text).1] at h
    cases h
  · rw [(language.create_wholeText whole).1] at h
    cases h

end

/-- What compiling a pattern comes to, with what it hands on. -/
structure Dispatched (language : Language) (pattern : String) (result : Compilation)
    (handedOn : List Delegation) : Prop where
  one : (∃ expression, result = ⟨pattern, some expression, none⟩) ∨
    ∃ error, result = ⟨pattern, none, some error⟩
  fileAttribute : ∀ read : Attribute, pattern = "file:" ++ read.key →
    result.expression = some (.file read) ∧ handedOn = []
  date : ∀ text, pattern = "date:" ++ text →
    ((∃ command datePattern, result.expression = some (.date command datePattern)) ∨
      ∃ error, result.error = some error ∧ error.pattern = pattern) ∧ handedOn = []
  bean : ∀ reference, pattern = "bean:" ++ reference →
    result.expression = some (language.bean reference) ∧ handedOn = [.bean reference]
  simple : ∀ text, pattern = "simple:" ++ text →
    result.expression = some (language.simple text) ∧ handedOn = [.simple text]
  wholeText : IsWholeText pattern →
    result.expression = some (language.simple pattern) ∧ handedOn = [.simple pattern]
  error : ∀ error, result.error = some error → ∃ text, pattern = "date:" ++ text

theorem compile_of_create {language : Language} {pattern : String} {expression : Expression}
    (h : language.create pattern = .ok expression) :
    language.compile pattern = ⟨pattern, some expression, none⟩ := by
  rw [compile, h]
  rfl

theorem compile_of_error {language : Language} {pattern : String} {error : SyntaxError}
    (h : language.create pattern = .error error) :
    language.compile pattern = ⟨pattern, none, some error⟩ := by
  rw [compile, h]
  rfl

theorem compile_dispatched (language : Language) (pattern : String) :
    Dispatched language pattern (language.compile pattern) (language.delegations pattern) where
  one := by
    cases created : language.create pattern with
    | ok expression => exact .inl ⟨expression, compile_of_create created⟩
    | error error => exact .inr ⟨error, compile_of_error created⟩
  fileAttribute := by
    rintro read rfl
    obtain ⟨created, handedOn⟩ := language.create_attribute read
    exact ⟨by rw [compile_of_create created], handedOn⟩
  date := by
    rintro text rfl
    obtain ⟨created, handedOn⟩ := language.create_date text
    refine ⟨?_, handedOn⟩
    rcases created with ⟨command, datePattern, _, created⟩ | ⟨_, created⟩
    · exact .inl ⟨command, datePattern, by rw [compile_of_create created]⟩
    · exact .inr ⟨_, by rw [compile_of_error created], rfl⟩
  bean := by
    rintro reference rfl
    obtain ⟨created, handedOn⟩ := language.create_bean reference
    exact ⟨by rw [compile_of_create created], handedOn⟩
  simple := by
    rintro text rfl
    obtain ⟨created, handedOn⟩ := language.create_simple text
    exact ⟨by rw [compile_of_create created], handedOn⟩
  wholeText := by
    intro whole
    obtain ⟨created, handedOn⟩ := language.create_wholeText whole
    exact ⟨by rw [compile_of_create created], handedOn⟩
  error := by
    intro error failed
    cases created : language.create pattern with
    | ok expression =>
      rw [compile_of_create created] at failed
      cases failed
    | error error => exact language.exists_date_of_create_eq_error created

end Language

/-! ## Sessions -/

def Delegation.text? : Delegation → Option String
  | simple text => some text
  | bean _ => none

def Delegation.reference? : Delegation → Option String
  | bean reference => some reference
  | simple _ => none

namespace Session

/-- The pattern that a step compiles. -/
def Step.pattern? : Step → Option String
  | .compile pattern _ | .create pattern _ => some pattern
  | _ => none

theorem step_frame (session : Session) (step : Step) :
    (session.step step).2.language = session.language ∧
      (session.step step).2.handedOn =
        session.handedOn ++ step.pattern?.toList.flatMap session.language.delegations := by
  cases step with
  | find name =>
    simp only [Session.step]
    split <;> simp [Step.pattern?]
  | compile pattern name => simp [Session.step, compiled, Step.pattern?, Language.delegations]
  | create pattern name =>
    simp only [Session.step]
    split <;> simp [compiled, Step.pattern?, Language.delegations]
  | showExchange name =>
    simp only [Session.step]
    split <;> simp [Step.pattern?]
  | evaluate expression exchange =>
    simp only [Session.step]
    split
    · simp only [Session.evaluate]
      split <;> simp [Step.pattern?, setExchange]
    · simp [Step.pattern?]
  | compare first second =>
    simp only [Session.step]
    split <;> simp [Step.pattern?]
  | _ => simp [Session.step, Step.pattern?, setExchange]

theorem run_cons (session : Session) (step : Step) (steps : List Step) :
    session.run (step :: steps) =
      ((session.step step).1 :: ((session.step step).2.run steps).1,
        ((session.step step).2.run steps).2) := rfl

/-- Whatever else a session does, its language is handed what its patterns hand on, in their
order. -/
theorem handedOn_run (session : Session) (steps : List Step) :
    (session.run steps).2.handedOn =
      session.handedOn ++ (steps.filterMap Step.pattern?).flatMap session.language.delegations := by
  induction steps generalizing session with
  | nil => simp [run]
  | cons step steps ih =>
    obtain ⟨language, handedOn⟩ := session.step_frame step
    rw [run_cons, ih, language, handedOn]
    cases pattern : step.pattern? <;> simp [pattern]

theorem answers_run_compile (session : Session) (patterns : List (String × String)) :
    (session.run (patterns.map fun p => .compile p.1 p.2)).1 =
      patterns.map fun p => .ok (.compilation (session.language.compile p.1)) := by
  induction patterns generalizing session with
  | nil => rfl
  | cons p patterns ih =>
    have language := (session.step_frame (.compile p.1 p.2)).1
    rw [List.map_cons, run_cons, ih, language]
    rfl

/-- The texts that the template engine's language was handed. -/
def texts (session : Session) : List String :=
  session.handedOn.filterMap Delegation.text?

/-- The references that the bean language was handed. -/
def references (session : Session) : List String :=
  session.handedOn.filterMap Delegation.reference?

theorem handedOn_run_compile (session : Session) (patterns : List (String × String)) :
    (session.run (patterns.map fun p => .compile p.1 p.2)).2.handedOn =
      session.handedOn ++ patterns.flatMap fun p => session.language.delegations p.1 := by
  have compiled : (patterns.map fun p => Step.compile p.1 p.2).filterMap Step.pattern? =
      patterns.map (·.1) := by
    simp [List.filterMap_map, Function.comp_def, Step.pattern?]
  rw [handedOn_run, compiled, List.flatMap_map]

theorem run_compile_dispatched (session : Session) (patterns : List (String × String)) :
    ∃ results : List (Compilation × List Delegation),
      List.Forall₂ (fun p result => session.language.Dispatched p.1 result.1 result.2)
        patterns results ∧
      (session.run (patterns.map fun p => .compile p.1 p.2)).1 =
        results.map (fun result => .ok (.compilation result.1)) ∧
      (session.run (patterns.map fun p => .compile p.1 p.2)).2.texts =
        session.texts ++ (results.flatMap (·.2)).filterMap Delegation.text? ∧
      (session.run (patterns.map fun p => .compile p.1 p.2)).2.references =
        session.references ++ (results.flatMap (·.2)).filterMap Delegation.reference? := by
  refine ⟨patterns.map fun p =>
    (session.language.compile p.1, session.language.delegations p.1), ?_, ?_, ?_, ?_⟩
  · rw [List.forall₂_map_right_iff, List.forall₂_same]
    intro p _
    exact session.language.compile_dispatched p.1
  · rw [answers_run_compile, List.map_map]
    rfl
  · rw [texts, handedOn_run_compile, List.filterMap_append, List.flatMap_map]
    rfl
  · rw [references, handedOn_run_compile, List.filterMap_append, List.flatMap_map]
    rfl

end Session

end FileRouting
