import FileRouting.Command.Compile
import FileRouting.Proofs.Command.Validation
import FileRouting.Proofs.Expression.Dispatch
import FileRouting.Proofs.Json.Plain

/-!
# The outcome of compiling a pattern

When a compilation ends with status 0, and what it prints: with JSON one line that is read back as
the summary of the compilation and the value, and nothing at all on the ways of failing.
-/

namespace FileRouting

open FileRouting.Text
open Value (textKeyed)

/-! ## Reports -/

namespace Compilation

def entries (c : Compilation) : List (String × Value) :=
  match c.error with
  | some error =>
    [("pattern", .text c.pattern), ("ok", .bool false), ("error", .text error.message)]
  | none =>
    [("pattern", .text c.pattern), ("ok", .bool true),
      ("type", .text ((c.expression.map Expression.kindName).getD "NoneType")),
      ("expression", .text ((c.expression.map Expression.text).getD "None"))]

/-- The summary of a compilation, and the value if there is one. -/
def report (c : Compilation) (value : Option Value) : Value :=
  .mapping (textKeyed (c.entries ++ (value.map ("value", ·)).toList))

theorem summary_eq (c : Compilation) : c.summary = .mapping (textKeyed c.entries) := by
  rw [summary, entries]
  cases c.error <;> rfl

theorem summaryWith_eq (c : Compilation) (value : Option Value) :
    Command.summaryWith c value = c.report value := by
  cases value with
  | none => simp [Command.summaryWith, summary_eq, report]
  | some value => simp [Command.summaryWith, summary_eq, report, textKeyed]

theorem isJson_report (c : Compilation) {value : Option Value} (json : ∀ v ∈ value, v.IsJson) :
    (c.report value).IsJson := by
  have keys : c.entries.map (·.1) = ["pattern", "ok", "error"] ∨
      c.entries.map (·.1) = ["pattern", "ok", "type", "expression"] := by
    rw [entries]
    cases c.error
    · exact .inr rfl
    · exact .inl rfl
  have simple : ∀ entry ∈ c.entries, entry.2.IsJson := by
    rw [entries]
    cases c.error with
    | some error =>
      simp only [List.forall_mem_cons]
      exact ⟨.text _, .bool _, .text _, nofun⟩
    | none =>
      simp only [List.forall_mem_cons]
      exact ⟨.text _, .bool _, .text _, .text _, nofun⟩
  refine .mapping ?_ (List.forall_mem_append.2 ⟨simple, ?_⟩)
  · rw [List.map_append]
    cases value with
    | none => rcases keys with keys | keys <;> rw [keys] <;> decide
    | some value =>
      change (_ ++ ["value"]).Nodup
      rcases keys with keys | keys <;> rw [keys] <;> decide
  · cases value with
    | none => exact nofun
    | some value => exact List.forall_mem_singleton.2 (json value rfl)

end Compilation

/-! ## Values -/

/-- Whatever the beans return for an exchange has a form in JSON. -/
def Registry.ReturnsJson (registry : Registry) (exchange : Exchange) : Prop :=
  ∀ (reference : Reference) value state,
    reference.call ⟨registry, 0, exchange⟩ = .ok (value, state) → value.IsJson

theorem Language.create_standard {pattern : String} {expression : Expression}
    (h : (standard none).create pattern = .ok expression) (text : String) (renderer : Renderer) :
    expression ≠ .simple text (some renderer) := by
  rintro rfl
  rw [create] at h
  cases form : Form.ofPattern pattern <;> rw [form] at h <;> cases h

theorem exists_text_of_evaluateDate {host : Host} {exchange : Exchange} {command pattern : String}
    {value : Value} (h : evaluateDate host exchange command pattern = .ok value) :
    ∃ text, value = .text text := by
  rw [evaluateDate] at h
  cases found : stampOf host exchange command with
  | error failure =>
    rw [found] at h
    cases h
  | ok stamp =>
    rw [found] at h
    simp only [bind, Except.bind] at h
    split at h
    · next text _ =>
      cases h
      exact ⟨text, rfl⟩
    · cases h
    · cases h

theorem isJson_of_evaluate {host : Host} {registry : Registry} {exchange : Exchange}
    {expression : Expression} {value : Value} {state : State}
    (plain : ∀ text renderer, expression ≠ .simple text (some renderer))
    (json : registry.ReturnsJson exchange)
    (h : expression.evaluate host ⟨registry, 0, exchange⟩ = .ok (value, state)) : value.IsJson := by
  cases expression with
  | file read =>
    simp only [Expression.evaluate] at h
    split at h
    · cases h
    · split at h
      · cases h
        exact .text _
      · cases h
  | date command pattern =>
    cases dated : evaluateDate host exchange command pattern with
    | error failure =>
      simp only [Expression.evaluate, dated] at h
      cases h
    | ok found =>
      simp only [Expression.evaluate, dated] at h
      cases h
      obtain ⟨text, rfl⟩ := exists_text_of_evaluateDate dated
      exact .text text
  | bean written reference => exact json reference value state h
  | simple text renderer =>
    cases renderer with
    | none => cases h
    | some renderer => exact absurd rfl (plain text renderer)

theorem any_isSurrogate_rawDisplay {value : Value} (json : value.IsJson) :
    value.rawDisplay.any Glyph.isSurrogate = false := by
  cases json <;> exact any_isSurrogate_ofString _

/-! ## Requests -/

namespace Command

/-- A header as an item writes it, cut at its first equals sign. -/
def headerOf (item : String) : String × Value :=
  (String.ofList (item.toList.takeWhile (· ≠ '=')),
    .text (String.ofList ((item.toList.dropWhile (· ≠ '=')).drop 1)))

/-- The headers that items write; of equal names the last one counts. -/
def headersWritten (items : List String) : Entries :=
  items.foldl (fun headers item => headers.set (headerOf item).1 (headerOf item).2) []

theorem cutAt?_of_mem {sep : Char} {text : List Char} (h : sep ∈ text) :
    cutAt? [sep] text = some (text.takeWhile (· ≠ sep), (text.dropWhile (· ≠ sep)).drop 1) := by
  induction text with
  | nil => cases h
  | cons c text ih =>
    by_cases here : c = sep
    · simp [cutAt?, after?, here]
    · have behind := ih ((List.mem_cons.1 h).resolve_left (Ne.symm here))
      simp [cutAt?, after?, here, Ne.symm here, behind]

theorem headersOf_eq_ok {items : List String} (marked : ∀ item ∈ items, '=' ∈ item.toList) :
    headersOf items = .ok (headersWritten items) := by
  rw [headersOf, headersWritten]
  generalize ([] : Entries) = headers
  induction items generalizing headers with
  | nil => rfl
  | cons item items ih =>
    obtain ⟨first, others⟩ := List.forall_mem_cons.1 marked
    rw [List.foldlM_cons, cutAt?_of_mem first]
    exact ih others _

namespace CompileRequest

def compilation (request : CompileRequest) : Compilation :=
  (Language.standard none).compile request.pattern

/-- The exchange to evaluate for. -/
def exchange (request : CompileRequest) : Exchange :=
  ⟨request.file, headersWritten request.headers, [], none⟩

/-- What evaluating comes to, if there is a file and the pattern compiles. -/
def evaluation? (host : Host) (registry : Registry) (request : CompileRequest) :
    Option (Except Failure Value) :=
  match request.file, request.compilation.expression with
  | some _, some expression =>
    some ((expression.evaluate host ⟨registry, 0, request.exchange⟩).map (·.1))
  | _, _ => none

end CompileRequest

/-- The entry for the value of an evaluation that has returned. -/
def valueEntry : Option (Except Failure Value) → List (Value × Value)
  | some (.ok value) => [(.text "value", value)]
  | _ => []

/-- What the outcome of a request is, by what compiling and evaluating come to. -/
structure Answers (request : CompileRequest) (evaluation : Option (Except Failure Value))
    (outcome : Outcome) : Prop where
  status : outcome.status = 0 ↔ request.compilation.ok ∧
    (request.file.isSome → ∃ value, evaluation = some (.ok value))
  document : request.json → outcome.status = 0 ∨ request.compilation.ok = false →
    ∃ line entries, outcome.printed = [line] ∧ (∀ c ∈ line.toList, ' ' ≤ c ∧ c ≤ '~') ∧
      request.compilation.summary = .mapping entries ∧
      Json.read? line = some (.mapping (entries ++ valueEntry evaluation))
  failed : ∀ failure, evaluation = some (.error failure) → outcome.printed = []
  refused : request.json = false → request.compilation.ok = false → outcome.printed = []

section

variable {request : CompileRequest} {evaluation : Option (Except Failure Value)}

theorem Answers.after {outcome : Outcome} (h : Answers request evaluation outcome)
    (reports : List String) : Answers request evaluation (outcome.after reports) :=
  ⟨h.status, h.document, h.failed, h.refused⟩

/-- A value is printed as one line that is read back as the value. -/
theorem printing_write {value : Value} (json : value.IsJson) (status : Nat) :
    Outcome.printing [.ofString (Json.write value)] status =
      ⟨[Json.write value], [], status, none⟩ := by
  have plain : ∀ line ∈ [Json.write value], '\x1b' ∉ line.toList := by
    rw [List.forall_mem_singleton, Json.write, String.toList_ofList]
    intro member
    exact absurd (Json.isPlain_of_mem_form json _ member) (by decide)
  have shown := written_map_ofString plain
  rw [List.map_singleton] at shown
  rw [Outcome.printing, shown]

theorem exists_document {value : Option Value} (json : ∀ v ∈ value, v.IsJson) :
    ∃ line entries, [Json.write (request.compilation.report value)] = [line] ∧
      (∀ c ∈ line.toList, ' ' ≤ c ∧ c ≤ '~') ∧ request.compilation.summary = .mapping entries ∧
      Json.read? line = some (.mapping (entries ++ valueEntry (value.map .ok))) := by
  have isJson := request.compilation.isJson_report json
  refine ⟨_, _, rfl, ?_, request.compilation.summary_eq, ?_⟩
  · rw [Json.write, String.toList_ofList]
    exact Json.isPlain_of_mem_form isJson
  · rw [Json.read?_write isJson, Compilation.report]
    cases value <;> simp [textKeyed, valueEntry]

theorem answers_refused (bad : request.compilation.ok = false) (message : String) :
    Answers request none
      (if request.json then .printing [.ofString (Json.write request.compilation.summary)] 1
      else .refusal message) := by
  have report : request.compilation.summary = request.compilation.report none := by
    simp [Compilation.summary_eq, Compilation.report]
  have json : ∀ v ∈ (none : Option Value), v.IsJson := by simp
  rw [report, printing_write (request.compilation.isJson_report json)]
  split
  · next wanted =>
    exact {
      status := by simp [bad]
      document := fun _ _ => exists_document json
      failed := by simp
      refused := by simp [wanted] }
  · next unwanted =>
    exact {
      status := by simp [bad, Outcome.refusal]
      document := fun wanted => absurd wanted unwanted
      failed := by simp
      refused := fun _ _ => rfl }

theorem status_success (compilation : Compilation) (expression : Expression)
    {value : Option Value} (json : ∀ v ∈ value, v.IsJson) (wanted : Bool) :
    (Outcome.success (resultLines compilation expression value wanted)).status = 0 := by
  rw [Outcome.success, status_printing, if_pos]
  rw [written_snd_eq_none_iff, resultLines]
  split
  · exact List.forall_mem_singleton.2 (any_isSurrogate_ofString _)
  · rw [List.forall_mem_cons]
    refine ⟨any_isSurrogate_ofString _, ?_⟩
    cases value with
    | none => simp
    | some value =>
      rw [Option.map_some, Option.toList_some, List.forall_mem_singleton, List.any_append,
        any_isSurrogate_ofString, any_isSurrogate_rawDisplay (json value rfl), Bool.or_false]

theorem answers_success (good : request.compilation.ok) (value : Option Value)
    (returned : request.file.isSome → value.isSome) (json : ∀ v ∈ value, v.IsJson)
    (expression : Expression) :
    Answers request (value.map .ok)
      (.success (resultLines request.compilation expression value request.json)) where
  status := by
    apply iff_of_true (status_success _ _ json _)
    refine ⟨good, fun file => ?_⟩
    obtain ⟨v, rfl⟩ := Option.isSome_iff_exists.1 (returned file)
    exact ⟨v, rfl⟩
  document := by
    intro wanted _
    rw [resultLines, if_pos wanted, Compilation.summaryWith_eq, Outcome.success,
      printing_write (request.compilation.isJson_report json)]
    exact exists_document json
  failed := by
    intro failure failed
    cases value <;> cases failed
  refused := by simp [good]

theorem answers_failed (file : request.file.isSome) (good : request.compilation.ok)
    (failure : Failure) : Answers request (some (.error failure)) (evaluationOutcome failure) := by
  have status : (evaluationOutcome failure).status = 1 := by
    cases failure <;> rfl
  have printed : (evaluationOutcome failure).printed = [] := by
    cases failure <;> rfl
  exact {
    status := by simp [status, file]
    document := by simp [status, good]
    failed := fun _ _ => printed
    refused := fun _ _ => printed }

end

variable (host : Host) {registry : Registry} (threshold : LogLevel) {request : CompileRequest}

end Command

end FileRouting
