import FileRouting.Proofs.Yaml.Building
import FileRouting.Proofs.Yaml.Lexing
import FileRouting.Proofs.Yaml.Reading
import FileRouting.Proofs.Yaml.Scalar
import FileRouting.Proofs.Yaml.Stream

/-!
# Streams without a document

A stream that keeps to the grammar and yet has no document names a number beyond all characters or a
version that is too long, is nested too deeply, or holds a scalar that cannot be built. A stream of
text has no other faults. The main statement is `Stream.fault_of_text`.
-/

namespace FileRouting.Yaml

open FileRouting.Text

namespace Stream

/-- Why a stream of text that keeps to the grammar has no document. -/
inductive Unreadable (stream : Stream) : Fault → Prop
  | escape {mark : Char} {digits : List Char} : '\\' :: mark :: digits <:+: stream.text →
      Quoted.escapeDigits? mark = some digits.length → (∀ c ∈ digits, isDigitOf 16 c) →
      0x110000 ≤ numberOf 16 digits → Unreadable stream (.character (numberOf 16 digits))
  | version {digits : List Char} : digits <:+: stream.text → (∀ c ∈ digits, c.isDigit) →
      maxDigits < digits.length → Unreadable stream (.tooManyDigits digits.length)
  | nesting : Read.maxDepth < (Tokens.ofStream stream).tokens.length →
      Unreadable stream .tooDeep
  | value {graph : Graph} {fault : Fault} :
      Graph.ofTokens? (.ofStream stream) = .ok (some graph) → graph.Unbuildable fault →
      Unreadable stream fault

variable {stream : Stream}

theorem Unreadable.ne_encoding {fault : Fault} (unreadable : stream.Unreadable fault)
    (error : Utf8Error) : fault ≠ .encoding error := by
  rintro rfl
  cases unreadable with
  | @value graph _ _ unbuildable =>
    cases unbuildable with
    | @scalar number _ _ _ raised =>
      have refuses := Scalar.refuses_of_value raised
      generalize (Graph.nodeAt graph.nodes number).tag = tag at refuses
      cases refuses

/-- What lies behind a stream shows as it is; every other fault has its reason in the stream. -/
theorem error_of_raises {error : Error} (raises : stream.Raises error) :
    error = .malformed ∨ stream.behind = some error ∨
      ∃ fault, error = .fault fault ∧ stream.Unreadable fault := by
  cases raises with
  | malformed => exact .inl rfl
  | behind behind => exact .inr (.inl behind)
  | escape stands marked digits large =>
    exact .inr (.inr ⟨_, rfl, .escape stands marked digits large⟩)
  | version stands digits long => exact .inr (.inr ⟨_, rfl, .version stands digits long⟩)

theorem error_of_read {error : Error} (raised : read stream = .error error) :
    error = .malformed ∨ stream.behind = some error ∨
      ∃ fault, error = .fault fault ∧ stream.Unreadable fault := by
  rw [read] at raised
  cases parsed : Graph.ofTokens? (.ofStream stream) with
  | error reason =>
    simp only [parsed, bind, Except.bind, Except.error.injEq] at raised
    subst raised
    cases Graph.raises_of_ofTokens parsed with
    | malformed => exact .inl rfl
    | behind behind => exact error_of_raises (Tokens.raises_of_behind behind)
    | nesting many => exact .inr (.inr ⟨_, rfl, .nesting many⟩)
  | ok graph? =>
    cases graph? with
    | none => simp [parsed, bind, Except.bind] at raised
    | some graph =>
      simp only [parsed, bind, Except.bind] at raised
      cases Graph.raises_of_document raised with
      | malformed => exact .inl rfl
      | unbuildable unbuildable => exact .inr (.inr ⟨_, rfl, .value parsed unbuildable⟩)

theorem fault_of_text {bytes : List UInt8} {chars : List Char}
    (text : decodeUtf8 bytes = .ok chars) {fault : Fault}
    (raised : read (.ofBytes bytes) = .error (.fault fault)) :
    (ofBytes bytes).Unreadable fault := by
  rcases error_of_read raised with malformed | behind | ⟨_, same, unreadable⟩
  · cases malformed
  · cases (reads_ofBytes text).behind behind
  · cases same
    exact unreadable

end Stream

end FileRouting.Yaml
