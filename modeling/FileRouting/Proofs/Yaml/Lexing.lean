import FileRouting.Proofs.Yaml.Scanning
import FileRouting.Yaml.Lexer

/-!
# Reading the tokens of a stream

Every step of the lexer stands in its stream, so behind the tokens of a stream lies an error of its
characters or none. The main statement is `Tokens.raises_of_behind`.
-/

namespace FileRouting.Yaml

open FileRouting.Text

variable {stream : Stream} {lexer : Lexer}

namespace Lexer

abbrev Within (stream : Stream) (lexer : Lexer) : Prop :=
  lexer.cursor.Within stream

/-- A step of a lexer that stays in its stream. -/
abbrev Steps (stream : Stream) (step : Except Error Lexer) : Prop :=
  Yields (·.Within stream) stream.Raises step

/-! ## Indentation and possible keys -/

@[simp] theorem cursor_close (column : Int) (indents : List Int) (lexer : Lexer) :
    (unindent.close column indents lexer).cursor = lexer.cursor := by
  induction indents generalizing lexer with
  | nil => rfl
  | cons outer indents ih =>
    rw [unindent.close]
    split
    · rw [ih]
      rfl
    · rfl

@[simp] theorem cursor_unindent (lexer : Lexer) (column : Int) :
    (lexer.unindent column).cursor = lexer.cursor := by
  rw [unindent]
  split
  · exact cursor_close column _ lexer
  · rfl

@[simp] theorem cursor_indentTo (lexer : Lexer) (column : Nat) :
    (lexer.indentTo column).2.cursor = lexer.cursor := by
  rw [indentTo]
  split <;> rfl

theorem steps_openBlock (within : lexer.Within stream) (token : Token) :
    Steps stream (lexer.openBlock token) := by
  rw [openBlock]
  split
  · exact within
  split
  · exact .malformed
  have same := lexer.cursor_indentTo lexer.cursor.column
  split
  · next opened =>
    rw [opened] at same
    exact show Cursor.Within _ _ from same ▸ within
  · next opened =>
    rw [opened] at same
    exact show Cursor.Within _ _ from same ▸ within

theorem steps_dropKey (lexer : Lexer) (within : lexer.Within stream) : Steps stream lexer.dropKey := by
  rw [dropKey]
  split
  · split
    · exact .malformed
    · exact within
  · exact within

theorem steps_saveKey (within : lexer.Within stream) : Steps stream lexer.saveKey := by
  rw [saveKey]
  split
  · exact (steps_dropKey _ within).bind fun _ within => within
  · exact within

theorem steps_dropStale (within : lexer.Within stream) : Steps stream lexer.dropStale := by
  rw [dropStale]
  split
  · exact .malformed
  · exact within

/-! ## Between tokens -/

theorem steps_skipGap (within : lexer.Within stream) (fuel : Nat) :
    Steps stream (skipGap fuel lexer) := by
  induction fuel generalizing lexer with
  | zero => exact within
  | succ fuel ih =>
    refine (Cursor.Within.skipWhile within _).bind fun cursor within => ?_
    refine within.skipComment.bind fun cursor within => ?_
    refine (within.sees _ _).bind fun _ _ => ?_
    split
    · exact within.lineBreak.bind fun (_, cursor) within => ih within
    · exact within

theorem steps_skipMark (within : lexer.Within stream) : Steps stream lexer.skipMark := by
  refine (Cursor.Within.peek within 0).bind fun _ _ => ?_
  split
  · exact (Cursor.Within.skip within 1).bind fun _ within => within
  · exact within

/-! ## Tokens -/

theorem steps_addSpan (within : lexer.Within stream) (token : Token) (length : Nat) :
    Steps stream (lexer.addSpan token length) :=
  (Cursor.Within.skip within length).bind fun _ within => within

theorem steps_betweenDocuments (within : lexer.Within stream) :
    Steps stream lexer.betweenDocuments := by
  have inside : (lexer.unindent (-1)).Within stream := by
    rwa [Within, cursor_unindent]
  exact (steps_dropKey _ inside).bind fun _ within => within

theorem steps_directive (within : lexer.Within stream) : Steps stream lexer.directive := by
  refine (steps_betweenDocuments within).bind fun lexer within => ?_
  exact (Name.scans_directive within).bind fun _ within => within

theorem steps_documentMark (within : lexer.Within stream) (token : Token) :
    Steps stream (lexer.documentMark token) :=
  (steps_betweenDocuments within).bind fun _ within => steps_addSpan within token 3

theorem steps_flowStart (within : lexer.Within stream) (token : Token) :
    Steps stream (lexer.flowStart token) := by
  refine (steps_saveKey within).bind fun lexer within => ?_
  apply steps_addSpan
  exact within

theorem steps_flowEnd (within : lexer.Within stream) (token : Token) :
    Steps stream (lexer.flowEnd token) := by
  refine (steps_dropKey _ within).bind fun lexer within => ?_
  apply steps_addSpan
  exact within

theorem steps_flowEntry (within : lexer.Within stream) : Steps stream lexer.flowEntry := by
  refine (steps_dropKey _ within).bind fun lexer within => ?_
  apply steps_addSpan
  exact within

theorem steps_blockEntry (within : lexer.Within stream) : Steps stream lexer.blockEntry := by
  refine (steps_openBlock within _).bind fun lexer within => ?_
  refine (steps_dropKey { lexer with keyAllowed := true } within).bind fun lexer within => ?_
  apply steps_addSpan
  exact within

theorem steps_marked (within : lexer.Within stream) (token : Token) :
    Steps stream (lexer.marked token) := by
  refine (steps_openBlock within _).bind fun lexer within => ?_
  refine (steps_dropKey { lexer with keyAllowed := lexer.inBlock } within).bind fun lexer within => ?_
  apply steps_addSpan
  exact within

theorem steps_value (within : lexer.Within stream) : Steps stream lexer.value := by
  rw [value]
  split
  · next place _ =>
    refine steps_addSpan ?_ .value 1
    dsimp only [Within]
    split
    · split
      · next opened =>
        have same := congrArg (·.2.cursor) opened
        rw [cursor_indentTo] at same
        exact same ▸ within
      · next opened =>
        have same := congrArg (·.2.cursor) opened
        rw [cursor_indentTo] at same
        exact same ▸ within
    · exact within
  · exact steps_marked within .value

theorem steps_node (within : lexer.Within stream) {read : Cursor → Except Error (Token × Cursor)}
    (scans : ∀ cursor : Cursor, cursor.Within stream →
      Yields (·.2.Within stream) stream.Raises (read cursor)) : Steps stream (lexer.node read) := by
  refine (steps_saveKey within).bind fun lexer within => ?_
  exact (scans _ within).bind fun _ within => within

theorem steps_blockScalar (within : lexer.Within stream) : Steps stream lexer.blockScalar := by
  refine (steps_dropKey { lexer with keyAllowed := true } within).bind fun lexer within => ?_
  exact (Block.scans_read _ within).bind fun _ within => within

theorem steps_plainScalar (within : lexer.Within stream) : Steps stream lexer.plainScalar := by
  refine (steps_saveKey within).bind fun lexer within => ?_
  exact (Plain.scans_read _ _ within).bind fun _ within => within

theorem steps_byFirst (within : lexer.Within stream) {c : Char} {step : Except Error Lexer}
    (found : lexer.byFirst? c = some step) : Steps stream step := by
  unfold byFirst? at found
  split at found <;> cases found
  · exact steps_flowStart within _
  · exact steps_flowStart within _
  · exact steps_flowEnd within _
  · exact steps_flowEnd within _
  · exact steps_flowEntry within
  · exact steps_node within fun _ within => (Name.scans_anchor within).map fun _ within => within
  · exact steps_node within fun _ within => (Name.scans_anchor within).map fun _ within => within
  · exact steps_node within fun _ within => (Name.scans_tag within).map fun _ within => within
  · exact steps_node within fun _ within => (Quoted.scans_read within).map fun _ within => within
  · exact steps_node within fun _ within => (Quoted.scans_read within).map fun _ within => within

theorem steps_markOrPlain (within : lexer.Within stream) (c : Char) :
    Steps stream (lexer.markOrPlain c) := by
  refine (Cursor.Within.sees within _ _).bind fun apart _ => ?_
  split
  · split
    · exact steps_blockEntry within
    · exact steps_plainScalar within
  · split
    · split
      · exact steps_marked within .key
      · exact steps_value within
    · exact steps_plainScalar within

theorem yields_atDocumentMark (within : lexer.Within stream) (c : Char) :
    Yields (fun _ => True) stream.Raises (lexer.atDocumentMark c) := by
  rw [atDocumentMark]
  split
  · exact Cursor.Within.atDocumentMark within
  · trivial

theorem steps_token (within : lexer.Within stream) (c : Char) : Steps stream (lexer.token c) := by
  rw [token]
  split
  · exact steps_directive within
  refine (yields_atDocumentMark within c).bind fun _ _ => ?_
  split
  · exact steps_documentMark within _
  split
  · next step found => exact steps_byFirst within found
  split
  · exact steps_markOrPlain within c
  split
  · exact steps_blockScalar within
  split
  · exact (Cursor.Within.peek within 1).bind fun _ _ => .malformed
  · exact steps_plainScalar within

theorem steps_finish (within : lexer.Within stream) : Steps stream lexer.finish := by
  have inside : (lexer.unindent (-1)).Within stream := by
    rwa [Within, cursor_unindent]
  exact (steps_dropKey _ inside).bind fun _ within => within

theorem yields_step (within : lexer.Within stream) :
    Yields (·.1.Within stream) stream.Raises lexer.step := by
  refine (steps_skipMark within).bind fun lexer within => ?_
  refine (steps_skipGap within _).bind fun lexer within => ?_
  refine (steps_dropStale within).bind fun lexer within => ?_
  have inside : (lexer.unindent lexer.cursor.column).Within stream := by
    rwa [Within, cursor_unindent]
  refine (Cursor.Within.peek inside 0).bind fun c _ => ?_
  split
  · exact (steps_finish inside).bind fun _ within => within
  · exact (steps_token inside c).bind fun _ within => within

/-! ## Runs -/

theorem raises_of_run (within : lexer.Within stream) (fuel handedOut : Nat) {error : Error}
    (behind : (lexer.run fuel handedOut).behind = some error) : stream.Raises error := by
  induction fuel generalizing lexer handedOut with
  | zero =>
    obtain rfl := Option.some.inj behind
    exact .malformed
  | succ fuel ih =>
    rw [run] at behind
    split at behind
    · next raised =>
      obtain rfl := Option.some.inj behind
      exact (steps_dropStale within).error raised
    · next fresh given =>
      have inside := (steps_dropStale within).ok given
      split at behind
      · next raised =>
        obtain rfl := Option.some.inj behind
        exact (yields_step inside).error raised
      · cases behind
      · next stepped => exact ih ((yields_step inside).ok stepped) _ behind

end Lexer

theorem Tokens.raises_of_behind {error : Error}
    (behind : (ofStream stream).behind = some error) : stream.Raises error :=
  Lexer.raises_of_run (Cursor.start_within stream) _ _ behind

end FileRouting.Yaml
