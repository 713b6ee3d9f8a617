import FileRouting.Proofs.Yaml.Outcome
import FileRouting.Yaml.Quoted

/-!
# What scanning may raise

The functions that look at a stream never leave it, and break off for a few reasons only: the
grammar, what lies behind the stream, the number of an escape, or the digits of a version. The steps
of cursors are here.
-/

namespace FileRouting.Yaml

open FileRouting.Text

/-! ## Reasons -/

/-- Why the characters of a stream cannot be read as tokens. Only eight digits write a number beyond
all characters, and only the version of a directive is read as a number here. -/
inductive Stream.Raises (stream : Stream) : Error → Prop
  | malformed : Raises stream .malformed
  | behind {error : Error} : stream.behind = some error → Raises stream error
  | escape {mark : Char} {digits : List Char} : '\\' :: mark :: digits <:+: stream.text →
      Quoted.escapeDigits? mark = some digits.length → (∀ c ∈ digits, isDigitOf 16 c) →
      0x110000 ≤ numberOf 16 digits → Raises stream (.fault (.character (numberOf 16 digits)))
  | version {digits : List Char} : digits <:+: stream.text → (∀ c ∈ digits, c.isDigit) →
      maxDigits < digits.length → Raises stream (.fault (.tooManyDigits digits.length))

/-! ## Steps -/

namespace Cursor

/-- Whether a cursor stands in a stream. -/
structure Within (stream : Stream) (cursor : Cursor) : Prop where
  rest : cursor.rest <:+ stream.text
  behind : cursor.behind = stream.behind

theorem start_within (stream : Stream) : (start stream).Within stream :=
  ⟨List.suffix_refl _, rfl⟩

theorem next_rest (cursor : Cursor) : cursor.next.rest = cursor.rest.drop 1 := by
  cases same : cursor.rest <;> simp only [next, same]
  · rfl
  · split
    · rfl
    · split <;> rfl

theorem next_behind (cursor : Cursor) : cursor.next.behind = cursor.behind := by
  rw [next]
  split
  · rfl
  · split
    · rfl
    · split <;> rfl

theorem repeat_next_rest (cursor : Cursor) (count : Nat) :
    (count.repeat next cursor).rest = cursor.rest.drop count := by
  induction count with
  | zero => rfl
  | succ count ih => rw [Nat.repeat, next_rest, ih, List.drop_drop]

theorem repeat_next_behind (cursor : Cursor) (count : Nat) :
    (count.repeat next cursor).behind = cursor.behind := by
  induction count with
  | zero => rfl
  | succ count ih => rw [Nat.repeat, next_behind, ih]

variable {stream : Stream} {cursor : Cursor}

theorem Within.next (within : cursor.Within stream) : cursor.next.Within stream :=
  ⟨cursor.next_rest ▸ (List.drop_suffix 1 _).trans within.rest, cursor.next_behind ▸ within.behind⟩

theorem Within.peek (within : cursor.Within stream) (ahead : Nat) :
    Yields (fun c => c = cursor.rest[ahead]?.getD endMark) stream.Raises (cursor.peek ahead) := by
  rw [Cursor.peek]
  split
  · next c found => rw [found]; rfl
  · next found _ => rw [found]; rfl
  · next error found _ behind => exact .behind (within.behind ▸ behind)

theorem Within.sees (within : cursor.Within stream) (ahead : Nat) (accepts : Char → Bool) :
    Yields (fun _ => True) stream.Raises (cursor.sees ahead accepts) :=
  (within.peek ahead).map fun _ _ => trivial

theorem Within.skip_rest (within : cursor.Within stream) (count : Nat) :
    Yields (fun after => after.Within stream ∧ after.rest = cursor.rest.drop count) stream.Raises
      (cursor.skip count) := by
  refine (within.peek count).bind fun _ _ => ⟨⟨?_, ?_⟩, cursor.repeat_next_rest count⟩
  · rw [repeat_next_rest]
    exact (List.drop_suffix count _).trans within.rest
  · rw [repeat_next_behind, within.behind]

theorem Within.skip (within : cursor.Within stream) (count : Nat) :
    Yields (·.Within stream) stream.Raises (cursor.skip count) :=
  (within.skip_rest count).mono fun _ after => after.1

theorem Within.takeWhile (within : cursor.Within stream) (accepts : Char → Bool) :
    Yields (·.2.Within stream) stream.Raises (cursor.takeWhile accepts) :=
  (within.skip _).bind fun _ after => after

theorem Within.skipWhile (within : cursor.Within stream) (accepts : Char → Bool) :
    Yields (·.Within stream) stream.Raises (cursor.skipWhile accepts) :=
  (within.takeWhile accepts).map fun _ after => after

theorem Within.lineBreak (within : cursor.Within stream) :
    Yields (·.2.Within stream) stream.Raises cursor.lineBreak := by
  refine (within.peek 0).bind fun c _ => ?_
  split
  · exact within
  · refine (within.peek 1).bind fun _ _ => ?_
    exact (within.skip _).bind fun _ after => after

theorem Within.atDocumentMark (within : cursor.Within stream) :
    Yields (fun _ => True) stream.Raises cursor.atDocumentMark := by
  refine (within.peek 2).bind fun _ _ => ?_
  dsimp only
  split
  · exact within.sees 3 isBlankOrEnd
  · trivial

theorem Within.skipComment (within : cursor.Within stream) :
    Yields (·.Within stream) stream.Raises cursor.skipComment := by
  refine (within.peek 0).bind fun _ _ => ?_
  split
  · exact within.skipWhile _
  · exact within

end Cursor

end FileRouting.Yaml
