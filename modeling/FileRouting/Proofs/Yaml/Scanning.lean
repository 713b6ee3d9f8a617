import FileRouting.Proofs.Yaml.Cursor
import FileRouting.Yaml.Name
import FileRouting.Yaml.Plain

/-!
# Scanning pieces of a stream

Scalars, names and directives are read within a stream, and each reader raises no more than the
steps of cursors do, but for the number of an escape and the version of a directive, which stand in
the stream.
-/

namespace FileRouting.Yaml

open FileRouting.Text

variable {stream : Stream} {cursor : Cursor}

/-! ## Numbers of characters -/

theorem Quoted.yields_hexNumber (within : cursor.Within stream) (count : Nat) :
    Yields (fun number => ∃ digits, digits <+: cursor.rest ∧ digits.length = count ∧
      (∀ c ∈ digits, isDigitOf 16 c) ∧ number = numberOf 16 digits) stream.Raises
      (hexNumber cursor count) := by
  have loop : Yields (fun _ => ∀ ahead ∈ List.range count,
        isDigitOf 16 (cursor.rest[ahead]?.getD endMark) = true) stream.Raises
      (forIn (List.range count) PUnit.unit fun ahead _ => do
        if !isDigitOf 16 (← cursor.peek ahead) then throw .malformed
        pure (ForInStep.yield PUnit.unit)) := by
    refine yields_forIn fun ahead _ => ?_
    refine (within.peek ahead).bind ?_
    rintro c rfl
    split
    · exact .malformed
    · next digit => exact ⟨rfl, by simpa using digit⟩
  refine loop.bind fun _ digits => ?_
  have found : ∀ ahead, ahead < count → ∃ c, cursor.rest[ahead]? = some c ∧ isDigitOf 16 c := by
    intro ahead bound
    have digit := digits ahead (List.mem_range.2 bound)
    cases there : cursor.rest[ahead]? with
    | none =>
      rw [there] at digit
      exact absurd digit (by decide)
    | some c =>
      rw [there] at digit
      exact ⟨c, rfl, digit⟩
  have long : count ≤ cursor.rest.length := by
    refine Nat.le_of_not_lt fun short => ?_
    obtain ⟨c, there, _⟩ := found cursor.rest.length short
    simp at there
  refine ⟨cursor.rest.take count, List.take_prefix _ _, List.length_take_of_le long, ?_, rfl⟩
  intro c member
  obtain ⟨ahead, bound, rfl⟩ := List.mem_iff_getElem.1 member
  rw [List.length_take_of_le long] at bound
  obtain ⟨d, there, digit⟩ := found ahead bound
  rw [List.getElem_take]
  rw [List.getElem?_eq_getElem (by omega), Option.some.injEq] at there
  rwa [there]

theorem Quoted.yields_numbered (within : cursor.Within stream) {mark : Char} {count : Nat}
    (marked : escapeDigits? mark = some count) (stands : '\\' :: mark :: cursor.rest <:+ stream.text) :
    Yields (·.2.Within stream) stream.Raises (numbered count cursor) := by
  refine (yields_hexNumber within count).bind ?_
  rintro _ ⟨digits, ⟨rest, split_⟩, rfl, digit, rfl⟩
  split
  · exact (within.skip _).bind fun _ after => after
  · next large =>
    refine .escape ?_ marked digit (Nat.not_lt.1 large)
    obtain ⟨before, same⟩ := stands
    exact ⟨before, rest, by rw [← same, ← split_]; simp⟩

/-! ## Quoted scalars -/

namespace Quoted

theorem scans_emptyLines (within : cursor.Within stream) (fuel : Nat) :
    Yields (·.2.Within stream) stream.Raises (emptyLines fuel cursor) := by
  induction fuel generalizing cursor with
  | zero => exact .malformed
  | succ fuel ih =>
    refine within.atDocumentMark.bind fun _ _ => ?_
    split
    · exact .malformed
    · refine (within.skipWhile _).bind fun cursor within => ?_
      refine (within.sees _ _).bind fun _ _ => ?_
      split
      · refine within.lineBreak.bind fun (_, cursor) within => ?_
        exact (ih within).bind fun _ within => within
      · exact within

theorem scans_gap (within : cursor.Within stream) (fuel : Nat) :
    Yields (·.2.Within stream) stream.Raises (gap fuel cursor) := by
  refine (within.takeWhile _).bind fun (_, cursor) within => ?_
  refine (within.peek 0).bind fun _ _ => ?_
  split
  · exact .malformed
  · split
    · refine within.lineBreak.bind fun (_, cursor) within => ?_
      exact (scans_emptyLines within fuel).bind fun _ within => within
    · exact within

/-- A character that is found is the next one, unless it is the mark for the end. -/
theorem rest_eq_of_peek {c : Char} (found : c = cursor.rest[0]?.getD endMark) (real : c ≠ endMark) :
    cursor.rest = c :: cursor.rest.drop 1 := by
  cases same : cursor.rest with
  | nil =>
    rw [same] at found
    exact absurd found real
  | cons d rest =>
    rw [same] at found
    rw [found]
    rfl

theorem scans_escaped (within : cursor.Within stream) (stands : '\\' :: cursor.rest <:+ stream.text)
    (fuel : Nat) : Yields (·.2.Within stream) stream.Raises (escaped fuel cursor) := by
  refine (within.peek 0).bind fun c found => ?_
  dsimp only
  split
  · exact (within.skip _).bind fun _ within => within
  · next count _ digits =>
    refine (within.skip_rest 1).bind fun after ⟨within, behind⟩ => ?_
    have real : c ≠ endMark := by
      rintro rfl
      cases digits
    rw [rest_eq_of_peek found real, ← behind] at stands
    exact (yields_numbered within digits stands).bind fun _ within => within
  · split
    · refine within.lineBreak.bind fun (_, cursor) within => ?_
      exact (scans_emptyLines within fuel).bind fun _ within => within
    · exact .malformed

theorem scans_doubleMark (within : cursor.Within stream) :
    Yields (∀ mark ∈ ·, mark.2.Within stream) stream.Raises (doubleMark cursor) := by
  refine (within.peek 0).bind fun c found => ?_
  split
  · refine (within.skip _).bind fun _ within => ?_
    rintro _ ⟨⟩
    exact within
  · refine (within.skip_rest 1).bind fun after ⟨inside, behind⟩ => ?_
    have stands := within.rest
    rw [rest_eq_of_peek found (by decide), ← behind] at stands
    refine (scans_escaped inside stands _).map fun _ within => ?_
    rintro _ ⟨⟩
    exact within
  · rintro _ ⟨⟩

theorem scans_singleMark (within : cursor.Within stream) :
    Yields (∀ mark ∈ ·, mark.2.Within stream) stream.Raises (singleMark cursor) := by
  refine (within.peek 0).bind fun c _ => ?_
  split
  · refine (within.peek 1).bind fun _ _ => ?_
    split
    · refine (within.skip _).bind fun _ within => ?_
      rintro _ ⟨⟩
      exact within
    · rintro _ ⟨⟩
  · split
    · refine (within.skip _).bind fun _ within => ?_
      rintro _ ⟨⟩
      exact within
    · rintro _ ⟨⟩

theorem scans_word (double : Bool) (within : cursor.Within stream) (fuel : Nat) :
    Yields (·.2.Within stream) stream.Raises (word double fuel cursor) := by
  induction fuel generalizing cursor with
  | zero => exact .malformed
  | succ fuel ih =>
    refine (within.takeWhile _).bind fun (_, cursor) within => ?_
    dsimp only
    split
    · refine (scans_doubleMark within).bind fun mark inside => ?_
      cases mark with
      | none => exact within
      | some mark => exact (ih (inside mark rfl)).bind fun _ within => within
    · refine (scans_singleMark within).bind fun mark inside => ?_
      cases mark with
      | none => exact within
      | some mark => exact (ih (inside mark rfl)).bind fun _ within => within

theorem scans_body (quote : Char) (within : cursor.Within stream) (fuel : Nat) :
    Yields (·.2.Within stream) stream.Raises (body quote fuel cursor) := by
  induction fuel generalizing cursor with
  | zero => exact .malformed
  | succ fuel ih =>
    refine (scans_word _ within _).bind fun (_, cursor) within => ?_
    refine (within.peek 0).bind fun _ _ => ?_
    split
    · exact (within.skip _).bind fun _ within => within
    · refine (scans_gap within _).bind fun (_, cursor) within => ?_
      exact (ih within).bind fun _ within => within

theorem scans_read (within : cursor.Within stream) :
    Yields (·.2.Within stream) stream.Raises (read cursor) := by
  refine (within.peek 0).bind fun quote _ => ?_
  exact (within.skip 1).bind fun _ within => scans_body quote within _

end Quoted

/-! ## Block scalars -/

namespace Block

theorem scans_chomping (within : cursor.Within stream) :
    Yields (·.2.Within stream) stream.Raises (chomping cursor) := by
  refine (within.peek 0).bind fun _ _ => ?_
  split
  · exact (within.skip _).bind fun _ within => within
  · exact (within.skip _).bind fun _ within => within
  · exact within

theorem scans_indentation (within : cursor.Within stream) :
    Yields (·.2.Within stream) stream.Raises (indentation cursor) := by
  refine (within.peek 0).bind fun _ _ => ?_
  split
  · exact .malformed
  · split
    · exact (within.skip _).bind fun _ within => within
    · exact within

theorem scans_header (within : cursor.Within stream) :
    Yields (·.2.Within stream) stream.Raises (header cursor) := by
  refine (scans_chomping within).bind fun (first, cursor) within => ?_
  cases first with
  | some first => exact (scans_indentation within).bind fun _ within => within
  | none =>
    refine (scans_indentation within).bind fun (count, cursor) within => ?_
    cases count with
    | none => exact within
    | some count => exact (scans_chomping within).bind fun _ within => within

theorem scans_endOfLine (within : cursor.Within stream) :
    Yields (·.Within stream) stream.Raises (endOfLine cursor) := by
  refine (within.skipWhile _).bind fun cursor within => ?_
  refine within.skipComment.bind fun cursor within => ?_
  refine (within.sees _ _).bind fun _ _ => ?_
  split
  · exact within.lineBreak.map fun _ within => within
  · exact .malformed

theorem scans_leading (within : cursor.Within stream) (fuel widest : Nat) :
    Yields (·.2.2.Within stream) stream.Raises (leading fuel widest cursor) := by
  induction fuel generalizing cursor widest with
  | zero => exact within
  | succ fuel ih =>
    refine (within.peek 0).bind fun _ _ => ?_
    split
    · exact (within.skip 1).bind fun _ within => ih within _
    · split
      · refine within.lineBreak.bind fun (_, cursor) within => ?_
        exact (ih within widest).bind fun _ within => within
      · exact within

theorem scans_indentTo (indent : Nat) (within : cursor.Within stream) (fuel : Nat) :
    Yields (·.Within stream) stream.Raises (indentTo indent fuel cursor) := by
  induction fuel generalizing cursor with
  | zero => exact within
  | succ fuel ih =>
    rw [indentTo]
    split
    · refine (within.peek 0).bind fun _ _ => ?_
      split
      · exact (within.skip 1).bind fun _ within => ih within
      · exact within
    · exact within

theorem scans_emptyLines (indent : Nat) (within : cursor.Within stream) (fuel : Nat) :
    Yields (·.2.Within stream) stream.Raises (emptyLines indent fuel cursor) := by
  induction fuel generalizing cursor with
  | zero => exact within
  | succ fuel ih =>
    refine (scans_indentTo indent within indent).bind fun cursor within => ?_
    refine (within.sees _ _).bind fun _ _ => ?_
    split
    · refine within.lineBreak.bind fun (_, cursor) within => ?_
      exact (ih within).bind fun _ within => within
    · exact within

theorem scans_startsLine (indent : Nat) (within : cursor.Within stream) :
    Yields (fun _ => True) stream.Raises (startsLine indent cursor) := by
  rw [startsLine]
  split
  · exact within.sees _ _
  · trivial

theorem scans_lines (folded : Bool) (indent : Nat) (within : cursor.Within stream) (fuel : Nat)
    (breaks : List Char) :
    Yields (·.cursor.Within stream) stream.Raises (lines folded indent fuel breaks cursor) := by
  induction fuel generalizing cursor breaks with
  | zero => exact within
  | succ fuel ih =>
    refine (scans_startsLine indent within).bind fun _ _ => ?_
    split
    · refine (within.sees _ _).bind fun _ _ => ?_
      refine (within.takeWhile _).bind fun (_, cursor) within => ?_
      refine within.lineBreak.bind fun (_, cursor) within => ?_
      refine (scans_emptyLines indent within _).bind fun (after, cursor) within => ?_
      refine (scans_startsLine indent within).bind fun _ _ => ?_
      split
      · refine (within.sees _ _).bind fun _ _ => ?_
        exact (ih within after).bind fun _ within => within
      · exact within
    · exact within

theorem scans_indentOf (least : Nat) (header : Header) (within : cursor.Within stream) :
    Yields (·.2.2.Within stream) stream.Raises (indentOf least header cursor) := by
  rw [indentOf]
  dsimp only
  split
  · exact (scans_leading within _ 0).bind fun _ within => within
  · exact (scans_emptyLines _ within _).bind fun _ within => within

theorem scans_read (outer : Int) (within : cursor.Within stream) :
    Yields (·.2.Within stream) stream.Raises (read outer cursor) := by
  refine (within.peek 0).bind fun _ _ => ?_
  refine (within.skip 1).bind fun _ within => ?_
  refine (scans_header within).bind fun (header, cursor) within => ?_
  refine (within.sees _ _).bind fun _ _ => ?_
  split
  · exact .malformed
  refine (scans_endOfLine within).bind fun cursor within => ?_
  refine (scans_indentOf _ header within).bind fun (_, _, cursor) within => ?_
  exact (scans_lines _ _ within _ _).bind fun _ within => within

end Block

/-! ## Plain scalars -/

namespace Plain

theorem scans_word (inFlow : Bool) (within : cursor.Within stream) :
    Yields (·.2.Within stream) stream.Raises (word inFlow cursor) := by
  refine (within.peek _).bind fun _ _ => ?_
  split
  · refine (within.peek _).bind fun _ _ => ?_
    exact (within.skip _).bind fun _ within => within
  · exact (within.skip _).bind fun _ within => within

theorem scans_emptyLines (within : cursor.Within stream) (fuel : Nat) :
    Yields (·.2.Within stream) stream.Raises (emptyLines fuel cursor) := by
  induction fuel generalizing cursor with
  | zero => exact within
  | succ fuel ih =>
    refine (within.skipWhile _).bind fun cursor within => ?_
    refine (within.sees _ _).bind fun _ _ => ?_
    split
    · refine within.lineBreak.bind fun (_, cursor) within => ?_
      refine within.atDocumentMark.bind fun _ _ => ?_
      split
      · exact within
      · exact (ih within).bind fun _ within => within
    · exact within

theorem scans_gap (within : cursor.Within stream) :
    Yields (·.cursor.Within stream) stream.Raises (gap cursor) := by
  refine (within.takeWhile _).bind fun (_, cursor) within => ?_
  refine (within.sees _ _).bind fun _ _ => ?_
  split
  · refine within.lineBreak.bind fun (_, cursor) within => ?_
    refine within.atDocumentMark.bind fun _ _ => ?_
    split
    · exact within
    · exact (scans_emptyLines within _).bind fun _ within => within
  · exact within

theorem scans_words (inFlow : Bool) (indent : Int) (within : cursor.Within stream) (fuel : Nat)
    (text blanks : List Char) (endsLine : Bool) :
    Yields (·.cursor.Within stream) stream.Raises
      (words inFlow indent fuel text blanks endsLine cursor) := by
  induction fuel generalizing cursor text blanks endsLine with
  | zero => exact within
  | succ fuel ih =>
    refine (within.peek 0).bind fun _ _ => ?_
    split
    · exact within
    refine (scans_word inFlow within).bind fun (word, behind) inside => ?_
    dsimp only
    split
    · exact within
    refine (scans_gap inside).bind fun gap within => ?_
    split
    · exact within
    · refine (Cursor.Within.peek within 0).bind fun _ _ => ?_
      split
      · exact within
      · exact ih within _ _ _

theorem scans_read (inFlow : Bool) (indent : Int) (within : cursor.Within stream) :
    Yields (·.cursor.Within stream) stream.Raises (read inFlow indent cursor) :=
  scans_words inFlow indent within _ _ _ _

end Plain

/-! ## Names -/

namespace Name

theorem scans_anchor (within : cursor.Within stream) :
    Yields (·.2.Within stream) stream.Raises (anchor cursor) := by
  refine (within.skip _).bind fun cursor within => ?_
  refine (within.takeWhile _).bind fun (name, cursor) within => ?_
  refine (within.sees _ _).bind fun _ _ => ?_
  split
  · exact within
  · exact .malformed

theorem scans_tagBytes (within : cursor.Within stream) (fuel : Nat) :
    Yields (·.2.Within stream) stream.Raises (tagBytes fuel cursor) := by
  induction fuel generalizing cursor with
  | zero => exact .malformed
  | succ fuel ih =>
    refine (within.peek 0).bind fun _ _ => ?_
    split
    · refine (within.skip 1).bind fun cursor within => ?_
      refine (Quoted.yields_hexNumber within 2).bind fun _ _ => ?_
      refine (within.skip 2).bind fun cursor within => ?_
      exact (ih within).bind fun _ within => within
    · exact within

theorem scans_tagText (within : cursor.Within stream) (fuel : Nat) :
    Yields (·.2.Within stream) stream.Raises (tagText fuel cursor) := by
  induction fuel generalizing cursor with
  | zero => exact .malformed
  | succ fuel ih =>
    refine (within.takeWhile _).bind fun (_, cursor) within => ?_
    refine (within.peek 0).bind fun _ _ => ?_
    split
    · refine (scans_tagBytes within _).bind fun (bytes, cursor) within => ?_
      dsimp only
      split
      · exact .malformed
      · exact (ih within).bind fun _ within => within
    · exact within

theorem scans_suffix (within : cursor.Within stream) :
    Yields (·.2.Within stream) stream.Raises (suffix cursor) := by
  refine (scans_tagText within _).bind fun (text, cursor) within => ?_
  dsimp only
  split
  · exact .malformed
  · exact within

theorem scans_handle (within : cursor.Within stream) :
    Yields (·.2.Within stream) stream.Raises (handle cursor) := by
  refine (within.peek 0).bind fun _ _ => ?_
  split
  · exact .malformed
  refine (within.peek 1).bind fun _ _ => ?_
  split
  · exact (within.skip 1).bind fun _ within => within
  · refine (within.next.takeWhile _).bind fun (_, behind) within => ?_
    refine (within.peek 0).bind fun _ _ => ?_
    split
    · exact (within.skip 1).bind fun _ within => within
    · exact .malformed

theorem scans_wholeTag (within : cursor.Within stream) :
    Yields (·.2.Within stream) stream.Raises (wholeTag cursor) := by
  refine (within.skip 2).bind fun cursor within => ?_
  refine (scans_suffix within).bind fun (_, cursor) within => ?_
  refine (within.peek 0).bind fun _ _ => ?_
  split
  · exact (within.skip 1).bind fun _ within => within
  · exact .malformed

theorem scans_shortTag (within : cursor.Within stream) :
    Yields (·.2.Within stream) stream.Raises (shortTag cursor) := by
  refine (within.next.takeWhile _).bind fun (_, stop) inside => ?_
  refine (inside.peek 0).bind fun _ _ => ?_
  split
  · refine (scans_handle within).bind fun (_, cursor) within => ?_
    exact (scans_suffix within).bind fun _ within => within
  · have bare : Yields (·.2.Within stream) stream.Raises ((cursor.skip 1).map ("!", ·)) :=
      (within.skip 1).map fun _ within => within
    refine bare.bind fun (_, cursor) within => ?_
    exact (scans_suffix within).bind fun _ within => within

theorem scans_tag (within : cursor.Within stream) :
    Yields (·.2.Within stream) stream.Raises (tag cursor) := by
  have ends : ∀ (name : TagName) (cursor : Cursor), cursor.Within stream →
      Yields (·.2.Within stream) stream.Raises (do
        if ← cursor.sees 0 isSpaceOrEnd then .ok (name, cursor) else .error .malformed) := by
    intro name cursor within
    refine (within.sees _ _).bind fun _ _ => ?_
    split
    · exact within
    · exact .malformed
  have bare : Yields (·.2.Within stream) stream.Raises
      ((cursor.skip 1).map ((⟨none, "!"⟩ : TagName), ·)) :=
    (within.skip 1).map fun _ within => within
  refine (within.peek 1).bind fun c _ => ?_
  dsimp only
  split
  · exact (scans_wholeTag within).bind fun (name, cursor) within => ends name cursor within
  · split
    · exact bare.bind fun (name, cursor) within => ends name cursor within
    · exact (scans_shortTag within).bind fun (name, cursor) within => ends name cursor within

/-! ## Directives -/

theorem scans_number (within : cursor.Within stream) :
    Yields (·.2.Within stream) stream.Raises (number cursor) := by
  refine (within.peek _).bind fun _ _ => ?_
  split
  · exact .malformed
  split
  · next long =>
    refine .version ?_ (fun c member => ?_) long
    · exact (List.takeWhile_prefix _).isInfix.trans within.rest.isInfix
    · exact List.all_eq_true.1 List.all_takeWhile c member
  · exact (within.skip _).bind fun _ within => within

theorem scans_version (within : cursor.Within stream) :
    Yields (·.2.Within stream) stream.Raises (version cursor) := by
  refine (within.skipWhile _).bind fun cursor within => ?_
  refine (scans_number within).bind fun (major, cursor) within => ?_
  refine (within.peek 0).bind fun _ _ => ?_
  split
  · exact .malformed
  refine (within.skip 1).bind fun cursor within => ?_
  refine (scans_number within).bind fun (minor, cursor) within => ?_
  refine (within.sees _ _).bind fun _ _ => ?_
  split
  · exact within
  · exact .malformed

theorem scans_tagHandle (within : cursor.Within stream) :
    Yields (·.2.Within stream) stream.Raises (tagHandle cursor) := by
  refine (within.skipWhile _).bind fun cursor within => ?_
  refine (scans_handle within).bind fun (handle, cursor) within => ?_
  refine (within.peek 0).bind fun _ _ => ?_
  split
  · exact .malformed
  refine (within.skipWhile _).bind fun cursor within => ?_
  refine (scans_suffix within).bind fun (head, cursor) within => ?_
  refine (within.sees _ _).bind fun _ _ => ?_
  split
  · exact within
  · exact .malformed

theorem scans_directive (within : cursor.Within stream) :
    Yields (·.2.Within stream) stream.Raises (directive cursor) := by
  refine (within.skip 1).bind fun cursor within => ?_
  refine (within.takeWhile _).bind fun (name, cursor) within => ?_
  refine (within.sees _ _).bind fun _ _ => ?_
  split
  · exact .malformed
  have ends : ∀ (value : Directive) (cursor : Cursor), cursor.Within stream →
      Yields (·.2.Within stream) stream.Raises (do .ok (value, ← Block.endOfLine cursor)) :=
    fun _ _ within => (Block.scans_endOfLine within).bind fun _ within => within
  have unknown : Yields (·.2.Within stream) stream.Raises
      ((cursor.skipWhile (!isLineEnd ·)).map (Directive.unknown, ·)) :=
    (within.skipWhile _).map fun _ within => within
  dsimp only
  split
  · exact (scans_version within).bind fun (value, cursor) within => ends value cursor within
  · split
    · exact (scans_tagHandle within).bind fun (value, cursor) within => ends value cursor within
    · exact unknown.bind fun (value, cursor) within => ends value cursor within

end Name

end FileRouting.Yaml
