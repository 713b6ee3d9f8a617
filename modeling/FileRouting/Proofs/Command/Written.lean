import FileRouting.Command.Outcome

/-!
# Written lines

A line is written without its control sequences, and it cannot be written if it holds a surrogate.
The lines of a command are written up to the first that cannot be. What is known of the start of a
line is known of the start of its text, `Shows.of_append`.
-/

namespace FileRouting

open FileRouting.Text

namespace Text

/-! ## Control sequences -/

theorem any_isSurrogate_dropWhile (accepts : Char → Bool) (text : RawText) :
    (text.dropWhile (Glyph.isIn accepts)).any Glyph.isSurrogate = text.any Glyph.isSurrogate := by
  induction text with
  | nil => rfl
  | cons glyph text ih =>
    rw [List.dropWhile_cons]
    split
    · next accepted =>
      cases glyph with
      | char c => simpa [Glyph.isSurrogate] using ih
      | surrogate number => cases accepted
    · rfl

theorem any_isSurrogate_behindControl? {text rest : RawText} (h : behindControl? text = some rest) :
    rest.any Glyph.isSurrogate = text.any Glyph.isSurrogate := by
  unfold behindControl? at h
  split at h
  · next text =>
    split at h
    · next c behind last =>
      split at h <;> cases h
      have parameters := any_isSurrogate_dropWhile isParameter text
      rw [← any_isSurrogate_dropWhile isIntermediate, last] at parameters
      simpa [Glyph.isSurrogate] using parameters
    · cases h
  · cases h

theorem any_isSurrogate_withoutControls (text : RawText) :
    (withoutControls text).any Glyph.isSurrogate = text.any Glyph.isSurrogate := by
  induction text using withoutControls.induct with
  | case1 => rw [withoutControls]
  | case2 glyph text rest behind _ ih =>
    rw [withoutControls]
    split
    · next rest' behind' =>
      obtain rfl := Option.some.inj (behind.symm.trans behind')
      rw [ih, any_isSurrogate_behindControl? behind]
    · next none => simp [none] at behind
  | case3 glyph text none ih =>
    rw [withoutControls]
    split
    · next rest behind => simp [none] at behind
    · rw [List.any_cons, List.any_cons, ih]

theorem withoutControls_cons {c : Char} (h : c ≠ '\x1b') (text : RawText) :
    withoutControls (.char c :: text) = .char c :: withoutControls text := by
  have none : behindControl? (.char c :: text) = none := by
    unfold behindControl?
    split
    · next same => cases same; exact absurd rfl h
    · rfl
  rw [withoutControls]
  split
  · next rest behind => simp [none] at behind
  · rfl

theorem withoutControls_append {head : List Char} (plain : '\x1b' ∉ head) (text : RawText) :
    withoutControls (.ofChars head ++ text) = .ofChars head ++ withoutControls text := by
  induction head with
  | nil => rfl
  | cons c head ih =>
    obtain ⟨other, plain⟩ := List.ne_and_not_mem_of_not_mem_cons plain
    have step := withoutControls_cons other.symm (.ofChars head ++ text)
    rw [ih plain] at step
    exact step

/-! ## Texts that can be written -/

theorem charactersFrom_eq_ok_iff {position : Nat} {text : RawText} {chars : List Char} :
    charactersFrom position text = .ok chars ↔ text = .ofChars chars := by
  induction text generalizing position chars with
  | nil => cases chars <;> simp [charactersFrom, RawText.ofChars]
  | cons glyph text ih =>
    cases glyph with
    | char c =>
      cases chars with
      | nil =>
        cases read : charactersFrom (position + 1) text <;>
          simp [charactersFrom, read, RawText.ofChars, Except.map]
      | cons d chars =>
        have same := @ih (position + 1) chars
        cases read : charactersFrom (position + 1) text with
        | error run =>
          simp only [read, reduceCtorEq, false_iff] at same
          simpa [charactersFrom, read, RawText.ofChars, Except.map] using fun _ => same
        | ok others =>
          simp only [read, Except.ok.injEq] at same
          simp [charactersFrom, read, RawText.ofChars, Except.map, same]
    | surrogate number => cases chars <;> simp [charactersFrom, RawText.ofChars]

theorem writable_eq_ok_iff {line : RawText} {text : String} :
    writable line = .ok text ↔ line = .ofString text := by
  rw [writable, RawText.ofString, ← @charactersFrom_eq_ok_iff 0]
  cases charactersFrom 0 line with
  | error run => simp [Except.map]
  | ok chars => simp [Except.map, String.ext_iff]

theorem any_isSurrogate_ofString (text : String) :
    (RawText.ofString text).any Glyph.isSurrogate = false := by
  simp [RawText.ofString, RawText.ofChars, Glyph.isSurrogate]

theorem exists_writable_iff {line : RawText} :
    (∃ text, writable line = .ok text) ↔ line.any Glyph.isSurrogate = false := by
  simp only [writable_eq_ok_iff]
  constructor
  · rintro ⟨text, rfl⟩
    exact any_isSurrogate_ofString text
  · intro plain
    refine ⟨line.shown, ?_⟩
    induction line with
    | nil => rfl
    | cons glyph line ih =>
      cases glyph with
      | char c =>
        have others := ih (by simpa [Glyph.isSurrogate] using plain)
        simp only [RawText.shown, RawText.ofString, RawText.ofChars, String.toList_ofList,
          List.map_cons, Glyph.shown] at others ⊢
        rw [← others]
      | surrogate number => simp [Glyph.isSurrogate] at plain

end Text

/-! ## Lines -/

namespace Command

/-- A text is what is written of a line. -/
def Shows (line : RawText) (text : String) : Prop :=
  withoutControls line = .ofString text

theorem Shows.of_append {head : String} {line : RawText} {text : String}
    (shows : Shows (.ofString head ++ line) text) (plain : '\x1b' ∉ head.toList) :
    ∃ rest, text = head ++ rest ∧ Shows line rest := by
  rw [Shows, RawText.ofString, withoutControls_append plain] at shows
  obtain ⟨start, rest, whole, same, behind⟩ := List.map_eq_append_iff.1 shows.symm
  obtain rfl := RawText.ofChars_inj.1 same
  refine ⟨String.ofList rest, ?_, ?_⟩
  · rw [← String.toList_inj, whole]
    simp
  · rw [Shows, ← behind, RawText.ofString, String.toList_ofList]
    rfl

theorem Shows.of_ofString {line text : String} (shows : Shows (.ofString line) text)
    (plain : '\x1b' ∉ line.toList) : text = line := by
  rw [← List.append_nil (RawText.ofString line)] at shows
  obtain ⟨rest, rfl, last⟩ := shows.of_append plain
  rw [Shows, withoutControls] at last
  have empty : RawText.ofChars [] = RawText.ofChars rest.toList := last
  rw [← String.toList_inj, String.toList_append, ← RawText.ofChars_inj.1 empty, List.append_nil]

theorem writable_withoutControls {line : RawText} {text : String} :
    writable (withoutControls line) = .ok text ↔ Shows line text :=
  writable_eq_ok_iff

theorem exists_shows_iff {line : RawText} :
    (∃ text, Shows line text) ↔ line.any Glyph.isSurrogate = false := by
  simp only [← writable_withoutControls]
  rw [exists_writable_iff, any_isSurrogate_withoutControls]

theorem written_cons_of_shows {line : RawText} {text : String} (h : Shows line text)
    (lines : List RawText) :
    written (line :: lines) = (text :: (written lines).1, (written lines).2) := by
  rw [written, writable_withoutControls.2 h]

theorem written_cons_of_broken {line : RawText} (h : ∀ text, ¬Shows line text) :
    ∃ surrogates, ∀ lines, written (line :: lines) = ([], some surrogates) := by
  cases written_line : writable (withoutControls line) with
  | ok text => exact absurd (writable_withoutControls.1 written_line) (h text)
  | error surrogates => exact ⟨surrogates, fun lines => by rw [written, written_line]⟩

theorem written_snd_eq_none_iff {lines : List RawText} :
    (written lines).2 = none ↔ ∀ line ∈ lines, line.any Glyph.isSurrogate = false := by
  induction lines with
  | nil => simp [written]
  | cons line lines ih =>
    rw [List.forall_mem_cons, ← ih, ← exists_shows_iff]
    by_cases shown : ∃ text, Shows line text
    · obtain ⟨text, shows⟩ := shown
      rw [written_cons_of_shows shows]
      exact ⟨fun others => ⟨⟨text, shows⟩, others⟩, fun both => both.2⟩
    · obtain ⟨surrogates, broken⟩ := written_cons_of_broken (not_exists.1 shown)
      rw [broken]
      exact iff_of_false (Option.some_ne_none _) fun both => shown both.1

theorem exists_of_mem_written {lines : List RawText} {text : String}
    (h : text ∈ (written lines).1) : ∃ line ∈ lines, Shows line text := by
  induction lines with
  | nil => cases h
  | cons line lines ih =>
    by_cases shown : ∃ text, Shows line text
    · obtain ⟨first, shows⟩ := shown
      rw [written_cons_of_shows shows] at h
      rcases List.mem_cons.1 h with rfl | behind
      · exact ⟨line, List.mem_cons_self, shows⟩
      · obtain ⟨other, member, shows'⟩ := ih behind
        exact ⟨other, List.mem_cons_of_mem _ member, shows'⟩
    · obtain ⟨surrogates, broken⟩ := written_cons_of_broken (not_exists.1 shown)
      rw [broken] at h
      cases h

/-- What comes behind a line that cannot be written is not written. -/
theorem written_append_of_broken {lines : List RawText} (h : (written lines).2 ≠ none)
    (others : List RawText) : written (lines ++ others) = written lines := by
  induction lines with
  | nil => exact absurd rfl h
  | cons line lines ih =>
    by_cases shown : ∃ text, Shows line text
    · obtain ⟨text, shows⟩ := shown
      rw [written_cons_of_shows shows] at h
      rw [List.cons_append, written_cons_of_shows shows, written_cons_of_shows shows, ih h]
    · obtain ⟨surrogates, broken⟩ := written_cons_of_broken (not_exists.1 shown)
      rw [List.cons_append, broken, broken]

theorem written_append {lines : List RawText} (h : (written lines).2 = none)
    (others : List RawText) :
    written (lines ++ others) = ((written lines).1 ++ (written others).1, (written others).2) := by
  induction lines with
  | nil => rfl
  | cons line lines ih =>
    obtain ⟨plain, behind⟩ := List.forall_mem_cons.1 (written_snd_eq_none_iff.1 h)
    obtain ⟨text, shows⟩ := exists_shows_iff.2 plain
    rw [List.cons_append, written_cons_of_shows shows, written_cons_of_shows shows,
      ih (written_snd_eq_none_iff.2 behind), List.cons_append]

theorem shows_ofString {line : String} (plain : '\x1b' ∉ line.toList) :
    Shows (.ofString line) line := by
  obtain ⟨text, shows⟩ := exists_shows_iff.2 (any_isSurrogate_ofString line)
  obtain rfl := shows.of_ofString plain
  exact shows

theorem written_map_ofString {lines : List String} (plain : ∀ line ∈ lines, '\x1b' ∉ line.toList) :
    written (lines.map .ofString) = (lines, none) := by
  induction lines with
  | nil => rfl
  | cons line lines ih =>
    obtain ⟨first, others⟩ := List.forall_mem_cons.1 plain
    rw [List.map_cons, written_cons_of_shows (shows_ofString first), ih others]

end Command

end FileRouting
