import FileRouting.Proofs.Text.Source
import FileRouting.Yaml.Stream

/-!
# Streams of text

Bytes in UTF-8 write a stream of all their characters, or of the first ones up to a block with a
character that is not allowed. So only bytes that are no text have a fault of their encoding. The
main statement is `Stream.reads_ofBytes`.
-/

namespace FileRouting.Text

theorem Decodes.length_le {start : Option Utf8Start} {bytes : List UInt8} {chars : List Char}
    (decodes : Decodes start bytes chars) : chars.length ≤ bytes.length := by
  induction decodes with
  | done => exact Nat.le_refl 0
  | ascii _ _ ih | last _ _ _ ih => exact Nat.succ_le_succ ih
  | first _ _ _ ih | next _ _ _ ih => exact Nat.le_succ_of_le ih

theorem length_unifyBreaks_le (text : List Char) : (unifyBreaks text).length ≤ text.length := by
  induction text using unifyBreaks.induct with
  | case1 => exact Nat.le_refl 0
  | case2 text ih => exact Nat.le_succ_of_le (Nat.succ_le_succ ih)
  | case3 text notNewline ih =>
    rw [unifyBreaks.eq_3 _ notNewline]
    exact Nat.succ_le_succ ih
  | case4 c text _ other ih =>
    rw [unifyBreaks_cons other]
    exact Nat.succ_le_succ ih

end FileRouting.Text

namespace FileRouting.Yaml

open FileRouting.Text

namespace Stream

/-- Whether a stream has a text as its characters, if they are all allowed, and otherwise ends
before one that is not. -/
structure Reads (stream : Stream) (text : List Char) : Prop where
  whole : text.all isAllowed = true → stream = ⟨text, none⟩
  start : stream.text <+: text
  broken : text.all isAllowed = false → stream.behind = some .malformed

theorem reads_prepend {stream : Stream} {text : List Char} (reads : stream.Reads text)
    (before : List Char) : (prepend before stream).Reads (before ++ text) := by
  rw [prepend]
  split
  · next allowed =>
    refine ⟨fun whole => ?_, List.prefix_append_right_inj before |>.2 reads.start, fun broken => ?_⟩
    · rw [List.all_append, allowed, Bool.true_and] at whole
      rw [reads.whole whole]
    · rw [List.all_append, allowed, Bool.true_and] at broken
      exact reads.broken broken
  · next refused =>
    refine ⟨fun whole => ?_, List.nil_prefix, fun _ => rfl⟩
    rw [List.all_append, Bool.and_eq_true] at whole
    exact absurd whole.1 refused

theorem reads_nil : Reads ⟨[], none⟩ [] :=
  ⟨fun _ => rfl, List.prefix_refl [], fun broken => by cases broken⟩

theorem reads_behindText {source : Source} {rest : List Char} (holds : source.Holds rest)
    {fuel : Nat} (fuels : rest.length < fuel) (text : List Char) :
    (behindText text fuel source).Reads (text ++ rest) := by
  -- Every block takes a character, so the fuel suffices for the characters that are left.
  induction fuel generalizing source rest text with
  | zero => omega
  | succ fuel ih =>
    obtain ⟨next, read, left⟩ := Source.read_of_holds holds blockSize
    simp only [behindText, read]
    split
    · next ended =>
      have nothing : rest = [] := by
        rcases List.take_eq_nil_iff.1 (List.isEmpty_iff.1 ended) with none | nothing
        · cases none
        · exact nothing
      rw [nothing]
      exact reads_prepend reads_nil text
    · next more =>
      have some : rest ≠ [] := by
        rintro rfl
        exact more rfl
      have fewer : (rest.drop blockSize).length < fuel := by
        have pos := List.length_pos_iff.2 some
        simp only [List.length_drop, blockSize]
        omega
      have reads := reads_prepend (ih left fewer []) (text ++ rest.take blockSize)
      rwa [List.nil_append, List.append_assoc, List.take_append_drop] at reads

theorem reads_ofBytes {bytes : List UInt8} {chars : List Char}
    (text : decodeUtf8 bytes = .ok chars) : (ofBytes bytes).Reads (unifyBreaks chars) := by
  obtain ⟨next, read, left⟩ := Source.read_of_holds (Source.holds_ofBytes text) blockSize
  have fuels : ((unifyBreaks chars).drop blockSize).length < bytes.length + 1 := by
    have breaks := length_unifyBreaks_le chars
    have decoded := (decodes_of_decodeUtf8 text).length_le
    simp only [List.length_drop]
    omega
  have reads := reads_behindText left fuels ((unifyBreaks chars).take blockSize)
  rw [List.take_append_drop] at reads
  simpa only [ofBytes, read] using reads

theorem Reads.behind {stream : Stream} {text : List Char} (reads : stream.Reads text) {error : Error}
    (behind : stream.behind = some error) : error = .malformed := by
  cases allowed : text.all isAllowed with
  | true =>
    rw [reads.whole allowed] at behind
    cases behind
  | false =>
    rw [reads.broken allowed] at behind
    exact (Option.some.inj behind).symm

end Stream

end FileRouting.Yaml
