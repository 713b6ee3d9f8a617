import FileRouting.Expression.Pattern
import Mathlib.Data.List.TakeWhile

/-!
# Forms of patterns

What the form of a pattern says about its text. The two statements that are more than a look at the
prefix are `Form.ofDate_eq_date_iff`, on the colons of a date, and `Form.eq_of_ofPattern_eq_date`,
which says that no other prefix leads to a date.
-/

namespace FileRouting

open FileRouting.Text

/-! ## Prefixes -/

theorem afterPrefix?_append (head text : String) :
    afterPrefix? head (head ++ text) = some text := by
  simp [afterPrefix?, String.toList_append, after?_append]

theorem afterPrefix?_eq_some_iff {head pattern text : String} :
    afterPrefix? head pattern = some text ↔ pattern = head ++ text := by
  constructor
  · intro h
    obtain ⟨rest, found, rfl⟩ := Option.map_eq_some_iff.1 h
    rw [← String.toList_inj, after?_eq_some_iff.1 found]
    simp
  · rintro rfl
    exact afterPrefix?_append head text

namespace Form

theorem ofPattern_file (read : Attribute) : ofPattern ("file:" ++ read.key) = .file read := by
  simp [ofPattern, afterPrefix?_append, Attribute.ofKey?_key]

theorem ofPattern_date (text : String) : ofPattern ("date:" ++ text) = .ofDate text := by
  have notFile : afterPrefix? "file:" ("date:" ++ text) = none := by
    simp [afterPrefix?, String.toList_append, after?]
  simp [ofPattern, notFile, afterPrefix?_append]

theorem ofPattern_bean (reference : String) :
    ofPattern ("bean:" ++ reference) = .bean reference := by
  have notFile : afterPrefix? "file:" ("bean:" ++ reference) = none := by
    simp [afterPrefix?, String.toList_append, after?]
  have notDate : afterPrefix? "date:" ("bean:" ++ reference) = none := by
    simp [afterPrefix?, String.toList_append, after?]
  simp [ofPattern, notFile, notDate, afterPrefix?_append]

theorem ofPattern_simple (text : String) : ofPattern ("simple:" ++ text) = .simple text := by
  have notFile : afterPrefix? "file:" ("simple:" ++ text) = none := by
    simp [afterPrefix?, String.toList_append, after?]
  have notDate : afterPrefix? "date:" ("simple:" ++ text) = none := by
    simp [afterPrefix?, String.toList_append, after?]
  have notBean : afterPrefix? "bean:" ("simple:" ++ text) = none := by
    simp [afterPrefix?, String.toList_append, after?]
  simp [ofPattern, notFile, notDate, notBean, afterPrefix?_append]

end Form

/-! ## The parts of a date -/

theorem fields_append_replicate {sep : Char} {part : List Char} (h : sep ∉ part) (count : Nat) :
    fields sep (part ++ List.replicate count sep) = part :: List.replicate count [] := by
  induction count generalizing part with
  | zero => simp [fields_eq_singleton h]
  | succ count ih =>
    have behind : fields sep ([] ++ List.replicate count sep) = [] :: List.replicate count [] :=
      ih List.not_mem_nil
    rw [List.nil_append] at behind
    rw [List.replicate_succ, fields_append h, behind, List.replicate_succ]

theorem joinFields_cons_replicate (sep : Char) (part : List Char) (count : Nat) :
    joinFields sep (part :: List.replicate count []) = part ++ List.replicate count sep := by
  induction count generalizing part with
  | zero => simp [joinFields]
  | succ count ih =>
    have behind := ih []
    rw [List.nil_append] at behind
    rw [List.replicate_succ, joinFields, behind, List.replicate_succ]
    exact List.cons_ne_nil _ _

theorem dropWhile_reverse_eq_pair_iff {parts : List String} {first last : String} :
    parts.reverse.dropWhile (· = "") = [last, first] ↔
      last ≠ "" ∧ ∃ count, parts = first :: last :: List.replicate count "" := by
  constructor
  · intro h
    have nonempty : last ≠ "" := by
      have := List.head?_dropWhile_not (· = "") parts.reverse
      simpa [h] using this
    have dropped : parts.reverse.takeWhile (· = "") =
        List.replicate (parts.reverse.takeWhile (· = "")).length "" := by
      rw [List.eq_replicate_iff]
      exact ⟨rfl, fun part member => by simpa using List.mem_takeWhile_imp member⟩
    have whole : parts.reverse.takeWhile (· = "") ++ parts.reverse.dropWhile (· = "") =
        parts.reverse := List.takeWhile_append_dropWhile
    rw [h, dropped] at whole
    generalize (parts.reverse.takeWhile (· = "")).length = count at whole
    refine ⟨nonempty, count, ?_⟩
    rw [← List.reverse_inj, ← whole]
    simp
  · rintro ⟨nonempty, count, rfl⟩
    simp [nonempty]

theorem map_ofList_eq_iff {texts : List (List Char)} {strings : List String} :
    texts.map String.ofList = strings ↔ texts = strings.map String.toList := by
  constructor
  · rintro rfl
    simp
  · rintro rfl
    simp

theorem dateParts_eq_pair_iff {text command pattern : String} :
    dateParts text = [command, pattern] ↔
      pattern ≠ "" ∧ ∃ count, fields ':' text.toList =
        command.toList :: pattern.toList :: List.replicate count [] := by
  generalize made : (fields ':' text.toList).map String.ofList = parts
  have pair : dateParts text = [command, pattern] ↔
      parts.reverse.dropWhile (· = "") = [pattern, command] := by
    rw [dateParts, made]
    split
    · next empty => simp [empty]
    · rw [List.reverse_eq_iff]; rfl
  rw [pair, dropWhile_reverse_eq_pair_iff]
  simp only [← made, map_ofList_eq_iff, List.map_cons, List.map_replicate, String.toList_empty]

namespace Form

/-- A command and a date pattern are read off a text that writes them with a colon between them, and
possibly with colons at the end. -/
theorem ofDate_eq_date_iff {text command pattern : String} :
    ofDate text = .date command pattern ↔
      ':' ∉ command.toList ∧ pattern ≠ "" ∧ ':' ∉ pattern.toList ∧
        ∃ count, text = command ++ ":" ++ pattern ++ String.ofList (List.replicate count ':') := by
  have parts : ofDate text = .date command pattern ↔ dateParts text = [command, pattern] := by
    rw [ofDate]
    split
    · next command' pattern' found => simp [found]
    · next other => simpa using other command pattern
  rw [parts, dateParts_eq_pair_iff]
  constructor
  · rintro ⟨nonempty, count, found⟩
    have apart : ∀ part ∈ fields ':' text.toList, ':' ∉ part :=
      fun part => not_mem_of_mem_fields
    have whole := joinFields_fields ':' text.toList
    rw [found, joinFields, joinFields_cons_replicate] at whole
    · refine ⟨apart _ (by simp [found]), nonempty, apart _ (by simp [found]), count, ?_⟩
      rw [← String.toList_inj, ← whole]
      simp
    · exact List.cons_ne_nil _ _
  · rintro ⟨command_apart, nonempty, pattern_apart, count, rfl⟩
    refine ⟨nonempty, count, ?_⟩
    have behind := fields_append_replicate pattern_apart count
    simp [fields_append command_apart, behind]

theorem eq_of_ofPattern_eq_date {text command pattern : String}
    (h : ofPattern text = .date command pattern) :
    ∃ parts, text = "date:" ++ parts ∧ ofDate parts = .date command pattern := by
  unfold ofPattern at h
  split at h
  · split at h <;> cases h
  · split at h
    · next parts found => exact ⟨parts, afterPrefix?_eq_some_iff.1 found, h⟩
    · split at h <;> cases h

end Form

end FileRouting
