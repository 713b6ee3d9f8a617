import FileRouting.Path.Basic
import Mathlib.Data.List.Basic
import Mathlib.Data.List.Induction

/-!
# Paths and their texts

A path has one text, and it is read back from it, `ofText_text`. The text of a path seen from a
directory is put together from the texts of both, `text_join`, as a path is put together from its
parent and its last name, `text_eq_under`.
-/

namespace FileRouting

open FileRouting.Text

/-! ## Parts between separators -/

namespace Text

variable {sep : Char}

theorem joinFields_cons (part : List Char) {parts : List (List Char)} (nonempty : parts ≠ []) :
    joinFields sep (part :: parts) = part ++ sep :: joinFields sep parts := by
  rw [joinFields]
  exact nonempty

theorem fields_joinFields {parts : List (List Char)} (nonempty : parts ≠ [])
    (free : ∀ part ∈ parts, sep ∉ part) : fields sep (joinFields sep parts) = parts := by
  induction parts with
  | nil => exact absurd rfl nonempty
  | cons part parts ih =>
    obtain ⟨first, others⟩ := List.forall_mem_cons.1 free
    by_cases last : parts = []
    · rw [last]
      exact fields_eq_singleton first
    · rw [joinFields_cons part last, fields_append first, ih last others]

theorem subset_of_mem_fields {text part : List Char} (member : part ∈ fields sep text) :
    part ⊆ text := by
  induction text generalizing part with
  | nil => simp_all [fields]
  | cons c text ih =>
    obtain ⟨first, others, shape⟩ := List.exists_cons_of_ne_nil (fields_ne_nil sep text)
    rw [fields, shape] at member
    rw [shape] at ih
    split at member
    · rcases List.mem_cons.1 member with rfl | member
      · simp
      · exact List.subset_cons_of_subset c (ih member)
    · rcases List.mem_cons.1 member with rfl | member
      · exact List.cons_subset_cons c (ih List.mem_cons_self)
      · exact List.subset_cons_of_subset c (ih (List.mem_cons_of_mem _ member))

theorem joinFields_append {parts more : List (List Char)} (nonempty : parts ≠ [])
    (nonempty' : more ≠ []) :
    joinFields sep (parts ++ more) = joinFields sep parts ++ sep :: joinFields sep more := by
  induction parts with
  | nil => exact absurd rfl nonempty
  | cons part parts ih =>
    by_cases last : parts = []
    · rw [last]
      exact joinFields_cons part nonempty'
    · rw [List.cons_append, joinFields_cons part (by simp [last]), ih last,
        joinFields_cons part last, List.append_assoc, List.cons_append]

end Text

namespace Path

/-! ## Names and slashes -/

theorem IsName.toList_ne_nil {name : String} (h : IsName name) : name.toList ≠ [] :=
  mt String.toList_eq_nil_iff.1 h.1

/-- The names of a path with the slashes between them. -/
def written (names : List String) : List Char :=
  joinFields '/' (names.map String.toList)

theorem written_cons {name : String} {names : List String} (nonempty : names ≠ []) :
    written (name :: names) = name.toList ++ '/' :: written names :=
  joinFields_cons _ (by simpa using nonempty)

theorem written_append {names more : List String} (nonempty : names ≠ []) (nonempty' : more ≠ []) :
    written (names ++ more) = written names ++ '/' :: written more := by
  rw [written, List.map_append]
  exact joinFields_append (by simpa using nonempty) (by simpa using nonempty')

theorem mem_written {names : List String} {c : Char} (member : c ∈ written names) :
    c = '/' ∨ ∃ name ∈ names, c ∈ name.toList := by
  induction names with
  | nil => simp [written, joinFields] at member
  | cons name names ih =>
    by_cases last : names = []
    · refine .inr ⟨name, List.mem_cons_self, ?_⟩
      simpa [last, written, joinFields] using member
    · rw [written_cons last] at member
      rcases List.mem_append.1 member with member | member
      · exact .inr ⟨name, List.mem_cons_self, member⟩
      · rcases List.mem_cons.1 member with slash | member
        · exact .inl slash
        · refine (ih member).imp_right ?_
          rintro ⟨other, among, member⟩
          exact ⟨other, List.mem_cons_of_mem _ among, member⟩

/-- A byte for each slash, and one more. -/
theorem foldl_utf8ByteSize {names : List String} (nonempty : names ≠ []) (bytes : Nat) :
    names.foldl (fun bytes name => bytes + name.utf8ByteSize + 1) bytes =
      bytes + (String.ofList (written names)).utf8ByteSize + 1 := by
  induction names generalizing bytes with
  | nil => exact absurd rfl nonempty
  | cons name names ih =>
    by_cases last : names = []
    · simp [last, written, joinFields]
    · have slash : (String.singleton '/').utf8ByteSize = 1 := rfl
      rw [List.foldl_cons, ih last, written_cons last, String.ofList_append, String.ofList_cons,
        String.ofList_toList, String.utf8ByteSize_append, String.utf8ByteSize_append, slash]
      omega

theorem head?_written {names : List String} (valid : ∀ name ∈ names, IsName name) :
    (written names).head? ≠ some '/' := by
  cases names with
  | nil => simp [written, joinFields]
  | cons name names =>
    have first := valid name List.mem_cons_self
    obtain ⟨c, rest, shape⟩ := List.exists_cons_of_ne_nil first.toList_ne_nil
    have starts : c ≠ '/' := by
      rintro rfl
      exact first.2.2 (by simp [shape])
    by_cases last : names = []
    · simpa [last, written, joinFields, shape] using starts
    · simpa [written_cons last, shape] using starts

theorem getLast?_written {names : List String} (valid : ∀ name ∈ names, IsName name)
    (nonempty : names ≠ []) : ∃ c, c ≠ '/' ∧ (written names).getLast? = some c := by
  obtain ⟨before, name, rfl⟩ := List.eq_nil_or_concat' names |>.resolve_left nonempty
  have last := valid name (by simp)
  have ends : (written (before ++ [name])).getLast? = name.toList.getLast? := by
    by_cases only : before = []
    · rw [only]
      rfl
    · rw [written_append only (List.cons_ne_nil _ _), List.getLast?_append_cons]
      exact List.getLast?_cons_of_ne_nil last.toList_ne_nil
  refine ⟨_, ?_, ends.trans (List.getLast?_eq_some_getLast last.toList_ne_nil)⟩
  exact fun slash => last.2.2 (slash ▸ List.getLast_mem _)

theorem Anchor.ofText_append (anchor : Anchor) {text : List Char} (starts : text.head? ≠ some '/') :
    Anchor.ofText (anchor.text ++ text) = anchor := by
  cases text with
  | nil => cases anchor <;> rfl
  | cons c text =>
    have other : c ≠ '/' := by simpa using starts
    cases anchor <;> simp [Anchor.text, Anchor.ofText, other]

/-! ## The text of a path -/

variable (path : Path)

theorem text_relative_nil {path : Path} (h : path.anchor = .relative ∧ path.names = []) :
    path.text = "." := if_pos h

section

variable {path : Path} (h : ¬(path.anchor = .relative ∧ path.names = []))

include h

theorem text_eq : path.text = String.ofList (path.anchor.text ++ written path.names) := if_neg h

theorem toList_text : path.text.toList = path.anchor.text ++ written path.names := by
  rw [text_eq h, String.toList_ofList]

/-- A slash of the anchor has nothing before it, and so has the end if there are no names. -/
theorem namesOf_text : namesOf path.text =
    List.replicate path.anchor.text.length "" ++ if path.names = [] then [""] else path.names := by
  have plain : (fields '/' (written path.names)).map String.ofList =
      if path.names = [] then [""] else path.names := by
    by_cases none : path.names = []
    · rw [none]
      rfl
    · have free : ∀ part ∈ path.names.map String.toList, '/' ∉ part := by
        intro part member
        obtain ⟨name, among, rfl⟩ := List.mem_map.1 member
        exact (path.isName name among).2.2
      have same : String.ofList ∘ String.toList = id := funext fun name => String.ofList_toList
      rw [if_neg none, written, fields_joinFields (by simpa using none) free, List.map_map, same,
        List.map_id]
  have slash : ∀ text, fields '/' ('/' :: text) = [] :: fields '/' text := by
    intro text
    simp [fields]
  rw [namesOf, toList_text h]
  cases path.anchor <;> simp [Anchor.text, slash, plain]

theorem filter_namesOf_text : (namesOf path.text).filter (IsName ·) = path.names := by
  have kept : path.names.filter (IsName ·) = path.names := by
    rw [List.filter_eq_self]
    exact fun name member => decide_eq_true (path.isName name member)
  have dropped : ¬IsName "" := fun h => h.1 rfl
  rw [namesOf_text h]
  split
  · next none => simp [none, dropped]
  · simp [kept, dropped]

end

theorem mem_toList_text {path : Path} {c : Char} (member : c ∈ path.text.toList) :
    c = '.' ∨ c = '/' ∨ ∃ name ∈ path.names, c ∈ name.toList := by
  by_cases h : path.anchor = .relative ∧ path.names = []
  · rw [text_relative_nil h] at member
    exact .inl (by simpa using member)
  · rw [toList_text h] at member
    rcases List.mem_append.1 member with slash | member
    · refine .inr (.inl ?_)
      cases anchor : path.anchor <;> simp_all [Anchor.text]
    · exact .inr (mem_written member)

theorem utf8ByteSize_text {path : Path} (nonempty : path.names ≠ []) :
    path.text.utf8ByteSize + 1 =
      path.names.foldl (fun bytes name => bytes + name.utf8ByteSize + 1)
        path.anchor.text.length := by
  have anchor : (String.ofList path.anchor.text).utf8ByteSize = path.anchor.text.length := by
    cases path.anchor <;> rfl
  rw [text_eq fun h => nonempty h.2, String.ofList_append, String.utf8ByteSize_append, anchor,
    foldl_utf8ByteSize nonempty]

/-- A path is read back from its text. -/
theorem ofText_text : ofText path.text = path := by
  by_cases h : path.anchor = .relative ∧ path.names = []
  · obtain ⟨anchor, names, isName⟩ := path
    obtain ⟨rfl, rfl⟩ := h
    rw [text_relative_nil ⟨rfl, rfl⟩]
    rfl
  · ext1
    · rw [ofText, ofNames, toList_text h]
      exact Anchor.ofText_append _ (head?_written path.isName)
    · exact filter_namesOf_text h

theorem text_eq_dot_iff : path.text = "." ↔ path.anchor = .relative ∧ path.names = [] := by
  constructor
  · intro dot
    have same : path = ofText "." := by rw [← dot, ofText_text]
    rw [same]
    exact ⟨rfl, by decide⟩
  · exact text_relative_nil

/-- A path starts with a slash if and only if it is absolute. -/
theorem head?_text : path.text.toList.head? = some '/' ↔ path.isAbsolute := by
  by_cases h : path.anchor = .relative ∧ path.names = []
  · rw [text_relative_nil h]
    simp [isAbsolute, h.1]
  · rw [toList_text h]
    cases anchor : path.anchor with
    | relative =>
      have starts := head?_written path.isName
      simpa [Anchor.text, isAbsolute, anchor] using starts
    | root => simp [Anchor.text, isAbsolute, anchor]
    | doubleRoot => simp [Anchor.text, isAbsolute, anchor]

/-! ## Joining -/

/-- The text of what is below a directory, with one slash between the texts of both. -/
def under (directory below : String) : String :=
  if directory = "." then below
  else if directory.toList.getLast? = some '/' then directory ++ below
  else directory ++ "/" ++ below

theorem getLast?_text (h : path.text ≠ ".") :
    path.text.toList.getLast? = some '/' ↔ path.names = [] := by
  rw [toList_text (mt text_relative_nil h)]
  by_cases none : path.names = []
  · have absolute : path.anchor ≠ .relative :=
      fun relative => h (text_relative_nil ⟨relative, none⟩)
    refine iff_of_true ?_ none
    cases anchor : path.anchor with
    | relative => exact absurd anchor absolute
    | root => simp [none, Anchor.text, written, joinFields]
    | doubleRoot => simp [none, Anchor.text, written, joinFields]
  · obtain ⟨c, other, ends⟩ := getLast?_written path.isName none
    refine iff_of_false ?_ none
    simpa [List.getLast?_append, ends] using other

theorem text_join (directory : Path) {path : Path} (relative : path.anchor = .relative) :
    (directory.join path).text =
      if path.text = "." then directory.text else under directory.text path.text := by
  have anchor : (directory.join path).anchor = directory.anchor := by
    simp [join, isAbsolute, relative]
  have names : (directory.join path).names = directory.names ++ path.names := by
    simp [join, isAbsolute, relative]
  by_cases nowhere : path.text = "."
  · have names' := (path.text_eq_dot_iff.1 nowhere).2
    rw [if_pos nowhere]
    congr 1
    ext1
    · exact anchor
    · rw [names, names', List.append_nil]
  rw [if_neg nowhere, under]
  by_cases here : directory.text = "."
  · obtain ⟨anchor', names'⟩ := directory.text_eq_dot_iff.1 here
    rw [if_pos here]
    congr 1
    ext1
    · rw [anchor, anchor', relative]
    · rw [names, names', List.nil_append]
  have some : path.names ≠ [] := fun none => nowhere (text_relative_nil ⟨relative, none⟩)
  have below : path.text.toList = written path.names := by
    rw [toList_text fun h => some h.2, relative]
    rfl
  have joined : (directory.join path).text.toList =
      directory.anchor.text ++ written (directory.names ++ path.names) := by
    rw [toList_text (by simp [names, some]), anchor, names]
  have above := toList_text (mt text_relative_nil here)
  rw [if_neg here, ← String.toList_inj, joined]
  by_cases none : directory.names = []
  · rw [if_pos ((directory.getLast?_text here).2 none), String.toList_append, above, below, none]
    simp [written, joinFields]
  · rw [if_neg (mt (directory.getLast?_text here).1 none), written_append none some]
    simp [above, below]

theorem isAbsolute_join {directory : Path} (rooted : directory.isAbsolute) (path : Path) :
    (directory.join path).isAbsolute := by
  by_cases absolute : path.isAbsolute
  · rwa [join, if_pos absolute]
  · rwa [join, if_neg absolute]

/-! ## The last name -/

theorem withoutExtension_cases (name : String) :
    (name = withoutExtension name ∧ '.' ∉ name.toList) ∨
      ∃ extension : String, name = withoutExtension name ++ "." ++ extension ∧
        '.' ∉ extension.toList := by
  cases cut : cutAtLast? '.' name.toList with
  | none =>
    have whole : withoutExtension name = name := by rw [withoutExtension, cut]
    exact .inl ⟨whole.symm, cutAtLast?_eq_none_iff.1 cut⟩
  | some parts =>
    obtain ⟨stem, extension⟩ := parts
    obtain ⟨shape, last⟩ := cutAtLast?_eq_some_iff.1 cut
    have stem' : withoutExtension name = String.ofList stem := by rw [withoutExtension, cut]
    refine .inr ⟨String.ofList extension, ?_, by simpa using last⟩
    rw [← String.toList_inj, shape, stem']
    simp

theorem slash_not_mem_name : '/' ∉ path.name.toList := by
  rw [name]
  cases last : path.names.getLast? with
  | none => simp
  | some name => exact (path.isName name (List.mem_of_getLast? last)).2.2

theorem name_eq_empty_iff : path.name = "" ↔ path.names = [] := by
  rw [name]
  cases last : path.names.getLast? with
  | none => simpa using last
  | some name =>
    have member := List.mem_of_getLast? last
    exact iff_of_false (path.isName name member).1 (List.ne_nil_of_mem member)

/-- A path without a last name is its own parent. -/
theorem parent_of_name_eq_empty (h : path.name = "") : path.parent = path := by
  ext1
  · rfl
  · simp [parent, path.name_eq_empty_iff.1 h]

/-- A path is its last name seen from its parent. -/
theorem text_eq_under (h : path.name ≠ "") : path.text = under path.parent.text path.name := by
  have some : path.names ≠ [] := mt path.name_eq_empty_iff.2 h
  have last : path.name = path.names.getLast some := by
    rw [name, List.getLast?_eq_some_getLast some]
    rfl
  have valid : IsName path.name := last ▸ path.isName _ (List.getLast_mem some)
  let below : Path := ⟨.relative, [path.name], by simpa using valid⟩
  have whole : path = path.parent.join below := by
    ext1
    · rfl
    · simp [join, isAbsolute, below, parent, last, List.dropLast_concat_getLast]
  have text : below.text = path.name := by
    rw [← String.toList_inj, toList_text (by simp [below])]
    rfl
  have relative : below.anchor = .relative := rfl
  have joined := text_join path.parent relative
  rwa [← whole, text, if_neg valid.2.1] at joined

end Path

end FileRouting
