import FileRouting.Expression.Basic
import FileRouting.Proofs.Text.Marker

/-!
# Written references

A reference writes a bean and perhaps a method, around the first method marker or else around the
last dot. Reading it loses nothing but an empty method, and any bean and method that leave the
marker to the seam are read back. The main statement is `ofText_decodes`.
-/

namespace FileRouting.Reference

open FileRouting.Text

/-- The text holds the marker that puts a method behind a bean. -/
def HoldsMarker (text : String) : Prop :=
  methodMarker <:+: text.toList

/-- There is a dot behind the first character of the text. -/
def HoldsDot (text : String) : Prop :=
  '.' ∈ text.toList.tail

theorem methodNamed_ne_empty (name : List Char) : methodNamed name ≠ some "" := by
  unfold methodNamed
  split
  · simp
  · next nonempty => simpa [← String.toList_inj] using nonempty

theorem methodNamed_empty : methodNamed [] = none := rfl

theorem methodNamed_toList {method : String} (nonempty : method ≠ "") :
    methodNamed method.toList = some method := by
  rw [methodNamed, if_neg (by simpa using nonempty), String.ofList_toList]

theorem getD_methodNamed (name : List Char) :
    (methodNamed name).getD "" = String.ofList name := by
  unfold methodNamed
  split
  · next empty => rw [empty, Option.getD_none, String.ofList_nil]
  · rfl

theorem not_mem_methodNamed {c : Char} {name : List Char} (h : c ∉ name) :
    ∀ method ∈ methodNamed name, c ∉ method.toList := by
  unfold methodNamed
  split
  · simp
  · rintro method same
    cases same
    rwa [String.toList_ofList]

/-! ## Around a marker -/

theorem methodMarker_eq : methodMarker = '?' :: "method=".toList := rfl

theorem methodMarker_ne_nil : methodMarker ≠ [] := by
  rw [methodMarker_eq]
  exact List.cons_ne_nil _ _

theorem toList_marked (bean method : String) :
    (bean ++ "?method=" ++ method).toList = bean.toList ++ methodMarker ++ method.toList := by
  rw [String.toList_append, String.toList_append]
  rfl

theorem ofText_marker {text : String} (holds : HoldsMarker text) :
    ¬HoldsMarker (ofText text).bean ∧
      text = (ofText text).bean ++ "?method=" ++ (ofText text).method.getD "" := by
  cases cut : cutAt? methodMarker text.toList with
  | none => exact absurd holds (cutAt?_eq_none_iff.1 cut)
  | some parts =>
    obtain ⟨bean, method⟩ := parts
    have read : ofText text = ⟨String.ofList bean, methodNamed method⟩ := by
      rw [ofText, cut]
    rw [read, getD_methodNamed, HoldsMarker, String.toList_ofList]
    refine ⟨not_infix_of_cutAt? methodMarker_ne_nil cut, ?_⟩
    rw [← String.toList_inj, toList_marked, String.toList_ofList, String.toList_ofList]
    exact eq_of_cutAt? cut

theorem ofText_marked {bean : String} (free : ¬HoldsMarker bean) (method : String) :
    ofText (bean ++ "?method=" ++ method) = ⟨bean, methodNamed method.toList⟩ := by
  have cut : cutAt? methodMarker (bean.toList ++ (methodMarker ++ method.toList)) =
      some (bean.toList, method.toList) := by
    rw [methodMarker_eq]
    exact cutAt?_append (by decide) free method.toList
  rw [ofText, toList_marked, List.append_assoc, cut]
  simp only [String.ofList_toList]

/-! ## Around a dot -/

/-- Without a marker, the last dot behind the first character is between the bean and the method. -/
theorem ofText_of_not_holdsMarker {text : String} (free : ¬HoldsMarker text) :
    (ofText text = ⟨text, none⟩ ∧ ¬HoldsDot text) ∨
      ∃ bean method, bean ≠ [] ∧ '.' ∉ method ∧ text.toList = bean ++ '.' :: method ∧
        ofText text = ⟨String.ofList bean, methodNamed method⟩ := by
  rw [ofText, cutAt?_eq_none_iff.2 free]
  cases cut : cutAtLast? '.' text.toList with
  | none =>
    have dotless := cutAtLast?_eq_none_iff.1 cut
    exact .inl ⟨rfl, fun dot => dotless (List.mem_of_mem_tail dot)⟩
  | some parts =>
    obtain ⟨bean, method⟩ := parts
    obtain ⟨whole, dotless⟩ := cutAtLast?_eq_some_iff.1 cut
    cases bean with
    | nil =>
      refine .inl ⟨rfl, ?_⟩
      rw [HoldsDot, whole]
      exact dotless
    | cons c bean => exact .inr ⟨c :: bean, method, List.cons_ne_nil _ _, dotless, whole, rfl⟩

theorem ofText_dotless {text : String} (free : ¬HoldsMarker text) (dotless : ¬HoldsDot text) :
    ofText text = ⟨text, none⟩ := by
  rcases ofText_of_not_holdsMarker free with ⟨read, _⟩ | ⟨bean, method, nonempty, _, whole, _⟩
  · exact read
  · refine absurd ?_ dotless
    obtain ⟨c, bean, rfl⟩ := List.exists_cons_of_ne_nil nonempty
    rw [HoldsDot, whole]
    simp

theorem ofText_dot {text : String} (free : ¬HoldsMarker text) (dot : HoldsDot text) :
    (ofText text).bean ≠ "" ∧ (∀ method ∈ (ofText text).method, '.' ∉ method.toList) ∧
      text = (ofText text).bean ++ "." ++ (ofText text).method.getD "" := by
  rcases ofText_of_not_holdsMarker free with
    ⟨_, dotless⟩ | ⟨bean, method, nonempty, apart, whole, read⟩
  · exact absurd dot dotless
  · rw [read, getD_methodNamed]
    refine ⟨by simpa [← String.toList_inj] using nonempty, not_mem_methodNamed apart, ?_⟩
    rw [← String.toList_inj, whole]
    simp

theorem ofText_dotted {bean method : String} (nonempty : bean ≠ "") (apart : '.' ∉ method.toList)
    (free : ¬HoldsMarker (bean ++ "." ++ method)) :
    ofText (bean ++ "." ++ method) = ⟨bean, methodNamed method.toList⟩ := by
  have cut : cutAtLast? '.' (bean ++ "." ++ method).toList =
      some (bean.toList, method.toList) :=
    cutAtLast?_eq_some_iff.2 ⟨by simp, apart⟩
  rw [ofText, cutAt?_eq_none_iff.2 free, cut]
  cases characters : bean.toList with
  | nil => exact absurd (by simpa using characters) nonempty
  | cons c rest => simp [← characters]

/-! ## Reading back -/

/-- What is read off a text: nothing of it is lost but the emptiness of a method. -/
structure Decodes (text : String) (reference : Reference) : Prop where
  method : reference.method ≠ some ""
  marked : HoldsMarker text → ¬HoldsMarker reference.bean ∧
    text = reference.bean ++ "?method=" ++ reference.method.getD ""
  dotted : ¬HoldsMarker text → HoldsDot text → reference.bean ≠ "" ∧
    text = reference.bean ++ "." ++ reference.method.getD ""
  alone : ¬HoldsMarker text → ¬HoldsDot text → text = reference.bean ∧ reference.method = none
  apart : ¬HoldsMarker text → ∀ method ∈ reference.method, '.' ∉ method.toList

theorem decodes_ofText (text : String) : Decodes text (ofText text) where
  method := by
    unfold ofText
    split
    · exact methodNamed_ne_empty _
    · split
      · simp
      · simp
      · exact methodNamed_ne_empty _
  marked := ofText_marker
  dotted free dot := by
    obtain ⟨nonempty, _, whole⟩ := ofText_dot free dot
    exact ⟨nonempty, whole⟩
  alone free dotless := by
    rw [ofText_dotless free dotless]
    exact ⟨rfl, rfl⟩
  apart free := by
    by_cases dot : HoldsDot text
    · exact (ofText_dot free dot).2.1
    · rw [ofText_dotless free dot]
      simp

theorem ofText_decodes :
    (∀ text, Decodes text (ofText text)) ∧
    (∀ bean, ¬HoldsMarker bean → ofText (bean ++ "?method=") = ⟨bean, none⟩ ∧
      ∀ method, method ≠ "" → ofText (bean ++ "?method=" ++ method) = ⟨bean, some method⟩) ∧
    ∀ bean method, bean ≠ "" → method ≠ "" → '.' ∉ method.toList →
      ¬HoldsMarker (bean ++ "." ++ method) →
      ofText (bean ++ "." ++ method) = ⟨bean, some method⟩ := by
  refine ⟨decodes_ofText, ?_, ?_⟩
  · intro bean free
    constructor
    · have read := ofText_marked free ""
      rwa [String.append_empty, String.toList_empty, methodNamed_empty] at read
    · intro method named
      rw [ofText_marked free, methodNamed_toList named]
  · intro bean method nonempty named apart free
    rw [ofText_dotted nonempty apart free, methodNamed_toList named]

-- The bean ends in all of the marker but its last character.
theorem ofText_decodes_partialMarker :
    ¬HoldsMarker "a.?method" ∧
      ofText ("a.?method" ++ "?method=" ++ "b.c") = ⟨"a.?method", some "b.c"⟩ ∧
      Decodes ("a.?method" ++ "?method=" ++ "b.c") ⟨"a.?method", some "b.c"⟩ := by
  have free : ¬HoldsMarker "a.?method" := cutAt?_eq_none_iff.1 (by decide)
  have read : ofText ("a.?method" ++ "?method=" ++ "b.c") = ⟨"a.?method", some "b.c"⟩ :=
    (ofText_decodes.2.1 "a.?method" free).2 "b.c" (by decide)
  refine ⟨free, read, ?_⟩
  rw [← read]
  exact ofText_decodes.1 _

end FileRouting.Reference
