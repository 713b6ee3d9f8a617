import FileRouting.Schema.Basic

/-!
# The order of violations

Violations are sorted by their places, and those of one place stay in the order in which they were
found. So an order of violations need only be shown for violations of different places, and in the
found order for those of one place: `pairwise_sortedViolations`.
-/

namespace FileRouting

/-! ## The order of places -/

namespace Place

section

variable {place other : Place} {a b : String} {i j : Nat}

@[simp]
theorem key_le_key : le (.key a :: place) (.key b :: other) =
    if a = b then place.le other else decide (a < b) := rfl

@[simp]
theorem index_le_index : le (.index i :: place) (.index j :: other) =
    if i = j then place.le other else decide (i < j) := rfl

@[simp]
theorem key_le_index : le (.key a :: place) (.index j :: other) = true := rfl

@[simp]
theorem index_le_key : le (.index i :: place) (.key b :: other) = false := rfl

end

theorem le_refl (place : Place) : place.le place := by
  induction place with
  | nil => rfl
  | cons step place ih => cases step <;> simpa using ih

theorem le_trans (a b c : Place) (h : a.le b) (h' : b.le c) : a.le c := by
  induction a generalizing b c with
  | nil => rfl
  | cons step a ih =>
    cases b with
    | nil => cases h
    | cons step' b =>
      cases c with
      | nil => cases h'
      | cons step'' c =>
        cases step <;> cases step' <;> cases step'' <;>
          simp only [key_le_key, index_le_index, key_le_index, index_le_key] at h h' ⊢ <;> grind

theorem le_total (a b : Place) : a.le b || b.le a := by
  induction a generalizing b with
  | nil => rfl
  | cons step a ih =>
    cases b with
    | nil => rfl
    | cons step' b =>
      cases step <;> cases step' <;>
        simp only [key_le_key, index_le_index, key_le_index, index_le_key] <;> grind

end Place

/-! ## Sorting by place -/

/-- Sorting leaves elements that are not behind one another in their order. -/
theorem filter_mergeSort {α : Type} {le : α → α → Bool} (trans : ∀ a b c, le a b → le b c → le a c)
    (total : ∀ a b, le a b || le b a) {f : α → Bool} (level : ∀ a b, f a → f b → le a b)
    (l : List α) : (l.mergeSort le).filter f = l.filter f := by
  have ordered : (l.filter f).Pairwise fun a b => le a b := by
    rw [List.pairwise_filter, List.pairwise_iff_forall_sublist]
    intro a b _ ha hb
    exact level a b ha hb
  have kept : (l.filter f).Sublist (l.mergeSort le) :=
    List.sublist_mergeSort trans total ordered List.filter_sublist
  have kept_filter := kept.filter f
  rw [List.filter_filter] at kept_filter
  simp only [Bool.and_self] at kept_filter
  exact (kept_filter.eq_of_length ((List.mergeSort_perm l le).filter f).length_eq.symm).symm

namespace Schema

section

variable {schema : Schema} {document : Document}

theorem mem_sortedViolations {found : Place × Violation} :
    found ∈ schema.sortedViolations document ↔ found ∈ schema.violations document :=
  List.mem_mergeSort

theorem sublist_of_sublist_sortedViolations {a b : Place × Violation}
    (h : [a, b].Sublist (schema.sortedViolations document)) (same : a.1 = b.1) :
    [a, b].Sublist (schema.violations document) := by
  have level : ∀ x y : Place × Violation, decide (x.1 = a.1) → decide (y.1 = a.1) →
      x.1.le y.1 := by
    intro x y hx hy
    rw [of_decide_eq_true hx, of_decide_eq_true hy]
    exact Place.le_refl _
  have stable := filter_mergeSort (fun a b c => Place.le_trans a.1 b.1 c.1)
    (fun a b => Place.le_total a.1 b.1) level (schema.violations document)
  have here : [a, b].filter (fun x => decide (x.1 = a.1)) = [a, b] := by simp [same]
  have class_of := h.filter fun x => decide (x.1 = a.1)
  rw [here, sortedViolations, stable] at class_of
  exact class_of.trans List.filter_sublist

theorem pairwise_sortedViolations {R : Place × Violation → Place × Violation → Prop}
    (apart : ∀ a ∈ schema.violations document, ∀ b ∈ schema.violations document,
      a.1 ≠ b.1 → a.1.le b.1 → R a b)
    (together : (schema.violations document).Pairwise fun a b => a.1 = b.1 → R a b) :
    (schema.sortedViolations document).Pairwise R := by
  have sorted : (schema.sortedViolations document).Pairwise fun a b => a.1.le b.1 :=
    List.pairwise_mergeSort (fun a b c => Place.le_trans a.1 b.1 c.1)
      (fun a b => Place.le_total a.1 b.1) _
  rw [List.pairwise_iff_forall_sublist] at sorted together ⊢
  intro a b pair
  by_cases same : a.1 = b.1
  · exact together (sublist_of_sublist_sortedViolations pair same) same
  · refine apart a ?_ b ?_ same (sorted pair)
    · exact mem_sortedViolations.1 (pair.subset (by simp))
    · exact mem_sortedViolations.1 (pair.subset (by simp))

end

end Schema

end FileRouting
