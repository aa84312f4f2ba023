import Mathlib.Data.List.Perm.Basic
import Mathlib.Algebra.Order.Ring.Int

/-!
# Sorting by a comparison

`qsort` of C orders an array by a function that returns a negative number, zero or a positive one.
Where entries that compare equal end up is open, so a sort is any function that permutes and orders.

* `Qsort.merge`: a comparison that is a total preorder has a sort.
* `Qsort.order`: what the comparison says of two entries holds of every two positions.
* `Qsort.in_front`, `Qsort.not_in_front`: of two entries the one that compares lower is in front.
-/

namespace GridWay

/-- A correct sort by a comparison. -/
structure Qsort {α : Type*} (cmp : α → α → Int) where
  sort : List α → List α
  perm : ∀ xs, (sort xs).Perm xs
  sorted : ∀ xs, (sort xs).Pairwise fun a b => cmp a b ≤ 0

namespace Qsort

variable {α : Type*} {cmp : α → α → Int}

/-- The sort by merging. -/
def merge (trans : ∀ a b c, cmp a b ≤ 0 → cmp b c ≤ 0 → cmp a c ≤ 0)
    (total : ∀ a b, cmp a b ≤ 0 ∨ cmp b a ≤ 0) : Qsort cmp where
  sort xs := xs.mergeSort fun a b => decide (cmp a b ≤ 0)
  perm xs := List.mergeSort_perm xs _
  sorted xs := by
    have sorted := List.pairwise_mergeSort
      (fun a b c first second => decide_eq_true
        (trans a b c (of_decide_eq_true first) (of_decide_eq_true second)))
      (fun a b => by simpa using total a b) xs
    exact sorted.imp of_decide_eq_true

/-- A relation that follows from the comparison holds along the sorted list. -/
lemma order (q : Qsort cmp) {r : α → α → Prop} (xs : List α)
    (follows : ∀ a b, cmp a b ≤ 0 → r a b) :
    (q.sort xs).Pairwise r := (q.sorted xs).imp fun {a b} => follows a b

lemma mem (q : Qsort cmp) {xs : List α} {a : α} : a ∈ q.sort xs ↔ a ∈ xs := (q.perm xs).mem_iff

/-- An entry that compares higher is not in front. -/
lemma not_in_front (q : Qsort cmp) (xs : List α) {a b : α} (higher : 0 < cmp b a) :
    ¬ [b, a].Sublist (q.sort xs) := by
  intro front
  have le : cmp b a ≤ 0 := by simpa using (q.sorted xs).sublist front
  omega

/-- Of two entries the one that compares lower is in front. -/
lemma in_front (q : Qsort cmp) {xs : List α} {a b : α} (higher : 0 < cmp b a) (lower : cmp a b ≤ 0)
    (mem_a : a ∈ xs) (mem_b : b ∈ xs) : [a, b].Sublist (q.sort xs) := by
  obtain ⟨before, after, sorted⟩ := List.append_of_mem (q.mem.2 mem_a)
  have apart : b ≠ a := by
    rintro rfl
    omega
  have mem := q.mem.2 mem_b
  have not_before : b ∉ before := by
    intro before_b
    apply q.not_in_front xs higher
    rw [sorted]
    exact (List.singleton_sublist.2 before_b).append (List.singleton_sublist.2 (by simp))
  rw [sorted] at mem ⊢
  have after_b : b ∈ after := by simpa [not_before, apart] using mem
  exact ((List.singleton_sublist.2 after_b).cons_cons a).trans (List.sublist_append_right before _)

end Qsort

end GridWay
