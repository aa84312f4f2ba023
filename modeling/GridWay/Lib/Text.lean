import Mathlib.Data.List.TakeWhile

/-!
# Cutting lists at separators

A list is cut at the first or at the last occurrence of a separator, or at every pair of equal
separators that follow each other.

* `Cut.atFirst_eq_some_iff`: what the parts are.
* `Cut.atFirst_append`: the first part is read back when it has no separator in it.
* `Cut.atFirst_append_mem`: it is not read back when it has one.
* `Cut.atSub_append`: the same for a separator of several elements.
-/

namespace GridWay.Cut

variable {α : Type*} [DecidableEq α] {c : α} {xs ys zs : List α}

/-- The parts before and after the first `c`. -/
def atFirst (c : α) : List α → Option (List α × List α)
  | [] => none
  | x :: xs =>
    if x = c then some ([], xs) else (atFirst c xs).map fun (before, after) => (x :: before, after)

/-- The parts before and after the first occurrence of `sub`. -/
def atSub (sub : List α) : List α → Option (List α × List α)
  | [] => if sub = [] then some ([], []) else none
  | x :: xs =>
    if sub.isPrefixOf (x :: xs) then some ([], (x :: xs).drop sub.length)
    else (atSub sub xs).map fun (before, after) => (x :: before, after)

/-- The parts before and after the last `c`. -/
def atLast (c : α) : List α → Option (List α × List α)
  | [] => none
  | x :: xs =>
    match atLast c xs with
    | some (before, after) => some (x :: before, after)
    | none => if x = c then some ([], xs) else none

/-- The pieces between the pairs `c c`, which are found from left to right. -/
def pieces (c : α) : List α → List (List α)
  | [] => [[]]
  | [x] => [[x]]
  | x :: y :: xs =>
    if x = c ∧ y = c then [] :: pieces c xs
    else
      match pieces c (y :: xs) with
      | [] => [[x]]
      | piece :: rest => (x :: piece) :: rest

/-- There is a pair `c c` in the list. -/
def hasPair (c : α) : List α → Bool
  | x :: y :: xs => (decide (x = c) && decide (y = c)) || hasPair c (y :: xs)
  | _ => false

lemma atFirst_eq_some_iff : atFirst c xs = some (ys, zs) ↔ xs = ys ++ c :: zs ∧ c ∉ ys := by
  induction xs generalizing ys with
  | nil => simp [atFirst]
  | cons x xs ih =>
    by_cases here : x = c
    · subst here
      cases ys with
      | nil => simp [atFirst, eq_comm]
      | cons y ys =>
        simp only [atFirst, if_true, Option.some.injEq, Prod.mk.injEq, List.cons_append,
          List.cons.injEq, List.mem_cons, not_or]
        constructor
        · rintro ⟨⟨⟩, -⟩
        · rintro ⟨⟨rfl, -⟩, h, -⟩
          exact absurd rfl h
    · cases ys with
      | nil => simp [atFirst, here]
      | cons y ys =>
        rw [atFirst, if_neg here, Option.map_eq_some_iff]
        constructor
        · rintro ⟨⟨ys', zs'⟩, found, pair⟩
          cases pair
          obtain ⟨rfl, fresh⟩ := ih.1 found
          exact ⟨rfl, by simp [fresh, Ne.symm here]⟩
        · rintro ⟨eq, fresh⟩
          cases eq
          have fresh' : c ∉ ys := fun mem => fresh (List.mem_cons_of_mem _ mem)
          exact ⟨(ys, zs), ih.2 ⟨rfl, fresh'⟩, rfl⟩

/-- A part without the separator is read back. -/
lemma atFirst_append (fresh : c ∉ ys) (zs : List α) : atFirst c (ys ++ c :: zs) = some (ys, zs) :=
  atFirst_eq_some_iff.2 ⟨rfl, fresh⟩

/-- With a separator in the first part, the second part comes back longer. -/
lemma atFirst_append_mem (mem : c ∈ ys) (zs : List α) :
    ∃ before after, atFirst c (ys ++ c :: zs) = some (before, after) ∧
      zs.length < after.length := by
  obtain ⟨before, after, rfl, fresh⟩ := List.eq_append_cons_of_mem mem
  refine ⟨before, after ++ c :: zs, ?_, ?_⟩
  · rw [List.append_assoc, List.cons_append]
    exact atFirst_append fresh _
  · rw [List.length_append, List.length_cons]
    omega

lemma atFirst_eq_none_iff : atFirst c xs = none ↔ c ∉ xs := by
  induction xs with
  | nil => simp [atFirst]
  | cons x xs ih =>
    by_cases here : x = c
    · simp [atFirst, here]
    · rw [atFirst, if_neg here, Option.map_eq_none_iff, ih, List.mem_cons, not_or]
      exact ⟨fun later => ⟨Ne.symm here, later⟩, fun h => h.2⟩

/-- A part without the first element of the separator is read back. -/
lemma atSub_append {sub : List α} (fresh : c ∉ ys) (zs : List α) :
    atSub (c :: sub) (ys ++ (c :: sub) ++ zs) = some (ys, zs) := by
  induction ys with
  | nil =>
    have pre : (c :: sub).isPrefixOf (c :: sub ++ zs) = true :=
      List.isPrefixOf_iff_prefix.2 (List.prefix_append _ _)
    rw [List.nil_append, List.cons_append, atSub, ← List.cons_append, if_pos pre, List.drop_left]
  | cons y ys ih =>
    have other : ¬(c :: sub).isPrefixOf (y :: (ys ++ (c :: sub) ++ zs)) = true := by
      intro pre
      have same := (List.cons_prefix_cons.1 (List.isPrefixOf_iff_prefix.1 pre)).1
      exact fresh (same ▸ List.mem_cons_self)
    rw [List.cons_append, List.cons_append, atSub, if_neg other,
      ih fun mem => fresh (List.mem_cons_of_mem _ mem)]
    rfl

/-- The parts at the last separator make up the list. -/
lemma eq_of_atLast (cut : atLast c xs = some (ys, zs)) : xs = ys ++ c :: zs := by
  induction xs generalizing ys with
  | nil => cases cut
  | cons x xs ih =>
    rw [atLast] at cut
    cases later : atLast c xs with
    | some parts =>
      rw [later] at cut
      cases cut
      rw [ih later, List.cons_append]
    | none =>
      rw [later] at cut
      dsimp only at cut
      by_cases here : x = c
      · rw [if_pos here] at cut
        cases cut
        rw [here, List.nil_append]
      · rw [if_neg here] at cut
        cases cut

/-- A pair has its separator in it. -/
lemma hasPair_of_not_mem (fresh : c ∉ xs) : hasPair c xs = false := by
  induction xs with
  | nil => rfl
  | cons x xs ih =>
    cases xs with
    | nil => rfl
    | cons y xs =>
      have here : x ≠ c := fun eq => fresh (by simp [eq])
      rw [hasPair, ih fun mem => fresh (List.mem_cons_of_mem _ mem)]
      simp [here]

end GridWay.Cut
