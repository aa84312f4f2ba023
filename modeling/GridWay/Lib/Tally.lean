import Mathlib.Algebra.BigOperators.Group.Finset.Basic
import Mathlib.Algebra.Order.BigOperators.Group.Finset
import Mathlib.Algebra.Order.Ring.Int
import Mathlib.Tactic.Ring

/-!
# Tallies

A counter that is kept next to a table of accounts is exact when it equals the sum of what the
accounts contribute. An update of one account moves the sum by the change of its contribution.

Changes come as lists of entries, each for a key; a counter is moved by the entries whose keys it
counts.

* `Tally.moved`: what the entries for some keys add up to.
* `Tally.countP_keys`: a list is split by the keys of its elements.
-/

namespace GridWay.Tally

variable {ι : Type*} [DecidableEq ι]

/-- The sum moves by the change at the one index that changes. -/
lemma sum_change {s : Finset ι} {f g : ι → ℤ} {j : ι} (mem : j ∈ s)
    (same : ∀ i ∈ s, i ≠ j → f i = g i) :
    ∑ i ∈ s, f i = ∑ i ∈ s, g i + (f j - g j) := by
  have rest : ∑ i ∈ s.erase j, f i = ∑ i ∈ s.erase j, g i :=
    Finset.sum_congr rfl fun i hi => same i (Finset.mem_of_mem_erase hi) (Finset.ne_of_mem_erase hi)
  have hf := Finset.add_sum_erase s f mem
  have hg := Finset.add_sum_erase s g mem
  omega

section Entries

variable {κ α : Type*} {P R : κ → Bool} {ks ks' : List κ} {xs ys : List (κ × ℤ)}

/-- What the entries with keys in `P` add up to. -/
def moved (P : κ → Bool) (xs : List (κ × ℤ)) : ℤ := (xs.map fun x => if P x.1 then x.2 else 0).sum

@[simp] lemma moved_nil : moved P [] = 0 := rfl

@[simp] lemma moved_cons (x : κ × ℤ) :
    moved P (x :: xs) = (if P x.1 then x.2 else 0) + moved P xs := rfl

@[simp] lemma moved_append : moved P (xs ++ ys) = moved P xs + moved P ys := by
  simp [moved]

/-- Entries of one amount. -/
lemma moved_map (ks : List κ) (n : ℤ) : moved P (ks.map fun k => (k, n)) = n * ks.countP P := by
  induction ks with
  | nil => simp
  | cons k ks ih =>
    rw [List.map_cons, moved_cons, ih, List.countP_cons]
    by_cases counted : P k
    · simp only [counted, if_true]
      push_cast
      ring
    · simp [counted]

/-- Keys that agree where it matters are counted alike. -/
lemma countP_of_filter_eq (sub : ∀ k, P k → R k) (same : ks.filter R = ks'.filter R) :
    ks.countP P = ks'.countP P := by
  have kept (ks : List κ) : (ks.filter R).countP P = ks.countP P := by
    rw [List.countP_filter]
    refine List.countP_congr fun k _ => ?_
    simpa using sub k
  rw [← kept ks, same, kept ks']

/-- A list is split by the keys of its elements: those among `names`, and the others. -/
lemma countP_keys [DecidableEq κ] (f : α → κ) {names : List κ} (nodup : names.Nodup) (l : List α) :
    (names.map fun n => l.countP (f · = n)).sum + l.countP (f · ∉ names) = l.length := by
  induction names with
  | nil => simp
  | cons n names ih =>
    obtain ⟨new, nodup⟩ := List.nodup_cons.1 nodup
    have split : l.countP (f · ∉ names) = l.countP (f · = n) + l.countP (f · ∉ n :: names) := by
      rw [List.countP_eq_countP_filter_add l (f · ∉ names) (f · = n), List.countP_filter,
        List.countP_filter]
      congr 1
      · refine List.countP_congr fun a _ => ?_
        simp only [decide_eq_true_eq, Bool.and_eq_true]
        exact ⟨And.right, fun same => ⟨same ▸ new, same⟩⟩
      · refine List.countP_congr fun a _ => ?_
        simp only [decide_eq_true_eq, Bool.and_eq_true, List.mem_cons, not_or, Bool.not_eq_true',
          decide_eq_false_iff_not]
        exact and_comm
    rw [List.map_cons, List.sum_cons, ← ih nodup, split]
    omega

end Entries

end GridWay.Tally
