import Mathlib.Data.List.Nodup
import Mathlib.Data.List.Perm.Basic

/-!
# Tables that are referred to by position

A table is a list whose entries have a key, and no two entries have the same key. Something that
stores the position of an entry refers to the key that is found there.

* `Table.Refers`: the entry at a position has a key.
* `Table.refers_eraseIdx_iff`: erasing an entry keeps the references below it and breaks all others.
-/

namespace GridWay.Table

variable {α κ : Type*} {key : α → κ} {xs : List α} {f : α → α} {x y : α} {i j k : Nat} {c : κ}

/-- The entry at a position has a key. -/
def Refers (key : α → κ) (xs : List α) (i : Nat) (c : κ) : Prop := ∃ x, xs[i]? = some x ∧ key x = c

/-- What refers to a position is decided by the keys. -/
lemma refers_iff_keys : Refers key xs i c ↔ (xs.map key)[i]? = some c := by
  simp [Refers, List.getElem?_map]

/-- The keys are unique, so a key has one position. -/
lemma position_unique (unique : (xs.map key).Nodup) (at_i : xs[i]? = some x) (at_j : xs[j]? = some y)
    (same : key x = key y) : i = j := by
  have below : i < (xs.map key).length := by
    rw [List.length_map]
    exact (List.getElem?_eq_some_iff.1 at_i).1
  refine (List.getElem?_inj below unique).1 ?_
  rw [List.getElem?_map, List.getElem?_map, at_i, at_j, Option.map_some, Option.map_some, same]

lemma getElem?_modify (at_i : xs[i]? = some x) :
    (xs.modify k f)[i]? = some (if k = i then f x else x) := by
  rw [List.getElem?_modify, at_i]
  rfl

lemma mem_modify (mem : y ∈ xs.modify k f) :
    ∃ i x, xs[i]? = some x ∧ y = if k = i then f x else x := by
  obtain ⟨i, at_i⟩ := List.mem_iff_getElem?.1 mem
  rw [List.getElem?_modify] at at_i
  obtain ⟨x, old, new⟩ := Option.map_eq_some_iff.1 at_i
  exact ⟨i, x, old, new.symm⟩

/-- A change that keeps the keys. -/
lemma keys_modify (same : ∀ x, key (f x) = key x) : (xs.modify k f).map key = xs.map key := by
  apply List.ext_getElem?
  intro i
  rw [List.getElem?_map, List.getElem?_map, List.getElem?_modify]
  cases xs[i]? with
  | none => rfl
  | some x =>
    by_cases here : k = i <;> simp [here, same]

lemma Refers.modify (same : ∀ x, key (f x) = key x) (h : Refers key xs i c) :
    Refers key (xs.modify k f) i c := by
  obtain ⟨x, at_i, rfl⟩ := h
  refine ⟨_, getElem?_modify at_i, ?_⟩
  split
  · exact same x
  · rfl

lemma Refers.of_modify (same : ∀ x, key (f x) = key x) (h : Refers key (xs.modify k f) i c) :
    Refers key xs i c := by
  rw [refers_iff_keys, keys_modify same] at h
  exact refers_iff_keys.2 h

lemma Refers.map {g : α → α} (same : ∀ x, key (g x) = key x) (h : Refers key xs i c) :
    Refers key (xs.map g) i c := by
  obtain ⟨x, at_i, rfl⟩ := h
  exact ⟨g x, by rw [List.getElem?_map, at_i, Option.map_some], same x⟩

lemma Refers.append {ys : List α} (h : Refers key xs i c) : Refers key (xs ++ ys) i c := by
  obtain ⟨x, at_i, rfl⟩ := h
  refine ⟨x, ?_, rfl⟩
  rw [List.getElem?_append_left (List.getElem?_eq_some_iff.1 at_i).1, at_i]

/-- An erased entry moves the entries after it, so only the references below it stay. -/
lemma refers_eraseIdx_iff (unique : (xs.map key).Nodup) (h : Refers key xs i c) :
    Refers key (xs.eraseIdx k) i c ↔ i < k := by
  obtain ⟨x, at_i, rfl⟩ := h
  constructor
  · rintro ⟨y, at_y, same⟩
    by_contra after
    rw [List.getElem?_eraseIdx_of_ge (Nat.le_of_not_lt after)] at at_y
    have := position_unique unique at_y at_i same
    omega
  · intro below
    exact ⟨x, by rw [List.getElem?_eraseIdx_of_lt below, at_i], rfl⟩

lemma countP_eraseIdx {p : α → Bool} (at_i : xs[i]? = some x) :
    (xs.eraseIdx i).countP p + (if p x then 1 else 0) = xs.countP p := by
  obtain ⟨below, rfl⟩ := List.getElem?_eq_some_iff.1 at_i
  have perm := (List.getElem_cons_eraseIdx_perm below).countP_eq p
  rw [List.countP_cons] at perm
  exact perm

end GridWay.Table
