import Mathlib.Data.List.Nodup
import Mathlib.Data.List.Perm.Basic

/-!
# Trees by generations

A tree has a label and any number of subtrees. A forest is visited by generations when the roots come
first, in the order of the forest, and then the subtrees of all its trees, in any order.

* `Rose.Visited`: a list of labels visits a forest by generations.
* `Rose.Visited.perm`: such a list has every label of the forest once.
* `Rose.Visited.before`: the labels of one generation come before those of the later ones.
-/

namespace GridWay

/-- A tree. -/
inductive Rose (α : Type*) where
  | node (label : α) (children : List (Rose α))

namespace Rose

variable {α : Type*} {t s : Rose α} {ts ts' : List (Rose α)} {a b : α} {l : List α} {i j k : Nat}

/-- The label of the root. -/
def root : Rose α → α
  | node label _ => label

/-- The subtrees of the root. -/
def children : Rose α → List (Rose α)
  | node _ children => children

mutual

/-- The labels of a tree. -/
def labels : Rose α → List α
  | node label children => label :: labelsAll children

/-- The labels of a forest. -/
def labelsAll : List (Rose α) → List α
  | [] => []
  | t :: ts => labels t ++ labelsAll ts

end

/-- The labels of a generation of a forest. -/
def generation : Nat → List (Rose α) → List α
  | 0, ts => ts.map root
  | k + 1, ts => generation k (ts.flatMap children)

/-- A tree is a part of another one. -/
inductive Part : Rose α → Rose α → Prop
  | refl {t : Rose α} : Part t t
  | child {s t u : Rose α} (part : Part s t) (child : t ∈ u.children) : Part s u

lemma labels_eq (t : Rose α) : labels t = t.root :: labelsAll t.children := by
  cases t with
  | node label children => rw [labels]; rfl

lemma labelsAll_append : labelsAll (ts ++ ts') = labelsAll ts ++ labelsAll ts' := by
  induction ts with
  | nil => rw [labelsAll]; rfl
  | cons t ts ih => rw [List.cons_append, labelsAll, labelsAll, ih, List.append_assoc]

lemma labelsAll_perm (perm : ts.Perm ts') : (labelsAll ts).Perm (labelsAll ts') := by
  induction perm with
  | nil => exact .refl _
  | cons t _ ih =>
    rw [labelsAll, labelsAll]
    exact ih.append_left _
  | swap t u ts =>
    rw [labelsAll, labelsAll, labelsAll, labelsAll, ← List.append_assoc, ← List.append_assoc]
    exact List.perm_append_comm.append_right _
  | trans _ _ ih ih' => exact ih.trans ih'

/-- The labels of a forest are those of its roots and those of the next generations. -/
lemma labelsAll_split (ts : List (Rose α)) :
    (labelsAll ts).Perm (ts.map root ++ labelsAll (ts.flatMap children)) := by
  induction ts with
  | nil => exact .refl _
  | cons t ts ih =>
    rw [labelsAll, labels_eq, List.map_cons, List.flatMap_cons, labelsAll_append, List.cons_append,
      List.cons_append, List.perm_cons]
    apply (ih.append_left _).trans
    rw [← List.append_assoc, ← List.append_assoc]
    exact List.perm_append_comm.append_right _

lemma generation_perm (perm : ts.Perm ts') : (generation k ts).Perm (generation k ts') := by
  induction k generalizing ts ts' with
  | zero => exact perm.map root
  | succ k ih => exact ih (perm.flatMap_right children)

lemma mem_labelsAll_of_generation (mem : a ∈ generation k ts) : a ∈ labelsAll ts := by
  induction k generalizing ts with
  | zero => exact (labelsAll_split ts).symm.subset (List.mem_append_left _ mem)
  | succ k ih => exact (labelsAll_split ts).symm.subset (List.mem_append_right _ (ih mem))

lemma generation_subset (sub : ts ⊆ ts') : generation k ts ⊆ generation k ts' := by
  induction k generalizing ts ts' with
  | zero => exact List.map_subset root sub
  | succ k ih =>
    apply ih
    intro s mem
    obtain ⟨t, there, child⟩ := List.mem_flatMap.1 mem
    exact List.mem_flatMap.2 ⟨t, sub there, child⟩

/-- A subtree of a part is a part. -/
lemma Part.subtree {u : Rose α} (part : Part s t) (child : u ∈ s.children) : Part u t := by
  induction part with
  | refl => exact .child .refl child
  | child _ there ih => exact .child ih there

lemma labelsAll_subset (mem : t ∈ ts) : labels t ⊆ labelsAll ts := by
  induction ts with
  | nil => cases mem
  | cons u ts ih =>
    rw [labelsAll]
    obtain rfl | later := List.mem_cons.1 mem
    · exact List.subset_append_left _ _
    · exact List.Subset.trans (ih later) (List.subset_append_right _ _)

/-- The labels of a part are labels of the tree. -/
lemma Part.labels_subset (part : Part s t) : labels s ⊆ labels t := by
  induction part with
  | refl => exact List.Subset.refl _
  | @child t u _ child ih =>
    rw [labels_eq u]
    exact List.Subset.trans ih (List.Subset.trans (labelsAll_subset child)
      (List.subset_cons_self _ _))

lemma root_mem (t : Rose α) : t.root ∈ labels t := by
  rw [labels_eq]
  exact List.mem_cons_self

/-- The generations of a part are in later generations of the whole tree. -/
lemma Part.generation (part : Part s t) :
    ∃ i, ∀ k, generation k [s] ⊆ Rose.generation (i + k) [t] := by
  induction part with
  | refl => exact ⟨0, fun k => by rw [Nat.zero_add]; exact List.Subset.refl _⟩
  | @child t u part child ih =>
    obtain ⟨i, sub⟩ := ih
    refine ⟨i + 1, fun k => List.Subset.trans (sub k) ?_⟩
    rw [Nat.succ_add, Rose.generation]
    apply generation_subset
    intro v mem
    rw [List.mem_singleton] at mem
    subst mem
    exact List.mem_flatMap.2 ⟨u, List.mem_singleton_self u, child⟩

/-- A label comes before another one. -/
def Before (l : List α) (a b : α) : Prop := ∃ x y, l = x ++ y ∧ a ∈ x ∧ b ∈ y

/-- A list visits a forest by generations. -/
inductive Visited : List (Rose α) → List α → Prop
  | nil : Visited [] []
  | next {ts next : List (Rose α)} {l : List α} (children : next.Perm (ts.flatMap children))
    (rest : Visited next l) : Visited ts (ts.map root ++ l)

/-- Every label is visited once. -/
theorem Visited.perm (visited : Visited ts l) : l.Perm (labelsAll ts) := by
  induction visited with
  | nil => exact .refl _
  | @next ts next l children _ ih =>
    apply List.Perm.trans _ (labelsAll_split ts).symm
    exact (ih.trans (labelsAll_perm children)).append_left _

/-- The generations are visited one after the other. -/
theorem Visited.before (visited : Visited ts l) (lt : i < j) (mem : a ∈ generation i ts)
    (mem' : b ∈ generation j ts) : Before l a b := by
  induction visited generalizing i j with
  | nil =>
    have nothing := mem_labelsAll_of_generation mem
    rw [labelsAll] at nothing
    cases nothing
  | @next ts next l children rest ih =>
    obtain ⟨j, rfl⟩ : ∃ k, j = k + 1 := Nat.exists_eq_succ_of_ne_zero (Nat.ne_of_gt (Nat.zero_lt_of_lt lt))
    have later : b ∈ generation j next := (generation_perm children).symm.subset mem'
    cases i with
    | zero =>
      have there : b ∈ l := rest.perm.symm.subset (mem_labelsAll_of_generation later)
      exact ⟨ts.map root, l, rfl, mem, there⟩
    | succ i =>
      have here : a ∈ generation i next := (generation_perm children).symm.subset mem
      obtain ⟨x, y, rfl, first, second⟩ := ih (Nat.lt_of_succ_lt_succ lt) here later
      exact ⟨ts.map root ++ x, y, (List.append_assoc _ _ _).symm, List.mem_append_right _ first, second⟩

end Rose

end GridWay
