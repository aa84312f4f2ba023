import Mathlib.Data.List.Nodup

/-!
# Greedy passes

A pass over a list that serves its entries in order, at most `budget` of them: an entry that can be
placed in the state that the entries before it left is placed, and the others are kept.

* `Greedy.serve`: the pass.
* `Greedy.serve_blocked`: what is kept cannot be placed after a pass that was not cut short.
* `Greedy.serve_cut`: a pass that was cut short keeps an entry that can be placed.
* `Greedy.Loop.serve`: a loop that deletes what it places from the list that it walks over is a
  pass.
-/

namespace Greedy

section

variable {σ α β : Type*} (place : σ → α → Option β) (charge : σ → α → β → σ)

/-- A pass: what was placed, and what was kept. -/
def serve : Nat → σ → List α → List (α × β) × List α
  | _, _, [] => ([], [])
  | 0, _, x :: xs => ([], x :: xs)
  | budget + 1, s, x :: xs =>
    match place s x with
    | none =>
      let (placed, kept) := serve (budget + 1) s xs
      (placed, x :: kept)
    | some y =>
      let (placed, kept) := serve budget (charge s x y) xs
      ((x, y) :: placed, kept)

/-- The state after a pass. -/
def after (s : σ) (placed : List (α × β)) : σ := placed.foldl (fun s x => charge s x.1 x.2) s

variable {place charge} {s : σ} {budget : Nat} {x : α} {y : β} {xs : List α}

@[simp] lemma serve_nil : serve place charge budget s [] = ([], []) := by
  cases budget <;> rfl

@[simp] lemma serve_zero : serve place charge 0 s xs = ([], xs) := by
  cases xs <;> rfl

lemma serve_keep (blocked : place s x = none) :
    serve place charge budget s (x :: xs) =
      ((serve place charge budget s xs).1, x :: (serve place charge budget s xs).2) := by
  cases budget with
  | zero => simp [serve]
  | succ budget => rw [serve, blocked]

lemma serve_place (free : place s x = some y) :
    serve place charge (budget + 1) s (x :: xs) =
      ((x, y) :: (serve place charge budget (charge s x y) xs).1,
        (serve place charge budget (charge s x y) xs).2) := by
  rw [serve, free]

@[simp] lemma after_nil : after charge s [] = s := rfl

@[simp] lemma after_cons (placed : List (α × β)) :
    after charge s ((x, y) :: placed) = after charge (charge s x y) placed := rfl

lemma after_append (placed placed' : List (α × β)) :
    after charge s (placed ++ placed') = after charge (after charge s placed) placed' :=
  List.foldl_append

/-- A pass places no more than its budget. -/
lemma serve_length_le : (serve place charge budget s xs).1.length ≤ budget := by
  induction xs generalizing budget s with
  | nil => simp
  | cons x xs ih =>
    cases budget with
    | zero => simp
    | succ budget =>
      cases here : place s x with
      | none =>
        rw [serve_keep here]
        exact ih
      | some y =>
        rw [serve_place here]
        exact Nat.succ_le_succ ih

/-- What was placed and what was kept are the list, each in its order. -/
lemma serve_sublist :
    ((serve place charge budget s xs).1.map Prod.fst).Sublist xs ∧
      (serve place charge budget s xs).2.Sublist xs := by
  induction xs generalizing budget s with
  | nil => simp
  | cons x xs ih =>
    cases budget with
    | zero => simp
    | succ budget =>
      cases here : place s x with
      | none =>
        rw [serve_keep here]
        exact ⟨.cons _ ih.1, .cons_cons _ ih.2⟩
      | some y =>
        rw [serve_place here]
        exact ⟨.cons_cons _ ih.1, .cons _ ih.2⟩

lemma serve_perm :
    ((serve place charge budget s xs).1.map Prod.fst ++ (serve place charge budget s xs).2).Perm
      xs := by
  induction xs generalizing budget s with
  | nil => simp
  | cons x xs ih =>
    cases budget with
    | zero => simp
    | succ budget =>
      cases here : place s x with
      | none =>
        rw [serve_keep here]
        exact List.perm_middle.trans (ih.cons x)
      | some y =>
        rw [serve_place here]
        exact ih.cons x

/-- The list is as long as what was placed and what was kept. -/
lemma serve_length :
    (serve place charge budget s xs).1.length + (serve place charge budget s xs).2.length =
      xs.length := by
  have perm : ((serve place charge budget s xs).1.map Prod.fst ++
      (serve place charge budget s xs).2).Perm xs := serve_perm
  simpa using perm.length_eq

/-- What holds of the state and of what was placed so far holds after the pass, when it is kept by
the placing of an entry. -/
lemma serve_invariant {P : σ → List (α × β) → Prop}
    (step : ∀ s placed x y, x ∈ xs → P s placed → place s x = some y →
      P (charge s x y) (placed ++ [(x, y)])) {before : List (α × β)} (start : P s before) :
    P (after charge s (serve place charge budget s xs).1)
      (before ++ (serve place charge budget s xs).1) := by
  induction xs generalizing budget s before with
  | nil => simpa using start
  | cons x xs ih =>
    have later := fun s placed x' y mem => step s placed x' y (List.mem_cons_of_mem x mem)
    cases budget with
    | zero => simpa using start
    | succ budget =>
      cases here : place s x with
      | none =>
        rw [serve_keep here]
        exact ih later start
      | some y =>
        rw [serve_place here, after_cons, List.append_cons]
        exact ih later (step s before x y List.mem_cons_self start here)

/-- A budget for all that can be placed changes nothing. -/
lemma serve_enough {budget' : Nat} (enough : (serve place charge budget' s xs).1.length ≤ budget)
    (more : budget ≤ budget') :
    serve place charge budget s xs = serve place charge budget' s xs := by
  induction xs generalizing budget budget' s with
  | nil => simp
  | cons x xs ih =>
    cases here : place s x with
    | none =>
      rw [serve_keep here] at enough
      rw [serve_keep here, serve_keep here, ih enough more]
    | some y =>
      cases budget' with
      | zero =>
        obtain rfl := Nat.le_zero.1 more
        rfl
      | succ budget' =>
        rw [serve_place here] at enough
        cases budget with
        | zero => cases enough
        | succ budget =>
          rw [serve_place here, serve_place here,
            ih (Nat.le_of_succ_le_succ enough) (Nat.le_of_succ_le_succ more)]

/-- A budget that is too small keeps an entry that can be placed. -/
lemma serve_cut {budget' : Nat} (cut : budget < (serve place charge budget' s xs).1.length) :
    ∃ x ∈ (serve place charge budget s xs).2,
      place (after charge s (serve place charge budget s xs).1) x ≠ none := by
  induction xs generalizing budget budget' s with
  | nil => simp at cut
  | cons x xs ih =>
    cases here : place s x with
    | none =>
      rw [serve_keep here] at cut ⊢
      obtain ⟨z, mem, free⟩ := ih cut
      exact ⟨z, List.mem_cons_of_mem x mem, free⟩
    | some y =>
      cases budget with
      | zero =>
        rw [serve_zero]
        exact ⟨x, List.mem_cons_self, by simp [here]⟩
      | succ budget =>
        cases budget' with
        | zero => simp at cut
        | succ budget' =>
          rw [serve_place here] at cut ⊢
          exact ih (Nat.lt_of_succ_lt_succ cut)

section Blocked

variable (mono : ∀ s x y z, place s z = none → place (charge s x y) z = none)

include mono

/-- What cannot be placed cannot be placed later. -/
lemma blocked_after {placed : List (α × β)} (blocked : place s x = none) :
    place (after charge s placed) x = none := by
  induction placed generalizing s with
  | nil => exact blocked
  | cons entry placed ih => exact ih (mono s entry.1 entry.2 x blocked)

/-- What is kept cannot be placed after a pass that did not use up its budget. -/
lemma serve_blocked (room : (serve place charge budget s xs).1.length < budget) :
    ∀ x ∈ (serve place charge budget s xs).2,
      place (after charge s (serve place charge budget s xs).1) x = none := by
  induction xs generalizing budget s with
  | nil => simp
  | cons x xs ih =>
    cases budget with
    | zero => simp at room
    | succ budget =>
      cases here : place s x with
      | none =>
        rw [serve_keep here] at room ⊢
        intro z mem
        rcases List.mem_cons.1 mem with rfl | mem
        · exact blocked_after mono here
        · exact ih room z mem
      | some y =>
        rw [serve_place here] at room ⊢
        exact ih (Nat.lt_of_succ_lt_succ room)

/-- A pass with room for all keeps only what cannot be placed. -/
lemma serve_unlimited (all : xs.length ≤ budget) :
    ∀ x ∈ (serve place charge budget s xs).2,
      place (after charge s (serve place charge budget s xs).1) x = none := by
  have length : (serve place charge budget s xs).1.length +
      (serve place charge budget s xs).2.length = xs.length := serve_length
  rcases Nat.lt_or_ge (serve place charge budget s xs).1.length budget with room | full
  · exact serve_blocked mono room
  · intro x mem
    have kept := List.length_pos_of_mem mem
    omega

end Blocked

end

/-- A list that is part of a state. -/
structure Held (σ α : Type*) where
  get : σ → List α
  put : List α → σ → σ
  get_put : ∀ xs s, get (put xs s) = xs
  put_get : ∀ s, put (get s) s = s
  put_put : ∀ xs ys s, put xs (put ys s) = put xs s

section Loop

variable {σ α β : Type*} {held : Held σ α} {place : σ → α → Option β} {charge : σ → α → β → σ}
  {most : Nat} {Inv : σ → Prop} {run : Nat → Nat → Nat → σ → σ × Nat}

/-- Neither the placing of an entry nor what it costs depends on the list. -/
structure Apart (held : Held σ α) (place : σ → α → Option β) (charge : σ → α → β → σ) : Prop where
  place : ∀ xs s x, place (held.put xs s) x = place s x
  charge : ∀ xs s x y, charge (held.put xs s) x y = held.put xs (charge s x y)

lemma serve_put (apart : Apart held place charge) {budget : Nat} {s : σ} {xs ys : List α} :
    serve place charge budget (held.put ys s) xs = serve place charge budget s xs := by
  induction xs generalizing budget s with
  | nil => simp
  | cons x xs ih =>
    cases budget with
    | zero => simp
    | succ budget =>
      rw [serve, serve, apart.place]
      cases place s x with
      | none =>
        dsimp only
        rw [ih]
      | some y =>
        dsimp only
        rw [apart.charge, ih]

lemma after_put (apart : Apart held place charge) {s : σ} {ys : List α}
    {placed : List (α × β)} :
    after charge (held.put ys s) placed = held.put ys (after charge s placed) := by
  induction placed generalizing s with
  | nil => rfl
  | cons entry placed ih =>
    change after charge (charge (held.put ys s) entry.1 entry.2) placed = _
    rw [apart.charge, ih]
    rfl

/-- The rounds of a loop that counts what it places, from a position of the list on: an entry that
cannot be placed is passed over, and one that can be placed leaves the list. -/
structure Loop (held : Held σ α) (place : σ → α → Option β) (charge : σ → α → β → σ) (most : Nat)
    (Inv : σ → Prop) (run : Nat → Nat → Nat → σ → σ × Nat) : Prop where
  past : ∀ {n i d s}, most ≤ d → run n i d s = (s, d)
  ended : ∀ {n i d s}, (held.get s)[i]? = none → run n i d s = (s, d)
  skip : ∀ {n i d s x}, Inv s → (held.get s)[i]? = some x → d < most → place s x = none →
    run (n + 1) i d s = run n (i + 1) d s
  send : ∀ {n d s x y pre xs}, Inv s → held.get s = pre ++ x :: xs → d < most →
    place s x = some y →
    Inv (held.put (pre ++ xs) (charge s x y)) ∧
      run (n + 1) pre.length d s = run n pre.length (d + 1) (held.put (pre ++ xs) (charge s x y))

/-- The loop is a pass. -/
lemma Loop.serve (loop : Loop held place charge most Inv run) (apart : Apart held place charge)
    {n d : Nat} {s : σ} {pre xs : List α} (inv : Inv s) (list : held.get s = pre ++ xs)
    (rounds : xs.length ≤ n) :
    run n pre.length d s =
      (held.put (pre ++ (Greedy.serve place charge (most - d) s xs).2)
          (after charge s (Greedy.serve place charge (most - d) s xs).1),
        d + (Greedy.serve place charge (most - d) s xs).1.length) := by
  have stay : (held.put (pre ++ xs) s, d + 0) = (s, d) := by rw [← list, held.put_get]; rfl
  induction n generalizing s pre xs d with
  | zero =>
    obtain rfl := List.length_eq_zero_iff.1 (Nat.le_zero.1 rounds)
    rw [serve_nil, loop.ended (by simp [list])]
    exact stay.symm
  | succ n ih =>
    cases xs with
    | nil =>
      rw [serve_nil, loop.ended (by simp [list])]
      exact stay.symm
    | cons x xs =>
      have here : (held.get s)[pre.length]? = some x := by simp [list]
      rcases Nat.lt_or_ge d most with room | past
      · cases found : place s x with
        | none =>
          have list' : held.get s = pre ++ [x] ++ xs := by simp [list]
          have rest := ih (d := d) inv list' (Nat.le_of_succ_le_succ rounds)
            (by rw [← list', held.put_get]; rfl)
          rw [List.length_append, List.length_singleton, List.append_assoc] at rest
          rw [loop.skip inv here room found, rest, serve_keep found]
          rfl
        | some y =>
          obtain ⟨inv', step⟩ := loop.send (n := n) inv list room found
          have budget : most - d = most - (d + 1) + 1 := by omega
          rw [step, ih inv' (held.get_put _ _) (Nat.le_of_succ_le_succ rounds)
            (by rw [held.put_put]), serve_put apart, after_put apart, held.put_put, budget,
            serve_place found]
          exact Prod.ext rfl (Nat.succ_add_eq_add_succ _ _)
      · rw [loop.past past, Nat.sub_eq_zero_of_le past, serve_zero]
        exact stay.symm

end Loop

end Greedy
