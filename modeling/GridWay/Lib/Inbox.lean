import Mathlib.Data.List.Basic

/-!
# Shared queues

Several parties share one queue, and every entry may name the party it is for. What one party sees
of the queue is the list of its own entries.

* `Inbox.entries`: the entries of one key.
-/

namespace GridWay.Inbox

variable {α β κ : Type*} [DecidableEq κ] {f : α → Option (κ × β)} {k k' : κ}

/-- The entries of a key, read by `f`, in the order of the queue. -/
def entries (f : α → Option (κ × β)) (k : κ) (as : List α) : List β :=
  as.filterMap fun a => (f a).bind fun x => if x.1 = k then some x.2 else none

@[simp] lemma entries_nil : entries f k [] = [] := rfl

@[simp] lemma entries_append (as as' : List α) :
    entries f k (as ++ as') = entries f k as ++ entries f k as' := List.filterMap_append

/-- An entry of the key is seen. -/
lemma entries_cons_self {a : α} {b : β} (own : f a = some (k, b)) (as : List α) :
    entries f k (a :: as) = b :: entries f k as := by
  simp [entries, own]

/-- An entry of another key, or of none, is not seen. -/
lemma entries_cons_other {a : α} (other : ∀ b, f a ≠ some (k, b)) (as : List α) :
    entries f k (a :: as) = entries f k as := by
  have none : ((f a).bind fun x => if x.1 = k then some x.2 else none) = none := by
    rcases h : f a with _ | ⟨k', b⟩
    · rfl
    · have ne : k' ≠ k := by
        rintro rfl
        exact other b h
      simp [ne]
  simp only [entries, List.filterMap_cons, none]

/-- What is written for a key is seen by it. -/
lemma entries_map_self {g : β → α} (own : ∀ b, f (g b) = some (k, b)) (bs : List β) :
    entries f k (bs.map g) = bs := by
  induction bs with
  | nil => rfl
  | cons b bs ih => rw [List.map_cons, entries_cons_self (own b), ih]

/-- What is written for another key is not seen. -/
lemma entries_map_other {g : β → α} (own : ∀ b, f (g b) = some (k', b)) (other : k ≠ k')
    (bs : List β) : entries f k (bs.map g) = [] := by
  induction bs with
  | nil => rfl
  | cons b bs ih =>
    rw [List.map_cons, entries_cons_other, ih]
    intro b' same
    rw [own] at same
    cases same
    exact other rfl

end GridWay.Inbox
