import Mathlib.Order.Lattice
import Mathlib.Order.BoundedOrder.Lattice

/-!
# Steps within a budget

A step fails when its item is not allowed, or when there is no room for what is used with what the
item needs. A list of steps is a step of the same kind.

* `Budget.Spends.list`: a list of items is done when every item is allowed and there is room for all of
  them together.
-/

namespace GridWay.Budget

variable {σ α L : Type*} [SemilatticeSup L] [OrderBot L]

/-- What a list of items needs. -/
def total (needs : α → L) (items : List α) : L := items.foldr (fun a all => needs a ⊔ all) ⊥

/-- A step that is done when its item is allowed and there is room for it. -/
structure Spends (step : σ → α → Option σ) (inv : σ → Prop) (used : σ → L) (needs : α → L)
    (allowed : α → Prop) (room : L → Prop) : Prop where
  smaller : ∀ {a b}, room (a ⊔ b) → room a
  within : ∀ {s}, inv s → room (used s)
  done : ∀ {s a}, inv s → ((step s a).isSome ↔ allowed a ∧ room (used s ⊔ needs a))
  next : ∀ {s a s'}, inv s → step s a = some s' → inv s' ∧ used s' = used s ⊔ needs a

variable {step : σ → α → Option σ} {inv : σ → Prop} {used : σ → L} {needs : α → L}
  {allowed : α → Prop} {room : L → Prop} {s s' : σ} {items : List α}

lemma Spends.list_next (spends : Spends step inv used needs allowed room) (start : inv s)
    (done : items.foldlM step s = some s') :
    inv s' ∧ used s' = used s ⊔ total needs items := by
  induction items generalizing s with
  | nil =>
    cases done
    exact ⟨start, (sup_bot_eq _).symm⟩
  | cons a items ih =>
    rw [List.foldlM_cons] at done
    obtain ⟨next, one, rest⟩ := Option.bind_eq_some_iff.1 done
    obtain ⟨kept, uses⟩ := spends.next start one
    obtain ⟨kept', uses'⟩ := ih kept rest
    refine ⟨kept', uses'.trans ?_⟩
    rw [uses, sup_assoc]
    rfl

lemma Spends.list_done (spends : Spends step inv used needs allowed room) (start : inv s) :
    (items.foldlM step s).isSome ↔
      (∀ a ∈ items, allowed a) ∧ room (used s ⊔ total needs items) := by
  induction items generalizing s with
  | nil =>
    rw [show used s ⊔ total needs [] = used s from sup_bot_eq _]
    exact iff_of_true rfl ⟨fun a h => absurd h List.not_mem_nil, spends.within start⟩
  | cons a items ih =>
    have sum : used s ⊔ total needs (a :: items) = used s ⊔ needs a ⊔ total needs items :=
      (sup_assoc ..).symm
    rw [List.foldlM_cons, List.forall_mem_cons, sum]
    cases one : step s a with
    | none =>
      have refused := spends.done (a := a) start
      rw [one] at refused
      refine iff_of_false (fun none => nomatch none) ?_
      rintro ⟨⟨allow, -⟩, fits⟩
      exact Bool.false_ne_true (refused.2 ⟨allow, spends.smaller fits⟩)
    | some next =>
      obtain ⟨kept, uses⟩ := spends.next start one
      obtain ⟨allow, -⟩ := (spends.done start).1 (Option.isSome_of_mem one)
      rw [← uses, and_iff_right allow]
      exact ih kept

/-- A list of items is done when every item is allowed and there is room for all of them together. -/
theorem Spends.list (spends : Spends step inv used needs allowed room) :
    Spends (fun s items => items.foldlM step s) inv used (total needs)
      (fun items => ∀ a ∈ items, allowed a) room where
  smaller := spends.smaller
  within := spends.within
  done := spends.list_done
  next := spends.list_next

end GridWay.Budget
