import Mathlib.Data.List.Basic

/-!
# Computations that may raise

A computation reads and changes a state and may end with an error. What it changed before the error
stays changed.

* `Proc.bind_ok`: what a sequence did when it ended without an error.
* `Proc.Keeps`: what a computation leaves alone, however it ends.
-/

namespace GridWay

/-- A computation on states `σ`. -/
def Proc (σ α : Type) : Type := σ → Except String α × σ

namespace Proc

variable {σ α β : Type} {x : Proc σ α} {f : α → Proc σ β} {s s' : σ} {a : α} {b : β}

/-- One computation after the other. -/
def bind (x : Proc σ α) (f : α → Proc σ β) : Proc σ β := fun s =>
  match x s with
  | (.ok a, s) => f a s
  | (.error err, s) => (.error err, s)

/-- An error is handled. -/
def handle (x : Proc σ α) (h : String → Proc σ α) : Proc σ α := fun s =>
  match x s with
  | (.ok a, s) => (.ok a, s)
  | (.error err, s) => h err s

instance : Monad (Proc σ) where
  pure a := fun s => (.ok a, s)
  bind := bind

instance : MonadStateOf σ (Proc σ) where
  get := fun s => (.ok s, s)
  set s := fun _ => (.ok ⟨⟩, s)
  modifyGet f := fun s => (.ok (f s).1, (f s).2)

instance : MonadExceptOf String (Proc σ) where
  throw err := fun s => (.error err, s)
  tryCatch := handle

@[simp] lemma run_pure : (pure a : Proc σ α) s = (.ok a, s) := rfl

@[simp] lemma run_get : (get : Proc σ σ) s = (.ok s, s) := rfl

@[simp] lemma run_set : (set s' : Proc σ PUnit) s = (.ok ⟨⟩, s') := rfl

@[simp] lemma run_modify {g : σ → σ} : (modify g : Proc σ PUnit) s = (.ok ⟨⟩, g s) := rfl

@[simp] lemma run_throw {err : String} : (throw err : Proc σ α) s = (.error err, s) := rfl

lemma run_bind : (x >>= f) s = match x s with
    | (.ok a, s) => f a s
    | (.error err, s) => (.error err, s) := rfl

lemma bind_of_ok (h : x s = (.ok a, s')) : (x >>= f) s = f a s' := by
  rw [run_bind, h]

lemma bind_of_error {err : String} (h : x s = (.error err, s')) : (x >>= f) s = (.error err, s') := by
  rw [run_bind, h]

/-- What a computation returns is dropped. -/
lemma run_discard {r : Except String α} (h : x s = (r, s')) :
    (discard x : Proc σ PUnit) s = (r.map fun _ => PUnit.unit, s') := by
  cases r with
  | ok a => exact bind_of_ok (f := fun _ => pure PUnit.unit) h
  | error err => exact bind_of_error (f := fun _ => pure PUnit.unit) h

lemma handle_of_ok {h : String → Proc σ α} (done : x s = (.ok a, s')) :
    (tryCatch x h) s = (.ok a, s') := by
  show handle x h s = _
  rw [handle, done]

lemma handle_of_error {h : String → Proc σ α} {err : String} (raised : x s = (.error err, s')) :
    (tryCatch x h) s = h err s' := by
  show handle x h s = _
  rw [handle, raised]

/-- A sequence that ended without an error went through a state in the middle. -/
lemma bind_ok (h : (x >>= f) s = (.ok b, s')) : ∃ a t, x s = (.ok a, t) ∧ f a t = (.ok b, s') := by
  rw [run_bind] at h
  cases first : x s with
  | mk result t =>
    rw [first] at h
    cases result with
    | ok a => exact ⟨a, t, rfl, h⟩
    | error err => cases h

section Keeps

variable {γ : Type} {view : σ → γ} {h : String → Proc σ α}

/-- A part of the state is the same after the computation. -/
def Keeps (view : σ → γ) (x : Proc σ α) : Prop := ∀ s, view (x s).2 = view s

lemma keeps_pure : Keeps view (pure a : Proc σ α) := fun _ => rfl

lemma keeps_throw {err : String} : Keeps view (throw err : Proc σ α) := fun _ => rfl

lemma keeps_get : Keeps view (get : Proc σ σ) := fun _ => rfl

lemma keeps_modify {g : σ → σ} (same : ∀ s, view (g s) = view s) :
    Keeps view (modify g : Proc σ PUnit) := same

lemma keeps_bind (first : Keeps view x) (next : ∀ a, Keeps view (f a)) :
    Keeps view (x >>= f) := by
  intro s
  have same := first s
  rw [run_bind]
  cases result : x s with
  | mk r t =>
    rw [result] at same
    cases r with
    | ok a => exact (next a t).trans same
    | error err => exact same

lemma keeps_handle (first : Keeps view x) (next : ∀ err, Keeps view (h err)) :
    Keeps view (tryCatch x h) := by
  intro s
  have same := first s
  show view (handle x h s).2 = view s
  rw [handle]
  cases result : x s with
  | mk r t =>
    rw [result] at same
    cases r with
    | ok a => exact same
    | error err => exact (next err t).trans same

/-- What follows a computation keeps what the computation left. -/
lemma keeps_after (next : ∀ a, Keeps view (f a)) (s : σ) :
    view ((x >>= f) s).2 = view (x s).2 := by
  rw [run_bind]
  cases x s with
  | mk r t =>
    cases r with
    | ok a => exact next a t
    | error err => rfl

lemma Keeps.result {r : Except String α} (keeps : Keeps view x) (h : x s = (r, s')) :
    view s' = view s := by
  have same := keeps s
  rw [h] at same
  exact same

end Keeps

end Proc

end GridWay
