import Mathlib.Data.List.Basic

/-!
# Programs that can exit

A program returns a state, or exits with the one that it leaves behind.

* `Exit.Post`: what holds of the state that is returned, and of the one that is left behind.
* `Exit.Post.foldlM`: the rule for a loop over a list, with an invariant that sees what is left of the
  list.
-/

namespace GridWay.Exit

variable {σ ε α : Type*}

/-- What holds after a program. -/
def Post (P : σ → Prop) (Q : ε → Prop) : Except ε σ → Prop
  | .ok s => P s
  | .error e => Q e

variable {P P' : σ → Prop} {Q : ε → Prop} {r : Except ε σ} {s : σ}

lemma Post.of_ok (post : Post P Q r) (ok : r = .ok s) : P s := by
  rw [ok] at post
  exact post

lemma Post.of_error {e : ε} (post : Post P Q r) (error : r = .error e) : Q e := by
  rw [error] at post
  exact post

lemma Post.mono (post : Post P Q r) (weaker : ∀ s, P s → P' s) : Post P' Q r := by
  cases r with
  | ok s => exact weaker s post
  | error e => exact post

/-- One program after the other. -/
lemma Post.bind {f : σ → Except ε σ} (post : Post P Q r) (next : ∀ s, P s → Post P' Q (f s)) :
    Post P' Q (r >>= f) := by
  cases r with
  | ok s => exact next s post
  | error e => exact post

/-- A loop over a list. -/
theorem Post.foldlM {f : σ → α → Except ε σ} {Inv : List α → σ → Prop}
    (next : ∀ a rest s, Inv (a :: rest) s → Post (Inv rest) Q (f s a)) {l : List α}
    (start : Inv l s) : Post (Inv []) Q (l.foldlM f s) := by
  induction l generalizing s with
  | nil => exact start
  | cons a rest ih =>
    rw [List.foldlM_cons]
    apply Post.bind (next a rest s start)
    intro s' inv
    exact ih inv

end GridWay.Exit
