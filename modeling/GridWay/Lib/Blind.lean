import GridWay.Lib.Machine

/-!
# What an operation does not look at

A part of the state is removed by a function `hide`. An operation is blind to this part when what it
leaves of the rest depends on the rest only. Runs of blind operations that start alike stay alike.

* `Blind`: an operation on the state.
* `Blind.With`: an operation with a result, which is visible.
* `Blind.run`: two runs.
-/

namespace GridWay

variable {σ ε α : Type*} {hide : σ → σ}

/-- The visible part of what an operation leaves depends on the visible part. -/
def Blind (hide f : σ → σ) : Prop := ∀ s, hide (f s) = hide (f (hide s))

namespace Blind

variable {f g : σ → σ}

/-- States that look alike look alike afterwards. -/
lemma congr (blind : Blind hide f) {s s' : σ} (alike : hide s = hide s') :
    hide (f s) = hide (f s') := by
  rw [blind s, blind s', alike]

lemma id (idem : ∀ s, hide (hide s) = hide s) : Blind hide fun s => s := fun s => (idem s).symm

lemma comp (blind : Blind hide f) (next : Blind hide g) : Blind hide fun s => g (f s) :=
  fun s => next.congr (blind s)

/-- One operation for each entry of a list. -/
lemma foldl {f : σ → α → σ} (idem : ∀ s, hide (hide s) = hide s)
    (blind : ∀ a, Blind hide fun s => f s a) (as : List α) : Blind hide fun s => as.foldl f s := by
  induction as with
  | nil => exact id idem
  | cons a as ih => exact (blind a).comp ih

/-- An operation with a result. -/
def With (hide : σ → σ) (f : σ → σ × α) : Prop :=
  ∀ s, hide (f s).1 = hide (f (hide s)).1 ∧ (f s).2 = (f (hide s)).2

lemma With.congr {f : σ → σ × α} (blind : With hide f) {s s' : σ} (alike : hide s = hide s') :
    hide (f s).1 = hide (f s').1 ∧ (f s).2 = (f s').2 := by
  obtain ⟨left, result⟩ := blind s
  obtain ⟨left', result'⟩ := blind s'
  rw [left, left', result, result', alike]
  exact ⟨rfl, rfl⟩

/-- A run of blind steps from states that look alike. -/
theorem run {step : σ → ε → σ} (blind : ∀ e, Blind hide fun s => step s e) {s s' : σ}
    (alike : hide s = hide s') (evs : List ε) :
    hide (Machine.run step s evs) = hide (Machine.run step s' evs) := by
  induction evs generalizing s s' with
  | nil => exact alike
  | cons e evs ih => exact ih ((blind e).congr alike)

end Blind

end GridWay
