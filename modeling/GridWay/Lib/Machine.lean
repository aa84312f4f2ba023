import Mathlib.Data.List.Basic

/-!
# Runs of a deterministic machine

A machine is a step function from a state and an event to the next state. A run is a list of
events. A guard says which events are allowed in which states; a guarded run meets the guard at
every event.

* `Machine.run_induction`: what holds at the start and is preserved by every allowed step holds
  after every guarded run.
* `Machine.observe`: a machine with an observer that follows its steps.
-/

namespace GridWay.Machine

variable {σ ε ω : Type*}

/-- The state after a list of events. -/
def run (step : σ → ε → σ) (s : σ) (evs : List ε) : σ := evs.foldl step s

/-- Every event of the run is allowed in the state in which it happens. -/
def Guarded (step : σ → ε → σ) (ok : σ → ε → Prop) : σ → List ε → Prop
  | _, [] => True
  | s, e :: evs => ok s e ∧ Guarded step ok (step s e) evs

instance Guarded.decidable (step : σ → ε → σ) (ok : σ → ε → Prop)
    [∀ s e, Decidable (ok s e)] : ∀ s evs, Decidable (Guarded step ok s evs)
  | _, [] => inferInstanceAs (Decidable True)
  | s, e :: evs =>
    have := Guarded.decidable step ok (step s e) evs
    inferInstanceAs (Decidable (ok s e ∧ Guarded step ok (step s e) evs))

@[simp] lemma run_nil (step : σ → ε → σ) (s : σ) : run step s [] = s := rfl

@[simp] lemma run_cons (step : σ → ε → σ) (s : σ) (e : ε) (evs : List ε) :
    run step s (e :: evs) = run step (step s e) evs := rfl

lemma run_append (step : σ → ε → σ) (s : σ) (evs evs' : List ε) :
    run step s (evs ++ evs') = run step (run step s evs) evs' :=
  List.foldl_append ..

lemma guarded_append {step : σ → ε → σ} {ok : σ → ε → Prop} {s : σ} {evs evs' : List ε} :
    Guarded step ok s (evs ++ evs') ↔
      Guarded step ok s evs ∧ Guarded step ok (run step s evs) evs' := by
  induction evs generalizing s with
  | nil => simp [Guarded]
  | cons e evs ih => simp [Guarded, ih, and_assoc]

/-- A guarded run, cut at one of its events. -/
lemma guarded_cut {step : σ → ε → σ} {ok : σ → ε → Prop} {s : σ} {e : ε} {evs evs' : List ε}
    (guarded : Guarded step ok s (evs ++ e :: evs')) :
    Guarded step ok s evs ∧ ok (run step s evs) e ∧
      Guarded step ok (step (run step s evs) e) evs' := by
  obtain ⟨before, allowed, after⟩ := guarded_append.1 guarded
  exact ⟨before, allowed, after⟩

/-- An invariant that allowed steps preserve holds after every guarded run. -/
theorem run_induction {step : σ → ε → σ} {ok : σ → ε → Prop} (Inv : σ → Prop)
    (preserved : ∀ s e, Inv s → ok s e → Inv (step s e))
    {s : σ} {evs : List ε} (init : Inv s) (guarded : Guarded step ok s evs) :
    Inv (run step s evs) := by
  induction evs generalizing s with
  | nil => exact init
  | cons e evs ih =>
    obtain ⟨allowed, rest⟩ := guarded
    exact ih (preserved s e init allowed) rest

/-- What an invariant shows of every allowed step is so at every step of a guarded run. -/
theorem guarded_of_inv {step : σ → ε → σ} {ok shown : σ → ε → Prop} (Inv : σ → Prop)
    (preserved : ∀ s e, Inv s → ok s e → Inv (step s e))
    (shows : ∀ s e, Inv s → ok s e → shown s e)
    {s : σ} {evs : List ε} (init : Inv s) (guarded : Guarded step ok s evs) :
    Guarded step shown s evs := by
  induction evs generalizing s with
  | nil => exact trivial
  | cons e evs ih =>
    obtain ⟨allowed, rest⟩ := guarded
    exact ⟨shows s e init allowed, ih (preserved s e init allowed) rest⟩

/-- Two guards that agree wherever the invariant holds allow the same runs. -/
theorem guarded_iff {step : σ → ε → σ} {ok ok' : σ → ε → Prop} (Inv : σ → Prop)
    (preserved : ∀ s e, Inv s → ok s e → Inv (step s e))
    (same : ∀ s e, Inv s → (ok s e ↔ ok' s e)) {s : σ} {evs : List ε} (init : Inv s) :
    Guarded step ok s evs ↔ Guarded step ok' s evs := by
  constructor
  · intro guarded
    apply guarded_of_inv Inv preserved _ init guarded
    intro s e inv allowed
    exact (same s e inv).1 allowed
  · intro guarded
    refine guarded_of_inv Inv ?_ ?_ init guarded
    · intro s e inv allowed
      exact preserved s e inv ((same s e inv).2 allowed)
    · intro s e inv allowed
      exact (same s e inv).2 allowed

/-- An invariant that every step preserves holds after every run. -/
theorem run_invariant {step : σ → ε → σ} (Inv : σ → Prop)
    (preserved : ∀ s e, Inv s → Inv (step s e)) {s : σ} (init : Inv s) (evs : List ε) :
    Inv (run step s evs) := by
  induction evs generalizing s with
  | nil => exact init
  | cons e evs ih => exact ih (preserved s e init)

/-- What the events of a run cost. -/
def spent (step : σ → ε → σ) (cost : σ → ε → Nat) : σ → List ε → Nat
  | _, [] => 0
  | s, e :: evs => cost s e + spent step cost (step s e) evs

/-- Where every allowed step pays its cost out of a weight, a run spends no more than the weight at
its start. -/
theorem spent_le {step : σ → ε → σ} {ok : σ → ε → Prop} {cost : σ → ε → Nat} (Inv : σ → Prop)
    (weight : σ → Nat) (preserved : ∀ s e, Inv s → ok s e → Inv (step s e))
    (pays : ∀ s e, Inv s → ok s e → weight (step s e) + cost s e ≤ weight s)
    {s : σ} {evs : List ε} (init : Inv s) (guarded : Guarded step ok s evs) :
    weight (run step s evs) + spent step cost s evs ≤ weight s := by
  induction evs generalizing s with
  | nil => exact Nat.le_refl _
  | cons e evs ih =>
    obtain ⟨allowed, rest⟩ := guarded
    have here := pays s e init allowed
    have later := ih (preserved s e init allowed) rest
    rw [run_cons, spent]
    omega

/-- A machine whose observer is updated from the state before the step and the event. -/
def observe (step : σ → ε → σ) (look : σ → ω → ε → ω) (p : σ × ω) (e : ε) : σ × ω :=
  (step p.1 e, look p.1 p.2 e)

/-- The observer does not disturb the machine. -/
lemma run_observe_fst (step : σ → ε → σ) (look : σ → ω → ε → ω) (p : σ × ω) (evs : List ε) :
    (run (observe step look) p evs).1 = run step p.1 evs := by
  induction evs generalizing p with
  | nil => rfl
  | cons e evs ih => exact ih (observe step look p e)

end GridWay.Machine
