import GridWay.Dagman.Order
import Mathlib.Order.Filter.AtTopBot.Basic
import Mathlib.Order.Filter.Finite

/-!
# The main loop ends

* `Dag.Faithful`: the commands come in their order, and the main loop ends, with every job done or with an
  error that has its reason.
* `Dag.faithful_iff`: this is so when no job fails, or when a script or a submission fails in time.
* `Dag.never_ends`: otherwise the main loop goes on for ever.
-/

namespace GridWay.Dagman.Dag

open Filter

variable {J : Type} [DecidableEq J] (d : Dag J) (w : World J)

/-- Every job was submitted and done, and its scripts were run. -/
def AllDone (events : List (Event J)) : Prop :=
  ∀ j ∈ d.jobs, d.Marked j ∨ Submitted events j ∧ d.Completed events j

/-- A submitted job has failed, or a script or a submission. -/
def Failed (events : List (Event J)) : Prop :=
  (∃ j, Submitted events j ∧ w.succeeds j = false) ∨ Refused events

/-- The main loop ends with every job done when nothing has failed, and with an error when something
has. -/
def Ends : Except (State J) (State J) → Prop
  | .ok s => s.finished? = true ∧ d.AllDone s.events ∧ ¬Failed w s.events
  | .error s => Failed w s.events

/-- The state that a round leaves, or the one that is left behind. -/
def left : Except (State J) (State J) → State J
  | .ok s => s
  | .error s => s

/-- The commands come in their order, and the main loop ends as it should. -/
structure Faithful : Prop where
  legal : ∀ k, d.Legal (left (d.after w k)).events
  ends : ∃ k, d.Ends w (d.after w k)

variable {d w} {s s' : State J} {j : J} {k : ℕ}

theorem legal_after (d : Dag J) (w : World J) (k : ℕ) : d.Legal (left (d.after w k)).events := by
  have post := after_kept d w k
  cases result : d.after w k with
  | ok s => exact (post.of_ok result).legal
  | error s => exact (post.of_error result).legal

omit [DecidableEq J] in
lemma finished?_iff : s.finished? = true ↔ s.to_do = [] ∧ s.running = [] := by
  rw [State.finished?]
  cases s.to_do <;> cases s.running <;> simp

/-- A job that fails never gets done, and is waited for. -/
lemma not_finished (after : d.after w k = .ok s) (job : j ∈ d.jobs) (unmarked : ¬d.Marked j)
    (fails : w.succeeds j = false) : s.finished? = false := by
  have kept := (after_kept d w k).of_ok after
  by_contra finished
  rw [Bool.not_eq_false, finished?_iff] at finished
  obtain marked | waits | runs | done := kept.all j job
  · exact unmarked marked
  · rw [finished.1] at waits
    cases waits
  · rw [finished.2] at runs
    cases runs
  · have succeeds := (kept.seen j (kept.done j done).2.2.2).2.1
    cases succeeds.symm.trans fails

/-- A run that never exits. -/
structure Endless (d : Dag J) (w : World J) (st : ℕ → State J) : Prop where
  after : ∀ k, d.after w k = .ok (st k)
  going : ∀ k, (st k).finished? = false

variable {st : ℕ → State J}

lemma Endless.round (endless : Endless d w st) (k : ℕ) : d.Round w k (st k) (st (k + 1)) := by
  have kept := (after_kept d w k).of_ok (endless.after k)
  have next := endless.after (k + 1)
  rw [Dag.after, endless.after k] at next
  replace next : (if (st k).finished? then Except.ok (st k) else d.iterate w k (st k)) = _ := next
  rw [endless.going k, if_neg Bool.false_ne_true] at next
  exact (iterate_post kept).of_ok next

lemma Endless.stays (endless : Endless d w st) {k k' : ℕ} (le : k ≤ k') (done : j ∈ (st k).done) :
    j ∈ (st k').done := by
  induction k', le using Nat.le_induction with
  | base => exact done
  | succ k' _ ih => exact (endless.round k').done j ih

/-- A job that was submitted and succeeds is done at some time. -/
lemma Endless.ended (endless : Endless d w st) (runs : j ∈ (st k).running)
    (succeeds : w.succeeds j = true) : ∃ k', j ∈ (st k').done := by
  obtain ⟨k', le, out, answer, seen⟩ := w.ends j k
  rw [succeeds, if_pos rfl] at seen
  have still : j ∈ (st k').running ∨ j ∈ (st k').done := by
    clear answer
    induction k', le using Nat.le_induction with
    | base => exact .inl runs
    | succ k' _ ih =>
      obtain runs | done := ih
      · exact (endless.round k').running j runs
      · exact .inr ((endless.round k').done j done)
  obtain runs | done := still
  · exact ⟨k' + 1, (endless.round k').ended j runs out answer seen⟩
  · exact ⟨k', done⟩

/-- A job whose parents get done is submitted at some time. -/
lemma Endless.launched (endless : Endless d w st) (job : j ∈ d.jobs) (unmarked : ¬d.Marked j)
    (parents : ∀ p ∈ d.parents j, ∀ᶠ k in atTop, d.Marked p ∨ p ∈ (st k).done) :
    ∃ k, j ∈ (st k).running ∨ j ∈ (st k).done := by
  have all : ∀ᶠ k in atTop, ∀ p ∈ {p | p ∈ d.parents j}, d.Marked p ∨ p ∈ (st k).done :=
    (eventually_all_finite (List.finite_toSet _)).2 parents
  obtain ⟨k, done⟩ := all.exists
  have kept := (after_kept d w k).of_ok (endless.after k)
  obtain marked | waits | started := kept.all j job
  · exact absurd marked unmarked
  · exact ⟨k + 1, .inl ((endless.round k).launched j waits done)⟩
  · exact ⟨k, started⟩

/-- In a run that never exits, what gets done is done from some time on. -/
lemma Endless.completes (endless : Endless d w st) (completes : d.Completes w j) :
    ∀ᶠ k in atTop, d.Marked j ∨ j ∈ (st k).done := by
  induction completes with
  | marked marked => exact .of_forall fun _ => .inl marked
  | @ran j job parents starts succeeds closes ih =>
    by_cases marked : d.Marked j
    · exact .of_forall fun _ => .inl marked
    · obtain ⟨k, runs | done⟩ := endless.launched job marked ih
      · obtain ⟨k', done⟩ := endless.ended runs succeeds
        exact eventually_atTop.2 ⟨k', fun _ le => .inr (endless.stays le done)⟩
      · exact eventually_atTop.2 ⟨k, fun _ le => .inr (endless.stays le done)⟩

/-- A run that never exits meets no script and no submission that fails. -/
lemma Endless.not_stops (endless : Endless d w st) : ¬d.Stops w := by
  rintro ⟨j, job, unmarked, parents, breaks⟩
  obtain ⟨k, started⟩ :=
    endless.launched job unmarked fun p parent => endless.completes (parents p parent)
  have kept := (after_kept d w k).of_ok (endless.after k)
  obtain ⟨succeeds, broken⟩ := breaks (kept.started j started).2.1
  obtain ⟨k', done⟩ : ∃ k', j ∈ (st k').done := by
    obtain runs | done := started
    · exact endless.ended runs succeeds
    · exact ⟨k, done⟩
  have kept' := (after_kept d w k').of_ok (endless.after k')
  cases (kept'.done j done).2.1 with
  | marked marked => exact unmarked marked
  | ran _ _ _ _ closes => exact broken closes

/-- When no job fails, a run that never exits does all of them. -/
lemma Endless.all_complete (endless : Endless d w st)
    (succeed : ∀ j ∈ d.jobs, d.Marked j ∨ w.succeeds j = true) (job : j ∈ d.jobs) :
    d.Completes w j := by
  induction j using (wellFounded (d := d)).induction with
  | _ j ih =>
    have parents : ∀ p ∈ d.parents j, d.Completes w p :=
      fun p parent => ih p parent (mem_jobs parent).1
    obtain marked | succeeds := succeed j job
    · exact .marked marked
    · by_contra incomplete
      have unmarked : ¬d.Marked j := fun marked => incomplete (.marked marked)
      refine endless.not_stops ⟨j, job, unmarked, parents, fun starts => ⟨succeeds, ?_⟩⟩
      intro closes
      exact incomplete (.ran job parents starts succeeds closes)

/-- There is no run that never exits and in which no job fails. -/
lemma Endless.fails (endless : Endless d w st) :
    ¬∀ j ∈ d.jobs, d.Marked j ∨ w.succeeds j = true := by
  intro succeed
  have all : ∀ᶠ k in atTop, ∀ j ∈ {j | j ∈ d.jobs}, d.Marked j ∨ j ∈ (st k).done := by
    rw [eventually_all_finite (List.finite_toSet _)]
    intro j job
    exact endless.completes (endless.all_complete succeed job)
  obtain ⟨k, done⟩ := all.exists
  have kept := (after_kept d w k).of_ok (endless.after k)
  have to_do : (st k).to_do = [] := by
    rw [List.eq_nil_iff_forall_not_mem]
    intro j waits
    obtain ⟨job, unmarked, -⟩ := kept.unstarted j waits
    exact (kept.done j ((done j job).resolve_left unmarked)).2.2.1 waits
  have running : (st k).running = [] := by
    rw [List.eq_nil_iff_forall_not_mem]
    intro j runs
    obtain ⟨-, -, -, job, unmarked⟩ := kept.started j (.inl runs)
    exact (kept.running j runs).2.2 ((done j job).resolve_left unmarked)
  cases (endless.going k).symm.trans (finished?_iff.2 ⟨to_do, running⟩)

/-- A main loop that ends does so as it should. -/
lemma ends_of_finished (after : d.after w k = .ok s) (finished : s.finished? = true) :
    d.Ends w (d.after w k) := by
  have kept := (after_kept d w k).of_ok after
  obtain ⟨to_do, running⟩ := finished?_iff.1 finished
  have done : ∀ j ∈ d.jobs, d.Marked j ∨ j ∈ s.done := by
    intro j job
    obtain marked | waits | runs | done := kept.all j job
    · exact .inl marked
    · rw [to_do] at waits
      cases waits
    · rw [running] at runs
      cases runs
    · exact .inr done
  rw [after]
  refine ⟨finished, ?_, ?_⟩
  · intro j job
    exact (done j job).imp_right fun mem => ⟨(kept.started j (.inr mem)).1, (kept.done j mem).1⟩
  · rintro (⟨j, ⟨t, a, mem⟩, fails⟩ | refused)
    · obtain ⟨before, later, cut⟩ := List.append_of_mem mem
      obtain ⟨⟨job, unmarked, -⟩, -⟩ := kept.legal before _ later cut
      cases finished.symm.trans (not_finished after job unmarked fails)
    · exact kept.accepted refused

/-- The main loop ends, or goes on for ever. -/
lemma ends_or_endless (d : Dag J) (w : World J) :
    (∃ k, d.Ends w (d.after w k)) ∨ ∃ st, Endless d w st := by
  by_contra neither
  rw [not_or, not_exists, not_exists] at neither
  obtain ⟨none, exits⟩ := neither
  have going (k : ℕ) : ∃ s, d.after w k = .ok s ∧ s.finished? = false := by
    cases after : d.after w k with
    | ok s =>
      refine ⟨s, rfl, ?_⟩
      by_contra finished
      rw [Bool.not_eq_false] at finished
      exact none k (ends_of_finished after finished)
    | error s =>
      refine absurd ?_ (none k)
      rw [after]
      exact .inr ((after_kept d w k).of_error after).refused
  choose st after going using going
  exact exits st ⟨after, going⟩

/-- When a job fails, and no script and no submission fails, the main loop never ends. -/
theorem never_ends (fails : ¬∀ j ∈ d.jobs, d.Marked j ∨ w.succeeds j = true) (goes : ¬d.Stops w)
    (k : ℕ) : ∃ s, d.after w k = .ok s ∧ s.finished? = false := by
  cases after : d.after w k with
  | ok s =>
    refine ⟨s, rfl, ?_⟩
    by_contra finished
    apply fails
    intro j job
    by_contra bad
    rw [not_or, Bool.not_eq_true] at bad
    exact finished (not_finished after job bad.1 bad.2)
  | error s => exact absurd ((after_kept d w k).of_error after).stops goes

/-- The runner is faithful when no job fails, or when a script or a submission fails of a job whose turn
comes, and only then. -/
theorem faithful_iff (d : Dag J) (w : World J) :
    d.Faithful w ↔ (∀ j ∈ d.jobs, d.Marked j ∨ w.succeeds j = true) ∨ d.Stops w := by
  constructor
  · rintro ⟨-, k, ends⟩
    by_contra neither
    rw [not_or] at neither
    obtain ⟨s, after, going⟩ := never_ends neither.1 neither.2 k
    rw [after] at ends
    cases ends.1.symm.trans going
  · intro fine
    refine ⟨legal_after d w, ?_⟩
    obtain ends | ⟨st, endless⟩ := ends_or_endless d w
    · exact ends
    · obtain succeed | stops := fine
      · exact absurd succeed endless.fails
      · exact absurd stops endless.not_stops

/-- A job and its child. -/
def pair : Dag Bool where
  jobs := [true, false]
  node j := { name := if j then "A".toList else "B".toList, template := "job.jt".toList }
  dependencies := [(false, [true])]
  nodup := by decide
  closed := by decide
  acyclic j := by
    have up {p c : Bool} (path : Relation.TransGen
        (fun p c => ∃ d ∈ [(false, [true])], c = d.1 ∧ p ∈ d.2) p c) : p = true ∧ c = false := by
      induction path with
      | single edge =>
        obtain ⟨d, mem, rfl, parent⟩ := edge
        cases List.mem_singleton.1 mem
        exact ⟨List.mem_singleton.1 parent, rfl⟩
      | tail _ edge ih =>
        obtain ⟨d, mem, rfl, parent⟩ := edge
        cases List.mem_singleton.1 mem
        exact ⟨ih.1, rfl⟩
    intro cycle
    cases (up cycle).1.symm.trans (up cycle).2

/-- Every job fails. -/
def failing : World Bool where
  ps _ _ := some "JOB_STATE=fail\n".toList
  script _ _ := true
  submit _ := some "JOB ID: 0\n".toList
  succeeds _ := false
  seen_done k j out answer done := by
    cases answer
    exact absurd done (by decide)
  seen_fail _ _ _ _ _ := rfl
  ends j k := ⟨k, Nat.le_refl k, _, rfl, by decide⟩

/-- The child of a job that fails is waited for, and so is the job. -/
theorem unfaithful : ¬pair.Faithful failing := by
  rintro ⟨-, k, ends⟩
  have unmarked : ¬∀ j ∈ pair.jobs, pair.Marked j ∨ failing.succeeds j = true := by
    intro all
    obtain marked | succeeds := all true List.mem_cons_self
    · cases marked
    · cases succeeds
  have goes : ¬pair.Stops failing := by
    rintro ⟨j, -, -, -, breaks⟩
    have starts : pair.Starts failing j := by
      refine ⟨fun _ => rfl, ?_⟩
      show (jobIdOf _).isSome = true
      decide
    cases (breaks starts).1
  obtain ⟨s, after, going⟩ := never_ends unmarked goes k
  rw [after] at ends
  cases ends.1.symm.trans going

end GridWay.Dagman.Dag
