import GridWay.Gwd.Change
import GridWay.Gwd.Submit
import GridWay.Dm.Dispatches

/-!
# The job pool

What holds of the job pool in every run: jobs lie inside the pool and below the next id, and
transitions wait for jobs that were submitted only.

* `Gwd.Pool`: the invariant; `Gwd.pool_step`: one step.
-/

namespace GridWay

open Lifecycle

namespace Gwd

variable {w : World} {s s' : Gwd} {i j : JobId}

/-- The job pool is in order. -/
structure Pool (s : Gwd) : Prop where
  fresh : ∀ i, s.nextJobId ≤ i → s.jobs i = none
  bound : ∀ i, s.conf.numberOfJobs ≤ i → s.jobs i = none
  idle : ∀ i, s.nextJobId ≤ i → s.moves i = []

namespace Pool

lemma below (pool : Pool s) {job : Job} (here : s.jobs j = some job) : j < s.nextJobId := by
  by_contra above
  simp [pool.fresh j (Nat.not_lt.1 above)] at here

lemma inside (pool : Pool s) {job : Job} (here : s.jobs j = some job) :
    j < s.conf.numberOfJobs := by
  by_contra above
  simp [pool.bound j (Nat.not_lt.1 above)] at here

lemma start (conf : Conf) : Pool (Gwd.start conf) where
  fresh _ _ := rfl
  bound _ _ := rfl
  idle _ _ := rfl

lemma quiet (pool : Pool s) (quiet : Quiet s s') : Pool s' where
  fresh i above := by
    have gone := pool.fresh i (quiet.nextJobId ▸ above)
    simpa [gone] using quiet.jobs i
  bound i above := by
    have gone := pool.bound i (quiet.conf ▸ above)
    simpa [gone] using quiet.jobs i
  idle i above := quiet.still i (pool.idle i (quiet.nextJobId ▸ above))

/-- A reply for a job of the pool, after its action was taken from the queue. -/
lemma reply (pool : Pool s) {q : List DmItem} {job : Job} {r : Reply}
    (here : s.jobs j = some job)
    (others : ∀ i ≠ j, ({ s with dmQueue := q } : Gwd).moves i = s.moves i) :
    Pool (Gwd.reply w j r { s with dmQueue := q }) := by
  have below := pool.below here
  have inside := pool.inside here
  have gone {i : JobId} (ne : i ≠ j) (none : s.jobs i = none) :
      (Gwd.reply w j r { s with dmQueue := q }).jobs i = .none := by
    have released := reply_other (w := w) (s := { s with dmQueue := q }) (r := r) ne
    rw [show ({ s with dmQueue := q } : Gwd).jobs i = s.jobs i from rfl, none] at released
    exact released.none
  constructor
  case fresh =>
    intro i above
    rw [(reply_frame ..).2.2.1] at above
    exact gone (by rintro rfl; exact absurd below (Nat.not_lt.2 above)) (pool.fresh i above)
  case bound =>
    intro i above
    rw [(reply_frame ..).1] at above
    exact gone (by rintro rfl; exact absurd inside (Nat.not_lt.2 above)) (pool.bound i above)
  case idle =>
    intro i above
    rw [(reply_frame ..).2.2.1] at above
    have ne : i ≠ j := by rintro rfl; exact absurd below (Nat.not_lt.2 above)
    rw [reply_moves_other w r _ ne, others i ne]
    exact pool.idle i above

lemma grown (pool : Pool s) {js : List JobId} (grown : Grown js s s') : Pool s' where
  fresh i above := by
    have old : i ∉ js := fun mem => Nat.not_lt.2 above (grown.fresh i mem).2.1
    rw [grown.old i old]
    exact pool.fresh i (Nat.le_trans grown.nextJobId above)
  bound i above := by
    rw [grown.conf] at above
    have old : i ∉ js := fun mem => Nat.not_lt.2 above (grown.fresh i mem).2.2
    rw [grown.old i old]
    exact pool.bound i above
  idle i above := by
    simp only [Gwd.moves, grown.dmQueue]
    exact pool.idle i (Nat.le_trans grown.nextJobId above)

end Pool

/-- The other jobs keep their transitions when an action of a job is taken. -/
lemma moves_taken_other {a : DmAction} {rest : List DmItem} (queue : s.dmQueue = .job a j :: rest)
    (other : i ≠ j) : ({ s with dmQueue := rest } : Gwd).moves i = s.moves i :=
  moves_pop queue (by simp [DmItem.move?, Ne.symm other])

/-- What waited before an action was taken. -/
lemma moves_of_queue {a : DmAction} {rest : List DmItem} (queue : s.dmQueue = .job a j :: rest) :
    s.moves j =
      (if a.isTransition then [a] else []) ++ ({ s with dmQueue := rest } : Gwd).moves j := by
  by_cases move : a.isTransition <;> simp [moves, queue, DmItem.move?, move]

/-- The entry of a submission is no transition. -/
lemma quiet_taken {msg : SubmitMsg} {rest : List DmItem}
    (queue : s.dmQueue = .allocate msg :: rest) : Quiet s { s with dmQueue := rest } :=
  quiet_of_eq rfl rfl rfl (fun _ => moves_pop queue rfl) rfl rfl rfl rfl rfl

/-- The pool stays in order at every event. -/
theorem pool_step {e : Event} (pool : Pool s) (alive : s.crashed = false)
    (live : (s.step e).crashed = false) : Pool (s.step e) := by
  rcases step_cases alive live with ⟨quiet, -⟩ | ⟨wS, a, j, rest, job, rfl, queue, here, eq⟩ |
    ⟨wS, msg, rest, rfl, queue, eq⟩ |
    ⟨j, hid, queue, rank, w, host, job, rfl, there, here, eq⟩ | ⟨j, w, job, rfl, here, eq⟩
  · exact pool.quiet quiet
  · rw [eq]
    exact pool.reply here fun i other => moves_taken_other queue other
  · rw [eq] at live ⊢
    obtain ⟨js, grown, -⟩ := allocate_spec live
    exact (pool.quiet (quiet_taken queue)).grown grown
  · rw [eq]
    exact pool.reply (q := s.dmQueue) here fun _ _ => rfl
  · rw [eq]
    exact pool.reply (q := s.dmQueue) here fun _ _ => rfl

/-- A reloaded transfer driver starts the stage of the job again. -/
def reenters (st : JobState) : Bool :=
  st == .prolog || st == .epilog || st == .epilogStd || st == .migrEpilog || st == .epilogRestart
    || st == .epilogFail || st == .killEpilog || st == .stopEpilog

/-- The transition that a reloaded transfer driver queues: the entry of the state again. -/
lemma recover_cases (w' : World) (job : Job) :
    Tm.recover w' job = ⟨{ job with tmState := .init }, []⟩ ∨
    ∃ a, reenters job.jobState = true ∧ a.isTransition ∧ fits job.jobState (some a) ∧
      holding job.jobState (some a) = holding job.jobState none ∧
      Tm.recover w' job = ⟨{ job with tmState := .init }, [.dm a]⟩ := by
  unfold Tm.recover
  cases st : job.jobState
  case prolog => exact .inr ⟨.prolog, rfl, rfl, rfl, rfl, by simp⟩
  case epilog => exact .inr ⟨.epilog, rfl, rfl, rfl, rfl, by simp⟩
  case epilogStd => exact .inr ⟨.epilogStd, rfl, rfl, rfl, rfl, by simp⟩
  case migrEpilog => exact .inr ⟨.migrEpilog, rfl, rfl, rfl, rfl, by simp⟩
  case epilogRestart => exact .inr ⟨.epilogRestart, rfl, rfl, rfl, rfl, by simp⟩
  case epilogFail => exact .inr ⟨.epilogFail, rfl, rfl, rfl, rfl, by simp⟩
  case killEpilog => exact .inr ⟨.killEpilog, rfl, rfl, rfl, rfl, by simp⟩
  case stopEpilog => exact .inr ⟨.stopEpilog, rfl, rfl, rfl, rfl, by simp⟩
  all_goals exact .inl (by simp)

/-- A reply that writes the job, frees nothing and releases nothing. -/
lemma reply_write {r : Reply} (free : .free ∉ r.calls) (calm : ∀ code, Call.depCheck code ∉ r.calls) :
    (Gwd.reply w j r s).jobs j = some r.job := by
  rw [reply_self (.inr calm), if_neg free]

/-- A daemon that runs after a step ran before it. -/
lemma step_alive {e : Event} (live : (s.step e).crashed = false) : s.crashed = false := by
  cases crashed : s.crashed
  · rfl
  · simp [step, crashed] at live

lemma run_alive {evs : List Event} (live : (Machine.run step s evs).crashed = false) :
    s.crashed = false := by
  induction evs generalizing s with
  | nil => exact live
  | cons e evs ih => exact step_alive (ih live)

/-- Ids only go up. -/
lemma nextJobId_step {e : Event} (live : (s.step e).crashed = false) :
    s.nextJobId ≤ (s.step e).nextJobId := by
  rcases step_cases (step_alive live) live with ⟨quiet, -⟩ | ⟨wS, a, j, rest, job, -, -, -, eq⟩ |
    ⟨wS, msg, rest, -, -, eq⟩ | ⟨j, hid, queue, rank, w, host, job, -, -, -, eq⟩ |
    ⟨j, w, job, -, -, eq⟩
  · exact Nat.le_of_eq quiet.nextJobId.symm
  · rw [eq, (reply_frame ..).2.2.1]
  · rw [eq] at live ⊢
    obtain ⟨js, grown, -⟩ := allocate_spec live
    exact grown.nextJobId
  · rw [eq, (reply_frame ..).2.2.1]
  · rw [eq, (reply_frame ..).2.2.1]

/-- The pool is in order after every run. -/
lemma pool_run {evs : List Event} (pool : Pool s)
    (live : (Machine.run step s evs).crashed = false) : Pool (Machine.run step s evs) := by
  induction evs generalizing s with
  | nil => exact pool
  | cons e evs ih =>
    have live' := run_alive (s := s.step e) live
    exact ih (pool_step pool (step_alive live') live') live

end Gwd

end GridWay
