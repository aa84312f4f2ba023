import GridWay.Em.Action
import GridWay.Lib.Machine
import Mathlib.Algebra.Order.Ring.Int

/-!
# The retries of an execution

The decision to retry is split: `gw_em_failed` compares the tries with the limit and sets a
countdown, `gw_em_timer` counts it down and queues the submission, and `gw_em_submit` counts the
try. The timer is an action of the same queue and runs only when nothing is queued.

* `Retrying.retries_iff`: in which runs every failure ends in a resubmission or a report.
-/

namespace GridWay.Em

open Machine

/-- The call writes a `SUBMIT` to a driver. -/
def isSubmission : Call → Bool
  | .emMad _ (.submit _ _) => true
  | _ => false

/-- The call tells the Dispatch Manager that the execution has failed. -/
def isReport : Call → Bool
  | .dm .wrapperFailed => true
  | _ => false

/-- The call queues a submission. -/
def queuesSubmit : Call → Bool
  | .em .submit => true
  | _ => false

/-- A job in execution, and what was done for its newest record. -/
structure Retrying where
  job : Job
  /-- A `GW_EM_SUBMIT` is in the queue. -/
  queued : Bool := false
  /-- The number of `SUBMIT` written to the driver. -/
  sent : Nat := 0
  /-- The number of `WRAPPER_FAILED` sent to the Dispatch Manager. -/
  told : Nat := 0
  /-- A `WRAPPER_FAILED` was sent since the last `SUBMIT`. -/
  reported : Bool := false

inductive RetryEvent where
  | failed (w : World)
  | tick (w : World)
  /-- The queue comes to the submission. -/
  | serve (w : World)
  /-- The pre-wrapper is over and the Dispatch Manager has the wrapper submitted. -/
  | next (w : World)

namespace Retrying

/-- The handler has run. -/
def after (s : Retrying) (r : Reply) : Retrying where
  job := r.job
  queued := s.queued || r.calls.any queuesSubmit
  sent := s.sent + r.calls.countP isSubmission
  told := s.told + r.calls.countP isReport
  reported := s.reported && !r.calls.any isSubmission || r.calls.any isReport

def step (s : Retrying) : RetryEvent → Retrying
  | .failed w => s.after (Em.failed w s.job)
  | .tick w => if s.queued then s else s.after (timer w s.job)
  | .serve w =>
    if s.queued then ({ s with queued := false } : Retrying).after (submit w s.job) else s
  | .next w =>
    if s.job.jobState = .preWrapper ∧ s.queued = false then
      s.after (submit w { s.job with jobState := .wrapper, emState := .init })
    else s

/-- The resubmissions and reports. -/
def outcomes (s : Retrying) : Nat := s.sent + s.told

/-- Ticks, before each of which the queue is served. -/
def rounds (s : Retrying) (ws : List World) : Retrying :=
  ws.foldl (fun s w => (s.step (.serve w)).step (.tick w)) s

/-- After finitely many ticks there is one resubmission or report more than in `s`, for good. -/
def Leads (s s' : Retrying) : Prop :=
  ∃ n, ∀ ws : List World, n ≤ ws.length → (s'.rounds ws).outcomes = s.outcomes + 1

/-- The job has failed, the countdown is over, and nobody was told. -/
def Left (s : Retrying) : Prop :=
  s.job.emState = .failed ∧ (∀ head ∈ s.job.history.head?, head.counter < 0) ∧
    s.queued = false ∧ s.reported = false

/-- The event keeps what the retries are for. -/
def Sound (s : Retrying) (e : RetryEvent) : Prop :=
  ((s.step e).sent : Int) ≤ max 1 (s.step e).job.template.numberOfRetries ∧ ¬(s.step e).Left ∧
    match e with
    | .failed _ => s.Leads (s.step e)
    | _ => True

/-- The event does not meet a defect: a failure that may be retried comes after a try was counted,
and the pre-wrapper has left a try to the wrapper. -/
def Allowed (s : Retrying) : RetryEvent → Prop
  | .failed _ => ∀ head ∈ s.job.history.head?, head.tries = 0 → s.job.template.numberOfRetries ≤ 0
  | .next w => s.job.jobState = .preWrapper → s.queued = false → w.rsl → w.rslFile →
      (s.sent : Int) < max 1 s.job.template.numberOfRetries
  | _ => True

/-- The start: the newest record was submitted once; or it was recovered, with no try counted, or
with none left after a `RECOVER` that failed. -/
structure Start (s : Retrying) : Prop where
  execution : s.job.jobState.isExecution
  state : s.job.emState ≠ .failed
  idle : s.queued = false
  record : ∃ head past, s.job.history = head :: past ∧ head.counter = -1 ∧
    (head.tries = s.sent ∧ s.sent ≤ 1 ∨
      head.tries = s.job.template.numberOfRetries ∧ s.sent = 0)

end Retrying

/-- What the retries depend on. -/
structure Countdown where
  tries : Int
  counter : Int
  failed : Bool
  queued : Bool
  sent : Nat
  told : Nat
  reported : Bool

namespace Countdown

/-- A failure, with the limit of the tries. -/
def fail (retries : Int) (c : Countdown) : Countdown :=
  if retries ≤ c.tries then
    { c with counter := -1, failed := true, told := c.told + 1, reported := true }
  else { c with counter := c.tries, failed := true }

def tick (c : Countdown) : Countdown :=
  if c.queued then c
  else if c.failed ∧ c.counter ≠ -1 then
    if c.counter - 1 = 0 then { c with counter := -1, queued := true }
    else { c with counter := c.counter - 1 }
  else c

/-- A submission, which is sent or fails at once. -/
def submit (sent : Bool) (c : Countdown) : Countdown :=
  if sent then
    { c with
      tries := c.tries + 1
      counter := -1
      failed := false
      queued := false
      sent := c.sent + 1
      reported := false }
  else
    { c with
      counter := -1
      failed := true
      queued := false
      told := c.told + 1
      reported := true }

def serve (sent : Bool) (c : Countdown) : Countdown := if c.queued then c.submit sent else c

def outcomes (c : Countdown) : Nat := c.sent + c.told

/-- Ticks, before each of which the queue is served. -/
def rounds (c : Countdown) (sent : List Bool) : Countdown :=
  sent.foldl (fun c sent => (c.serve sent).tick) c

/-- What holds of the retries from the first submission on. -/
structure Inv (retries : Int) (c : Countdown) : Prop where
  tries : c.tries = c.sent ∨ c.tries = retries + c.sent
  bound : (c.sent : Int) ≤ max 1 retries
  counter : c.counter = -1 ∨ 1 ≤ c.counter ∧ c.failed = true ∧ 1 ≤ c.tries ∧ c.tries < retries
  queued : c.queued = true → 1 ≤ c.tries ∧ c.tries < retries
  told : c.failed = true → c.counter = -1 → c.queued = true ∨ c.reported = true

variable {c : Countdown} {retries : Int} {sent : List Bool}

/-- Nothing is queued, and no countdown is running. -/
def Idle (c : Countdown) : Prop := c.queued = false ∧ (c.failed = true → c.counter = -1)

lemma tick_idle (idle : c.Idle) : c.tick = c := by
  rw [tick, if_neg (by rw [idle.1]; nofun), if_neg]
  rintro ⟨failed, counter⟩
  exact counter (idle.2 failed)

lemma idle_submit (ok : Bool) : (c.submit ok).Idle := by
  rw [submit]
  split <;> exact ⟨rfl, fun _ => rfl⟩

lemma outcomes_submit (ok : Bool) : (c.submit ok).outcomes = c.outcomes + 1 := by
  rw [submit]
  split <;> simp only [outcomes] <;> omega

lemma rounds_idle (idle : c.Idle) (sent : List Bool) : c.rounds sent = c := by
  induction sent with
  | nil => rfl
  | cons ok sent ih =>
    have served : c.serve ok = c := if_neg (by rw [idle.1]; nofun)
    rw [rounds, List.foldl_cons, served, tick_idle idle]
    exact ih

/-- What is queued is the outcome. -/
lemma rounds_queued (queued : c.queued = true) (some_round : 1 ≤ sent.length) :
    (c.rounds sent).outcomes = c.outcomes + 1 := by
  cases sent with
  | nil => cases some_round
  | cons ok sent =>
    have served : c.serve ok = c.submit ok := if_pos queued
    rw [rounds, List.foldl_cons, served, tick_idle (idle_submit ok)]
    exact (congrArg outcomes (rounds_idle (idle_submit ok) sent)).trans (outcomes_submit ok)

/-- A countdown that is running ends in a submission. -/
lemma rounds_armed (k : Nat) (quiet : c.queued = false) (failed : c.failed = true)
    (counter : c.counter = k + 1) (enough : k + 2 ≤ sent.length) :
    (c.rounds sent).outcomes = c.outcomes + 1 := by
  induction k generalizing c sent with
  | zero =>
    cases sent with
    | nil => cases enough
    | cons ok sent =>
      have served : c.serve ok = c := if_neg (by rw [quiet]; nofun)
      have last : c.tick = { c with counter := -1, queued := true } := by
        rw [tick, if_neg (by rw [quiet]; nofun), if_pos ⟨failed, by omega⟩, if_pos (by omega)]
      rw [rounds, List.foldl_cons, served, last]
      apply rounds_queued rfl
      rw [List.length_cons] at enough
      omega
  | succ k ih =>
    cases sent with
    | nil => cases enough
    | cons ok sent =>
      have served : c.serve ok = c := if_neg (by rw [quiet]; nofun)
      have more : c.tick = { c with counter := c.counter - 1 } := by
        rw [tick, if_neg (by rw [quiet]; nofun), if_pos ⟨failed, by omega⟩, if_neg (by omega)]
      rw [rounds, List.foldl_cons, served, more]
      rw [List.length_cons] at enough
      refine ih quiet failed ?_ (by omega)
      dsimp only
      omega

/-- A countdown that starts at zero never ends. -/
lemma rounds_stalled (quiet : c.queued = false) (failed : c.failed = true)
    (counter : c.counter = 0) : (c.rounds sent).outcomes = c.outcomes := by
  cases sent with
  | nil => rfl
  | cons ok sent =>
    have served : c.serve ok = c := if_neg (by rw [quiet]; nofun)
    have missed : c.tick = { c with counter := -1 } := by
      rw [tick, if_neg (by rw [quiet]; nofun), if_pos ⟨failed, by omega⟩, if_neg (by omega),
        counter]
      rfl
    rw [rounds, List.foldl_cons, served, missed]
    have settled : Idle { c with counter := -1 } := ⟨quiet, fun _ => rfl⟩
    have kept := congrArg outcomes (rounds_idle settled sent)
    exact kept

lemma inv_fail (inv : Inv retries c) (counted : c.tries = 0 → retries ≤ 0) :
    Inv retries (c.fail retries) := by
  obtain ⟨tries, bound, counter, queued, told⟩ := inv
  rw [fail]
  split
  case isTrue limit => exact ⟨tries, bound, .inl rfl, queued, fun _ _ => .inr rfl⟩
  case isFalse more =>
    refine ⟨tries, bound, .inr ⟨?_, rfl, ?_, ?_⟩, queued, ?_⟩ <;> dsimp only <;> omega

/-- Every failure has its outcome once a try was counted. -/
lemma fail_leads (inv : Inv retries c) (counted : c.tries = 0 → retries ≤ 0) :
    ∃ n, ∀ sent : List Bool, n ≤ sent.length →
      ((c.fail retries).rounds sent).outcomes = c.outcomes + 1 := by
  obtain ⟨tries, bound, counter, queued, told⟩ := inv
  by_cases limit : retries ≤ c.tries
  · have quiet : c.queued = false := by
      rw [Bool.eq_false_iff]
      intro waits
      have := queued waits
      omega
    refine ⟨0, fun sent _ => ?_⟩
    rw [fail, if_pos limit, rounds_idle]
    · rfl
    · exact ⟨quiet, fun _ => rfl⟩
  · rw [fail, if_neg limit]
    cases quiet : c.queued with
    | true => exact ⟨1, fun sent enough => rounds_queued rfl enough⟩
    | false =>
      refine ⟨(c.tries - 1).toNat + 2, fun sent enough => ?_⟩
      refine rounds_armed (c.tries - 1).toNat rfl rfl ?_ enough
      dsimp only
      omega

/-- The first failure after a recovery has no outcome. -/
lemma fail_stalls (inv : Inv retries c) (uncounted : c.tries = 0) (limit : 0 < retries)
    (sent : List Bool) : ((c.fail retries).rounds sent).outcomes = c.outcomes := by
  have quiet : c.queued = false := by
    rw [Bool.eq_false_iff]
    intro waits
    have := inv.queued waits
    omega
  rw [fail, if_neg (by omega)]
  exact rounds_stalled quiet rfl uncounted

lemma inv_tick (inv : Inv retries c) : Inv retries c.tick := by
  obtain ⟨tries, bound, counter, queued, told⟩ := inv
  rw [tick]
  split
  case isTrue => exact ⟨tries, bound, counter, queued, told⟩
  case isFalse quiet =>
    split
    case isTrue armed =>
      split
      case isTrue last =>
        refine ⟨tries, bound, .inl rfl, fun _ => ?_, fun _ _ => .inl rfl⟩
        dsimp only
        omega
      case isFalse more =>
        refine ⟨tries, bound, .inr ⟨?_, armed.1, ?_, ?_⟩, queued, fun _ finished => ?_⟩ <;>
          dsimp only at * <;> omega
    case isFalse => exact ⟨tries, bound, counter, queued, told⟩

lemma inv_submit (inv : Inv retries c) (ok : Bool)
    (room : ok = true → (c.sent : Int) < max 1 retries) : Inv retries (c.submit ok) := by
  obtain ⟨tries, bound, counter, queued, told⟩ := inv
  cases ok with
  | true =>
    have less := room rfl
    refine ⟨?_, ?_, .inl rfl, nofun, nofun⟩ <;> simp only [submit, if_true] <;> omega
  | false => exact ⟨tries, bound, .inl rfl, nofun, fun _ _ => .inr rfl⟩

lemma inv_serve (inv : Inv retries c) (ok : Bool) : Inv retries (c.serve ok) := by
  rw [serve]
  split
  case isTrue waits =>
    apply inv_submit inv
    intro _
    have := inv.queued waits
    have := inv.tries
    omega
  case isFalse => exact inv

end Countdown

namespace Retrying

/-- The countdown of a job. -/
def view (s : Retrying) : Countdown where
  tries := (s.job.history.head?.map HistoryRecord.tries).getD 0
  counter := (s.job.history.head?.map HistoryRecord.counter).getD (-1)
  failed := s.job.emState = .failed
  queued := s.queued
  sent := s.sent
  told := s.told
  reported := s.reported

/-- A job in execution. -/
structure Live (s : Retrying) : Prop where
  execution : s.job.jobState.isExecution
  record : s.job.history ≠ []

/-- The files for a submission can be written. -/
def writes (w : World) : Bool := w.rsl && w.rslFile

variable {s : Retrying} {w : World}

lemma leaveActive_quiet (job : Job) (head : HistoryRecord) :
    (leaveActive job head).countP isSubmission = 0 ∧ (leaveActive job head).countP isReport = 0 ∧
      (leaveActive job head).any queuesSubmit = false ∧
      (leaveActive job head).any isSubmission = false ∧
      (leaveActive job head).any isReport = false := by
  rw [leaveActive]
  split <;> exact ⟨rfl, rfl, rfl, rfl, rfl⟩

lemma failed_view (live : s.Live) (w : World) :
    (s.step (.failed w)).view = s.view.fail s.job.template.numberOfRetries ∧
      (s.step (.failed w)).Live ∧ (s.step (.failed w)).job.template = s.job.template := by
  obtain ⟨head, past, history⟩ := List.exists_cons_of_ne_nil live.record
  obtain ⟨sub, rep, que, sub', rep'⟩ := leaveActive_quiet s.job head
  rw [step, failed, history]
  dsimp only
  by_cases limit : s.job.template.numberOfRetries ≤ head.tries
  · rw [if_pos limit]
    refine ⟨?_, ⟨live.execution, List.cons_ne_nil _ _⟩, rfl⟩
    simp [after, view, Countdown.fail, history, limit, List.countP_append, List.any_append, sub,
      rep, que, isSubmission, isReport, queuesSubmit]
  · rw [if_neg limit]
    refine ⟨?_, ⟨live.execution, List.cons_ne_nil _ _⟩, rfl⟩
    simp [after, view, Countdown.fail, history, limit, sub, rep, que, sub', rep']

/-- A poll changes nothing of a countdown. -/
lemma poll_view (live : s.Live) (time : Time) (mad : String) :
    (s.after ⟨{ s.job with nextPollTime := time }, [.emMad mad .poll]⟩).view = s.view ∧
      (s.after ⟨{ s.job with nextPollTime := time }, [.emMad mad .poll]⟩).Live := by
  refine ⟨?_, live.execution, live.record⟩
  simp [after, view, isSubmission, isReport, queuesSubmit]

lemma quiet_view (live : s.Live) :
    (s.after ⟨s.job, []⟩).view = s.view ∧ (s.after ⟨s.job, []⟩).Live := by
  refine ⟨?_, live.execution, live.record⟩
  simp [after, view]

lemma tick_view (live : s.Live) (w : World) :
    (s.step (.tick w)).view = s.view.tick ∧ (s.step (.tick w)).Live ∧
      (s.step (.tick w)).job.template = s.job.template := by
  obtain ⟨head, past, history⟩ := List.exists_cons_of_ne_nil live.record
  rw [step, Countdown.tick]
  by_cases queued : s.queued
  · rw [if_pos queued, if_pos (show s.view.queued = true from queued)]
    exact ⟨rfl, live, rfl⟩
  rw [if_neg queued, if_neg (show ¬s.view.queued = true from queued), timer, history]
  dsimp only
  rw [if_pos live.execution]
  by_cases submitted : s.job.emState.issubmitted
  · have other : ¬(s.view.failed ∧ s.view.counter ≠ -1) := by
      intro failed
      have st : s.job.emState = .failed := of_decide_eq_true failed.1
      rw [st] at submitted
      cases submitted
    rw [if_pos submitted, if_neg other]
    split
    case isTrue =>
      split
      case h_1 =>
        obtain ⟨same, live'⟩ := quiet_view live
        exact ⟨same, live', rfl⟩
      case h_2 mad _ =>
        obtain ⟨same, live'⟩ := poll_view live (s.job.nextPollTime + w.pollInterval) mad
        rw [← history]
        exact ⟨same, live', rfl⟩
    case isFalse =>
      obtain ⟨same, live'⟩ := quiet_view live
      exact ⟨same, live', rfl⟩
  rw [if_neg submitted]
  have counter : s.view.counter = head.counter := by
    rw [view, history]
    rfl
  have armed : (s.view.failed ∧ s.view.counter ≠ -1) ↔
      s.job.emState = .failed ∧ head.counter ≠ -1 := by
    rw [counter]
    exact and_congr_left' (decide_eq_true_iff)
  by_cases count : s.job.emState = .failed ∧ head.counter ≠ -1
  · rw [if_pos count, if_pos (armed.2 count), counter]
    split
    case isTrue last =>
      refine ⟨?_, ⟨live.execution, List.cons_ne_nil _ _⟩, rfl⟩
      simp [after, view, history, isSubmission, isReport, queuesSubmit]
    case isFalse more =>
      refine ⟨?_, ⟨live.execution, List.cons_ne_nil _ _⟩, rfl⟩
      simp [after, view, history]
  · rw [if_neg count, if_neg (mt armed.1 count)]
    obtain ⟨same, live'⟩ := quiet_view live
    exact ⟨same, live', rfl⟩

lemma submit_view (live : s.Live) (idle : s.queued = false) (w : World) :
    (s.after (submit w s.job)).view = s.view.submit (writes w) ∧
      (s.after (submit w s.job)).Live ∧
      (s.after (submit w s.job)).job.template = s.job.template := by
  obtain ⟨head, past, history⟩ := List.exists_cons_of_ne_nil live.record
  have files : writes w = true ↔ w.rsl ∧ w.rslFile := Bool.and_eq_true_iff
  rw [submit, history, Countdown.submit]
  dsimp only
  by_cases written : w.rsl ∧ w.rslFile
  · rw [if_pos written, if_pos (files.2 written)]
    refine ⟨?_, ⟨live.execution, List.cons_ne_nil _ _⟩, rfl⟩
    simp [after, view, history, idle, isSubmission, isReport, queuesSubmit, HistoryRecord.stamp]
  · rw [if_neg written, if_neg (mt files.1 written)]
    refine ⟨?_, ⟨live.execution, List.cons_ne_nil _ _⟩, rfl⟩
    simp [after, view, history, idle, isSubmission, isReport, queuesSubmit]

lemma serve_view (live : s.Live) (w : World) :
    (s.step (.serve w)).view = s.view.serve (writes w) ∧ (s.step (.serve w)).Live ∧
      (s.step (.serve w)).job.template = s.job.template := by
  rw [step, Countdown.serve]
  by_cases queued : s.queued
  · rw [if_pos queued, if_pos (show s.view.queued = true from queued)]
    obtain ⟨sent, live', template⟩ :=
      submit_view (s := { s with queued := false }) ⟨live.execution, live.record⟩ rfl w
    refine ⟨sent.trans ?_, live', template⟩
    unfold Countdown.submit
    split <;> rfl
  · rw [if_neg queued, if_neg (show ¬s.view.queued = true from queued)]
    exact ⟨rfl, live, rfl⟩

/-- The wrapper after a pre-wrapper. -/
lemma next_view (live : s.Live) (w : World) :
    (s.step (.next w)).view =
        (if s.job.jobState = .preWrapper ∧ s.queued = false then s.view.submit (writes w)
        else s.view) ∧
      (s.step (.next w)).Live ∧ (s.step (.next w)).job.template = s.job.template := by
  rw [step]
  split
  case isTrue ready =>
    obtain ⟨sent, live', template⟩ := submit_view
      (s := { s with job := { s.job with jobState := .wrapper, emState := .init } })
      ⟨rfl, live.record⟩ ready.2 w
    refine ⟨sent.trans ?_, live', template⟩
    unfold Countdown.submit
    split <;> rfl
  case isFalse => exact ⟨rfl, live, rfl⟩

lemma rounds_view (live : s.Live) (ws : List World) :
    (s.rounds ws).view = s.view.rounds (ws.map writes) := by
  induction ws generalizing s with
  | nil => rfl
  | cons w ws ih =>
    obtain ⟨served, live', -⟩ := serve_view live w
    obtain ⟨ticked, live'', -⟩ := tick_view live' w
    rw [rounds, List.foldl_cons, List.map_cons, Countdown.rounds, List.foldl_cons]
    rw [← served, ← ticked]
    exact ih live''

/-- The retries of a job are in order. -/
structure Inv (s : Retrying) : Prop where
  live : s.Live
  countdown : s.view.Inv s.job.template.numberOfRetries

lemma Inv.not_left (inv : s.Inv) : ¬s.Left := by
  rintro ⟨failed, counter, quiet, silent⟩
  obtain ⟨head, past, history⟩ := List.exists_cons_of_ne_nil inv.live.record
  have negative : s.view.counter < 0 := by
    rw [view, history]
    exact counter head (by rw [history]; rfl)
  have is_failed : s.view.failed = true := decide_eq_true failed
  have finished := inv.countdown.counter
  obtain waits | said := inv.countdown.told is_failed (by omega)
  · exact Bool.false_ne_true (quiet.symm.trans waits)
  · exact Bool.false_ne_true (silent.symm.trans said)

/-- The limit and the report are kept after an event that keeps the retries in order. -/
lemma Inv.sound_step {e : RetryEvent} (inv : (s.step e).Inv)
    (leads : ∀ w, e = .failed w → s.Leads (s.step e)) : s.Sound e := by
  refine ⟨inv.countdown.bound, inv.not_left, ?_⟩
  cases e with
  | failed w => exact leads w rfl
  | tick w | serve w | next w => trivial

lemma allowed_failed (live : s.Live) (w : World) :
    s.Allowed (.failed w) ↔ (s.view.tries = 0 → s.job.template.numberOfRetries ≤ 0) := by
  obtain ⟨head, past, history⟩ := List.exists_cons_of_ne_nil live.record
  rw [Allowed, view, history]
  simp

/-- What an event that meets no defect keeps. -/
lemma Inv.step_allowed (inv : s.Inv) (e : RetryEvent) (allowed : s.Allowed e) : (s.step e).Inv := by
  obtain ⟨live, countdown⟩ := inv
  cases e with
  | failed w =>
    obtain ⟨eq, live', same⟩ := failed_view live w
    refine ⟨live', ?_⟩
    rw [eq, same]
    exact Countdown.inv_fail countdown ((allowed_failed live w).1 allowed)
  | tick w =>
    obtain ⟨eq, live', same⟩ := tick_view live w
    refine ⟨live', ?_⟩
    rw [eq, same]
    exact Countdown.inv_tick countdown
  | serve w =>
    obtain ⟨eq, live', same⟩ := serve_view live w
    refine ⟨live', ?_⟩
    rw [eq, same]
    exact Countdown.inv_serve countdown _
  | next w =>
    obtain ⟨eq, live', same⟩ := next_view live w
    refine ⟨live', ?_⟩
    rw [eq, same]
    split
    case isTrue ready =>
      apply Countdown.inv_submit countdown
      intro written
      obtain ⟨rsl, file⟩ := Bool.and_eq_true_iff.1 written
      exact allowed ready.1 ready.2 rsl file
    case isFalse => exact countdown

lemma Inv.sound_iff_allowed (inv : s.Inv) (e : RetryEvent) : s.Sound e ↔ s.Allowed e := by
  constructor
  · intro sound
    cases e with
    | failed w =>
      obtain ⟨eq, live', -⟩ := failed_view inv.live w
      rw [allowed_failed inv.live]
      intro uncounted
      by_contra limit
      obtain ⟨n, leads⟩ := sound.2.2
      have outcome := leads (List.replicate n {}) (by rw [List.length_replicate])
      have stalled := Countdown.fail_stalls inv.countdown uncounted (Int.not_le.1 limit)
        ((List.replicate n {}).map writes)
      rw [← eq, ← rounds_view live'] at stalled
      exact absurd (outcome.symm.trans stalled) (Nat.succ_ne_self _)
    | next w =>
      intro pre idle rsl file
      obtain ⟨eq, -, same⟩ := next_view inv.live w
      have bound : ((s.step (.next w)).view.sent : Int) ≤ _ := sound.1
      rw [if_pos ⟨pre, idle⟩] at eq
      have written : writes w = true := Bool.and_eq_true_iff.2 ⟨rsl, file⟩
      rw [eq, same, Countdown.submit, if_pos written] at bound
      have sent : s.view.sent = s.sent := rfl
      dsimp only at bound
      omega
    | tick w | serve w => trivial
  · intro allowed
    apply (inv.step_allowed e allowed).sound_step
    rintro w rfl
    obtain ⟨eq, live', -⟩ := failed_view inv.live w
    obtain ⟨n, leads⟩ := Countdown.fail_leads inv.countdown ((allowed_failed inv.live w).1 allowed)
    refine ⟨n, fun ws enough => ?_⟩
    have outcome := leads (ws.map writes) (by rwa [List.length_map])
    rw [← eq, ← rounds_view live'] at outcome
    exact outcome

lemma Start.inv (start : s.Start) : s.Inv := by
  obtain ⟨head, past, history, counter, tries⟩ := start.record
  refine ⟨⟨start.execution, by rw [history]; exact List.cons_ne_nil _ _⟩, ?_⟩
  have has_tries : s.view.tries = head.tries := by
    rw [view, history]
    rfl
  have has_counter : s.view.counter = head.counter := by
    rw [view, history]
    rfl
  have fine : s.view.failed = false := decide_eq_false start.state
  have quiet : s.view.queued = false := start.idle
  have sent : s.view.sent = s.sent := rfl
  refine ⟨?_, ?_, .inl (has_counter.trans counter), ?_, ?_⟩
  · rw [has_tries, sent]
    omega
  · rw [sent]
    omega
  · rw [quiet]
    nofun
  · rw [fine]
    nofun

/-- From the first submission of a record, or its recovery, on, the retries end and do not stall
in exactly the runs that meet no defect. -/
theorem retries_iff (s : Retrying) (start : s.Start) (evs : List RetryEvent) :
    Guarded step Sound s evs ↔ Guarded step Allowed s evs := by
  apply guarded_iff Inv _ _ start.inv
  · intro s e inv sound
    exact inv.step_allowed e ((inv.sound_iff_allowed e).1 sound)
  · intro s e inv
    exact inv.sound_iff_allowed e

/-- A job that a restarted daemon has recovered in the execution of its wrapper, with three retries;
no try of the record is counted. -/
def recovered : Retrying where
  job :=
    { id := 0
      jobState := .wrapper
      emState := .active
      template := { numberOfRetries := 3 }
      history := [{ host := 0, queue := "", tmMad := "", rdir := "", emMad := "", emRc := "",
                    emForkRc := "", cancelTries := 0 }] }

lemma recovered_start : recovered.Start where
  execution := rfl
  state := by nofun
  idle := rfl
  record := ⟨_, _, rfl, rfl, .inl ⟨rfl, Nat.zero_le 1⟩⟩

theorem retries_recovered :
    Guarded step Sound recovered [.tick {}, .failed {}] ↔
      Guarded step Allowed recovered [.tick {}, .failed {}] :=
  retries_iff recovered recovered_start _

/-- The countdown of its first failure starts at zero, and the timer takes it to `-1`. -/
theorem recovered_stalls :
    ¬∀ (s : Retrying) (evs : List RetryEvent), s.Start → Guarded step Sound s evs := by
  intro always
  obtain ⟨sound, -⟩ := always recovered [.failed {}] recovered_start
  have limit := (recovered_start.inv.sound_iff_allowed (.failed {})).1 sound _ rfl rfl
  cases limit

/-- The first submission of a record. -/
lemma start_submit {job : Job} {head : HistoryRecord} {past : List HistoryRecord} {w : World}
    (history : job.history = head :: past) (execution : job.jobState.isExecution)
    (fresh : head.tries = 0) (rsl : w.rsl) (file : w.rslFile) :
    Start { job := (submit w job).job, sent := 1 } := by
  rw [submit, history]
  dsimp only
  rw [if_pos ⟨rsl, file⟩]
  refine ⟨execution, by nofun, rfl, _, _, rfl, rfl, .inl ⟨?_, Nat.le_refl 1⟩⟩
  dsimp only
  rw [fresh]
  rfl

end Retrying

end GridWay.Em
