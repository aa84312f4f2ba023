import GridWay.Dm.Request
import GridWay.Em.Action
import GridWay.Lib.Machine

/-!
# The times of an execution

What `gw_em_pending`, `gw_em_active`, `gw_em_suspended` and `gw_em_done` write into
`ACTIVE_TIME` and `SUSPENSION_TIME` between the start of the wrapper and its end. A job can be
stopped, killed or migrated in between; the record of a migration comes before that of the wrapper.

* `Execution.times_exact_iff`: in which runs the two times add up to the time that passed.
-/

namespace GridWay.Em

open Machine

/-- A job in execution, at a time. -/
structure Execution where
  job : Job
  now : Time

/-- What happens to a job in execution. -/
inductive Change where
  | pending
  | active
  | suspended
  | stop
  | kill
  /-- A dispatch to another host, whose record comes first, and the migration that it queues. -/
  | migrate (record : HistoryRecord)

/-- A change, some time after the one before it. -/
structure Event where
  change : Change
  delay : Nat := 0
  world : World := {}

/-- The job after a change. -/
def Change.apply (w : World) (job : Job) : Change → Job
  | .pending => (Em.pending w job).job
  | .active => (Em.active w job).job
  | .suspended => (Em.suspended w job).job
  | .stop => (Dm.stop w job).job
  | .kill => (Dm.kill w job).job
  | .migrate record =>
    if job.jobState = .wrapper then
      (Dm.migrCancel w { job with history := record :: job.history }).job
    else job

/-- The record of the host that runs the wrapper. -/
def wrapperRecord (job : Job) : Option HistoryRecord :=
  if job.jobState = .migrCancel then job.history[1]? else job.history[0]?

namespace Execution

/-- The world at an event. -/
def world (s : Execution) (e : Event) : World := { e.world with now := s.now + e.delay }

def step (s : Execution) (e : Event) : Execution where
  job := e.change.apply (s.world e) s.job
  now := s.now + e.delay

/-- If the execution ends now or later, the times of its record are the time since the start, and
none is negative. -/
def Exact (start : Time) (s : Execution) : Prop :=
  ∀ (w : World) (delay : Nat), w.now = s.now + delay →
    ∃ r, wrapperRecord (done w s.job).job = some r ∧
      r.stats.activeTime + r.stats.suspensionTime = w.now - start ∧
      0 ≤ r.stats.activeTime ∧ 0 ≤ r.stats.suspensionTime

/-- The times are exact after an event. -/
def Sound (start : Time) (s : Execution) (e : Event) : Prop := Exact start (s.step e)

/-- The execution was never active later than it was suspended. -/
def Level (s : Execution) : Prop :=
  ∀ r ∈ wrapperRecord s.job, r.stats.lastActiveTime = r.stats.lastSuspensionTime

/-- The event does not meet a defect: an active execution does not become pending, the first state
reported is not `SUSPENDED` (save for one at the very start), and with a migration under way, which
has put another record first, an execution neither becomes active nor is it suspended. -/
def Allowed (s : Execution) (e : Event) : Prop :=
  match e.change with
  | .pending => s.job.emState = .active → s.Level
  | .active => s.job.jobState = .migrCancel → s.job.emState ≠ .active → s.Level
  | .suspended =>
    if s.job.jobState = .migrCancel then s.job.emState = .active → s.Level
    else s.job.emState = .init →
      ∀ r ∈ wrapperRecord s.job, s.now + e.delay = r.stats.lastSuspensionTime
  | .stop | .kill | .migrate _ => True

end Execution

/-- The time at which the running phase began. -/
def phaseStart (st : EmState) (times : Stats) : Time :=
  if st = .active then times.lastActiveTime else times.lastSuspensionTime

/-- What a change does to the state of an execution. -/
def Change.state (st : EmState) : Change → EmState
  | .pending => .pending
  | .active => .active
  | .suspended => .suspended
  | _ => st

/-- What a change does to the times of the wrapper; nothing once a migration has put another record
before its own. -/
def Change.times (migrated : Bool) (st : EmState) (now : Time) (times : Stats) : Change → Stats
  | .active =>
    if migrated ∨ st = .active then times
    else { times with
      suspensionTime := times.suspensionTime + (now - times.lastSuspensionTime)
      lastActiveTime := now }
  | .suspended =>
    if migrated ∨ st = .suspended ∨ st = .pending then times
    else { times with
      activeTime :=
        if st = .active then times.activeTime + (now - times.lastActiveTime) else times.activeTime
      lastSuspensionTime := now }
  | _ => times

variable {job : Job} {w : World} {r : HistoryRecord} {start : Time}

/-- A change of the newest record is one of the record of the wrapper, save in a migration. -/
lemma wrapperRecord_head {head : HistoryRecord} {past : List HistoryRecord} (head' : HistoryRecord)
    (history : job.history = head :: past) (there : wrapperRecord job = some r) :
    wrapperRecord { job with history := head' :: past } =
      if job.jobState = .migrCancel then some r else some head' := by
  rw [wrapperRecord, history] at there
  rw [wrapperRecord]
  split
  case isTrue migrated =>
    rw [if_pos migrated] at there
    exact there
  case isFalse => rfl

lemma history_of (there : wrapperRecord job = some r) :
    ∃ head past, job.history = head :: past ∧ (job.jobState ≠ .migrCancel → head = r) := by
  rw [wrapperRecord] at there
  cases history : job.history with
  | nil =>
    rw [history] at there
    split at there <;> cases there
  | cons head past =>
    refine ⟨head, past, rfl, fun here => ?_⟩
    rw [if_neg here, history] at there
    exact Option.some.inj there

/-- The execution has begun and is not over. -/
def Running (st : EmState) : Prop := st = .init ∨ st = .pending ∨ st = .active ∨ st = .suspended

lemma pending_spec (there : wrapperRecord job = some r) :
    (pending w job).job = { job with emState := .pending } := by
  obtain ⟨head, past, history, -⟩ := history_of there
  rw [pending, history]
  split <;> rfl

lemma active_spec (there : wrapperRecord job = some r) :
    (active w job).job.emState = .active ∧
      ∃ r', wrapperRecord (active w job).job = some r' ∧
        r'.stats = Change.active.times (job.jobState == .migrCancel) job.emState w.now r.stats := by
  obtain ⟨head, past, history, here⟩ := history_of there
  rw [active]
  by_cases st : job.emState = .active
  · rw [if_pos st]
    exact ⟨st, r, there, by simp [Change.times, st]⟩
  · rw [if_neg st, history]
    refine ⟨rfl, ?_⟩
    dsimp only
    have kept := wrapperRecord_head (head.stamp fun s =>
        { s with
          suspensionTime := s.suspensionTime + (w.now - s.lastSuspensionTime)
          lastActiveTime := w.now }) history there
    by_cases migrated : job.jobState = .migrCancel
    · rw [if_pos migrated] at kept
      exact ⟨r, kept, by simp [Change.times, migrated]⟩
    · rw [if_neg migrated] at kept
      refine ⟨_, kept, ?_⟩
      simp [Change.times, migrated, st, here migrated, HistoryRecord.stamp]

lemma suspended_spec (there : wrapperRecord job = some r) :
    (suspended w job).job.emState = .suspended ∧
      ∃ r', wrapperRecord (suspended w job).job = some r' ∧
        r'.stats =
          Change.suspended.times (job.jobState == .migrCancel) job.emState w.now r.stats := by
  obtain ⟨head, past, history, here⟩ := history_of there
  rw [suspended]
  by_cases st : job.emState = .suspended
  · rw [if_pos st]
    exact ⟨st, r, there, by simp [Change.times, st]⟩
  rw [if_neg st]
  by_cases st' : job.emState = .pending
  · rw [if_pos st']
    exact ⟨rfl, r, there, by simp [Change.times, st']⟩
  rw [if_neg st', history]
  refine ⟨rfl, ?_⟩
  dsimp only
  have kept := wrapperRecord_head (head.stamp fun s =>
      { s with
        activeTime :=
          if job.emState = .active then s.activeTime + (w.now - s.lastActiveTime)
          else s.activeTime
        lastSuspensionTime := w.now }) history there
  by_cases migrated : job.jobState = .migrCancel
  · rw [if_pos migrated] at kept
    exact ⟨r, kept, by simp [Change.times, migrated]⟩
  · rw [if_neg migrated] at kept
    refine ⟨_, kept, ?_⟩
    simp [Change.times, migrated, st, st', here migrated, HistoryRecord.stamp]

lemma cancelReschedule_spec (job : Job) :
    (Dm.cancelReschedule job).job.emState = job.emState ∧
      wrapperRecord (Dm.cancelReschedule job).job = wrapperRecord job := by
  unfold Dm.cancelReschedule
  split <;> exact ⟨rfl, rfl⟩

/-- A request of a client marks the record of the wrapper, and nothing more. -/
lemma cancelExecution_spec {st : JobState} (reason : Reason) (there : wrapperRecord job = some r)
    (wrapper : job.jobState = .wrapper) (other : st ≠ .migrCancel) :
    (Dm.cancelExecution st reason job).job.emState = job.emState ∧
      wrapperRecord (Dm.cancelExecution st reason job).job = some { r with reason } := by
  obtain ⟨head, past, history, here⟩ := history_of there
  obtain rfl := here (by rw [wrapper]; nofun)
  rw [Dm.cancelExecution, Dm.markReason, history]
  dsimp only
  obtain ⟨state, kept⟩ := cancelReschedule_spec
    (({ job with history := { head with reason } :: past } : Job).setState st)
  exact ⟨state, kept.trans (if_neg other)⟩

lemma stop_spec (there : wrapperRecord job = some r) :
    (Dm.stop w job).job.emState = job.emState ∧
      ∃ r', wrapperRecord (Dm.stop w job).job = some r' ∧ r'.stats = r.stats := by
  rw [Dm.stop]
  split
  case isTrue wrapper =>
    obtain ⟨st, marked⟩ := cancelExecution_spec .stopResume there wrapper
      (show JobState.stopCancel ≠ .migrCancel by nofun)
    exact ⟨st, _, marked, rfl⟩
  case isFalse => exact ⟨rfl, r, there, rfl⟩

lemma kill_spec (there : wrapperRecord job = some r) :
    (Dm.kill w job).job.emState = job.emState ∧
      ∃ r', wrapperRecord (Dm.kill w job).job = some r' ∧ r'.stats = r.stats := by
  by_cases wrapper : job.jobState = .wrapper
  · obtain ⟨st, marked⟩ := cancelExecution_spec .kill there wrapper
      (show JobState.killCancel ≠ .migrCancel by nofun)
    have eq : Dm.kill w job = Dm.cancelExecution .killCancel .kill job := by
      rw [Dm.kill, wrapper]
    rw [eq]
    exact ⟨st, _, marked, rfl⟩
  · rw [Dm.kill]
    split
    case h_7 => contradiction
    all_goals exact ⟨rfl, r, there, rfl⟩

lemma migrate_spec (there : wrapperRecord job = some r) (record : HistoryRecord)
    (running : Running job.emState) :
    (Change.apply w job (.migrate record)).emState = job.emState ∧
      wrapperRecord (Change.apply w job (.migrate record)) = some r := by
  obtain ⟨head, past, history, here⟩ := history_of there
  rw [Change.apply]
  split
  case isTrue wrapper =>
    obtain rfl := here (by rw [wrapper]; nofun)
    have over_not : job.emState ≠ .done := by
      intro st
      simp [Running, st] at running
    rw [Dm.migrCancel, if_pos ⟨wrapper, over_not⟩]
    refine ⟨rfl, (if_pos rfl).trans ?_⟩
    dsimp only
    rw [history]
    rfl
  case isFalse => exact ⟨rfl, there⟩

/-- The state and the times of the wrapper after a change. -/
lemma apply_spec (there : wrapperRecord job = some r) (running : Running job.emState) (c : Change) :
    (c.apply w job).emState = c.state job.emState ∧
      ∃ r', wrapperRecord (c.apply w job) = some r' ∧
        r'.stats = c.times (job.jobState == .migrCancel) job.emState w.now r.stats := by
  cases c with
  | pending =>
    rw [Change.apply, pending_spec there]
    exact ⟨rfl, r, there, rfl⟩
  | active => exact active_spec there
  | suspended => exact suspended_spec there
  | stop => exact stop_spec there
  | kill => exact kill_spec there
  | migrate record =>
    obtain ⟨st, kept⟩ := migrate_spec (w := w) there record running
    exact ⟨st, r, kept, rfl⟩

/-- The end of an execution closes the running phase of the record of the wrapper. -/
lemma done_spec (there : wrapperRecord job = some r) (running : Running job.emState) :
    wrapperRecord (done w job).job = some (r.stamp (closeTimes w job.emState)) := by
  obtain ⟨head, past, history, here⟩ := history_of there
  have going : job.emState ≠ .done := by
    intro st
    simp [Running, st] at running
  rw [done, if_neg going, history]
  by_cases migrated : job.jobState = .migrCancel
  · rw [wrapperRecord, if_pos migrated, history] at there
    dsimp only
    rw [if_pos migrated]
    cases past with
    | nil => cases there
    | cons prev older =>
      obtain rfl := Option.some.inj there
      exact if_pos migrated
  · obtain rfl := here migrated
    dsimp only
    rw [if_neg migrated]
    exact if_neg migrated

/-- The times of the phases that are over, from the start to the running phase. -/
def Balanced (start : Time) (st : EmState) (times : Stats) : Prop :=
  times.activeTime + times.suspensionTime + start = phaseStart st times

/-- No time is negative, and the running phase has begun. -/
def Forward (now : Time) (st : EmState) (times : Stats) : Prop :=
  0 ≤ times.activeTime ∧ 0 ≤ times.suspensionTime ∧ phaseStart st times ≤ now

/-- The condition of `Execution.Allowed`, on the times of the wrapper. -/
def Change.fits (migrated : Bool) (st : EmState) (now : Time) (times : Stats) : Change → Prop
  | .pending => st = .active → times.lastActiveTime = times.lastSuspensionTime
  | .active => migrated → st ≠ .active → times.lastActiveTime = times.lastSuspensionTime
  | .suspended =>
    if migrated then st = .active → times.lastActiveTime = times.lastSuspensionTime
    else st = .init → now = times.lastSuspensionTime
  | _ => True

section Times

variable {migrated : Bool} {st : EmState} {now later : Time} {times : Stats}

/-- A change closes the phase that was running and opens the next one exactly when it fits. -/
lemma balanced_times (balanced : Balanced start st times) (running : Running st) (c : Change) :
    Balanced start (c.state st) (c.times migrated st now times) ↔
      c.fits migrated st now times := by
  unfold Balanced phaseStart at *
  obtain rfl | rfl | rfl | rfl := running <;> cases c <;> cases migrated <;>
    simp [Change.state, Change.times, Change.fits] at balanced ⊢ <;> unfold Time at * <;> omega

lemma forward_times (forward : Forward now st times) (running : Running st)
    (later_now : now ≤ later) (c : Change) (fits : c.fits migrated st later times) :
    Forward later (c.state st) (c.times migrated st later times) := by
  unfold Forward phaseStart at *
  obtain rfl | rfl | rfl | rfl := running <;> cases c <;> cases migrated <;>
    simp [Change.state, Change.times, Change.fits] at forward fits ⊢ <;> unfold Time at * <;> omega

lemma running_state (running : Running st) (c : Change) : Running (c.state st) := by
  cases c with
  | pending => exact .inr (.inl rfl)
  | active => exact .inr (.inr (.inl rfl))
  | suspended => exact .inr (.inr (.inr rfl))
  | stop | kill | migrate _ => exact running

end Times

namespace Execution

variable {s : Execution}

/-- Every moment since the start is in one of the two times or in the running phase. -/
structure Accounted (start : Time) (s : Execution) (r : HistoryRecord) : Prop where
  running : Running s.job.emState
  there : wrapperRecord s.job = some r
  balanced : Balanced start s.job.emState r.stats
  forward : Forward s.now s.job.emState r.stats

lemma Accounted.exact (h : Accounted start s r) : Exact start s := by
  intro w delay now
  refine ⟨_, done_spec h.there h.running, ?_⟩
  have balanced := h.balanced
  have forward := h.forward
  unfold Balanced phaseStart at balanced
  unfold Forward phaseStart at forward
  rw [HistoryRecord.stamp, closeTimes]
  split
  case isTrue active =>
    rw [if_pos active] at balanced forward
    dsimp only
    unfold Time at *
    omega
  case isFalse other =>
    rw [if_neg other] at balanced forward
    dsimp only
    unfold Time at *
    omega

lemma Exact.balanced (exact_times : Exact start s) (running : Running s.job.emState)
    (there : wrapperRecord s.job = some r) : Balanced start s.job.emState r.stats := by
  obtain ⟨r', closed, sum, -⟩ := exact_times { now := s.now } 0 (Int.add_zero _).symm
  obtain rfl := Option.some.inj ((done_spec there running).symm.trans closed)
  unfold Balanced phaseStart
  rw [HistoryRecord.stamp, closeTimes] at sum
  split
  case isTrue active =>
    rw [if_pos active] at sum
    dsimp only at sum
    unfold Time at *
    omega
  case isFalse other =>
    rw [if_neg other] at sum
    dsimp only at sum
    unfold Time at *
    omega

/-- The condition speaks of the record of the wrapper. -/
lemma allowed_iff_fits (there : wrapperRecord s.job = some r) (e : Event) :
    s.Allowed e ↔ e.change.fits (s.job.jobState == .migrCancel) s.job.emState (s.now + e.delay)
      r.stats := by
  unfold Allowed Level
  cases e.change <;> simp [Change.fits, there]

lemma sound_iff_allowed (h : Accounted start s r) (e : Event) : s.Sound start e ↔ s.Allowed e := by
  obtain ⟨state, r', there, times⟩ := apply_spec (w := s.world e) h.there h.running e.change
  have running : Running (s.step e).job.emState := by
    rw [step, state]
    exact running_state h.running e.change
  rw [allowed_iff_fits h.there, ← balanced_times h.balanced h.running]
  constructor
  · intro sound
    have balanced := Exact.balanced sound running there
    rw [times, step, state] at balanced
    exact balanced
  · intro balanced
    have fits := (balanced_times h.balanced h.running e.change).1 balanced
    refine Accounted.exact ⟨running, there, ?_, ?_⟩
    · rw [times, step, state]
      exact balanced
    · rw [times, step, state]
      exact forward_times h.forward h.running
        (Int.le_add_of_nonneg_right (Int.natCast_nonneg _)) _ fits

lemma accounted_step (h : Accounted start s r) (e : Event) (sound : s.Sound start e) :
    ∃ r', Accounted start (s.step e) r' := by
  obtain ⟨state, r', there, times⟩ := apply_spec (w := s.world e) h.there h.running e.change
  have running : Running (s.step e).job.emState := by
    rw [step, state]
    exact running_state h.running e.change
  have fits := (allowed_iff_fits h.there e).1 ((sound_iff_allowed h e).1 sound)
  refine ⟨r', running, there, Exact.balanced sound running there, ?_⟩
  rw [times, step, state]
  exact forward_times h.forward h.running (Int.le_add_of_nonneg_right (Int.natCast_nonneg _)) _ fits

/-- The submission of the wrapper starts the account. -/
lemma accounted_submit (wrapper : job.jobState = .wrapper) (record : job.history ≠ [])
    (sent : w.rsl ∧ w.rslFile) :
    ∃ r, Accounted w.now ⟨(submit w job).job, w.now⟩ r := by
  obtain ⟨head, past, history⟩ := List.exists_cons_of_ne_nil record
  rw [submit, history]
  dsimp only
  rw [if_pos sent]
  have other : job.jobState ≠ .migrCancel := by
    rw [wrapper]
    nofun
  refine ⟨_, .inl rfl, if_neg other, ?_, ?_⟩
  · simp [Balanced, phaseStart, HistoryRecord.stamp]
  · simp [Forward, phaseStart, HistoryRecord.stamp]

/-- From the submission of a wrapper on, the times are exact after every event of exactly the runs
that meet no defect. -/
theorem times_exact_iff (job : Job) (w : World) (evs : List Event)
    (wrapper : job.jobState = .wrapper) (record : job.history ≠ []) (sent : w.rsl ∧ w.rslFile) :
    Guarded step (Sound w.now) ⟨(submit w job).job, w.now⟩ evs ↔
      Guarded step Allowed ⟨(submit w job).job, w.now⟩ evs := by
  apply guarded_iff (fun s => ∃ r, Accounted w.now s r) _ _ (accounted_submit wrapper record sent)
  · rintro s e ⟨r, h⟩ sound
    exact accounted_step h e sound
  · rintro s e ⟨r, h⟩
    exact sound_iff_allowed h e

/-- A job about to run its wrapper. -/
def runner : Job where
  id := 0
  jobState := .wrapper
  history := [{ host := 0, queue := "", tmMad := "", rdir := "", emMad := "", emRc := "",
                emForkRc := "", cancelTries := 0 }]

theorem times_exact_runner :
    Guarded step (Sound 1) ⟨(submit {} runner).job, 1⟩ [⟨.pending, 3, {}⟩, ⟨.active, 10, {}⟩] ↔
      Guarded step Allowed ⟨(submit {} runner).job, 1⟩ [⟨.pending, 3, {}⟩, ⟨.active, 10, {}⟩] :=
  times_exact_iff runner {} _ rfl (List.cons_ne_nil _ _) ⟨rfl, rfl⟩

/-- The wait before the execution was active is counted again when it becomes pending: 25 seconds
are recorded of the 15 that passed. -/
theorem pending_counts_twice :
    ¬∀ (job : Job) (w : World) (evs : List Event), job.jobState = .wrapper → job.history ≠ [] →
      (w.rsl ∧ w.rslFile) →
      Guarded step (Sound w.now) ⟨(submit w job).job, w.now⟩ evs := by
  intro always
  obtain ⟨-, sound, -⟩ := always runner {} [⟨.active, 10, {}⟩, ⟨.pending, 5, {}⟩] rfl
    (List.cons_ne_nil _ _) ⟨rfl, rfl⟩
  obtain ⟨r, closed, sum, -⟩ := sound { now := 16 } 0 rfl
  obtain rfl := Option.some.inj closed
  have recorded : (25 : Int) = 15 := sum
  cases recorded

end Execution

end GridWay.Em
