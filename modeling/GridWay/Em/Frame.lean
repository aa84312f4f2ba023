import GridWay.Em.Listener

/-!
# What the Execution Manager writes

The Execution Manager writes the records, the state of the execution, the times of the next poll
and of the last checkpoint, and the exit code.

* `Em.Own`: a reply that writes no more of the job.
* `Em.handle_own`, `Em.timer_own`, `Em.listener_own`.
-/

namespace GridWay.Em

/-- The job `job'` with the fields of the execution of `job`. -/
def ownOf (job job' : Job) : Job :=
  { job' with
    history := job.history
    emState := job.emState
    nextPollTime := job.nextPollTime
    lastCheckpointTime := job.lastCheckpointTime
    exitCode := job.exitCode }

/-- A reply of the Execution Manager. -/
def Own (job : Job) (r : Reply) : Prop := ownOf job r.job = job

namespace Own

variable {job : Job} {r : Reply}

lemma tmState (h : Own job r) : r.job.tmState = job.tmState := (congrArg Job.tmState h :)

lemma jobState (h : Own job r) : r.job.jobState = job.jobState := (congrArg Job.jobState h :)

end Own

variable {w : World} {job : Job}

lemma submit_own : Own job (submit w job) := by
  unfold submit
  repeat' split
  all_goals rfl

lemma cancel_own : Own job (cancel w job) := by
  unfold cancel
  split
  · rfl
  · dsimp only
    repeat' split
    all_goals rfl

lemma timer_own : Own job (timer w job) := by
  unfold timer
  repeat' split
  all_goals rfl

lemma pending_own : Own job (pending w job) := by
  unfold pending
  repeat' split
  all_goals rfl

lemma active_own : Own job (active w job) := by
  unfold active
  repeat' split
  all_goals rfl

lemma suspended_own : Own job (suspended w job) := by
  unfold suspended
  repeat' split
  all_goals rfl

lemma done_own : Own job (done w job) := by
  unfold done
  repeat' split
  all_goals rfl

lemma failed_own : Own job (failed w job) := by
  unfold failed
  repeat' split
  all_goals rfl

lemma handle_own (a : EmAction) (w : World) (job : Job) : Own job (handle a w job) := by
  cases a with
  | submit => exact submit_own
  | cancel => exact cancel_own (w := w)
  | pending => exact pending_own (w := w)
  | active => exact active_own
  | suspended => exact suspended_own
  | done => exact done_own
  | failed => exact failed_own

lemma report_own {job' : Job} {info : String} {onFailed : Job → Reply}
    (same : ownOf job job' = job) (failed : Own job (onFailed job')) :
    Own job (report info onFailed job') := by
  unfold report
  repeat' split
  all_goals first
    | exact same
    | exact failed

lemma pollFailed_own : Own job (pollFailed w job) := by
  unfold pollFailed
  split
  · rfl
  · dsimp only
    repeat' split
    all_goals rfl

lemma recoverFailed_own : Own job (recoverFailed job) := by
  unfold recoverFailed
  repeat' split
  all_goals rfl

lemma listener_own (msg : Msg) (w : World) (job : Job) : Own job (listener msg w job) := by
  unfold listener receive
  repeat' split
  case h_3.isTrue => exact report_own rfl rfl
  case h_3.isFalse => exact pollFailed_own
  case h_4.isTrue => exact report_own rfl recoverFailed_own
  case h_5.isTrue => exact report_own rfl rfl
  all_goals rfl

end GridWay.Em
