import GridWay.Dm.Prolog

/-!
# Wrapper states

The handlers of `gw_dm_state_wrappers.c` and `gw_dm_state_migrate.c`: submission of the pre-wrapper
and of the wrapper, the callbacks of the Execution Manager, and the second half of a migration.

* `Dm.wrapperDoneCb`: pays the slots of the newest record, or of the previous one in
  `MIGR_CANCEL`; it resets `em_state` in every state, also in those it then ignores.
* `Dm.wrapperFailedCb`: pays the newest record and goes to `EPILOG_FAIL` from any state.
-/

namespace GridWay.Dm

/-- Common part of `gw_dm_pre_wrapper` and `gw_dm_wrapper`: set the state, signal the EM. -/
def execute (st : JobState) (f : Stats → Stats) (job : Job) : Reply :=
  match job.history with
  | [] => .crash job
  | head :: past =>
    ⟨{ (job.setState st) with history := head.stamp f :: past, emState := .init },
      [.stateLine st, .em .submit]⟩

/-- `gw_dm_pre_wrapper`. -/
def preWrapper (w : World) (job : Job) : Reply :=
  execute .preWrapper (fun s => { s with preWrapperStartTime := w.now }) job

/-- `gw_dm_wrapper`. -/
def wrapper (w : World) (job : Job) : Reply :=
  execute .wrapper (fun s => { s with wrapperStartTime := w.now }) job

/-- Take a job whose reschedule flag is set back from the scheduler. -/
def cancelReschedule (job : Job) : Reply :=
  if job.reschedule then ⟨{ job with reschedule := false }, [.sched (.jobDel job.id)]⟩
  else ⟨job, []⟩

/-- `gw_dm_wrapper_done_cb`. -/
def wrapperDoneCb (w : World) (job : Job) : Reply :=
  let job := { job with emState := .init }
  match job.jobState with
  | .preWrapper =>
    match job.history with
    | [] => .crash job
    | head :: past =>
      let head := head.stamp fun s => { s with preWrapperExitTime := w.now }
      ⟨{ job with history := head :: past }, [.dm .wrapper]⟩
  | .wrapper =>
    match job.history with
    | [] => .crash job
    | head :: past =>
      let head := head.stamp fun s => { s with wrapperExitTime := w.now }
      let r := cancelReschedule { job with history := head :: past }
      ⟨r.job, .host head.host (.decUslots job.template.np) :: r.calls ++
        [.dm (if w.wrapperBased job then .epilogStd else .epilog)]⟩
  | .stopCancel =>
    match job.history with
    | [] => .crash job
    | head :: past =>
      let head := head.stamp fun s => { s with wrapperExitTime := w.now }
      ⟨{ job with history := head :: past },
        [.host head.host (.decUslots job.template.np), .dm .stopEpilog]⟩
  | .killCancel =>
    match job.history with
    | [] => .crash job
    | head :: past =>
      let head := head.stamp fun s => { s with wrapperExitTime := w.now }
      ⟨{ job with history := head :: past },
        [.host head.host (.decUslots job.template.np), .dm .killEpilog]⟩
  | .migrCancel =>
    match job.history with
    | head :: prev :: older =>
      let prev := prev.stamp fun s => { s with wrapperExitTime := w.now }
      ⟨{ job with history := head :: prev :: older },
        [.host prev.host (.decUslots job.template.np), .dm .migrProlog]⟩
    | _ => .crash job
  | _ => ⟨job, []⟩

/-- The statistics that `gw_dm_wrapper_failed_cb` writes, and the job taken from the scheduler. -/
def wrapperFailedStats (w : World) (job : Job) (head : HistoryRecord) (past : List HistoryRecord) :
    Reply :=
  match job.jobState with
  | .preWrapper =>
    let head := head.stamp fun s => { s with preWrapperExitTime := w.now }
    ⟨{ job with history := { head with reason := .executionError } :: past }, []⟩
  | .wrapper =>
    let head := head.stamp fun s => { s with wrapperExitTime := w.now }
    cancelReschedule { job with history := { head with reason := .executionError } :: past }
  -- "in wrong job state": logged, and carried on with
  | _ => ⟨{ job with history := { head with reason := .executionError } :: past }, []⟩

/-- `gw_dm_wrapper_failed_cb`. -/
def wrapperFailedCb (w : World) (job : Job) : Reply :=
  let job := { job with emState := .init }
  match job.history with
  | [] =>
    if job.jobState = .preWrapper ∨ job.jobState = .wrapper then .crash job
    else ⟨job, [.dm .epilogFail]⟩
  | head :: past =>
    let r := wrapperFailedStats w job head past
    ⟨r.job, r.calls ++ [.host head.host (.decUslots job.template.np), .dm .epilogFail]⟩

/-- `gw_dm_migr_cancel`: the queued half of a migration. -/
def migrCancel (w : World) (job : Job) : Reply :=
  if job.jobState = .wrapper ∧ job.emState ≠ .done then
    match job.history with
    | [] => .crash job
    | head :: past =>
      let head := head.stamp fun s => { s with migrationStartTime := w.now }
      ⟨{ (job.setState .migrCancel) with history := head :: past },
        [.stateLine .migrCancel, .em .cancel]⟩
  -- nothing of the dispatch is taken back here
  else ⟨job, []⟩

end GridWay.Dm
