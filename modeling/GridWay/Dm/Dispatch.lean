import GridWay.Dm.Request

/-!
# Dispatching and rescheduling

`gw_dm_action_dispatch.c`, `gw_dm_action_schedule.c` and `gw_job_history_add` (`gw_history.c`).
The dispatch only appends a history record, takes the slots and queues the transition: the job
stays in `PENDING` or `WRAPPER` until the queued action runs.

* `historyAdd`: links the record before it opens the history file, so a record may stay although
  `-1` is returned.
* `Dm.dispatchJob`: the dispatch on a host that exists.
* `Dm.checkJob`, `Dm.uncheckJob`: the rescheduling conditions of one job.
-/

namespace GridWay

/-- `host/name`, or the host alone for the default job manager. -/
def contactOf (host : Host) (name : Option String) : String :=
  match name with
  | some n => host.hostname ++ "/" ++ n
  | none => host.hostname

/-- The remote directory of a job on a host. -/
def remoteDir (host : Host) (job : Job) : String :=
  let name := match host.seHostname with
    | some se => if se.isEmpty then host.hostname else se
    | none => host.hostname
  "remote://" ++ name ++ "/~/.gw_" ++ job.owner ++ "_" ++ toString job.id ++ "/"

/-- The record that `gw_job_history_add` builds. -/
def newRecord (w : World) (hid : HostId) (host : Host) (rank : Int) (queue : String) (job : Job) :
    HistoryRecord where
  host := hid
  rank := rank
  queue := queue
  tmMad := host.tmMad
  rdir := remoteDir host job
  emMad := host.emMad
  emRc := contactOf host host.lrmsName
  emForkRc := contactOf host host.forkName
  cancelTries := w.cancelTries

/-- The line that `gw_job_history_add` appends to `job.history`. -/
def historyLine (host : Host) (rank : Int) (queue : String) : HistoryLine where
  hostname := host.hostname
  rank := rank
  queue := queue
  fork := host.forkName
  lrms := host.lrmsName
  lrmsType := host.lrmsType
  emMad := host.emMad
  tmMad := host.tmMad
  imMad := host.imMad

/-- `gw_job_history_add` outside recovery: the job, and whether the call returned `0`. -/
def historyAdd (w : World) (hid : HostId) (host : Host) (rank : Int) (queue : String) (job : Job) :
    Job × Bool :=
  if w.tmMadLoaded ∧ w.emMadLoaded then
    ({ job with history := newRecord w hid host rank queue job :: job.history }, w.historyFile)
  else (job, false)

namespace Dm

/-- `gw_dm_uncheck_job`. -/
def uncheckJob (_ : World) (job : Job) : Reply :=
  match job.history with
  | [] => ⟨job, []⟩
  | head :: past =>
    if job.jobState ≠ .pending then
      ⟨{ job with reschedule := false, history := { head with reason := .none } :: past },
        [.sched (.jobDel job.id)]⟩
    else ⟨job, []⟩

/-- A migration for suspension is not made when the job has become active. -/
def nowActive (job : Job) : Bool :=
  !job.history.isEmpty && job.reason == .suspensionTime && job.emState == .active

/-- `gw_dm_dispatch_job` for a host of the pool. -/
def dispatchJob (hid : HostId) (host : Host) (rank : Int) (queue : String) (w : World) (job : Job) :
    Reply :=
  match job.jobState with
  | .pending =>
    let (job, ok) := historyAdd w hid host rank queue job
    if ok then
      ⟨job, [.historyLine (historyLine host rank queue),
        .host hid (.incSlots job.template.np queue), .incRunning job.userId 1, .dm .prolog]⟩
    else ⟨job, []⟩
  | .wrapper =>
    if nowActive job then uncheckJob w job
    else
      let (job, ok) := historyAdd w hid host rank queue job
      if ok then
        ⟨{ job with restarted := job.restarted + 1, reschedule := false },
          [.historyLine (historyLine host rank queue),
            .host hid (.incSlots job.template.np queue), .dm .migrCancel]⟩
      else ⟨job, []⟩
  | _ => ⟨job, []⟩

/-- `gw_dm_check_job_suspension`. -/
def checkJobSuspension (w : World) (job : Job) : Reply :=
  if job.template.suspensionTimeout > 0 ∧ (job.emState = .pending ∨ job.emState = .suspended) then
    match job.history with
    | [] => .crash job
    | head :: past =>
      if head.stats.suspensionTime + w.now - head.stats.lastSuspensionTime
          > job.template.suspensionTimeout then
        ⟨{ job with
            reschedule := true
            history := { head with reason := .suspensionTime } :: past },
          [.sched (.jobFailed head.host job.userId .suspensionTime),
            askSchedule job .suspensionTime]⟩
      else ⟨job, []⟩
  else ⟨job, []⟩

/-- `gw_dm_check_job_rescheduling`. -/
def checkJobRescheduling (w : World) (job : Job) : Reply :=
  if job.template.reschedulingInterval > 0 then
    if job.lastReschedulingTime = 0 then
      ⟨{ job with lastReschedulingTime := w.now - w.schedulingInterval }, []⟩
    else if w.now - job.lastReschedulingTime > job.template.reschedulingInterval then
      match job.history with
      | [] =>
        -- `gw_job_history_get_wrapper_time` returns -1 without a record
        if -1 < job.template.reschedulingThreshold then .crash { job with reschedule := true }
        else ⟨{ job with lastReschedulingTime := w.now }, []⟩
      | head :: past =>
        if head.wrapperTime w.now < job.template.reschedulingThreshold then
          ⟨{ job with
              reschedule := true
              history := { head with reason := .reschedulingTimeout } :: past
              lastReschedulingTime := w.now },
            [askSchedule job .reschedulingTimeout]⟩
        else ⟨{ job with lastReschedulingTime := w.now }, []⟩
    else ⟨job, []⟩
  else ⟨job, []⟩

/-- `gw_dm_check_job`. The second condition is checked also when the first one held. -/
def checkJob (w : World) (job : Job) : Reply :=
  if job.jobState = .wrapper ∧ job.reason = .none then
    let r := checkJobSuspension w job
    (checkJobRescheduling w r.job).after r.calls
  else ⟨job, []⟩

/-- The handler registered with the Dispatch Manager for an action. -/
def handle : DmAction → World → Job → Reply
  | .hold => hold
  | .release => release
  | .stop => stop
  | .resume => resume
  | .kill => kill
  | .killHard => killHard
  | .wait => wait
  | .reschedule => reschedule
  | .prologDone => prologDoneCb
  | .prologFailed => prologFailedCb
  | .epilogDone => epilogDoneCb
  | .epilogFailed => epilogFailedCb
  | .wrapperDone => wrapperDoneCb
  | .wrapperFailed => wrapperFailedCb
  | .prolog => prolog
  | .migrProlog => migrProlog
  | .preWrapper => preWrapper
  | .wrapper => wrapper
  | .epilog => epilog
  | .epilogStd => epilogStd
  | .migrEpilog => migrEpilog
  | .stopEpilog => stopEpilog
  | .killEpilog => killEpilog
  | .epilogFail => epilogFail
  | .epilogRestart => epilogRestart
  | .migrCancel => migrCancel
  | .pending => pending
  | .zombie => zombie
  | .failed => failed
  | .stopped => stopped

/-- What a request for a job that does not exist is answered; the other actions are dropped. -/
def noJob : DmAction → List RmAction
  | .kill => [.killFailed]
  | .killHard => [.killFailed]
  | .hold => [.holdFailed]
  | .release => [.releaseFailed]
  | .stop => [.stopFailed]
  | .resume => [.resumeFailed]
  | .reschedule => [.rescheduleFailed]
  | .wait => [.waitFailed]
  | _ => []

end Dm

end GridWay
