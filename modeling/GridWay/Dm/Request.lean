import GridWay.Dm.Final

/-!
# Client requests

The handlers of `gw_dm_action_kill.c`, `gw_dm_action_hold_release.c`,
`gw_dm_action_stop_resume.c`, `gw_dm_action_reschedule.c` and `gw_dm_action_wait.c` for a job that
exists. Each answers the Request Manager at once, except a kill or stop of an execution, which is
answered when its epilog is over.

* `Dm.killHard`: pays the counters itself, by the state it finds, and frees the job.
-/

namespace GridWay.Dm

/-- Write the reason of the newest record, when there is one. -/
def markReason (reason : Reason) (job : Job) : Job :=
  match job.history with
  | [] => job
  | head :: past => { job with history := { head with reason } :: past }

/-- Cancel the execution of a job in `WRAPPER`, for a kill or a stop. -/
def cancelExecution (st : JobState) (reason : Reason) (job : Job) : Reply :=
  let r := cancelReschedule ((markReason reason job).setState st)
  ⟨r.job, .stateLine st :: r.calls ++ [.em .cancel]⟩

/-- `gw_dm_kill`. -/
def kill (w : World) (job : Job) : Reply :=
  match job.jobState with
  | .init | .pending | .hold | .stopped => ⟨{ job with exitTime := w.now }, dispose job⟩
  | .failed | .zombie => ⟨job, dispose job⟩
  | .wrapper => cancelExecution .killCancel .kill job
  | _ => ⟨job, [.rm .killFailed]⟩

/-- End of a hard kill in the transfer states: the running job of the newest host, the times, the
transfers. -/
def killTransfer (w : World) (job : Job) (head : HistoryRecord) (past : List HistoryRecord) :
    Reply :=
  let head := head.stamp fun s => { s with exitTime := w.now }
  let job := { job with history := head :: past, exitTime := w.now, tmState := .hardKill }
  ⟨job, .host head.host (.decRjobs head.queue) :: .tmMad head.tmMad .finish :: dispose job⟩

/-- End of a hard kill in the execution states. -/
def killExecution (w : World) (job : Job) (head : HistoryRecord) (past : List HistoryRecord) :
    Job :=
  let head := head.stamp fun s => { s with exitTime := w.now }
  { job with history := head :: past, exitTime := w.now, emState := .hardKill }

/-- `gw_dm_kill_hard`. -/
def killHard (w : World) (job : Job) : Reply :=
  let np := job.template.np
  match job.jobState with
  | .migrProlog | .migrEpilog =>
    match job.history with
    | head :: prev :: older =>
      let prev' := prev.stamp fun s => { s with exitTime := w.now }
      (killTransfer w job { head with reason := .kill } (prev' :: older)).after
        [.host prev.host (.decRjobs head.queue), .host head.host (.decUslots np)]
    | _ => .crash job
  | .prolog =>
    match job.history with
    | [] => .crash job
    | head :: past =>
      (killTransfer w job { head with reason := .kill } past).after
        [.host head.host (.decUslots np)]
  | .epilog | .epilogStd | .epilogRestart | .epilogFail =>
    match job.history with
    | [] => .crash job
    | head :: past => killTransfer w job { head with reason := .kill } past
  | .stopEpilog | .killEpilog =>
    match job.history with
    | [] => .crash job
    | head :: past => killTransfer w job head past
  | .preWrapper | .wrapper =>
    match job.history with
    | [] => .crash job
    | head :: past =>
      let job' := killExecution w job { head with reason := .kill } past
      ⟨job', .host head.host (.decSlots np head.queue) ::
        (if job.emState = .active then [.host head.host (.decAjobs head.queue)] else []) ++
        .emMad head.emMad .cancel :: dispose job⟩
  | .migrCancel =>
    match job.history with
    | head :: prev :: older =>
      let prev' := prev.stamp fun s => { s with exitTime := w.now }
      ⟨killExecution w job { head with reason := .kill } (prev' :: older),
        .host prev.host (.decSlots np head.queue) :: .host head.host (.decSlots np head.queue) ::
          dispose job⟩
    | _ => .crash job
  | .stopCancel | .killCancel =>
    match job.history with
    | [] => .crash job
    | head :: past =>
      ⟨killExecution w job head past, .host head.host (.decSlots np head.queue) :: dispose job⟩
  | .init | .pending | .hold | .stopped => ⟨{ job with exitTime := w.now }, dispose job⟩
  | .failed | .zombie => ⟨job, dispose job⟩

/-- `gw_dm_hold`. -/
def hold (_ : World) (job : Job) : Reply :=
  if job.jobState = .pending then
    ⟨job.setState .hold, [.stateLine .hold, .rm .holdSuccess, .sched (.jobDel job.id)]⟩
  else ⟨job, [.rm .holdFailed]⟩

/-- Ask the scheduler to place the job. -/
def askSchedule (job : Job) (reason : Reason) : Call :=
  .sched (.jobSchedule job.id job.arrayId job.userId reason)

/-- `gw_dm_release`. -/
def release (_ : World) (job : Job) : Reply :=
  if job.jobState = .hold then
    ⟨job.setState .pending, [.stateLine .pending, .rm .releaseSuccess, askSchedule job .none]⟩
  else ⟨job, [.rm .releaseFailed]⟩

/-- `gw_dm_stop`. -/
def stop (_ : World) (job : Job) : Reply :=
  if job.jobState = .wrapper then cancelExecution .stopCancel .stopResume job
  else ⟨job, [.rm .stopFailed]⟩

/-- `gw_dm_resume`. -/
def resume (_ : World) (job : Job) : Reply :=
  if job.jobState = .stopped then
    ⟨{ (job.setState .pending) with
        restarted := job.restarted + 1, tmState := .init, emState := .init },
      [.stateLine .pending, .rm .resumeSuccess, askSchedule job .none]⟩
  else ⟨job, [.rm .resumeFailed]⟩

/-- `gw_dm_reschedule`. -/
def reschedule (_ : World) (job : Job) : Reply :=
  match job.jobState with
  | .wrapper =>
    let job := { job with reschedule := true }
    match job.history with
    | [] => .crash job
    | head :: past =>
      ⟨{ job with history := { head with reason := .userRequested } :: past },
        [.rm .rescheduleSuccess, askSchedule job .userRequested]⟩
  | .failed =>
    let job := { (job.setState .pending) with tmState := .init, emState := .init }
    match job.history with
    | [] => ⟨job, [.stateLine .pending, .fault]⟩
    | head :: past =>
      ⟨{ job with
          history := { head with reason := .userRequested } :: past
          restarted := job.restarted + 1 },
        [.stateLine .pending, .rm .rescheduleSuccess, askSchedule job .none]⟩
  | _ => ⟨job, [.rm .rescheduleFailed]⟩

/-- `gw_dm_wait`. -/
def wait (_ : World) (job : Job) : Reply :=
  ⟨{ job with clientWaiting := job.clientWaiting + 1 },
    if job.jobState = .zombie ∨ job.jobState = .failed then [.rm .waitSuccess] else []⟩

end GridWay.Dm
