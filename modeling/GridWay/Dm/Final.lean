import GridWay.Dm.Epilog

/-!
# Resting and final states

The handlers of `gw_dm_state_stopped.c`, `gw_dm_state_failed.c`, `gw_dm_state_pending.c` and
`gw_dm_state_zombie.c`. They close the dispatch in the counters of the user and of the host and
tell the scheduler.
-/

namespace GridWay.Dm

/-- Calls that close the dispatch of the newest record: one running job less for the user, then
for the host. The host is read through the history. -/
def closeDispatch (job : Job) (next : HistoryRecord → List Call) : List Call :=
  .decRunning job.userId ::
    match job.history with
    | [] => [.fault]
    | head :: _ => .host head.host (.decRjobs head.queue) :: next head

/-- `gw_dm_stopped`. -/
def stopped (_ : World) (job : Job) : Reply :=
  ⟨job.setState .stopped,
    .stateLine .stopped :: closeDispatch job fun _ => [.rm .stopSuccess]⟩

/-- The report of a failed execution to the scheduler. -/
def reportFailure (job : Job) (head : HistoryRecord) : List Call :=
  if head.reason = .executionError ∨ head.reason = .performance then
    [.sched (.jobFailed head.host job.userId head.reason)]
  else []

/-- `gw_dm_failed`. -/
def failed (w : World) (job : Job) : Reply :=
  ⟨{ (job.setState .failed) with exitTime := w.now },
    .stateLine .failed :: (if job.clientWaiting > 0 then [.rm .waitSuccess] else [])
      ++ closeDispatch job (reportFailure job)⟩

/-- `gw_dm_pending`. -/
def pending (_ : World) (job : Job) : Reply :=
  ⟨{ (job.setState .pending) with restarted := job.restarted + 1 },
    .stateLine .pending :: closeDispatch job fun head =>
      reportFailure job head ++
        [.sched (.jobSchedule job.id job.arrayId job.userId .none)]⟩

/-- Calls that end a job: its configuration goes, it is freed, its array is told. -/
def dispose (job : Job) : List Call :=
  [.unlinkConf, .free, .delTask job.arrayId job.taskId, .rm .killSuccess]

/-- `gw_dm_zombie`. -/
def zombie (w : World) (job : Job) : Reply :=
  match job.jobState with
  | .epilog =>
    let job := job.setState .zombie
    match job.history with
    | [] => ⟨job, [.stateLine .zombie, .fault]⟩
    | head :: past =>
      let head := { head with reason := .none }
      ⟨{ job with history := head :: past, exitTime := w.now },
        .stateLine .zombie ::
          (if job.clientWaiting > 0 then [.rm .waitSuccess]
            else if w.dispose then [.dm .kill] else []) ++
          [.decRunning job.userId, .host head.host (.decRjobs head.queue),
           .sched (.jobSuccess head.host job.userId (head.prologTime w.now + head.epilogTime w.now)
             head.stats.suspensionTime head.stats.activeTime),
           .depCheck job.exitCode]⟩
  | .killEpilog =>
    let job := { (job.setState .zombie) with exitTime := w.now }
    ⟨job, .stateLine .zombie :: closeDispatch job fun _ => dispose job⟩
  | _ => ⟨job, []⟩

end GridWay.Dm
