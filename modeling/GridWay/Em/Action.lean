import GridWay.Job.Call

/-!
# Execution Manager actions

`gw_em_actions.c` and `gw_em_state.c`: submission, cancellation, the timer, and the states that
the messages of the execution drivers queue.

* `Em.submit`: sends a `SUBMIT` in whatever `job_state` the job is.
* `Em.failed`: retries while `tries` is below the number of retries; it has no guard against a job
  that is already `DONE`.
* `Em.timer`: one visit of the timer loop.
-/

namespace GridWay.Em

/-- `gw_em_submit`. -/
def submit (w : World) (job : Job) : Reply :=
  match job.history with
  | [] => ⟨job, []⟩
  | head :: past =>
    let head := { head with counter := -1 }
    let contact := if job.jobState = .preWrapper then head.emForkRc else head.emRc
    let job := { job with emState := .init, history := head :: past }
    if w.rsl ∧ w.rslFile then
      let head := { head.stamp fun s =>
        { s with lastSuspensionTime := w.now, suspensionTime := 0, activeTime := 0 } with
        tries := head.tries + 1 }
      ⟨{ job with
          history := head :: past
          nextPollTime := w.now + w.pollInterval / 2 + w.rand
          lastCheckpointTime := 0 },
        [.emMad head.emMad (.submit contact
          (job.directory ++ "/job.rsl." ++ toString job.restarted))]⟩
    else ⟨{ job with emState := .failed }, [.dm .wrapperFailed]⟩

/-- The driver that holds the running execution: the previous one in `MIGR_CANCEL`. -/
def execMad (job : Job) : Option String :=
  match job.history with
  | [] => none
  | head :: past =>
    if job.jobState = .migrCancel then past.head?.map (·.emMad) else some head.emMad

/-- `gw_em_cancel`. -/
def cancel (_ : World) (job : Job) : Reply :=
  match job.history with
  | [] => .crash job
  | head :: past =>
    if head.cancelTries ≥ 3 then ⟨job, [.em .done]⟩
    else
      let job := { job with history := { head with cancelTries := head.cancelTries + 1 } :: past }
      if job.emState.issubmitted then
        match execMad job with
        | none => ⟨job, []⟩
        | some mad => ⟨job, [.emMad mad .cancel]⟩
      else ⟨job, []⟩

/-- One visit of the loop of `gw_em_timer`. -/
def timer (w : World) (job : Job) : Reply :=
  match job.history with
  | [] => ⟨job, []⟩
  | head :: past =>
    if job.jobState.isExecution then
      if job.emState.issubmitted then
        if w.now ≥ job.nextPollTime then
          match execMad job with
          | none => ⟨job, []⟩
          | some mad =>
            ⟨{ job with nextPollTime := job.nextPollTime + w.pollInterval }, [.emMad mad .poll]⟩
        else ⟨job, []⟩
      else if job.emState = .failed ∧ head.counter ≠ -1 then
        if head.counter - 1 = 0 then
          ⟨{ job with history := { head with counter := -1 } :: past }, [.em .submit]⟩
        else ⟨{ job with history := { head with counter := head.counter - 1 } :: past }, []⟩
      else ⟨job, []⟩
    else ⟨job, []⟩

/-- The cancellation is tried again when an execution that is being cancelled reports a state. -/
def retryCancel (job : Job) : List Call :=
  if job.jobState.isCancel then [.em .cancel] else []

/-- One active job less in the queue, when the execution was active. -/
def leaveActive (job : Job) (head : HistoryRecord) : List Call :=
  if job.emState = .active then [.host head.host (.decAjobs head.queue)] else []

/-- `gw_em_pending`. -/
def pending (_ : World) (job : Job) : Reply :=
  if job.emState = .active then
    match job.history with
    | [] => ⟨job, retryCancel job ++ [.fault]⟩
    | head :: _ =>
      ⟨{ job with emState := .pending }, retryCancel job ++ leaveActive job head⟩
  else ⟨{ job with emState := .pending }, retryCancel job⟩

/-- `gw_em_active`. -/
def active (w : World) (job : Job) : Reply :=
  if job.emState = .active then ⟨job, retryCancel job⟩
  else
    match job.history with
    | [] => ⟨job, retryCancel job ++ [.fault]⟩
    | head :: past =>
      let head := head.stamp fun s =>
        { s with
          suspensionTime := s.suspensionTime + (w.now - s.lastSuspensionTime)
          lastActiveTime := w.now }
      ⟨{ job with
          history := head :: past
          emState := .active
          lastCheckpointTime :=
            if job.lastCheckpointTime = 0 then w.now else job.lastCheckpointTime },
        retryCancel job ++ [.host head.host (.incAjobs head.queue)]⟩

/-- `gw_em_suspended`. -/
def suspended (w : World) (job : Job) : Reply :=
  if job.emState = .suspended then ⟨job, retryCancel job⟩
  else if job.emState = .pending then ⟨{ job with emState := .suspended }, retryCancel job⟩
  else
    match job.history with
    | [] => ⟨job, retryCancel job ++ [.fault]⟩
    | head :: past =>
      let head' := head.stamp fun s =>
        { s with
          activeTime :=
            if job.emState = .active then s.activeTime + (w.now - s.lastActiveTime)
            else s.activeTime
          lastSuspensionTime := w.now }
      ⟨{ job with history := head' :: past, emState := .suspended },
        retryCancel job ++ leaveActive job head⟩

/-- The time of the running phase, added when the execution ends. -/
def closeTimes (w : World) (st : EmState) (s : Stats) : Stats :=
  if st = .active then { s with activeTime := s.activeTime + (w.now - s.lastActiveTime) }
  else { s with suspensionTime := s.suspensionTime + (w.now - s.lastSuspensionTime) }

/-- `gw_em_done`. -/
def done (w : World) (job : Job) : Reply :=
  if job.emState = .done then ⟨job, []⟩
  else
    match job.history with
    | [] => .crash job
    | head :: past =>
      if job.jobState = .migrCancel then
        match past with
        | [] => ⟨job, leaveActive job head ++ [.fault]⟩
        | prev :: older =>
          ⟨{ job with
              history := head :: prev.stamp (closeTimes w job.emState) :: older
              emState := .done },
            leaveActive job head ++ [.dm .wrapperDone]⟩
      else
        ⟨{ job with
            history := head.stamp (closeTimes w job.emState) :: past
            emState := .done },
          leaveActive job head ++ [.dm .wrapperDone]⟩

/-- `gw_em_failed`. -/
def failed (w : World) (job : Job) : Reply :=
  match job.history with
  | [] => .crash job
  | head :: past =>
    let head' := head.stamp fun s =>
      { s with
        suspensionTime :=
          if job.emState = .suspended ∨ job.emState = .pending then
            s.suspensionTime + (w.now - s.lastSuspensionTime)
          else s.suspensionTime
        activeTime :=
          if job.emState = .active then s.activeTime + (w.now - s.lastActiveTime)
          else s.activeTime }
    if head.tries ≥ job.template.numberOfRetries then
      ⟨{ job with history := { head' with counter := -1 } :: past, emState := .failed },
        leaveActive job head ++ [.dm .wrapperFailed]⟩
    else
      ⟨{ job with history := { head' with counter := head.tries } :: past, emState := .failed },
        leaveActive job head⟩

/-- The handler registered with the Execution Manager for an action. -/
def handle : EmAction → World → Job → Reply
  | .submit => submit
  | .cancel => cancel
  | .pending => pending
  | .active => active
  | .suspended => suspended
  | .done => done
  | .failed => failed

end GridWay.Em
