import GridWay.Dm.Refine

/-!
# The marks of a handler

What a handler leaves outside the job for others to see: the requests it grants, the lines it
appends to `job.state`, the actions it queues at the Execution Manager and at the Transfer
Manager, and what it writes to a driver itself, in order. They follow from the action, from the state of the job, and from whether the
files for the stage-in could be written.

* `Dm.marks`: the table.
* `Dm.handle_trace`: every handler that does not crash leaves these marks.
-/

namespace GridWay

/-- The answers that grant a request on which the life of a job depends. -/
def RmAction.grants : RmAction → Bool
  | .killSuccess | .holdSuccess | .releaseSuccess => true
  | _ => false

/-- A mark that a handler leaves. -/
inductive Mark where
  | grant (a : RmAction)
  | line (st : JobState)
  | em (a : EmAction)
  | tm (a : TmAction)
  | driver
deriving DecidableEq, Repr

/-- The mark that a call leaves. -/
@[simp] def Call.mark? : Call → Option Mark
  | .rm a => if a.grants then some (.grant a) else none
  | .stateLine st => some (.line st)
  | .em a => some (.em a)
  | .tm a => some (.tm a)
  | .emMad _ _ => some .driver
  | .tmMad _ _ => some .driver
  | _ => none

/-- The marks that a reply leaves. -/
def trace (cs : List Call) : List Mark := cs.filterMap Call.mark?

section Trace

variable {c : Call} {cs cs' : List Call}

@[simp] lemma trace_nil : trace [] = [] := rfl
@[simp] lemma trace_append : trace (cs ++ cs') = trace cs ++ trace cs' := List.filterMap_append
@[simp] lemma trace_cons : trace (c :: cs) = c.mark?.toList ++ trace cs := by
  cases h : c.mark? <;> simp only [trace, List.filterMap_cons, h] <;> rfl

end Trace

namespace Dm

variable {w : World} {job : Job} {done staged : Bool}

/-- The line of a state that is entered; a handler that finds its state set appends none. -/
def lineUnless (st : JobState) (now : JobState) : List Mark :=
  if now = st then [] else [.line st]

/-- The marks of the handler of an action in a state; `done` tells whether the Execution Manager
has seen the end of the execution, `staged` whether the files for the stage-in could be written. -/
def marks (a : DmAction) (st : JobState) (done staged : Bool) : List Mark :=
  let stage := if staged then [Mark.tm .prolog] else []
  match a with
  | .hold => if st = .pending then [.line .hold, .grant .holdSuccess] else []
  | .release => if st = .hold then [.line .pending, .grant .releaseSuccess] else []
  | .stop => if st = .wrapper then [.line .stopCancel, .em .cancel] else []
  | .resume => if st = .stopped then [.line .pending] else []
  | .reschedule => if st = .failed then [.line .pending] else []
  | .kill =>
    if Lifecycle.resting st then [.grant .killSuccess]
    else if st = .wrapper then [.line .killCancel, .em .cancel] else []
  | .killHard =>
    match st with
    | .migrProlog | .migrEpilog | .prolog | .epilog | .epilogStd | .epilogRestart | .epilogFail
    | .stopEpilog | .killEpilog | .preWrapper | .wrapper => [.driver, .grant .killSuccess]
    | _ => [.grant .killSuccess]
  | .prolog => lineUnless .prolog st ++ stage
  | .migrProlog => .line .migrProlog :: stage
  | .preWrapper => [.line .preWrapper, .em .submit]
  | .wrapper => [.line .wrapper, .em .submit]
  | .epilog => lineUnless .epilog st ++ [.tm .epilog]
  | .epilogStd => lineUnless .epilogStd st ++ [.tm .epilog]
  | .migrEpilog => lineUnless .migrEpilog st ++ [.tm .epilog]
  | .stopEpilog => lineUnless .stopEpilog st ++ [.tm .epilog]
  | .killEpilog => lineUnless .killEpilog st ++ [.tm .epilog]
  | .epilogFail => lineUnless .epilogFail st ++ [.tm .epilog]
  | .epilogRestart => lineUnless .epilogRestart st ++ [.tm .epilog]
  | .migrCancel => if st = .wrapper ∧ !done then [.line .migrCancel, .em .cancel] else []
  | .pending => [.line .pending]
  | .failed => [.line .failed]
  | .stopped => [.line .stopped]
  | .zombie =>
    if st = .epilog then [.line .zombie]
    else if st = .killEpilog then [.line .zombie, .grant .killSuccess] else []
  | _ => []

attribute [local simp] marks

@[simp] lemma dispose_trace : trace (dispose job) = [.grant .killSuccess] := rfl

@[simp] lemma cancelReschedule_trace : trace (cancelReschedule job).calls = [] := by
  unfold cancelReschedule
  split <;> rfl

lemma cancelExecution_trace (st : JobState) (reason : Reason) :
    trace (cancelExecution st reason job).calls = [.line st, .em .cancel] := by
  simp [cancelExecution]

lemma hold_trace : trace (hold w job).calls = marks .hold job.jobState done staged := by
  unfold hold
  by_cases st : job.jobState = .pending <;> simp [st, marks, RmAction.grants]

lemma release_trace : trace (release w job).calls = marks .release job.jobState done staged := by
  unfold release
  by_cases st : job.jobState = .hold <;> simp [st, marks, askSchedule, RmAction.grants]

lemma resume_trace : trace (resume w job).calls = marks .resume job.jobState done staged := by
  unfold resume
  by_cases st : job.jobState = .stopped <;> simp [st, marks, askSchedule, RmAction.grants]

lemma stop_trace : trace (stop w job).calls = marks .stop job.jobState done staged := by
  unfold stop
  by_cases st : job.jobState = .wrapper <;>
    simp [st, marks, cancelExecution_trace, RmAction.grants]

lemma kill_trace : trace (kill w job).calls = marks .kill job.jobState done staged := by
  unfold kill
  cases st : job.jobState <;>
    simp [marks, Lifecycle.resting, cancelExecution_trace, RmAction.grants]

lemma killHard_trace (safe : .fault ∉ (killHard w job).calls) :
    trace (killHard w job).calls = marks .killHard job.jobState done staged := by
  unfold killHard at safe ⊢
  cases st : job.jobState <;> simp only [st] at safe ⊢ <;> repeat' split at safe
  all_goals first
    | simp at safe; done
    | simp_all [killTransfer, marks]

lemma wait_trace : trace (wait w job).calls = [] := by
  unfold wait
  split <;> rfl

lemma reschedule_trace (safe : .fault ∉ (reschedule w job).calls) :
    trace (reschedule w job).calls = marks .reschedule job.jobState done staged := by
  unfold reschedule at safe ⊢
  cases st : job.jobState <;> simp only [st] at safe ⊢ <;> repeat' split at safe
  all_goals first
    | simp at safe; done
    | simp_all [marks, askSchedule, RmAction.grants]

lemma stageIn_trace (safe : .fault ∉ (stageIn w job).calls) :
    trace (stageIn w job).calls = if w.environment then [.tm .prolog] else [] := by
  unfold stageIn at safe ⊢
  repeat' split at safe
  all_goals simp_all

lemma enterProlog_trace {st : JobState} (safe : .fault ∉ (enterProlog w st job).calls) :
    trace (enterProlog w st job).calls =
      .line st :: if w.environment then [.tm .prolog] else [] := by
  unfold enterProlog at safe ⊢
  cases hist : job.history with
  | nil => simp [hist] at safe
  | cons head past =>
    simp only [Job.setState_frame, hist] at safe ⊢
    have safe' := fun mem => safe (List.mem_append_right _ mem)
    rw [Reply.after_calls, trace_append, stageIn_trace safe']
    rfl

lemma prologDoneCb_trace : trace (prologDoneCb w job).calls = [] := by
  unfold prologDoneCb
  split
  · rfl
  · dsimp only
    repeat' split
    all_goals rfl

lemma prologFailedCb_trace : trace (prologFailedCb w job).calls = [] := by
  unfold prologFailedCb
  dsimp only
  repeat' split
  all_goals simp

lemma execute_trace {st : JobState} {f : Stats → Stats}
    (safe : .fault ∉ (execute st f job).calls) :
    trace (execute st f job).calls = [.line st, .em .submit] := by
  unfold execute at safe ⊢
  split at safe
  · simp at safe
  · simp

lemma wrapperDoneCb_trace : trace (wrapperDoneCb w job).calls = [] := by
  unfold wrapperDoneCb
  dsimp only
  repeat' split
  all_goals simp

lemma wrapperFailedStats_trace (head : HistoryRecord) (past : List HistoryRecord) :
    trace (wrapperFailedStats w job head past).calls = [] := by
  unfold wrapperFailedStats
  repeat' split
  all_goals simp

lemma wrapperFailedCb_trace : trace (wrapperFailedCb w job).calls = [] := by
  unfold wrapperFailedCb
  dsimp only
  repeat' split
  all_goals simp [wrapperFailedStats_trace]

lemma migrCancel_trace (safe : .fault ∉ (migrCancel w job).calls) :
    trace (migrCancel w job).calls = marks .migrCancel job.jobState (job.emState == .done) staged := by
  unfold migrCancel at safe ⊢
  by_cases running : job.jobState = .wrapper ∧ job.emState ≠ .done
  · rw [if_pos running] at safe ⊢
    cases hist : job.history with
    | nil => simp [hist] at safe
    | cons head past => simp [marks, running]
  · rw [if_neg running]
    have ended : ¬ (job.jobState = .wrapper ∧ !(job.emState == .done)) := by simpa using running
    exact (if_neg ended).symm

lemma stageOut_trace {files : World → Job → Option Xfrs}
    (safe : .fault ∉ (stageOut files w job).calls) :
    trace (stageOut files w job).calls = [.tm .epilog] := by
  unfold stageOut at safe ⊢
  split at safe <;> simp_all

lemma enterEpilog_trace {st : JobState} {stamp : Job → Option Job}
    {files : World → Job → Option Xfrs} (safe : .fault ∉ (enterEpilog st stamp files w job).calls) :
    trace (enterEpilog st stamp files w job).calls =
      lineUnless st job.jobState ++ [.tm .epilog] := by
  unfold enterEpilog at safe ⊢
  by_cases there : job.jobState = st
  · rw [if_pos there] at safe ⊢
    simp [there, lineUnless, stageOut_trace safe]
  · rw [if_neg there] at safe ⊢
    dsimp only at safe ⊢
    split at safe
    · simp at safe
    · have safe' := fun mem => safe (List.mem_append_right _ mem)
      simp [there, lineUnless, stageOut_trace safe']

lemma epilog_trace (safe : .fault ∉ (epilog w job).calls) :
    trace (epilog w job).calls = lineUnless .epilog job.jobState ++ [.tm .epilog] := by
  unfold epilog at safe ⊢
  split at safe
  · rename_i st
    rw [if_pos st]
    exact enterEpilog_trace safe
  · rename_i other
    rw [if_neg other]
    split at safe
    · rename_i st
      rw [if_pos st, stageOut_trace safe]
      simp [lineUnless, st]
    · rename_i outside
      rw [if_neg outside]
      cases stamped : stampHead (epilogStart w) job with
      | none => simp [stamped] at safe
      | some job' =>
        simp only [stamped] at safe ⊢
        rw [enterEpilog_trace safe, (stamps_head _ _ stamped).1]

lemma migrated_trace : trace (migrated job).calls = [] := by
  unfold migrated
  split <;> rfl

lemma restartExit_trace : trace (restartExit job).calls = [] := by
  unfold restartExit
  repeat' split
  all_goals rfl

lemma epilogDoneCb_trace : trace (epilogDoneCb w job).calls = [] := by
  unfold epilogDoneCb epilogDoneExit
  repeat' split
  all_goals simp [migrated_trace, restartExit_trace]

lemma epilogFailedCb_trace : trace (epilogFailedCb w job).calls = [] := by
  unfold epilogFailedCb epilogFailedExit
  repeat' split
  all_goals simp [migrated_trace, restartExit_trace]

lemma closeDispatch_trace {next : HistoryRecord → List Call}
    (safe : .fault ∉ closeDispatch job next) (none : ∀ head, trace (next head) = []) :
    trace (closeDispatch job next) = [] := by
  unfold closeDispatch at safe ⊢
  split at safe <;> simp_all

lemma reportFailure_trace (head : HistoryRecord) : trace (reportFailure job head) = [] := by
  unfold reportFailure
  split <;> rfl

lemma pending_trace (safe : .fault ∉ (pending w job).calls) :
    trace (pending w job).calls = [.line .pending] := by
  unfold pending at safe ⊢
  rw [trace_cons, closeDispatch_trace (fun mem => safe (List.mem_cons_of_mem _ mem))]
  · rfl
  · intro head
    rw [trace_append, reportFailure_trace]
    rfl

lemma failed_trace (safe : .fault ∉ (failed w job).calls) :
    trace (failed w job).calls = [.line .failed] := by
  unfold failed at safe ⊢
  dsimp only at safe ⊢
  rw [List.cons_append, trace_cons, trace_append,
    closeDispatch_trace (fun mem => safe (List.mem_append_right _ mem)) reportFailure_trace]
  split <;> rfl

lemma stopped_trace (safe : .fault ∉ (stopped w job).calls) :
    trace (stopped w job).calls = [.line .stopped] := by
  unfold stopped at safe ⊢
  rw [trace_cons, closeDispatch_trace (fun mem => safe (List.mem_cons_of_mem _ mem)) fun _ => rfl]
  rfl

lemma zombie_trace (safe : .fault ∉ (zombie w job).calls) :
    trace (zombie w job).calls = marks .zombie job.jobState done staged := by
  by_cases ended : job.jobState = .epilog
  · simp only [zombie, ended, Job.setState_frame] at safe ⊢
    cases hist : job.history with
    | nil => simp [hist] at safe
    | cons head past =>
      by_cases waits : job.clientWaiting > 0 <;> by_cases gone : w.dispose <;>
        simp [waits, gone, marks, RmAction.grants]
  · by_cases killed : job.jobState = .killEpilog
    · simp only [zombie, killed, closeDispatch, Job.setState_frame] at safe ⊢
      cases hist : job.history with
      | nil => simp [hist] at safe
      | cons head past => simp [marks]
    · simp [zombie, marks, ended, killed]

/-- Every handler that does not crash leaves the marks of the table. -/
theorem handle_trace {a : DmAction} (safe : .fault ∉ (handle a w job).calls) :
    trace (handle a w job).calls =
      marks a job.jobState (job.emState == .done) w.environment := by
  cases a
  case hold => exact hold_trace (w := w)
  case release => exact release_trace (w := w)
  case stop => exact stop_trace (w := w)
  case resume => exact resume_trace (w := w)
  case kill => exact kill_trace (w := w)
  case killHard => exact killHard_trace safe
  case wait => exact wait_trace (w := w)
  case reschedule => exact reschedule_trace (w := w) safe
  case prologDone => exact prologDoneCb_trace
  case prologFailed => exact prologFailedCb_trace
  case epilogDone => exact epilogDoneCb_trace
  case epilogFailed => exact epilogFailedCb_trace
  case wrapperDone => exact wrapperDoneCb_trace
  case wrapperFailed => exact wrapperFailedCb_trace
  case prolog =>
    simp only [handle, prolog] at safe ⊢
    by_cases there : job.jobState = .prolog
    · rw [if_pos there] at safe ⊢
      simp [there, marks, lineUnless, stageIn_trace safe]
    · rw [if_neg there] at safe ⊢
      simp [there, marks, lineUnless, enterProlog_trace safe]
  case migrProlog => exact enterProlog_trace safe
  case preWrapper => exact execute_trace safe
  case wrapper => exact execute_trace safe
  case epilog => exact epilog_trace safe
  case epilogStd => exact enterEpilog_trace safe
  case migrEpilog => exact enterEpilog_trace safe
  case stopEpilog => exact enterEpilog_trace safe
  case killEpilog => exact enterEpilog_trace safe
  case epilogFail => exact enterEpilog_trace safe
  case epilogRestart => exact enterEpilog_trace safe
  case migrCancel => exact migrCancel_trace safe
  case pending => exact pending_trace (w := w) safe
  case zombie => exact zombie_trace safe
  case failed => exact failed_trace safe
  case stopped => exact stopped_trace (w := w) safe

end Dm

end GridWay
