import GridWay.Job.Call

/-!
# The lifecycle of a job

What the Dispatch Manager is for, without files, times and messages: a table that gives, for each
action and each state of a job, what the handler may do to the state of the job, which actions it
queues, which dispatch it pays back in the host counters, and whether it closes the dispatch for
the user or frees the job. The table is finite, so facts about it are decided.

* `Lifecycle.effects`: the table.
* `Lifecycle.Effect`: one entry.
-/

namespace GridWay

/-- The actions that move a job to another state (`GW_DM_STATE_*`). -/
def DmAction.isTransition : DmAction → Bool
  | .prolog | .migrProlog | .preWrapper | .wrapper | .epilog | .epilogStd | .migrEpilog
  | .stopEpilog | .killEpilog | .epilogFail | .epilogRestart | .migrCancel | .pending | .zombie
  | .failed | .stopped => true
  | _ => false

namespace Lifecycle

/-- The records whose slots a handler gives back. -/
inductive Payment where
  | none | head | prev | both
deriving DecidableEq, Repr

/-- What a handler does to the lifecycle of its job. -/
structure Effect where
  next : JobState
  queued : List DmAction := []
  pays : Payment := .none
  /-- The dispatch is closed for the user: one running job less. -/
  closes : Bool := false
  frees : Bool := false
deriving DecidableEq, Repr

/-- The states in which a job is not dispatched. -/
def resting (st : JobState) : Bool :=
  st == .init || st == .pending || st == .hold || st == .stopped || st == .failed || st == .zombie

/-- The job leaves for good: it is rescheduled or it fails. -/
def exits (st : JobState) (pays : Payment) : List Effect :=
  [{ next := st, queued := [.pending], pays }, { next := st, queued := [.failed], pays }]

/-- A kill: at once in a resting state, by cancelling the execution in `WRAPPER`. -/
def kill (st : JobState) : List Effect :=
  if resting st then [{ next := st, frees := true }]
  else if st = .wrapper then [{ next := .killCancel }]
  else [{ next := st }]

/-- A hard kill always frees the job; the state decides what is paid. -/
def killHard (st : JobState) : List Effect :=
  match st with
  | .migrProlog | .migrEpilog | .prolog | .preWrapper | .wrapper | .stopCancel | .killCancel =>
    [{ next := st, pays := .head, frees := true }]
  | .migrCancel => [{ next := st, pays := .both, frees := true }]
  | _ => [{ next := st, frees := true }]

/-- The end of a prolog. -/
def prologDone (st : JobState) : List Effect :=
  match st with
  | .prolog => [{ next := st, queued := [.preWrapper] }, { next := st, queued := [.wrapper] }]
  | .migrProlog => [{ next := st, queued := [.migrEpilog] }]
  | _ => [{ next := st }]

/-- The end of an execution. -/
def wrapperDone (st : JobState) : List Effect :=
  match st with
  | .preWrapper => [{ next := st, queued := [.wrapper] }]
  | .wrapper => [{ next := st, queued := [.epilogStd], pays := .head },
      { next := st, queued := [.epilog], pays := .head }]
  | .stopCancel => [{ next := st, queued := [.stopEpilog], pays := .head }]
  | .killCancel => [{ next := st, queued := [.killEpilog], pays := .head }]
  | .migrCancel => [{ next := st, queued := [.migrProlog], pays := .prev }]
  | _ => [{ next := st }]

/-- The end of an epilog, whether all files arrived or not. -/
def epilogOver (st : JobState) : List Effect :=
  match st with
  | .epilog => { next := st, queued := [.zombie] } :: exits st .none
  | .killEpilog => [{ next := st, queued := [.zombie] }]
  | .migrEpilog => [{ next := st, queued := [.wrapper] }]
  | .stopEpilog => [{ next := st, queued := [.stopped] }]
  | .epilogFail => exits st .none
  | .epilogRestart => exits st .none
  | .epilogStd => [{ next := st, queued := [.epilog] }, { next := st, queued := [.epilogRestart] }]
  | _ => [{ next := st }]

/-- The end of a job: done, or killed. -/
def zombie (st : JobState) : List Effect :=
  match st with
  | .epilog => [{ next := .zombie, closes := true },
      { next := .zombie, queued := [.kill], closes := true }]
  | .killEpilog => [{ next := .zombie, closes := true, frees := true }]
  | _ => [{ next := st }]

/-- A move that is made from one state only. -/
def only (src dst st : JobState) : List Effect := [{ next := if st = src then dst else st }]

/-- The effects that the handler of an action may have in a state; `done` tells whether the
Execution Manager has seen the end of the execution. -/
def effects (a : DmAction) (st : JobState) (done : Bool) : List Effect :=
  match a with
  | .hold => only .pending .hold st
  | .release => only .hold .pending st
  | .stop => only .wrapper .stopCancel st
  | .resume => only .stopped .pending st
  | .kill => kill st
  | .killHard => killHard st
  | .wait => [{ next := st }]
  | .reschedule => only .failed .pending st
  | .prologDone => prologDone st
  | .prologFailed => exits st .head
  | .epilogDone => epilogOver st
  | .epilogFailed => epilogOver st
  | .wrapperDone => wrapperDone st
  | .wrapperFailed => [{ next := st, queued := [.epilogFail], pays := .head }]
  | .prolog => [{ next := .prolog }, { next := .prolog, queued := [.prologFailed] }]
  | .migrProlog => [{ next := .migrProlog }, { next := .migrProlog, queued := [.prologFailed] }]
  | .preWrapper => [{ next := .preWrapper }]
  | .wrapper => [{ next := .wrapper }]
  | .epilog => [{ next := .epilog }]
  | .epilogStd => [{ next := .epilogStd }]
  | .migrEpilog => [{ next := .migrEpilog }]
  | .stopEpilog => [{ next := .stopEpilog }]
  | .killEpilog => [{ next := .killEpilog }]
  | .epilogFail => [{ next := .epilogFail }]
  | .epilogRestart => [{ next := .epilogRestart }]
  | .migrCancel => if st = .wrapper ∧ !done then [{ next := .migrCancel }] else [{ next := st }]
  | .pending => [{ next := .pending, closes := true }]
  | .zombie => zombie st
  | .failed => [{ next := .failed, closes := true }]
  | .stopped => [{ next := .stopped, closes := true }]

end Lifecycle

end GridWay
