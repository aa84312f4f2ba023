import GridWay.Job.Basic

/-!
# Actions, calls and replies

The managers are action queues: `gw_am_trigger` appends an action to the queue of a manager, and
the manager runs the handler registered for it. Every handler works on one locked job. It is
modelled as a function from the job to a `Reply`: the job it leaves behind and, in order, the calls
it makes out of the job structure (triggers, host and user counters, messages to the drivers and to
the scheduler, lines appended to the persistent log). What the outside world answers while the
handler runs is the argument `World`.

* `Reply.crash`: reading through a `NULL` pointer or outside an array; the last call is `fault`.
-/

namespace GridWay

/-- Actions registered with the Dispatch Manager that name a job. -/
inductive DmAction where
  | hold | release | stop | resume | kill | killHard | wait | reschedule
  | prologDone | prologFailed | epilogDone | epilogFailed | wrapperDone | wrapperFailed
  | prolog | migrProlog | preWrapper | wrapper | epilog | epilogStd | migrEpilog | stopEpilog
  | killEpilog | epilogFail | epilogRestart | migrCancel | pending | zombie | failed | stopped
deriving DecidableEq, Repr

/-- Actions registered with the Execution Manager. -/
inductive EmAction where
  | submit | cancel | pending | active | suspended | done | failed
deriving DecidableEq, Repr

/-- Actions registered with the Transfer Manager. -/
inductive TmAction where
  | prolog | epilog
deriving DecidableEq, Repr

/-- Answers to client requests, registered with the Request Manager. -/
inductive RmAction where
  | killSuccess | killFailed | stopSuccess | stopFailed | resumeSuccess | resumeFailed
  | holdSuccess | holdFailed | releaseSuccess | releaseFailed
  | rescheduleSuccess | rescheduleFailed | waitSuccess | waitFailed
deriving DecidableEq, Repr

/-- Counter updates of `gw_host.c`. -/
inductive HostOp where
  | incSlots (np : Nat) (queue : String)
  | decSlots (np : Nat) (queue : String)
  | decUslots (np : Nat)
  | incRjobs (queue : String)
  | decRjobs (queue : String)
  | incAjobs (queue : String)
  | decAjobs (queue : String)
deriving DecidableEq, Repr

/-- Messages written to the scheduler (`gw_dm_mad.c`). -/
inductive SchedMsg where
  | jobSchedule (job : JobId) (array : Option Nat) (user : Option UserId) (reason : Reason)
  | jobDel (job : JobId)
  | jobFailed (host : HostId) (user : Option UserId) (reason : Reason)
  | jobSuccess (host : HostId) (user : Option UserId) (xfr sus exe : Time)
  | hostMonitor (host : HostId) (slots running : Int) (name : String)
  | userAdd (user : UserId) (active running : Int) (name : String)
  | userDel (user : UserId)
  | schedule
deriving DecidableEq, Repr

/-- Requests written to an execution driver (`gw_em_mad.c`). -/
inductive EmReq where
  | submit (contact rsl : String)
  | cancel
  | poll
  | recover (contact : String)
deriving DecidableEq, Repr

/-- Requests written to a transfer driver (`gw_tm_mad.c`). -/
inductive TmReq where
  | start
  | finish
  | rmdir (dir : String)
  | mkdir (dir : String)
  | cp (xfr : Nat) (mode : Char) (src dst : String)
deriving DecidableEq, Repr

/-- A line of `job.history`. -/
structure HistoryLine where
  hostname : String
  rank : Int
  queue : String
  fork : Option String
  lrms : Option String
  lrmsType : Option String
  emMad : String
  tmMad : String
  imMad : String
deriving DecidableEq, Repr

/-- A call that a handler makes for its job. -/
inductive Call where
  | host (h : HostId) (op : HostOp)
  | incRunning (user : Option UserId) (jobs : Int)
  | decRunning (user : Option UserId)
  | dm (a : DmAction)
  | em (a : EmAction)
  | tm (a : TmAction)
  | rm (a : RmAction)
  | sched (m : SchedMsg)
  | emMad (mad : String) (r : EmReq)
  | tmMad (mad : String) (r : TmReq)
  | stateLine (st : JobState)
  | historyLine (line : HistoryLine)
  | contact (text : String)
  | unlinkConf
  | free
  | delTask (array : Option Nat) (task : Nat)
  | depCheck (exitCode : Int)
  | fault
deriving DecidableEq, Repr

/-- What `gw_dm_epilog_parse_wrapper_std` finds in `stdout.wrapper`. -/
inductive WrapperStd where
  | unreadable
  | noExitStatus
  | selfMigration (newReqs newRank : Option String)
  | performance
  | exitCode (code : Int)
deriving DecidableEq, Repr

/-- The answers of the outside world to one handler: the clock, the file system, the tables of
loaded drivers, the substitution of template variables. -/
structure World where
  now : Time := 1
  rand : Time := 0
  schedulingInterval : Time := 30
  pollInterval : Time := 60
  dispose : Bool := false
  environment : Bool := true
  rsl : Bool := true
  rslFile : Bool := true
  stateFile : Bool := true
  historyFile : Bool := true
  tmMadLoaded : Bool := true
  emMadLoaded : Bool := true
  /-- `gw_job_history_add` never writes `cancel_tries`, so the field starts with what `malloc`
  left there. -/
  cancelTries : Int := 0
  stdoutWrapper : WrapperStd := .exitCode 0
  /-- `gw_job_substitute` for the job at hand. -/
  substitute : String → Option String := some
  /-- The host of the pool at an index. -/
  hosts : HostId → Option Host := fun _ => none

/-- The outcome of a handler: the job it leaves and the calls it makes, in order. -/
structure Reply where
  job : Job
  calls : List Call := []
deriving DecidableEq, Repr

namespace Reply

/-- The handler reads through a `NULL` pointer. -/
def crash (job : Job) : Reply := ⟨job, [.fault]⟩

/-- Put calls in front of those of a reply. -/
def after (cs : List Call) (r : Reply) : Reply := ⟨r.job, cs ++ r.calls⟩

@[simp] lemma crash_job (job : Job) : (crash job).job = job := rfl
@[simp] lemma crash_calls (job : Job) : (crash job).calls = [.fault] := rfl
@[simp] lemma after_job (cs : List Call) (r : Reply) : (after cs r).job = r.job := rfl
@[simp] lemma after_calls (cs : List Call) (r : Reply) : (after cs r).calls = cs ++ r.calls := rfl

end Reply

/-- The host of the newest history record. -/
def World.headHost (w : World) (job : Job) : Option Host :=
  match job.history with
  | [] => none
  | head :: _ => w.hosts head.host

/-- `gw_job_is_wrapper_based` with the hosts of the pool. -/
def World.wrapperBased (w : World) (job : Job) : Bool := job.isWrapperBased (w.headHost job)

end GridWay
