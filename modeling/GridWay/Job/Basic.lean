import Mathlib.Data.List.Basic

/-!
# The job structure

Data model of `gw_job.h`, `gw_history.h`, `gw_xfr_files.h` and of the part of
`gw_job_template.h` that the managers read. A job carries three states, one for each manager
(`job_state`, `em_state`, `tm_state`), its history of dispatches (newest record first) and the two
transfer lists that the Transfer Manager works on.

Pointers that may be `NULL` are `Option`s; a list stands for an array with its length, and for the
chain of history records. Counters that the code decrements below zero are `Int`.
-/

namespace GridWay

/-- Index of a job in the job pool. -/
abbrev JobId := Nat

/-- Index of a host in the host pool. -/
abbrev HostId := Nat

/-- Index of a user in the user pool. -/
abbrev UserId := Nat

/-- `time_t` values; `0` means not set. -/
abbrev Time := Int

/-- Execution state kept by the Execution Manager (`gw_em_state_t`). -/
inductive EmState where
  | init | pending | suspended | active | failed | done | hardKill
deriving DecidableEq, Repr

/-- The macro `issubmitted` of `gw_em.h`. -/
def EmState.issubmitted (st : EmState) : Bool :=
  st == .active || st == .pending || st == .suspended

/-- Transfer state kept by the Transfer Manager (`gw_tm_state_t`). -/
inductive TmState where
  | init | prolog | prologFailed | epilog | epilogFailed | checkpoint | checkpointCancel | hardKill
deriving DecidableEq, Repr

/-- Dispatch state of a job (`gw_job_state_t`). -/
inductive JobState where
  | init | pending | hold | prolog | preWrapper | wrapper
  | epilog | epilogStd | epilogRestart | epilogFail
  | stopCancel | stopEpilog | stopped
  | killCancel | killEpilog
  | migrCancel | migrProlog | migrEpilog
  | zombie | failed
deriving DecidableEq, Repr

/-- The three states in which an execution is being cancelled. -/
def JobState.isCancel (st : JobState) : Bool :=
  st == .migrCancel || st == .stopCancel || st == .killCancel

/-- The states in which the EM listener and the EM timer act on a job. -/
def JobState.isExecution (st : JobState) : Bool :=
  st == .preWrapper || st == .wrapper || st.isCancel

/-- Why an execution ended or is to be moved (`gw_migration_reason_t`). -/
inductive Reason where
  | none | userRequested | suspensionTime | reschedulingTimeout | selfMigration | performance
  | stopResume | executionError | kill
deriving DecidableEq, Repr

/-- The array `stats` of a history record, one field for each index of `gw_history.h`. -/
structure Stats where
  startTime : Time := 0
  exitTime : Time := 0
  suspensionTime : Time := 0
  lastSuspensionTime : Time := 0
  activeTime : Time := 0
  lastActiveTime : Time := 0
  prologStartTime : Time := 0
  prologExitTime : Time := 0
  wrapperStartTime : Time := 0
  wrapperExitTime : Time := 0
  preWrapperStartTime : Time := 0
  preWrapperExitTime : Time := 0
  epilogStartTime : Time := 0
  epilogExitTime : Time := 0
  migrationStartTime : Time := 0
  migrationExitTime : Time := 0
deriving DecidableEq, Repr

/-- What a dispatch fixes once and for all: the host, queue and drivers of one execution. -/
structure Placement where
  host : HostId
  rank : Int := 0
  queue : String
  tmMad : String
  rdir : String
  emMad : String
  emRc : String
  emForkRc : String
deriving DecidableEq, Repr

/-- A history record (`gw_history_t`): a placement and the course of the execution on it. -/
structure HistoryRecord extends Placement where
  stats : Stats := {}
  tries : Int := 0
  failedPolls : Nat := 0
  cancelTries : Int
  counter : Int := -1
  reason : Reason := .none
deriving DecidableEq, Repr

/-- The elapsed time that the `gw_job_history_get_*_time` functions compute. -/
def elapsed (now start exit : Time) : Time :=
  if start ≠ 0 ∧ exit = 0 then now - start else exit - start

namespace HistoryRecord

/-- `gw_job_history_get_prolog_time`. -/
def prologTime (r : HistoryRecord) (now : Time) : Time :=
  elapsed now r.stats.prologStartTime r.stats.prologExitTime

/-- `gw_job_history_get_wrapper_time`. -/
def wrapperTime (r : HistoryRecord) (now : Time) : Time :=
  elapsed now r.stats.wrapperStartTime r.stats.wrapperExitTime

/-- `gw_job_history_get_epilog_time`. -/
def epilogTime (r : HistoryRecord) (now : Time) : Time :=
  elapsed now r.stats.epilogStartTime r.stats.epilogExitTime

/-- Write into the statistics of a record. -/
def stamp (r : HistoryRecord) (f : Stats → Stats) : HistoryRecord :=
  { r with stats := f r.stats }

@[simp] lemma stamp_toPlacement (r : HistoryRecord) (f : Stats → Stats) :
    (r.stamp f).toPlacement = r.toPlacement := rfl

@[simp] lemma stamp_counter (r : HistoryRecord) (f : Stats → Stats) :
    (r.stamp f).counter = r.counter := rfl

@[simp] lemma stamp_tries (r : HistoryRecord) (f : Stats → Stats) :
    (r.stamp f).tries = r.tries := rfl

@[simp] lemma stamp_reason (r : HistoryRecord) (f : Stats → Stats) :
    (r.stamp f).reason = r.reason := rfl

end HistoryRecord

/-- One file transfer (`gw_xfr_t`). -/
structure Xfr where
  tries : Int
  srcUrl : Option String := none
  dstUrl : Option String := none
  altSrcUrl : Option String := none
  mode : Char := '-'
  done : Bool := false
  success : Bool := false
  counter : Int := -1
deriving DecidableEq, Repr

/-- A transfer list (`gw_xfrs_t`); its length is `number_of_xfrs`. -/
structure Xfrs where
  xfrs : List Xfr := []
  failureLimit : Int := 0
deriving DecidableEq, Repr

/-- `gw_xfr_pending`: the files with a source that have neither arrived nor been given up. -/
def Xfrs.pending (x : Xfrs) : Nat :=
  x.xfrs.countP fun f => f.srcUrl.isSome && !f.done

/-- The fields of `gw_job_template_t` that the managers read. -/
structure Template where
  jobHome : String := ""
  executable : Option String := none
  preWrapper : Option String := none
  inputFiles : List (String × Option String) := []
  outputFiles : List (String × Option String) := []
  restartFiles : List String := []
  stdinFile : Option String := none
  stdoutFile : Option String := none
  stderrFile : Option String := none
  requirements : Option String := none
  rank : Option String := none
  reschedulingInterval : Time := 0
  reschedulingThreshold : Time := 0
  checkpointInterval : Time := 0
  checkpointUrl : String := ""
  suspensionTimeout : Time := 0
  rescheduleOnFailure : Bool := false
  numberOfRetries : Int := 0
  wrapper : Option String := none
  monitor : Option String := none
  mpi : Bool := false
  np : Nat := 1
deriving DecidableEq, Repr

/-- A job of the pool (`gw_job_t`). -/
structure Job where
  id : JobId
  owner : String := ""
  directory : String := ""
  userId : Option UserId := none
  template : Template := {}
  arrayId : Option Nat := none
  taskId : Nat := 0
  totalTasks : Nat := 0
  pstart : Int := 0
  pinc : Int := 0
  fixedPriority : Int := 0
  typeDep : Int := 0
  emState : EmState := .init
  tmState : TmState := .init
  jobState : JobState := .init
  startTime : Time := 0
  exitTime : Time := 0
  nextPollTime : Time := 0
  lastReschedulingTime : Time := 0
  lastCheckpointTime : Time := 0
  exitCode : Int := 0
  restarted : Nat := 0
  clientWaiting : Int := 0
  xfrs : Xfrs := {}
  chkXfrs : Xfrs := {}
  history : List HistoryRecord := []
  reschedule : Bool := false
deriving DecidableEq, Repr

namespace Job

/-- `gw_job_set_state` on the job itself; the line it appends to `job.state` is a call. -/
def setState (job : Job) (st : JobState) : Job := { job with jobState := st }

/-- The placements of the history, newest first. -/
def places (job : Job) : List Placement := job.history.map HistoryRecord.toPlacement

@[simp] lemma setState_jobState (job : Job) (st : JobState) :
    (job.setState st).jobState = st := rfl

@[simp] lemma setState_frame (job : Job) (st : JobState) :
    (job.setState st).id = job.id ∧ (job.setState st).userId = job.userId ∧
    (job.setState st).arrayId = job.arrayId ∧ (job.setState st).typeDep = job.typeDep ∧
    (job.setState st).template = job.template ∧ (job.setState st).history = job.history ∧
    (job.setState st).places = job.places ∧ (job.setState st).emState = job.emState ∧
    (job.setState st).tmState = job.tmState ∧ (job.setState st).restarted = job.restarted ∧
    (job.setState st).clientWaiting = job.clientWaiting :=
  ⟨rfl, rfl, rfl, rfl, rfl, rfl, rfl, rfl, rfl, rfl, rfl⟩

/-- What the handlers do not change of a job: who it is, what it asks for, where it was dispatched. -/
structure Core where
  id : JobId
  userId : Option UserId
  arrayId : Option Nat
  typeDep : Int
  np : Nat
  numberOfRetries : Int
  places : List Placement

/-- The fixed part of a job. -/
def core (job : Job) : Core where
  id := job.id
  userId := job.userId
  arrayId := job.arrayId
  typeDep := job.typeDep
  np := job.template.np
  numberOfRetries := job.template.numberOfRetries
  places := job.places

@[simp] lemma setState_core (job : Job) (st : JobState) : (job.setState st).core = job.core := rfl

/-- The reason stored in the newest record, `GW_REASON_NONE` without one. -/
def reason (job : Job) : Reason :=
  match job.history with
  | [] => .none
  | head :: _ => head.reason

end Job

/-- A queue of a host with its job counters. -/
structure QueueRow where
  name : String
  runningJobs : Int := 0
  activeJobs : Int := 0
deriving DecidableEq, Repr

/-- A host of the host pool, with the fields that the managers read or count in. -/
structure Host where
  hostname : String
  emMad : String
  tmMad : String
  imMad : String
  forkName : Option String := none
  lrmsName : Option String := none
  lrmsType : Option String := none
  seHostname : Option String := none
  usedSlots : Int := 0
  runningJobs : Int := 0
  queues : List QueueRow := []
deriving DecidableEq, Repr

/-- `gw_job_is_wrapper_based`, given the host of the newest history record. -/
def Job.isWrapperBased (job : Job) (host : Option Host) : Bool :=
  let isprews := (host.bind (·.lrmsName)).isSome && (host.bind (·.lrmsType)).isSome &&
    ((host.bind (·.lrmsName)).getD "").toList.take 11 == "jobmanager-".toList
  let isgw := (host.bind (·.lrmsName)).isSome && (host.bind (·.lrmsType)).isSome &&
    ((host.bind (·.lrmsType)).getD "").toLower == "gw"
  isprews || (!job.template.mpi && !isgw && job.template.wrapper.isSome)

end GridWay
