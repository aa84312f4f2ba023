import GridWay.Gwd.State
import GridWay.Lib.Exchange
import GridWay.Rm.Connection
import Mathlib.Logic.Function.Basic

/-!
# Questions about jobs

The Request Manager answers a question about a job with the records of the job, of its history, or of the
hosts that match it (`gw_rm_job_status.c`, `gw_rm_job_history.c`, `gw_rm_host_match.c`); the library of
the clients reads them off the connection (`gw_client_job_status.c`, `gw_client_job_match.c`). A record is
a variable that the function fills: what it does not set is what was there before.

* `Rm.jobStatus`, `Rm.jobHistory`, `Rm.jobMatch`, `Rm.arrayMatch`: what is sent.
* `Rm.jobStatusFd`, `Rm.jobHistoryFd`, `Rm.matchJobFd`: what a client reads.
-/

namespace GridWay.Rm

/-- What is copied into an array of `n` characters with its end. -/
def copyStr (n : Nat) (s : Option String) : List Char := ((s.getD "").toList).take (n - 1)

/-- The sizes of the strings of a record: `GW_MSG_STRING_SHORT`, `GW_MSG_STRING_HOST` and
`GW_MSG_STRING_USER_AT_HOST`. -/
def stringShort : Nat := 25

def stringHost : Nat := 40

def stringUserAtHost : Nat := 66

/-- A job with what only the records tell of its template. -/
structure Entry where
  job : Job
  name : Option String := none
  deadline : Time := 0
  type : Nat := 0

/-- What the replies read of a host. A queue without a name is no queue. -/
structure Host where
  hostname : Option String
  fixedPriority : Int
  runningJobs : Int
  queueName : Nat → Option String
  queueMaxjobsinqueue : Nat → Int
  queueRunningJobs : Nat → Int
  queueMaxrunningjobs : Nat → Int
  queueActiveJobs : Nat → Int

/-- The pools of the daemon, with the time of day. -/
structure Pools where
  jobs : List (Option Entry)
  arrays : List (Option JobArray)
  hosts : List (Option Host)
  now : Time := 0

namespace Pools

/-- `gw_job_pool_get`. -/
def getJob (pools : Pools) (job_id : Int) : Option Entry :=
  if 0 ≤ job_id then pools.jobs[job_id.toNat]?.join else none

/-- `gw_array_pool_get_array`. -/
def getArray (pools : Pools) (array_id : Int) : Option JobArray :=
  if 0 ≤ array_id then pools.arrays[array_id.toNat]?.join else none

end Pools

/-- `gw_msg_job_t`. -/
structure JobMsg where
  msgType : MsgType
  rc : ReturnCode
  owner : List Char
  name : List Char
  host : List Char
  id : Int
  arrayId : Int
  taskId : Int
  totalTasks : Int
  uid : Int
  fixedPriority : Int
  deadline : Time
  type : Nat
  np : Nat
  emState : EmState
  jobState : JobState
  startTime : Time
  exitTime : Time
  xfrTime : Time
  cpuTime : Time
  exitCode : Int
  restarted : Nat
  clientWaiting : Int
  reschedule : Bool

/-- `gw_msg_history_t`. -/
structure HistoryMsg where
  msgType : MsgType
  rc : ReturnCode
  rank : Int
  hostId : Int
  startTime : Time
  exitTime : Time
  prologStime : Time
  prologEtime : Time
  preWrapperStime : Time
  preWrapperEtime : Time
  wrapperStime : Time
  wrapperEtime : Time
  epilogStime : Time
  epilogEtime : Time
  migrationStime : Time
  migrationEtime : Time
  rdir : List Char
  emRc : List Char
  queue : List Char
  tries : Int
  reason : Reason

/-- `gw_msg_match_t`. -/
structure MatchMsg where
  msgType : MsgType
  rc : ReturnCode
  hostId : Int
  jobId : Int
  fixedPriority : Int
  matched : Bool
  hostname : List Char
  runningJobs : Int
  numberOfQueues : Nat
  queueName : Nat → List Char
  fits : Nat → Bool
  rank : Nat → Int
  slots : Nat → Int

/-- A record on the connection. -/
inductive Record where
  | job (msg : JobMsg)
  | history (msg : HistoryMsg)
  | matched (msg : MatchMsg)

namespace Record

def job? : Record → Option JobMsg
  | .job msg => some msg
  | _ => none

def history? : Record → Option HistoryMsg
  | .history msg => some msg
  | _ => none

def matched? : Record → Option MatchMsg
  | .matched msg => some msg
  | _ => none

end Record

/-- How a host is judged by the requirements and the rank of a job, and how many queues it may have. -/
structure Judge where
  maxQueues : Nat
  checkReqs : Host → Nat → Option String → Bool
  computeRank : Host → Nat → Option String → Int

/-- `gw_job_history_get_migration_time`. -/
def migrationTime (r : HistoryRecord) (now : Time) : Time :=
  elapsed now r.stats.migrationStartTime r.stats.migrationExitTime

/-- The time for the transfers of an execution. -/
def xfrTime (r : HistoryRecord) (now : Time) : Time :=
  r.prologTime now + r.epilogTime now + migrationTime r now

/-- What a record tells of a job. A job without history has times of -1. -/
def jobToMsg (now : Time) (entry : Entry) (msg : JobMsg) : JobMsg :=
  let job := entry.job
  { msg with
    rc := .success
    owner := job.owner.toList.take stringShort
    name := entry.name.elim msg.name fun name => name.toList.take stringShort
    host := copyStr stringUserAtHost (job.history.head?.map (·.emRc))
    id := job.id
    arrayId := job.arrayId.elim (-1) Int.ofNat
    taskId := job.taskId
    totalTasks := job.totalTasks
    uid := job.userId.elim (-1) Int.ofNat
    fixedPriority := job.fixedPriority
    deadline := entry.deadline
    type := entry.type
    np := job.template.np
    emState := job.emState
    jobState := job.jobState
    exitCode := job.exitCode
    restarted := job.restarted
    clientWaiting := job.clientWaiting
    reschedule := job.reschedule
    startTime := job.startTime
    exitTime := job.exitTime
    cpuTime :=
      match job.history with
      | [] => -1
      | r :: tail => tail.foldl (fun sum tmp => sum + tmp.wrapperTime now) (r.wrapperTime now)
    xfrTime :=
      match job.history with
      | [] => -1 + -1 + -1
      | r :: tail => tail.foldl (fun sum tmp => sum + xfrTime tmp now) (xfrTime r now) }

/-- `gw_rm_job_status`. -/
def jobStatus (pools : Pools) (job_id : Int) (msg : JobMsg) : List Record :=
  let msg := { msg with msgType := .jobStatus }
  match pools.getJob job_id with
  | none => [.job { msg with rc := .failedBadJobId, id := job_id }]
  | some entry => [.job (jobToMsg pools.now entry msg)]

/-- `gw_rm_history_to_msg`. -/
def historyToMsg (history : HistoryRecord) : HistoryMsg where
  msgType := .jobHistory
  rc := .success
  rank := history.rank
  hostId := history.host
  startTime := history.stats.startTime
  exitTime := history.stats.exitTime
  prologStime := history.stats.prologStartTime
  prologEtime := history.stats.prologExitTime
  preWrapperStime := history.stats.preWrapperStartTime
  preWrapperEtime := history.stats.preWrapperExitTime
  wrapperStime := history.stats.wrapperStartTime
  wrapperEtime := history.stats.wrapperExitTime
  epilogStime := history.stats.epilogStartTime
  epilogEtime := history.stats.epilogExitTime
  migrationStime := history.stats.migrationStartTime
  migrationEtime := history.stats.migrationExitTime
  rdir := copyStr stringShort (some history.rdir)
  emRc := copyStr stringUserAtHost (some history.emRc)
  queue := copyStr stringShort (some history.queue)
  tries := history.tries
  reason := history.reason

/-- `gw_rm_job_history`. The last record is the one before it with another type. -/
def jobHistory (pools : Pools) (job_id : Int) (msg : HistoryMsg) : List Record :=
  match pools.getJob job_id with
  | none => [.history { msg with msgType := .jobHistory, rc := .failedBadJobId }]
  | some entry =>
    let sent := entry.job.history.map historyToMsg
    (sent ++ [{ sent.getLastD msg with msgType := .endAll, rc := .success }]).map .history

/-- The free slots of a queue. -/
def slotsOf (host : Host) (j : Nat) : Int :=
  if host.queueActiveJobs j > host.queueMaxrunningjobs j then 0
  else if host.queueMaxjobsinqueue j > 0 then host.queueMaxjobsinqueue j - host.queueRunningJobs j
  else host.queueMaxrunningjobs j - host.queueActiveJobs j

/-- A queue of a host is put into the record. -/
def addQueue (judge : Judge) (host : Host) (job : Job) (msg : MatchMsg) (j : Nat) : MatchMsg :=
  match host.queueName j with
  | none => msg
  | some name =>
    let n := msg.numberOfQueues
    let msg := { msg with
      queueName := Function.update msg.queueName n (copyStr stringShort (some name)) }
    if judge.checkReqs host j job.template.requirements then
      { msg with
        matched := true
        fits := Function.update msg.fits n true
        rank := Function.update msg.rank n (judge.computeRank host j job.template.rank)
        slots := Function.update msg.slots n (slotsOf host j)
        numberOfQueues := n + 1 }
    else
      { msg with
        fits := Function.update msg.fits n false
        rank := Function.update msg.rank n 0
        slots := Function.update msg.slots n 0
        numberOfQueues := n + 1 }

/-- A host is put into the record. -/
def hostToMsg (judge : Judge) (job_id : Int) (job : Job) (i : Nat) (host : Host) (msg : MatchMsg) :
    MatchMsg :=
  (List.range judge.maxQueues).foldl (addQueue judge host job)
    { msg with
      numberOfQueues := 0
      rc := .success
      matched := false
      hostId := i
      jobId := job_id
      fixedPriority := host.fixedPriority
      runningJobs := host.runningJobs
      hostname := copyStr stringHost host.hostname }

/-- The hosts from one on: the record with the last of them, and what was sent. -/
def matchHosts (judge : Judge) (job_id : Int) (job : Job) :
    Nat → List (Option Host) → MatchMsg → MatchMsg × List MatchMsg
  | _, [], msg => (msg, [])
  | i, none :: hosts, msg => matchHosts judge job_id job (i + 1) hosts msg
  | i, some host :: hosts, msg =>
    let msg := hostToMsg judge job_id job i host msg
    let later := matchHosts judge job_id job (i + 1) hosts msg
    (later.1, if msg.matched then msg :: later.2 else later.2)

/-- `gw_rm_job_match`. -/
def jobMatch (judge : Judge) (pools : Pools) (job_id : Int) (msg : MatchMsg) : List Record :=
  let msg := { msg with msgType := .jobMatch }
  match pools.getJob job_id with
  | none => [.matched { msg with msgType := .endJob, rc := .failedBadJobId, jobId := job_id }]
  | some entry =>
    let sent := matchHosts judge job_id entry.job 0 pools.hosts msg
    (sent.2 ++ [{ sent.1 with msgType := .endJob, rc := .success }]).map .matched

/-- `gw_rm_array_match`. An array is matched by its first job that is there. -/
def arrayMatch (judge : Judge) (pools : Pools) (array_id : Int) (msg : MatchMsg) : List Record :=
  match pools.getArray array_id with
  | none => [.matched { msg with msgType := .endJob, rc := .failedBadJobId, jobId := array_id }]
  | some array =>
    match array.jobIds.findSome? id with
    | none => []
    | some job_id => jobMatch judge pools job_id msg

/-- A question. -/
inductive Question where
  | status (job_id : Int)
  | history (job_id : Int)
  | matching (job_id array_id : Int)
deriving DecidableEq, Repr

/-- A question, the pools when it is answered, and what the records of the answer hold before they are
filled. -/
structure Asked where
  question : Question
  pools : Pools
  job : JobMsg
  history : HistoryMsg
  matched : MatchMsg

/-- `gw_rm` serves a question. -/
def answer (judge : Judge) (asked : Asked) : List Record :=
  match asked.question with
  | .status job_id => jobStatus asked.pools job_id asked.job
  | .history job_id => jobHistory asked.pools job_id asked.history
  | .matching job_id array_id =>
    if array_id = -1 then jobMatch judge asked.pools job_id asked.matched
    else arrayMatch judge asked.pools array_id asked.matched

/-- What a function of the library returns. -/
inductive Result where
  | status (rc : ReturnCode) (job_status : JobMsg)
  | history (rc : ReturnCode) (history_list : List HistoryMsg)
  | matching (rc : ReturnCode) (match_list : List MatchMsg)

/-- `gw_client_job_status_fd` after the question was sent. -/
def jobStatusFd (input : List Record) : Option (Result × List Record) :=
  (Exchange.recv Record.job? input).map fun r => (.status r.1.rc r.1, r.2)

/-- `gw_client_job_history_fd` after the question was sent. -/
def jobHistoryFd (input : List Record) : Option (Result × List Record) :=
  (Exchange.readRecords Record.history? (·.rc) .success (·.msgType = .endAll) input).map fun r =>
    (.history r.1.1 r.1.2, r.2)

/-- `gw_client_match_job_fd` after the question was sent. -/
def matchJobFd (input : List Record) : Option (Result × List Record) :=
  (Exchange.readRecords Record.matched? (·.rc) .success (·.msgType = .endJob) input).map fun r =>
    (.matching r.1.1 r.1.2, r.2)

/-- The function of the library for a question. -/
def reader (asked : Asked) : List Record → Option (Result × List Record) :=
  match asked.question with
  | .status _ => jobStatusFd
  | .history _ => jobHistoryFd
  | .matching _ _ => matchJobFd

end GridWay.Rm
