import GridWay.Dm.Dispatch
import GridWay.Tm.Action
import Mathlib.Logic.Function.Basic

/-!
# The daemon

The state that the managers share (job, user, host and array pools, dependency matrix, action
queues, pipes, job directories) and the effect on it of the calls that the handlers make.

A handler runs under the lock of its job and one manager runs its actions one after the other, so
a handler with its calls is one step. A read through `NULL` or outside an array ends the daemon:
`crashed` is set and nothing runs any more.

* `Gwd.call`: one call of a handler.
* `Gwd.jobPoolFree`, `Gwd.depCheck`: `gw_job_pool_free` and `gw_job_pool_dep_check`.
-/

namespace GridWay

/-- The limits read from `gwd.conf`. -/
structure Conf where
  numberOfJobs : Nat
  numberOfUsers : Nat
  numberOfArrays : Nat
  numberOfHosts : Nat
deriving DecidableEq, Repr

/-- A user of the user pool (`gw_user_t`). -/
structure User where
  name : String
  proxyPath : String
  activeJobs : Int := 0
  runningJobs : Int := 0
  idle : Int := 0
deriving DecidableEq, Repr

/-- An array of jobs (`gw_array_t`); a task that is gone is `none`. -/
structure JobArray where
  jobIds : List (Option JobId)
  freedTasks : Nat := 0
deriving DecidableEq, Repr

/-- A submission (`gw_msg_submit_t`). `jobDeps` are the entries before the terminator, which is
the type of the dependency. -/
structure SubmitMsg where
  owner : String
  proxyPath : String := ""
  template : Template := {}
  jobDeps : List JobId := []
  typeDep : Int := -1
  held : Bool := false
  fixedPriority : Int := 0
  pstart : Int := 0
  pinc : Int := 0
  /-- Number of tasks of an array; a single job has none. -/
  tasks : Option Nat := none
deriving DecidableEq, Repr

/-- The line of `job.conf`. -/
structure JobConf where
  startTime : Time
  owner : String
  proxyPath : String
  jobHome : String
  pstart : Int
  pinc : Int
  fixedPriority : Int
  typeDep : Int
deriving DecidableEq, Repr

/-- The persistent files of a job directory. -/
structure JobDir where
  /-- `job.template`, with the entry `JOB_DEPENDENCIES`. -/
  template : Template := {}
  jobDeps : List JobId := []
  conf : Option JobConf := none
  /-- `job.state`, oldest line first; `none` when the file does not exist. -/
  states : Option (List (Time × JobState)) := none
  /-- `job.history`, oldest line first. -/
  history : Option (List HistoryLine) := none
  contact : Option String := none
deriving DecidableEq, Repr

/-- An entry of the queue of the Dispatch Manager. -/
inductive DmItem where
  | job (a : DmAction) (id : JobId)
  | allocate (msg : SubmitMsg)
deriving DecidableEq, Repr

/-- The daemon. -/
structure Gwd where
  conf : Conf
  jobs : JobId → Option Job := fun _ => none
  /-- `number_of_jobs` of the pool; it is not lowered when a job is freed. -/
  jobCount : Nat := 0
  /-- `last_job_id + 1`. -/
  nextJobId : Nat := 0
  deps : JobId → Option (List Int) := fun _ => none
  users : UserId → Option User := fun _ => none
  /-- `number_of_users` of the pool; no code raises it. -/
  userCount : Int := 0
  hosts : HostId → Option Host := fun _ => none
  arrays : Nat → Option JobArray := fun _ => none
  /-- `last_array_id + 1`. -/
  nextArrayId : Nat := 0
  dmQueue : List DmItem := []
  emQueue : List (EmAction × JobId) := []
  tmQueue : List (TmAction × JobId) := []
  /-- Actions triggered at the Request Manager, oldest first. -/
  answers : List (RmAction × JobId) := []
  /-- Bytes written to the scheduler, as messages, oldest first. -/
  toSched : List SchedMsg := []
  toEm : List (JobId × String × EmReq) := []
  toTm : List (JobId × String × TmReq) := []
  dirs : JobId → Option JobDir := fun _ => none
  scheduling : Bool := false
  crashed : Bool := false

/-- The daemon after start-up with empty directories. -/
def Gwd.start (conf : Conf) : Gwd := { conf }

/-- Apply `f` to the first row of a queue table that has the name. -/
def onQueue (f : QueueRow → QueueRow) (name : String) : List QueueRow → List QueueRow
  | [] => []
  | row :: rows => if row.name = name then f row :: rows else row :: onQueue f name rows

/-- The counter updates of `gw_host.c` on a host. -/
def Host.apply (host : Host) : HostOp → Host
  | .incSlots np queue => { host with
      usedSlots := host.usedSlots + np
      runningJobs := host.runningJobs + 1
      queues := onQueue (fun r => { r with runningJobs := r.runningJobs + 1 }) queue host.queues }
  | .decSlots np queue => { host with
      usedSlots := host.usedSlots - np
      runningJobs := host.runningJobs - 1
      queues := onQueue (fun r => { r with runningJobs := r.runningJobs - 1 }) queue host.queues }
  | .decUslots np => { host with usedSlots := host.usedSlots - np }
  | .incRjobs queue => { host with
      runningJobs := host.runningJobs + 1
      queues := onQueue (fun r => { r with runningJobs := r.runningJobs + 1 }) queue host.queues }
  | .decRjobs queue => { host with
      runningJobs := host.runningJobs - 1
      queues := onQueue (fun r => { r with runningJobs := r.runningJobs - 1 }) queue host.queues }
  | .incAjobs queue => { host with
      queues := onQueue (fun r => { r with activeJobs := r.activeJobs + 1 }) queue host.queues }
  | .decAjobs queue => { host with
      queues := onQueue (fun r => { r with activeJobs := r.activeJobs - 1 }) queue host.queues }

/-- The updates that end with a `HOST_MONITOR` message. -/
def HostOp.reports : HostOp → Bool
  | .incAjobs _ => false
  | .decAjobs _ => false
  | _ => true

namespace Gwd

/-- A counter update of a host of the pool, with its message to the scheduler. -/
def hostOp (s : Gwd) (h : HostId) (op : HostOp) : Gwd :=
  match s.hosts h with
  | none => { s with crashed := true }
  | some host =>
    let host := host.apply op
    { s with
      hosts := Function.update s.hosts h (some host)
      toSched := s.toSched ++ if op.reports then
        [SchedMsg.hostMonitor h host.usedSlots host.runningJobs host.hostname] else [] }

/-- A counter update of a user, with its message to the scheduler; a user that is not in the pool
is passed over. -/
def userOp (s : Gwd) (u : Option UserId) (f : User → User) : Gwd :=
  match u with
  | none => s
  | some uid =>
    match s.users uid with
    | none => s
    | some user =>
      let user := f user
      { s with
        users := Function.update s.users uid (some user)
        toSched := s.toSched ++ [.userAdd uid user.activeJobs user.runningJobs user.name] }

/-- `gw_user_pool_inc_jobs`. -/
def incJobs (s : Gwd) (u : Option UserId) (jobs : Int) : Gwd :=
  s.userOp u fun user => { user with idle := 0, activeJobs := user.activeJobs + jobs }

/-- `gw_user_pool_dec_jobs`. -/
def decJobs (s : Gwd) (u : Option UserId) : Gwd :=
  s.userOp u fun user => { user with idle := 0, activeJobs := user.activeJobs - 1 }

/-- `gw_user_pool_inc_running_jobs`. -/
def incRunningJobs (s : Gwd) (u : Option UserId) (jobs : Int) : Gwd :=
  s.userOp u fun user => { user with runningJobs := user.runningJobs + jobs }

/-- `gw_user_pool_dec_running_jobs`. -/
def decRunningJobs (s : Gwd) (u : Option UserId) : Gwd :=
  s.userOp u fun user => { user with runningJobs := user.runningJobs - 1 }

/-- Change the directory of a job, when it has one. -/
def onDir (s : Gwd) (j : JobId) (f : JobDir → JobDir) : Gwd :=
  match s.dirs j with
  | none => s
  | some d => { s with dirs := Function.update s.dirs j (some (f d)) }

/-- The line that `gw_job_set_state` appends to `job.state`, when the file can be opened. -/
def stateLine (w : World) (s : Gwd) (j : JobId) (st : JobState) : Gwd :=
  if w.stateFile then
    s.onDir j fun d => { d with states := some (d.states.getD [] ++ [(w.now, st)]) }
  else s

/-- A job is known to the scheduler when it is freed. -/
def known (job : Job) : Bool :=
  job.jobState == .pending || (job.jobState == .wrapper && job.reschedule)

/-- `gw_job_pool_free`. -/
def jobPoolFree (s : Gwd) (j : JobId) : Gwd :=
  match s.jobs j with
  | none => { s with deps := Function.update s.deps j none }
  | some job =>
    let s := { s with toSched := s.toSched ++ if known job then [SchedMsg.jobDel j] else [] }
    let s := s.decJobs job.userId
    { s with
      jobs := Function.update s.jobs j none
      deps := Function.update s.deps j none }

/-- The entries that a finished job fulfils are marked with `-4`. -/
def clearDep (j : JobId) (met : Bool) (deps : List Int) : List Int :=
  deps.map fun (d : Int) => if d = j ∧ met then -4 else d

/-- The finished job has the status that the type of the dependency asks for. -/
def depMet (typeDep exitCode : Int) : Bool :=
  typeDep == -1 || (typeDep == -2 && exitCode == 0) || (typeDep == -3 && exitCode != 0)

/-- One round of the loop of `gw_job_pool_dep_check`: the dependent job `i`, after job `j` ended
with `exitCode`. -/
def depCheckOne (w : World) (j : JobId) (exitCode : Int) (s : Gwd) (i : JobId) : Gwd :=
  match s.deps i with
  | none => s
  | some ds =>
    match s.jobs i with
    -- the lock of a job that is not there is released
    | none => { s with crashed := true }
    | some job =>
      if job.jobState = .hold then
        let ds' := clearDep j (depMet job.typeDep exitCode) ds
        let s := { s with deps := Function.update s.deps i (some ds') }
        if (ds.any fun d => d = (j : Int)) ∧ ds'.all (· = -4) then
          let s := { s with jobs := Function.update s.jobs i (some (job.setState .pending)) }
          let s := s.stateLine w i .pending
          { s with toSched := s.toSched ++ [.jobSchedule i job.arrayId job.userId .none] }
        else s
      else s

/-- `gw_job_pool_dep_check`. -/
def depCheck (w : World) (s : Gwd) (j : JobId) (exitCode : Int) : Gwd :=
  (List.range s.conf.numberOfJobs).foldl (depCheckOne w j exitCode) s

/-- `gw_array_del_task`, and the array goes with its last task. -/
def delTask (s : Gwd) (array : Option Nat) (task : Nat) : Gwd :=
  match array with
  | none => s
  | some aid =>
    match s.arrays aid with
    | none => s
    | some a =>
      let a := match a.jobIds[task]? with
        | some (some _) =>
          { a with jobIds := a.jobIds.set task Option.none, freedTasks := a.freedTasks + 1 }
        | _ => a
      let rest := if a.jobIds.length - a.freedTasks = 0 then none else some a
      { s with arrays := Function.update s.arrays aid rest }

/-- One call of a handler that runs for job `j`. -/
def call (w : World) (j : JobId) (s : Gwd) : Call → Gwd
  | .host h op => s.hostOp h op
  | .incRunning u jobs => s.incRunningJobs u jobs
  | .decRunning u => s.decRunningJobs u
  | .dm a => { s with dmQueue := s.dmQueue ++ [.job a j] }
  | .em a => { s with emQueue := s.emQueue ++ [(a, j)] }
  | .tm a => { s with tmQueue := s.tmQueue ++ [(a, j)] }
  | .rm a => { s with answers := s.answers ++ [(a, j)] }
  | .sched m => { s with toSched := s.toSched ++ [m] }
  | .emMad mad r => { s with toEm := s.toEm ++ [(j, mad, r)] }
  | .tmMad mad r => { s with toTm := s.toTm ++ [(j, mad, r)] }
  | .stateLine st => s.stateLine w j st
  | .historyLine line => s.onDir j fun d => { d with history := some (d.history.getD [] ++ [line]) }
  | .contact text => s.onDir j fun d => { d with contact := some text }
  | .unlinkConf => s.onDir j fun d => { d with conf := none }
  | .free => s.jobPoolFree j
  | .delTask array task => s.delTask array task
  | .depCheck exitCode => s.depCheck w j exitCode
  | .fault => { s with crashed := true }

/-- The world as the handlers see it: the host pool is the one of the daemon. -/
def world (s : Gwd) (w : World) : World := { w with hosts := s.hosts }

/-- Store the job that a handler leaves and make its calls. -/
def reply (w : World) (j : JobId) (r : Reply) (s : Gwd) : Gwd :=
  r.calls.foldl (call w j) { s with jobs := Function.update s.jobs j (some r.job) }

/-- Run a handler for a job, when the job exists. -/
def onJob (w : World) (j : JobId) (f : World → Job → Reply) (s : Gwd) : Gwd :=
  match s.jobs j with
  | none => s
  | some job => s.reply w j (f (s.world w) job)

end Gwd

end GridWay
