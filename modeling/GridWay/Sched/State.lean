import GridWay.Job.Call

/-!
# The scheduler process

`gw_scheduler_users.c`, `gw_scheduler_hosts.c` and `gw_scheduler_jobs.c`: the three tables of the
scheduler. They are arrays without holes and refer to each other by position: a job to its user by
`ua_id`, an entry of a match list to its host by `ha_id`.

* `Scheduler.delUser`: the only entry goes whatever its id is, and the last one when no entry has
  the id.
* `Scheduler.jobDel`: the count of the user is taken through the position that the job stores.
-/

namespace GridWay

/-- A host of the scheduler (`gw_sch_host_t`). -/
structure SchHost where
  hid : HostId
  name : String
  usedSlots : Int
  runningJobs : Int
  dispatched : Int := 0
deriving DecidableEq, Repr

/-- A host in the list of a user (`gw_sch_user_host_t`). -/
structure SchUserHost where
  haId : Nat
  hid : HostId
  banned : Time := 0
  lastBanned : Time := 0
  lastExecution : Time := 0
  lastTransfer : Time := 0
  lastSuspension : Time := 0
deriving DecidableEq, Repr

/-- A user of the scheduler (`gw_sch_user_t`). -/
structure SchUser where
  uid : UserId
  name : String
  activeJobs : Int
  runningJobs : Int
  totalJobs : Int := 0
  dispatched : Int := 0
  subWindows : List Int := []
  hosts : List SchUserHost := []
deriving DecidableEq, Repr

/-- An entry of the match list of a job (`gw_sch_queue_t`). -/
structure SchQueue where
  haId : Nat
  uhaId : Nat
  qname : String
  slots : Int
  fixed : Int
  rank : Int
deriving DecidableEq, Repr

/-- A job of the scheduler (`gw_sch_job_t`); a single job has no array. -/
structure SchJob where
  uaId : Nat
  /-- The user that the daemon named for the job. It is a ghost: the source does not store it, and
  no function reads it. -/
  owner : UserId
  jid : JobId
  aid : Option Nat
  np : Int
  reason : Reason
  mhosts : List SchQueue := []
  scheduleTime : Time
  deadlineTime : Time
  fixed : Int
deriving DecidableEq, Repr

/-- What the scheduler prints. -/
inductive SchedOut where
  | scheduleJob (job : JobId) (host : HostId) (queue : String) (rank : Int)
  | scheduleFailed (job : JobId)
  | scheduleEnd
deriving DecidableEq, Repr

/-- The configuration of the scheduler. -/
structure SchedConf where
  windowDepth : Nat := 5
  disable : Bool := false
  maxDispatch : Nat := 0
  maxUser : Nat := 0
  maxResource : Nat := 0
  /-- The first ban of a host. -/
  firstBan : Time := 0
  /-- A later ban, by the time since the first. -/
  banTime : Time → Time := fun _ => 0

/-- The tables of the scheduler (`gw_scheduler_t`). -/
structure Scheduler where
  conf : SchedConf := {}
  users : List SchUser := []
  hosts : List SchHost := []
  jobs : List SchJob := []
  out : List SchedOut := []
  /-- How far `num_users` is below zero. -/
  deficit : Nat := 0
  /-- An access outside of a table. -/
  crashed : Bool := false

namespace Scheduler

/-- The position of the first user with the id. -/
def findUser (s : Scheduler) (uid : UserId) : Option Nat := s.users.findIdx? (·.uid == uid)

/-- The position of the first host with the id. -/
def findHost (s : Scheduler) (hid : HostId) : Option Nat := s.hosts.findIdx? (·.hid == hid)

/-- `gw_scheduler_add_host`: the new host is appended to the list of every user. -/
def addHost (hid : HostId) (uslots rjobs : Int) (hostname : String) (s : Scheduler) : Scheduler :=
  match s.findHost hid with
  | some i =>
    { s with hosts := s.hosts.modify i fun h => { h with usedSlots := uslots, runningJobs := rjobs } }
  | none =>
    let i := s.hosts.length
    { s with
      hosts := s.hosts ++ [{ hid, name := hostname, usedSlots := uslots, runningJobs := rjobs }]
      users := s.users.map fun u => { u with hosts := u.hosts ++ [{ haId := i, hid }] } }

/-- The list of hosts that a new user starts with. -/
def userHosts (s : Scheduler) : List SchUserHost :=
  s.hosts.zipIdx.map fun (h, j) => { haId := j, hid := h.hid }

/-- `gw_scheduler_add_user`. -/
def addUser (uid : UserId) (ajobs rjobs : Int) (name : String) (s : Scheduler) : Scheduler :=
  match s.findUser uid with
  | some i =>
    { s with users := s.users.modify i fun u => { u with activeJobs := ajobs, runningJobs := rjobs } }
  | none =>
    let user : SchUser := {
      uid, name, activeJobs := ajobs, runningJobs := rjobs
      subWindows := List.replicate s.conf.windowDepth 0, hosts := s.userHosts }
    if s.deficit > 0 then { s with crashed := true } else { s with users := s.users ++ [user] }

/-- `gw_scheduler_del_user`. -/
def delUser (uid : UserId) (s : Scheduler) : Scheduler :=
  -- the only user goes, whoever it is
  if s.users.length = 1 then { s with users := [] }
  else
    match s.findUser uid with
    | some k => { s with users := s.users.eraseIdx k }
    | none =>
      -- the number of users is decremented all the same
      if s.users = [] then { s with deficit := s.deficit + 1 }
      else { s with users := s.users.dropLast }

/-- Change the first entry for a host in the list of a user, when both are known. -/
def onUserHost (uid : UserId) (hid : HostId) (f : SchUserHost → SchUserHost) (s : Scheduler) :
    Scheduler :=
  match s.findUser uid with
  | none => s
  | some k =>
    { s with users := s.users.modify k fun u =>
        match u.hosts.findIdx? (·.hid == hid) with
        | none => u
        | some i => { u with hosts := u.hosts.modify i f } }

/-- The ban of a host after a failure. -/
def ban (conf : SchedConf) (now : Time) (th : SchUserHost) : SchUserHost :=
  let first := th.lastBanned = 0
  let t := now - th.lastBanned
  let delta := if first then conf.firstBan else if t ≤ 10 then 0 else conf.banTime t
  let th := if first then { th with lastBanned := now } else th
  if delta ≠ 0 then { th with banned := now + delta } else th

/-- `gw_scheduler_job_failed`. -/
def jobFailed (now : Time) (hid : HostId) (uid : UserId) (reason : Reason) (s : Scheduler) :
    Scheduler :=
  if reason = .suspensionTime ∨ reason = .performance ∨ reason = .executionError then
    s.onUserHost uid hid (ban s.conf now)
  else s

/-- `gw_scheduler_job_success`. -/
def jobSuccess (hid : HostId) (uid : UserId) (txfr tsus texe : Time) (s : Scheduler) : Scheduler :=
  s.onUserHost uid hid fun th =>
    { th with
      lastBanned := 0, banned := 0
      lastExecution := texe, lastTransfer := txfr, lastSuspension := tsus }

/-- What `gw_client_job_status_fd` reports of a job. -/
structure JobStatus where
  fixedPriority : Int
  np : Int
  deadline : Time
deriving DecidableEq, Repr

/-- `gw_scheduler_job_add`: a job of an unknown user is dropped. -/
def jobAdd (now : Time) (jid : JobId) (aid : Option Nat) (reason : Reason) (uid : UserId)
    (status : JobStatus) (s : Scheduler) : Scheduler :=
  match s.findUser uid with
  | none => s
  | some k =>
    let job : SchJob := {
      uaId := k, owner := uid, jid, aid, reason, np := status.np, fixed := status.fixedPriority
      scheduleTime := now, deadlineTime := status.deadline }
    { s with
      users := s.users.modify k fun u => { u with totalJobs := u.totalJobs + 1 }
      jobs := s.jobs ++ [job] }

/-- The counts of a user when a job of it leaves the list. -/
def leave (dispatched : Bool) (u : SchUser) : SchUser :=
  { u with
    totalJobs := u.totalJobs - 1
    subWindows := if dispatched then u.subWindows.modify 0 (· + 1) else u.subWindows }

/-- `gw_scheduler_job_del`. -/
def jobDel (jid : JobId) (dispatched : Bool) (s : Scheduler) : Scheduler :=
  match s.jobs.findIdx? (·.jid == jid) with
  | none => s
  | some i =>
    let ua := (s.jobs[i]?.map (·.uaId)).getD 0
    match s.users[ua]? with
    | none => { s with crashed := true }
    | some user =>
      if dispatched ∧ user.subWindows = [] then { s with crashed := true }
      else { s with users := s.users.modify ua (leave dispatched), jobs := s.jobs.eraseIdx i }

/-- `gw_scheduler_user_update_windows`. -/
def userUpdateWindows (s : Scheduler) : Scheduler :=
  if s.conf.windowDepth = 0 then s
  else { s with users := s.users.map fun u => { u with subWindows := 0 :: u.subWindows.dropLast } }

end Scheduler

end GridWay
