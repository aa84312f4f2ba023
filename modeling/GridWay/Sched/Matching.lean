import GridWay.Sched.State

/-!
# Matching

`gw_rm_host_match.c` at the daemon, and `gw_scheduler_filter_select_queues` and
`gw_scheduler_matching_arrays` at the scheduler. The daemon answers with the hosts that meet the
requirements of a job, for an array with those of its first unfinished task; the scheduler drops
hosts, selects a queue on each of the others, and keeps the result as the match list of the job. The
list of a task is copied from the entry before it when a list was made for the array already.

* `Scheduler.matchFrom`: the loop over the jobs.
* `Scheduler.matchAlone`: the list that a job would get on its own.
-/

namespace GridWay

/-- A queue of a host of the daemon, with the numbers that its free slots are computed from. -/
structure HostQueue where
  name : String
  maxJobsInQueue : Int
  runningJobs : Int
  maxRunningJobs : Int
  activeJobs : Int
deriving DecidableEq, Repr

/-- A host of the daemon. An index of the queue arrays may be unset. -/
structure HostRow where
  fixedPriority : Int
  queues : List (Option HostQueue)
deriving DecidableEq, Repr

/-- A queue in a reply: `match`, `rank` and `slots` at one index. -/
structure MatchQueue where
  name : String
  matched : Bool
  rank : Int
  slots : Int
deriving DecidableEq, Repr

/-- A host in a reply (`gw_msg_match_t`). -/
structure Match where
  hostId : HostId
  fixedPriority : Int
  queues : List MatchQueue
deriving DecidableEq, Repr

/-- The jobs of the daemon, as far as a match reads them. -/
structure JobView where
  requirements : JobId → Option (Option String) := fun _ => none
  rank : JobId → Option String := fun _ => none
  arrays : Nat → Option (List (Option JobId)) := fun _ => none

/-- What a match reads at the daemon. The language of requirements and ranks is a parameter. -/
structure MatchView extends JobView where
  hosts : List (Option HostRow) := []
  checkReqs : HostId → Nat → Option String → Bool := fun _ _ _ => true
  computeRank : HostId → Nat → Option String → Int := fun _ _ _ => 0

/-- The first task of an array that has not ended. -/
def JobView.firstTask (v : JobView) (aid : Nat) : Option JobId :=
  (v.arrays aid).bind fun ids => ids.findSome? id

namespace MatchView

/-- The free slots of a queue. -/
def freeSlots (q : HostQueue) : Int :=
  if q.activeJobs > q.maxRunningJobs then 0
  else if q.maxJobsInQueue > 0 then q.maxJobsInQueue - q.runningJobs
  else q.maxRunningJobs - q.activeJobs

/-- One round of the loop over the queues of a host. -/
def matchQueue (v : MatchView) (hid : HostId) (reqs rank : Option String) (j : Nat)
    (q : HostQueue) : MatchQueue :=
  if v.checkReqs hid j reqs then
    { name := q.name, matched := true, rank := v.computeRank hid j rank, slots := freeSlots q }
  else { name := q.name, matched := false, rank := 0, slots := 0 }

/-- One round of the loop over the hosts: a host without a matching queue is not sent. -/
def matchHost (v : MatchView) (reqs rank : Option String) (hid : HostId) (host : HostRow) :
    Option Match :=
  let queues := host.queues.zipIdx.filterMap fun (q, j) =>
    q.map (v.matchQueue hid reqs rank j)
  if queues.any (·.matched) then some { hostId := hid, fixedPriority := host.fixedPriority, queues }
  else none

/-- The loop over the hosts. -/
def matchHosts (v : MatchView) (reqs rank : Option String) : List Match :=
  v.hosts.zipIdx.filterMap fun (host, hid) => host.bind (v.matchHost reqs rank hid)

/-- `gw_rm_job_match`: `none` when the job does not exist. -/
def jobMatch (v : MatchView) (jid : JobId) : Option (List Match) :=
  (v.requirements jid).map fun reqs => v.matchHosts reqs (v.rank jid)

/-- `gw_rm_array_match`: the job that is matched is the first unfinished task. -/
def arrayMatch (v : MatchView) (aid : Nat) : Option (List Match) :=
  (v.firstTask aid).bind v.jobMatch

/-- The answer to a `JOB_MATCH` request. -/
def reply (v : MatchView) (jid : JobId) (aid : Option Nat) : Option (List Match) :=
  match aid with
  | none => v.jobMatch jid
  | some aid => v.arrayMatch aid

end MatchView

/-- A record in the answer to a `JOB_HISTORY` request. -/
structure HistoryRow where
  hostId : HostId
  rank : Int
deriving DecidableEq, Repr

/-- The answer to a `JOB_HISTORY` request, newest record first. The end of the list is a record
too, and it is read as the newest one when there is no other. -/
structure HistoryReply where
  rows : List HistoryRow
  endRank : Int := 0
deriving DecidableEq, Repr

/-- What happens outside of the scheduler while it takes a message: the clock, the answers of the
daemon, and the orders of the policies, which are computed with floating point numbers. -/
structure SchedWorld where
  now : Time := 0
  status : JobId → Option Scheduler.JobStatus := fun _ => none
  view : MatchView := {}
  history : JobId → Option HistoryReply := fun _ => none
  hostPolicies : List SchUserHost → List SchQueue → List Nat := fun _ qs => List.range qs.length
  jobPolicies : List SchUser → List SchJob → List Nat := fun _ js => List.range js.length
  windowEnds : Bool := false

namespace Scheduler

/-- The entries of a list in another order; a list of positions that is no order changes nothing. -/
def permute {α : Type*} (order : List Nat) (xs : List α) : List α :=
  if order.Perm (List.range xs.length) then order.filterMap (xs[·]?) else xs

/-- `isinhistory`. -/
def isInHistory (hid : HostId) (h : HistoryReply) : Bool := h.rows.any (·.hostId == hid)

/-- The rank of the newest record. -/
def newestRank (h : HistoryReply) : Int := (h.rows.head?.map (·.rank)).getD h.endRank

/-- Whether a job may run on a host: the ban list, the history for the reasons that ask for another
host, the rank for a discovery, the priority of the host. -/
def passes (w : SchedWorld) (uhosts : List SchUserHost) (job : SchJob) (m : Match) : Bool :=
  match uhosts.find? (·.hid == m.hostId) with
  | none => false
  | some uh =>
    if w.now ≤ uh.banned then false
    else
      match job.reason with
      | .userRequested | .suspensionTime =>
        match w.history job.jid with
        | none => false
        | some h => !isInHistory m.hostId h
      | .reschedulingTimeout =>
        match w.history job.jid with
        | none => false
        | some h => !isInHistory m.hostId h && m.queues.any fun q => q.rank > newestRank h
      | _ => m.fixedPriority != 0

/-- One round of the queue selection: the slots of a queue chosen by its rank are not kept. -/
def betterQueue (best : Nat × Int × Int) (q : MatchQueue) (j : Nat) : Nat × Int × Int :=
  let (qnum, mrank, mfnc) := best
  if q.rank > mrank then (j, q.rank, mfnc)
  else if q.rank = mrank ∧ q.slots > mfnc then (j, mrank, q.slots)
  else best

/-- The queue selection. -/
def selectQueue (queues : List MatchQueue) : Nat :=
  match queues with
  | [] => 0
  | q :: qs => ((qs.zipIdx 1).foldl (fun best (q, j) => betterQueue best q j) (0, q.rank, q.slots)).1

/-- The entry of a match list for a host that a job may run on. -/
def queueOf (uhosts : List SchUserHost) (m : Match) : Option SchQueue := do
  let l ← uhosts.findIdx? (·.hid == m.hostId)
  let uh ← uhosts[l]?
  let q ← m.queues[selectQueue m.queues]?
  return {
    haId := uh.haId, uhaId := l, qname := q.name, slots := q.slots, fixed := m.fixedPriority
    rank := q.rank }

/-- `gw_scheduler_filter_select_queues`, with the match list built from its result. -/
def filterSelectQueues (w : SchedWorld) (uhosts : List SchUserHost) (job : SchJob)
    (ms : List Match) : List SchQueue :=
  (ms.filter (passes w uhosts job)).filterMap (queueOf uhosts)

/-- The match list of a job after the policies of the hosts. -/
def matchList (conf : SchedConf) (w : SchedWorld) (uhosts : List SchUserHost) (job : SchJob)
    (ms : List Match) : List SchQueue :=
  let queues := filterSelectQueues w uhosts job ms
  if conf.disable then queues else permute (w.hostPolicies uhosts queues) queues

/-- The list of hosts of the user of a job. -/
def userHostsOf (users : List SchUser) (job : SchJob) : List SchUserHost :=
  ((users[job.uaId]?).map (·.hosts)).getD []

/-- A match list is made for the job, and not copied. -/
def isMatched (lastArray : Option Nat) (job : SchJob) : Bool :=
  job.aid.isNone || lastArray != job.aid || job.reason == .selfMigration

/-- What the loop over the jobs leaves: the jobs with their match lists, what is printed, and
whether a user was read outside of the table. -/
structure Matched where
  jobs : List SchJob := []
  out : List SchedOut := []
  wild : Bool := false

/-- One entry in front of the others. -/
def Matched.push (job : SchJob) (out : List SchedOut) (wild : Bool) (rest : Matched) : Matched where
  jobs := job :: rest.jobs
  out := out ++ rest.out
  wild := wild || rest.wild

/-- The loop of `gw_scheduler_matching_arrays`; `before` is the match list of the entry before. -/
def matchFrom (conf : SchedConf) (w : SchedWorld) (users : List SchUser) :
    Option Nat → List SchQueue → List SchJob → Matched
  | _, _, [] => {}
  | lastArray, before, job :: jobs =>
    if isMatched lastArray job then
      match w.view.reply job.jid job.aid with
      -- `last_array` stays as it is
      | none | some [] =>
        (matchFrom conf w users lastArray [] jobs).push { job with mhosts := [] } [] false
      | some (m :: ms) =>
        let mhosts := matchList conf w (userHostsOf users job) job (m :: ms)
        let failed := if mhosts = [] ∧ job.reason ≠ .none then [.scheduleFailed job.jid] else []
        let lastArray := if job.reason = .selfMigration then none else job.aid
        (matchFrom conf w users lastArray mhosts jobs).push { job with mhosts } failed
          (users.length ≤ job.uaId)
    else (matchFrom conf w users lastArray before jobs).push { job with mhosts := before } [] false

/-- `gw_scheduler_matching_arrays`. -/
def matchingArrays (w : SchedWorld) (s : Scheduler) : Scheduler :=
  let r := matchFrom s.conf w s.users none [] s.jobs
  { s with jobs := r.jobs, out := s.out ++ r.out, crashed := s.crashed || r.wild }

end Scheduler

end GridWay
