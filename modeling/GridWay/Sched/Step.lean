import GridWay.Lib.Machine
import GridWay.Sched.Matching

/-!
# The loop of the scheduler

`gw_scheduler_loop` with the dispatch policy of `gw_scheduler.c`: the scheduler takes the messages
of the daemon one after the other. A user id that the daemon prints as `-1` is no user.

* `Scheduler.take`: one message.
* `Scheduler.gwSched`: the dispatch of the jobs that have a host, the fresh ones first.
-/

namespace GridWay

namespace Scheduler

/-- The first entry of a match list whose host takes one more job; `none` when an entry names a
host that is not there. -/
def freeHost (s : Scheduler) : List SchQueue → Option (Option (SchQueue × SchHost))
  | [] => some none
  | q :: qs =>
    match s.hosts[q.haId]? with
    | none => none
    | some host =>
      if s.conf.maxResource ≠ 0 ∧ host.usedSlots + host.dispatched ≥ s.conf.maxResource then
        s.freeHost qs
      else if q.slots - host.dispatched > 0 then some (some (q, host))
      else s.freeHost qs

/-- A job is sent to a host: it is counted, printed, and leaves the list. -/
def sendJob (job : SchJob) (q : SchQueue) (host : SchHost) (s : Scheduler) : Scheduler :=
  ({ s with
    hosts := s.hosts.modify q.haId fun h => { h with dispatched := h.dispatched + 1 }
    users := s.users.modify job.uaId fun u => { u with dispatched := u.dispatched + 1 }
    out := s.out ++ [SchedOut.scheduleJob job.jid host.hid q.qname q.rank] }).jobDel job.jid true

/-- The loop of `gw_sched_dispatch` from position `i` on, for `n` more rounds: a round moves on by
one position, or takes a job out of the list. -/
def schedDispatch (reschedule : Bool) (maxDsp : Nat) :
    Nat → Nat → Nat → Scheduler → Scheduler × Nat
  | 0, _, dispatched, s => (s, dispatched)
  | n + 1, i, dispatched, s =>
    match s.jobs[i]? with
    | none => (s, dispatched)
    | some job =>
      if dispatched ≥ maxDsp then (s, dispatched)
      else
        match s.users[job.uaId]? with
        | none => ({ s with crashed := true }, dispatched)
        | some user =>
          if s.conf.maxUser ≠ 0 ∧ user.runningJobs + user.dispatched ≥ s.conf.maxUser then
            schedDispatch reschedule maxDsp n (i + 1) dispatched s
          else if (job.reason == .none) == reschedule then
            schedDispatch reschedule maxDsp n (i + 1) dispatched s
          else
            match s.freeHost job.mhosts with
            | none => ({ s with crashed := true }, dispatched)
            | some none => schedDispatch reschedule maxDsp n (i + 1) dispatched s
            | some (some (q, host)) =>
              schedDispatch reschedule maxDsp n i (dispatched + 1) (s.sendJob job q host)

/-- One call of `gw_sched_dispatch`. -/
def dispatchPass (reschedule : Bool) (dispatched : Nat) (s : Scheduler) : Scheduler × Nat :=
  let maxDsp := if s.conf.maxDispatch = 0 then s.jobs.length else s.conf.maxDispatch
  schedDispatch reschedule maxDsp s.jobs.length 0 dispatched s

/-- `gw_sched`. -/
def gwSched (s : Scheduler) : Scheduler :=
  let (s, dispatched) := s.dispatchPass false 0
  (s.dispatchPass true dispatched).1

/-- `gw_scheduler_job_policies`: the order of the jobs. -/
def jobPolicies (w : SchedWorld) (s : Scheduler) : Scheduler :=
  if s.conf.disable then s else { s with jobs := permute (w.jobPolicies s.users s.jobs) s.jobs }

/-- Nothing is dispatched yet. -/
def clearDispatched (s : Scheduler) : Scheduler :=
  { s with
    hosts := s.hosts.map fun h => { h with dispatched := 0 }
    users := s.users.map fun u => { u with dispatched := 0 } }

/-- The message `SCHEDULE`. -/
def schedule (w : SchedWorld) (s : Scheduler) : Scheduler :=
  let s :=
    if s.hosts ≠ [] ∧ s.users ≠ [] ∧ s.jobs ≠ [] then
      ((s.clearDispatched.matchingArrays w).jobPolicies w).gwSched
    else s
  let s := if w.windowEnds then s.userUpdateWindows else s
  { s with out := s.out ++ [SchedOut.scheduleEnd] }

/-- The message of the daemon is taken by a scheduler that runs. -/
def live (w : SchedWorld) (s : Scheduler) : SchedMsg → Scheduler
  | .hostMonitor hid uslots rjobs name => s.addHost hid uslots rjobs name
  | .userAdd uid ajobs rjobs name => s.addUser uid ajobs rjobs name
  | .userDel uid => s.delUser uid
  | .jobDel jid => s.jobDel jid false
  | .jobFailed hid (some uid) reason => s.jobFailed w.now hid uid reason
  | .jobSuccess hid (some uid) xfr sus exe => s.jobSuccess hid uid xfr sus exe
  | .jobSchedule jid aid (some uid) reason =>
    s.jobAdd w.now jid aid reason uid
      ((w.status jid).getD { fixedPriority := 0, np := 1, deadline := 0 })
  | .jobFailed _ none _ | .jobSuccess _ none _ _ _ | .jobSchedule _ _ none _ => s
  | .schedule => s.schedule w

/-- `gw_scheduler_loop`: one message, and what the scheduler learns from outside meanwhile. -/
def take (s : Scheduler) (e : SchedMsg × SchedWorld) : Scheduler :=
  if s.crashed then s else s.live e.2 e.1

end Scheduler

end GridWay
