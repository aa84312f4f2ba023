import GridWay.Sched.Round

/-!
# What a round leaves

A round without a chunk is bounded by the number of jobs in the list, which is taken anew for the
second pass, while the jobs that the first pass sent are counted against it a second time.

* `Scheduler.Conserves`: what a round leaves is blocked.
* `Scheduler.gwSched_conserves_iff`: when it is.
-/

namespace GridWay

namespace Scheduler

open Greedy

variable {s s' : Scheduler} {job : SchJob}

/-- The new jobs, served in their order without a limit. -/
def newFit (s : Scheduler) : List (SchJob × SchQueue) × List SchJob :=
  serve (placeJob false) chargeJob s.jobs.length s.core s.jobs

/-- The jobs that were scheduled before, served after the new ones without a limit. -/
def againFit (s : Scheduler) : List (SchJob × SchQueue) × List SchJob :=
  serve (placeJob true) chargeJob s.newFit.2.length (Greedy.after chargeJob s.core s.newFit.1)
    s.newFit.2

/-- After a round without a chunk, or with a chunk that was not reached, all jobs that are left are
blocked. -/
def Conserves (s s' : Scheduler) : Prop :=
  s'.crashed = false ∧
    (s.conf.maxDispatch = 0 ∨ s.jobs.length < s'.jobs.length + s.conf.maxDispatch →
      ∀ job ∈ s'.jobs, s'.Blocked job)

/-- A job that neither pass can place is blocked. -/
lemma blocked_of_both (user : job.uaId < s.users.length)
    (hosts : ∀ q ∈ job.mhosts, q.haId < s.hosts.length)
    (first : placeJob false s job = none) (second : placeJob true s job = none) :
    s.Blocked job := by
  rw [placeJob_none user hosts] at first second
  cases kind : ofKind true job with
  | true => exact second kind
  | false =>
    apply first
    cases reason : job.reason != Reason.none with
    | false => simp [ofKind, reason]
    | true => simp [ofKind, reason] at kind

/-- The tables after a round, for a job of the list. -/
lemma final_inside (formed : Formed s) (mem : job ∈ s.jobs) :
    job.uaId < (Greedy.after chargeJob s.core s.sent).users.length ∧
      ∀ q ∈ job.mhosts, q.haId < (Greedy.after chargeJob s.core s.sent).hosts.length := by
  have account := account_sent s
  rw [between, ← Greedy.after_append] at account
  obtain ⟨users, hosts⟩ := account.sizes
  rw [sent, users, hosts]
  exact ⟨formed.users job mem, formed.hosts job mem⟩

/-- What both passes can place no more is blocked. -/
lemma left_blocked (formed : Formed s)
    (first : ∀ job ∈ s.firstPass.2, placeJob false s.between job = none)
    (second : ∀ job ∈ s.secondPass.2,
      placeJob true (Greedy.after chargeJob s.between s.secondPass.1) job = none) :
    ∀ job ∈ s.secondPass.2, (Greedy.after chargeJob s.core s.sent).Blocked job := by
  intro job mem
  have kept : job ∈ s.firstPass.2 :=
    (serve_sublist.2 : s.secondPass.2.Sublist s.firstPass.2).subset mem
  have inside : job ∈ s.jobs := (serve_sublist.2 : s.firstPass.2.Sublist s.jobs).subset kept
  obtain ⟨user, hosts⟩ := final_inside formed inside
  refine blocked_of_both user hosts ?_ ?_
  · rw [sent, Greedy.after_append]
    exact blocked_after placeJob_charge (first job kept)
  · rw [sent, Greedy.after_append]
    exact second job mem

/-- A round that does not reach its chunk leaves no job that could go. -/
lemma left_chunk (formed : Formed s) (chunk : s.conf.maxDispatch ≠ 0)
    (room : s.sent.length < s.conf.maxDispatch) :
    ∀ job ∈ s.secondPass.2, (Greedy.after chargeJob s.core s.sent).Blocked job := by
  rw [sent, List.length_append] at room
  refine left_blocked formed (serve_blocked placeJob_charge ?_) (serve_blocked placeJob_charge ?_)
  · change s.firstPass.1.length < s.mostOf
    rw [mostOf, if_neg chunk]
    omega
  · change s.secondPass.1.length < s.leftOver
    rw [leftOver, if_neg chunk]
    omega

section NoChunk

variable (zero : s.conf.maxDispatch = 0)

include zero

lemma firstPass_zero : s.firstPass = s.newFit := by
  rw [firstPass, mostOf, if_pos zero, newFit]

lemma leftOver_zero : s.leftOver = s.jobs.length - 2 * s.newFit.1.length := by
  have length : s.newFit.1.length + s.newFit.2.length = s.jobs.length := serve_length
  rw [leftOver, if_pos zero, firstPass_zero zero]
  omega

/-- The second pass is the one without a limit when the limit leaves room for all of it. -/
lemma secondPass_zero (room : s.againFit.1.length ≤ s.leftOver) : s.secondPass = s.againFit := by
  have small : s.leftOver ≤ s.newFit.2.length := by
    rw [leftOver, if_pos zero, firstPass_zero zero]
    exact Nat.sub_le _ _
  rw [secondPass, between, firstPass_zero zero]
  exact serve_enough room small

/-- Without a chunk, everything that is left is blocked exactly when the limit leaves room for all
jobs of the second pass. -/
lemma left_zero (formed : Formed s) :
    (∀ job ∈ s.secondPass.2, (Greedy.after chargeJob s.core s.sent).Blocked job) ↔
      s.againFit.1.length ≤ s.jobs.length - 2 * s.newFit.1.length := by
  rw [← leftOver_zero zero]
  constructor
  · intro blocked
    by_contra cut
    have past : s.leftOver < (serve (placeJob true) chargeJob s.newFit.2.length s.between
        s.firstPass.2).1.length := by
      rw [between, firstPass_zero zero]
      exact Nat.not_le.1 cut
    obtain ⟨job, mem, free⟩ := serve_cut past
    have kept : job ∈ s.secondPass.2 := mem
    have inside : job ∈ s.jobs := s.sent_perm.mem_iff.1 (List.mem_append_right _ kept)
    obtain ⟨user, hosts⟩ := final_inside formed inside
    apply free
    change placeJob true (Greedy.after chargeJob s.between s.secondPass.1) job = none
    rw [between, ← Greedy.after_append, ← sent, placeJob_none user hosts]
    exact fun _ => blocked job kept
  · intro room
    have second := secondPass_zero zero room
    refine left_blocked formed ?_ ?_
    · rw [between, firstPass_zero zero]
      exact serve_unlimited placeJob_charge (Nat.le_refl _)
    · rw [second, between, firstPass_zero zero]
      exact serve_unlimited placeJob_charge (Nat.le_refl _)

end NoChunk

/-- A round leaves only jobs that are blocked exactly when the users have windows, and there is a
chunk or the number of jobs leaves room for the second pass, or when all jobs are blocked before. -/
theorem gwSched_conserves_iff (s : Scheduler) (formed : Formed s) (live : s.crashed = false) :
    Conserves s s.gwSched ↔
      (∀ job ∈ s.jobs, s.Blocked job) ∨
        (s.conf.windowDepth ≠ 0 ∧
          (s.conf.maxDispatch ≠ 0 ∨
            s.againFit.1.length ≤ s.jobs.length - 2 * s.newFit.1.length)) := by
  by_cases blocked : ∀ job ∈ s.jobs, s.Blocked job
  · rw [gwSched_blocked formed blocked]
    exact ⟨fun _ => .inl blocked, fun _ => ⟨live, fun _ => blocked⟩⟩
  have free : ∃ job ∈ s.jobs, ¬ s.Blocked job := by
    push Not at blocked
    exact blocked
  by_cases deep : s.conf.windowDepth ≠ 0
  · have account := account_sent s
    have dead : (Greedy.after chargeJob s.core s.sent).crashed = false := by
      rw [sent, Greedy.after_append]
      exact account.crashed.trans live
    have whole : s.sent.length + s.secondPass.2.length = s.jobs.length := by
      simpa using s.sent_perm.length_eq
    rw [gwSched_serve formed deep]
    by_cases chunk : s.conf.maxDispatch = 0
    · have left := left_zero chunk formed
      constructor
      · exact fun conserves => .inr ⟨deep, .inr (left.1 (conserves.2 (.inl chunk)))⟩
      · rintro (all | ⟨-, some | room⟩)
        · exact absurd all blocked
        · exact absurd chunk some
        · exact ⟨dead, fun _ => left.2 room⟩
    · refine ⟨fun _ => .inr ⟨deep, .inl chunk⟩, fun _ => ⟨dead, ?_⟩⟩
      rintro (zero | room)
      · exact absurd zero chunk
      · dsimp only at room
        exact left_chunk formed chunk (by omega)
  · have crashed := gwSched_crash formed (not_not.1 deep) free
    constructor
    · rintro ⟨alive, -⟩
      rw [alive] at crashed
      cases crashed
    · rintro (all | ⟨some, -⟩)
      · exact absurd all blocked
      · exact absurd some deep

/-- A new job and one that was scheduled before, and no chunk. -/
def oneOfEach : Scheduler where
  conf := { maxDispatch := 0 }
  users := [{
    uid := 0, name := "ana", activeJobs := 2, runningJobs := 0, totalJobs := 2
    subWindows := [0, 0, 0, 0, 0] }]
  hosts := [{ hid := 0, name := "cluster", usedSlots := 0, runningJobs := 0 }]
  jobs := [(1, Reason.none), (2, Reason.userRequested)].map fun (jid, reason) => {
    uaId := 0, owner := 0, jid, aid := none, np := 1, reason
    mhosts := [{ haId := 0, uhaId := 0, qname := "short", slots := 4, fixed := 1, rank := 0 }]
    scheduleTime := 0, deadlineTime := 0, fixed := 0 }

lemma oneOfEach_formed : Formed oneOfEach := by
  constructor <;> decide

theorem gwSched_conserves_mixed :
    (Formed oneOfEach ∧ oneOfEach.crashed = false) ∧
    (Conserves oneOfEach oneOfEach.gwSched ↔
      (∀ job ∈ oneOfEach.jobs, oneOfEach.Blocked job) ∨
        (oneOfEach.conf.windowDepth ≠ 0 ∧
          (oneOfEach.conf.maxDispatch ≠ 0 ∨
            oneOfEach.againFit.1.length ≤
              oneOfEach.jobs.length - 2 * oneOfEach.newFit.1.length))) :=
  ⟨⟨oneOfEach_formed, rfl⟩, gwSched_conserves_iff oneOfEach oneOfEach_formed rfl⟩

/-- The job of the second pass is left in the list, with free slots on its host. -/
theorem gwSched_not_conserves : Formed oneOfEach ∧ ¬ Conserves oneOfEach oneOfEach.gwSched := by
  refine ⟨oneOfEach_formed, ?_⟩
  rintro ⟨-, conserves⟩
  have free : ¬ ∀ job ∈ oneOfEach.gwSched.jobs, oneOfEach.gwSched.Blocked job := by decide
  exact free (conserves (.inl rfl))

end Scheduler

end GridWay
