import GridWay.Gwd.One

/-!
# Prologs

A dispatch leaves the job in `PENDING` and queues `PROLOG`; the queued action enters the state
without a look at the one it leaves. A job enters `PROLOG` once for each of its records, from
`PENDING`, when nothing moves it in between.

* `Gwd.unmovedStep`: the events that leave a job alone while its prolog waits or while it is held.
* `Gwd.PrologInv`, `Gwd.HoldInv`: the invariants.
* `Gwd.prolog_once`: every entry of `PROLOG` in a run.
-/

namespace GridWay

open Lifecycle

namespace Lifecycle

/-- An action that leaves the state of a job as it is, or enters `PROLOG`. -/
def unmoved (a : DmAction) (st : JobState) : Bool :=
  match a with
  | .hold => st != .pending
  | .pending => st == .pending
  | .prolog | .migrCancel | .zombie => true
  | a => !a.isTransition

/-- No handler queues `PROLOG`. -/
lemma effects_queue_no_prolog : ∀ a st done, ∀ eff ∈ effects a st done, .prolog ∉ eff.queued := by
  decide

/-- `PROLOG` is entered by its own action. -/
lemma effects_prolog : ∀ a st done, ∀ eff ∈ effects a st done, eff.next = .prolog →
    st = .prolog ∨ a = .prolog := by
  decide

/-- A pending job, or one in `PROLOG`, that is not moved. -/
lemma effects_unmoved : ∀ a st done, unmoved a st → st = .pending ∨ st = .prolog →
    ∀ eff ∈ effects a st done, eff.frees ∨ eff.next = st ∨ eff.next = .prolog := by
  decide

/-- A job in `HOLD` that is not moved stays there until it is released. -/
lemma effects_held : ∀ a done, unmoved a .hold → a ≠ .prolog → a ≠ .release →
    ∀ eff ∈ effects a .hold done, eff.frees ∨ eff.next = .hold := by
  decide

/-- A kill is granted when the job is freed. -/
lemma marks_kill : ∀ a st done staged, ∀ eff ∈ effects a st done,
    .killSuccess ∈ Gwd.grantsIn (Dm.marks a st done staged) → eff.frees := by
  decide

/-- Holds and releases are granted by their own actions. -/
lemma marks_hold : ∀ a st done staged,
    (Gwd.grantsIn (Dm.marks a st done staged)).filter (· ≠ .killSuccess) =
      if a = .hold ∧ st = .pending then [.holdSuccess]
      else if a = .release ∧ st = .hold then [.releaseSuccess] else [] := by
  decide

end Lifecycle

namespace Gwd

variable {w : World} {s s' : Gwd} {i j : JobId} {job : Job} {e : Event}

/-- A job enters `PROLOG` at an event. -/
def enters (s : Gwd) (e : Event) (j : JobId) : Bool :=
  s.state j != some .prolog && (s.step e).state j == some .prolog

/-- A hold of the job was granted, and no release since. -/
def onHold (s : Gwd) (j : JobId) : Bool :=
  ((s.grantedTo j).filter (· ≠ .killSuccess)).getLast? == some .holdSuccess

/-- A kill of the job was granted. -/
def killed (s : Gwd) (j : JobId) : Bool := (s.grantedTo j).contains .killSuccess

/-- The events that do not move a job while its prolog waits or while it is held: no hold and no
other transition comes before the prolog that waits, no transition leaves `HOLD`, and a job with
open dependencies is not put on hold. -/
def unmovedStep (s : Gwd) : Event → Bool
  | .dm _ =>
    match s.dmQueue with
    | .job a j :: rest => (s.jobs j).all fun job =>
        (unmoved a job.jobState ||
          !(job.jobState == .hold || (({ s with dmQueue := rest } : Gwd).moves j).contains .prolog)) &&
        !(a == .hold && job.jobState == .pending && s.openDeps j)
    | _ => true
  | _ => true

/-- What holds of a job that has entered `PROLOG` with its first `n` records only. -/
structure PrologInv (n : Nat) (j : JobId) (s : Gwd) : Prop where
  known : n = 0 ∨ j < s.nextJobId
  count : ∀ job, s.jobs j = some job → n ≤ job.history.length
  waits : ∀ job, s.jobs j = some job → .prolog ∈ s.moves j →
    job.jobState = .prolog ∨ (job.jobState = .pending ∧ n < job.history.length)

lemma length_of_core {job job' : Job} (same : job'.core = job.core) :
    job'.history.length = job.history.length := by
  have places : job'.places = job.places := congrArg Job.Core.places same
  simpa [Job.places] using congrArg List.length places

/-- A kill that was granted has freed the job, and a job that is on hold stays there. -/
structure HoldInv (j : JobId) (s : Gwd) : Prop where
  known : s.grantedTo j ≠ [] → j < s.nextJobId
  killed : s.killed j = true → s.jobs j = none
  held : ∀ job, s.onHold j = true → s.jobs j = some job →
    job.jobState = .hold ∧ s.openDeps j = false

/-- The transition of a job that waits behind the action that is taken waited before. -/
lemma mem_moves_taken {a b : DmAction} {rest : List DmItem} (queue : s.dmQueue = .job a j :: rest)
    (mem : b ∈ ({ s with dmQueue := rest } : Gwd).moves j) : b ∈ s.moves j := by
  rw [moves_of_queue queue]
  exact List.mem_append_right _ mem

lemma PrologInv.act {n : Nat} (inv : PrologInv n j s) (here : s.jobs j = some job)
    (next : s'.nextJobId = s.nextJobId) {a : DmAction} {rest : List DmItem} {eff : Effect} {r : Reply}
    (act : Acted s s' j job a rest eff r)
    (unmoved : unmoved a job.jobState ∨ .prolog ∉ ({ s with dmQueue := rest } : Gwd).moves j) :
    PrologInv n j s' where
  known := next ▸ inv.known
  count job' after := by
    rw [act.jobs] at after
    split at after
    · cases after
    · cases after
      rw [length_of_core act.core]
      exact inv.count job here
  waits job' after mem := by
    rw [act.jobs] at after
    split at after
    · cases after
    · rename_i stays
      cases after
      have behind : .prolog ∈ ({ s with dmQueue := rest } : Gwd).moves j := by
        rw [act.moves] at mem
        rcases List.mem_append.1 mem with mem | mem
        · exact mem
        · exact absurd (List.mem_filter.1 mem).1 (effects_queue_no_prolog _ _ _ eff act.mem)
      have calm := unmoved.resolve_right fun none => none behind
      have before := inv.waits job here (mem_moves_taken act.queue behind)
      have st : job.jobState = .pending ∨ job.jobState = .prolog :=
        before.elim .inr fun h => .inl h.1
      rw [act.real.next, length_of_core act.core]
      rcases effects_unmoved a _ _ calm st eff act.mem with frees | same | entered
      · exact absurd frees stays
      · rw [same]
        exact before
      · exact .inl entered

lemma PrologInv.dispatch {n : Nat} (inv : PrologInv n j s) (here : s.jobs j = some job)
    {hid : HostId} {host : Host} {rank : Int} {queue : String} {w' : World}
    (live : (reply w j (Dm.dispatchJob hid host rank queue w' job) s).crashed = false) :
    PrologInv n j (reply w j (Dm.dispatchJob hid host rank queue w' job) s) := by
  have known := inv.known
  have count := inv.count job here
  have waits := inv.waits job here
  rcases Dm.dispatchJob_cases hid host rank queue w' job with
    ⟨neutral, -⟩ | ⟨-, ⟨-, eq⟩ | ⟨-, st, eq⟩ | ⟨-, st, eq⟩⟩
  · have quiet := quiet_reply here neutral (by simp) live
    refine ⟨quiet.nextJobId ▸ known, fun job' after => ?_, fun job' after mem => ?_⟩
    all_goals
      obtain ⟨job₀, before, face⟩ := quiet.job_before after
      rw [here] at before
      cases before
      have length := length_of_core (congrArg Face.core face)
      have state : job'.jobState = job.jobState := congrArg Face.state face
      rw [length]
    · exact count
    · rw [state]
      exact waits (quiet.moves j (by rw [here]; rfl) ▸ mem)
  all_goals
    rw [eq]
    refine ⟨by rw [(reply_frame ..).2.2.1]; exact known, fun job' after => ?_, fun job' after mem => ?_⟩
    all_goals
      rw [reply_write (by simp) (by simp)] at after
      cases after
  · exact Nat.le_succ_of_le count
  · have mem' : .prolog ∈ s.moves j := by simpa [reply_moves_self] using mem
    exact (waits mem').imp_right fun h => ⟨h.1, Nat.lt_succ_of_lt h.2⟩
  · exact Nat.le_succ_of_le count
  · exact .inr ⟨st, Nat.lt_succ_of_le count⟩
  · exact Nat.le_succ_of_le count
  · have mem' : .prolog ∈ s.moves j := by
      simpa [reply_moves_self, DmAction.isTransition] using mem
    rcases waits mem' with other | ⟨other, -⟩ <;> rw [st] at other <;> cases other

lemma PrologInv.reload {n : Nat} (inv : PrologInv n j s) (here : s.jobs j = some job) {w' : World} :
    PrologInv n j (reply w j (Tm.recover w' job) s) := by
  have state : (Tm.recover w' job).job.jobState = job.jobState := by
    rcases recover_cases w' job with eq | ⟨a, -, -, -, -, eq⟩ <;> rw [eq]
  have history : (Tm.recover w' job).job.history = job.history := by
    rcases recover_cases w' job with eq | ⟨a, -, -, -, -, eq⟩ <;> rw [eq]
  have self : (reply w j (Tm.recover w' job) s).jobs j = some (Tm.recover w' job).job := by
    rcases recover_cases w' job with eq | ⟨a, -, -, -, -, eq⟩ <;> rw [eq] <;>
      exact reply_write (by simp) (by simp)
  refine ⟨by rw [(reply_frame ..).2.2.1]; exact inv.known, fun job' after => ?_,
    fun job' after mem => ?_⟩
  all_goals
    rw [self] at after
    cases after
    rw [history]
  · exact inv.count job here
  · rw [state]
    rcases recover_cases w' job with eq | ⟨a, again, move, fit, -, eq⟩
    · rw [eq] at mem
      exact inv.waits job here (by simpa [reply_moves_self] using mem)
    · rw [eq, reply_moves_self] at mem
      rcases List.mem_append.1 mem with mem | mem
      · exact inv.waits job here mem
      · have same : a = .prolog := by simpa [move, eq_comm] using mem
        subst same
        refine .inl ?_
        revert again fit
        cases job.jobState <;> decide

/-- A step that does not move the job keeps the invariant. -/
lemma PrologInv.step {n : Nat} (inv : PrologInv n j s) (pool : Pool s)
    (order : s.unmovedStep e = true) (live : (s.step e).crashed = false) :
    PrologInv n j (s.step e) := by
  have next := nextJobId_step live
  cases here : s.jobs j with
  | none =>
    refine ⟨inv.known.imp_right fun below => Nat.lt_of_lt_of_le below next,
      fun job after => ?_, fun job after mem => ?_⟩
    · obtain ⟨new, -, above⟩ := born_step here pool live after
      have zero : n = 0 := inv.known.resolve_right (Nat.not_lt.2 above)
      rw [zero]
      exact Nat.zero_le _
    · obtain ⟨-, still, -⟩ := born_step here pool live after
      rw [still] at mem
      cases mem
  | some job =>
    rcases job_cases here live pool with
      ⟨⟨job', after, face⟩, moves, -⟩ | ⟨hold, -, after, moves, -⟩ |
      ⟨wS, a, rest, eff, rfl, eq, act⟩ | ⟨hid, queue, rank, w, host, rfl, there, eq⟩ | ⟨w, rfl, eq⟩
    · have length := length_of_core (congrArg Face.core face)
      have state : job'.jobState = job.jobState := congrArg Face.state face
      refine ⟨inv.known.imp_right fun below => Nat.lt_of_lt_of_le below next,
        fun job₁ after₁ => ?_, fun job₁ after₁ mem => ?_⟩
      all_goals
        rw [after] at after₁
        cases after₁
        rw [length]
      · exact inv.count job here
      · rw [state]
        exact inv.waits job here (moves ▸ mem)
    · refine ⟨inv.known.imp_right fun below => Nat.lt_of_lt_of_le below next,
        fun job₁ after₁ => ?_, fun job₁ after₁ mem => ?_⟩
      all_goals
        rw [after] at after₁
        cases after₁
      · exact inv.count job here
      · rcases inv.waits job here (moves ▸ mem) with other | ⟨other, -⟩ <;>
          rw [hold] at other <;> cases other
    · refine inv.act here (by rw [eq, (reply_frame ..).2.2.1]) act ?_
      simp only [unmovedStep, act.queue, here, Option.all_some, Bool.and_eq_true, Bool.or_eq_true]
        at order
      refine order.1.imp id fun free mem => ?_
      simp [mem] at free
    · rw [eq] at live ⊢
      exact inv.dispatch here live
    · rw [eq]
      exact inv.reload here

/-- A step that grants nothing for the job and leaves its state keeps the invariant. -/
lemma HoldInv.still (inv : HoldInv j s) (here : s.jobs j = some job) (pool : Pool s)
    (live : (s.step e).crashed = false)
    (after : ∃ job', (s.step e).jobs j = some job' ∧ job'.jobState = job.jobState)
    (grants : (s.step e).grantedTo j = s.grantedTo j) : HoldInv j (s.step e) := by
  obtain ⟨job', after, state⟩ := after
  have below := pool.below here
  refine ⟨fun _ => Nat.lt_of_lt_of_le below (nextJobId_step live), fun dead => ?_,
    fun job₁ held after₁ => ?_⟩
  · rw [Gwd.killed, grants] at dead
    have gone := inv.killed dead
    rw [here] at gone
    cases gone
  · rw [after] at after₁
    cases after₁
    rw [onHold, grants] at held
    obtain ⟨hold, closed⟩ := inv.held job held here
    exact ⟨state.trans hold, closed_step below pool closed live⟩

lemma HoldInv.act (inv : HoldInv j s) (order : PrologInv 0 j s) (here : s.jobs j = some job)
    (pool : Pool s) (live : (s.step e).crashed = false) {a : DmAction} {rest : List DmItem}
    {eff : Effect} {r : Reply} (act : Acted s (s.step e) j job a rest eff r)
    (unmoved : job.jobState = .hold → unmoved a job.jobState)
    (closed : a = .hold → job.jobState = .pending → s.openDeps j = false) :
    HoldInv j (s.step e) := by
  have below := pool.below here
  have alive : s.killed j = false := by
    by_contra dead
    have gone := inv.killed (by simpa using dead)
    rw [here] at gone
    cases gone
  obtain ⟨staged, grants⟩ := act.grants
  have jobs := act.jobs
  refine ⟨fun _ => Nat.lt_of_lt_of_le below (nextJobId_step live), fun dead => ?_,
    fun job' held after => ?_⟩
  · rw [Gwd.killed, grants, List.contains_iff_mem] at dead
    rcases List.mem_append.1 dead with mem | mem
    · rw [Gwd.killed, List.contains_iff_mem.2 mem] at alive
      cases alive
    · rw [jobs, if_pos (marks_kill a _ _ staged eff act.mem mem)]
  · rw [jobs] at after
    split at after
    · cases after
    · rename_i stays
      cases after
      rw [onHold, grants, List.filter_append, marks_hold] at held
      rw [act.real.next]
      by_cases holds : a = .hold ∧ job.jobState = .pending
      · obtain ⟨rfl, st⟩ := holds
        refine ⟨?_, closed_step below pool (closed rfl st) live⟩
        have mem := act.mem
        rw [st] at mem
        rw [List.mem_singleton.1 mem]
        rfl
      · rw [if_neg holds] at held
        by_cases frees : a = .release ∧ job.jobState = .hold
        · rw [if_pos frees] at held
          simp at held
        · rw [if_neg frees, List.append_nil] at held
          obtain ⟨hold, shut⟩ := inv.held job held here
          have calm := unmoved hold
          have mem := act.mem
          rw [hold] at calm mem
          have other : a ≠ .prolog := by
            rintro rfl
            have waits : .prolog ∈ s.moves j := by
              rw [moves_of_queue act.queue]
              exact List.mem_append_left _ List.mem_cons_self
            rcases order.waits job here waits with st | ⟨st, -⟩ <;> rw [hold] at st <;> cases st
          have next := effects_held a _ calm other (fun same => frees ⟨same, hold⟩) eff mem
          exact ⟨next.resolve_left stays, closed_step below pool shut live⟩

/-- A step that does not move the job keeps the invariant. -/
lemma HoldInv.step (inv : HoldInv j s) (prologs : PrologInv 0 j s) (pool : Pool s)
    (order : s.unmovedStep e = true) (live : (s.step e).crashed = false) :
    HoldInv j (s.step e) := by
  cases here : s.jobs j with
  | none =>
    have grants := grantedTo_absent here pool live
    refine ⟨fun some => ?_, fun dead => ?_, fun job held after => ?_⟩
    · rw [grants] at some
      exact Nat.lt_of_lt_of_le (inv.known some) (nextJobId_step live)
    · have some : s.grantedTo j ≠ [] := by
        intro none
        rw [Gwd.killed, grants, none] at dead
        cases dead
      exact (gone_step here (inv.known some) live).1
    · have some : s.grantedTo j ≠ [] := by
        intro none
        rw [onHold, grants, none] at held
        cases held
      exact absurd (inv.known some) (Nat.not_lt.2 (born_step here pool live after).2.2)
  | some job =>
    rcases job_cases here live pool with ⟨⟨job', after, face⟩, -, grants⟩ |
      ⟨-, openDeps, after, -, grants⟩ | ⟨wS, a, rest, eff, rfl, eq, act⟩ |
      ⟨hid, queue, rank, w, host, rfl, there, eq⟩ | ⟨w, rfl, eq⟩
    · exact inv.still here pool live ⟨job', after, congrArg Face.state face⟩ grants
    · have below := pool.below here
      refine ⟨fun _ => Nat.lt_of_lt_of_le below (nextJobId_step live), fun dead => ?_,
        fun job' held after' => ?_⟩
      · rw [Gwd.killed, grants] at dead
        have gone := inv.killed dead
        rw [here] at gone
        cases gone
      · rw [onHold, grants] at held
        rw [(inv.held job held here).2] at openDeps
        cases openDeps
    · simp only [unmovedStep, act.queue, here, Option.all_some, Bool.and_eq_true, Bool.or_eq_true]
        at order
      refine inv.act prologs here pool live act (fun hold => ?_) fun same st => ?_
      · refine order.1.resolve_right fun free => ?_
        simp [hold] at free
      · simpa [same, st] using order.2
    · rw [eq] at live
      obtain ⟨job', after, state, grants⟩ := dispatch_state here live
      rw [← eq] at live after grants
      exact inv.still here pool live ⟨job', after, state⟩ grants
    · obtain ⟨after, grants⟩ := reload_state (w := w) _
      rw [← eq] at after grants
      exact inv.still here pool live ⟨_, after, rfl⟩ grants

/-- `PROLOG` is entered by the action at the head of the queue. -/
lemma prolog_of_enters (pool : Pool s) (live : (s.step e).crashed = false)
    (enters : s.enters e j = true) :
    ∃ job, s.jobs j = some job ∧ job.jobState ≠ .prolog ∧ .prolog ∈ s.moves j := by
  simp only [Gwd.enters, Bool.and_eq_true, bne_iff_ne, beq_iff_eq, state] at enters
  obtain ⟨other, entered⟩ := enters
  obtain ⟨job', after, st'⟩ := Option.map_eq_some_iff.1 entered
  cases here : s.jobs j with
  | none =>
    have resting := (born_step here pool live after).1.resting
    rw [st'] at resting
    cases resting
  | some job =>
    have st : job.jobState ≠ .prolog := fun same => other (by rw [here, Option.map_some, same])
    refine ⟨job, rfl, st, ?_⟩
    rcases job_cases here live pool with
      ⟨⟨job₁, after₁, face⟩, -, -⟩ | ⟨-, -, after₁, -, -⟩ |
      ⟨wS, a, rest, eff, -, -, act⟩ | ⟨hid, queue, rank, w, host, -, -, eq⟩ | ⟨w, -, eq⟩
    · rw [after] at after₁
      cases after₁
      exact absurd ((congrArg Face.state face).symm.trans st') st
    · rw [after] at after₁
      cases after₁
      cases st'
    · have jobs := act.jobs
      rw [after] at jobs
      split at jobs
      · cases jobs
      · cases jobs
        have next := act.real.next.symm.trans st'
        have same := (effects_prolog a _ _ eff act.mem next).resolve_left st
        rw [moves_of_queue act.queue, same]
        exact List.mem_append_left _ List.mem_cons_self
    · exfalso
      rw [eq] at live after
      rcases Dm.dispatchJob_cases hid host rank queue (s.world w) job with
        ⟨neutral, -⟩ | ⟨-, ⟨-, eq⟩ | ⟨-, pending, eq⟩ | ⟨-, wrapper, eq⟩⟩
      · obtain ⟨job₁, before, face⟩ :=
          (quiet_reply here neutral (by simp) live).job_before after
        rw [here] at before
        cases before
        exact st ((congrArg Face.state face).symm.trans st')
      all_goals
        rw [eq, reply_write (by simp) (by simp)] at after
        cases after
        exact st st'
    · exfalso
      rw [eq] at after
      rcases recover_cases (s.world w) job with eq | ⟨a, -, -, -, -, eq⟩
      all_goals
        rw [eq, reply_write (by simp) (by simp)] at after
        cases after
        exact st st'

/-- A job that enters `PROLOG` comes from `PENDING`, with a record that it has not entered with. -/
lemma PrologInv.enters {n : Nat} (inv : PrologInv n j s) (pool : Pool s)
    (live : (s.step e).crashed = false) (enters : s.enters e j = true) :
    s.state j = some .pending ∧ n < s.records j := by
  obtain ⟨job, here, st, mem⟩ := prolog_of_enters pool live enters
  obtain ⟨pending, fresh⟩ := (inv.waits job here mem).resolve_left st
  exact ⟨by rw [state, here, Option.map_some, pending], by simpa [records, here] using fresh⟩

/-- A job in `PROLOG` has entered it with all its records. -/
lemma prologInv_entered (pool : Pool s) (entered : s.state j = some .prolog) :
    PrologInv (s.records j) j s := by
  obtain ⟨job, here, st⟩ := Option.map_eq_some_iff.1 entered
  refine ⟨.inr (pool.below here), fun job' here' => ?_, fun job' here' _ => ?_⟩
  all_goals
    rw [here] at here'
    cases here'
  · simp [records, here]
  · exact .inl st

/-- Every entry of `PROLOG` in a run: from `PENDING`, once for each record, not while the job is
on hold, and not after a kill. -/
structure PrologOnce (conf : Conf) (evs : List Event) : Prop where
  fromPending : ∀ evs₁ e evs₂ j, evs = evs₁ ++ e :: evs₂ →
    (Machine.run step (Gwd.start conf) evs₁).enters e j = true →
    (Machine.run step (Gwd.start conf) evs₁).state j = some .pending
  once : ∀ evs₁ e evs₂ e' evs₃ j, evs = evs₁ ++ e :: (evs₂ ++ e' :: evs₃) →
    (Machine.run step (Gwd.start conf) evs₁).enters e j = true →
    (Machine.run step (Gwd.start conf) (evs₁ ++ e :: evs₂)).enters e' j = true →
    ((Machine.run step (Gwd.start conf) evs₁).step e).records j <
      (Machine.run step (Gwd.start conf) (evs₁ ++ e :: evs₂)).records j
  notHeld : ∀ evs₁ e evs₂ j, evs = evs₁ ++ e :: evs₂ →
    (Machine.run step (Gwd.start conf) evs₁).enters e j = true →
    (Machine.run step (Gwd.start conf) evs₁).onHold j = false
  notKilled : ∀ evs₁ e evs₂ j, evs = evs₁ ++ e :: evs₂ →
    (Machine.run step (Gwd.start conf) evs₁).enters e j = true →
    (Machine.run step (Gwd.start conf) evs₁).killed j = false

/-- The invariants of a job along a run that does not move it. -/
structure Unmoved (n : Nat) (j : JobId) (s : Gwd) : Prop where
  pool : Pool s
  prologs : PrologInv n j s

lemma Unmoved.run {n : Nat} {evs : List Event} (inv : Unmoved n j s)
    (order : Machine.Guarded Gwd.step (fun s e => s.unmovedStep e = true) s evs)
    (live : (Machine.run Gwd.step s evs).crashed = false) :
    Unmoved n j (Machine.run Gwd.step s evs) :=
  Machine.run_induction (fun s => s.crashed = false → Unmoved n j s)
    (fun _ _ inv order live =>
      have inv := inv (step_alive live)
      ⟨pool_step inv.pool (step_alive live) live, inv.prologs.step inv.pool order live⟩)
    (fun _ => inv) order live

lemma unmoved_start (conf : Conf) (j : JobId) : Unmoved 0 j (Gwd.start conf) :=
  ⟨.start conf, .inl rfl, by rintro _ ⟨⟩, by rintro _ ⟨⟩⟩

lemma HoldInv.run {evs : List Event} (inv : HoldInv j s) (moved : Unmoved 0 j s)
    (order : Machine.Guarded Gwd.step (fun s e => s.unmovedStep e = true) s evs)
    (live : (Machine.run Gwd.step s evs).crashed = false) :
    HoldInv j (Machine.run Gwd.step s evs) := by
  have both := Machine.run_induction (fun s => s.crashed = false → Unmoved 0 j s ∧ HoldInv j s)
    (fun _ _ inv order live => by
      obtain ⟨moved, held⟩ := inv (step_alive live)
      exact ⟨⟨pool_step moved.pool (step_alive live) live, moved.prologs.step moved.pool order live⟩,
        held.step moved.prologs moved.pool order live⟩)
    (fun _ => ⟨moved, inv⟩) order live
  exact both.2

/-- One dispatch for each prolog: in a run whose events leave a job alone while its prolog waits
and while it is held. -/
theorem prolog_once (conf : Conf) (evs : List Event)
    (order : Machine.Guarded step (fun s e => s.unmovedStep e = true) (Gwd.start conf) evs)
    (live : (Machine.run step (Gwd.start conf) evs).crashed = false) : PrologOnce conf evs := by
  have alive {evs₁ evs₂ : List Event} {e : Event} (split : evs = evs₁ ++ e :: evs₂) :
      ((Machine.run step (Gwd.start conf) evs₁).step e).crashed = false := by
    rw [split, Machine.run_append, Machine.run_cons] at live
    exact run_alive live
  have moved {evs₁ evs₂ : List Event} {e : Event} (j : JobId) (split : evs = evs₁ ++ e :: evs₂) :
      Unmoved 0 j (Machine.run step (Gwd.start conf) evs₁) :=
    (unmoved_start conf j).run (Machine.guarded_cut (split ▸ order)).1 (step_alive (alive split))
  have held {evs₁ evs₂ : List Event} {e : Event} (j : JobId) (split : evs = evs₁ ++ e :: evs₂) :
      HoldInv j (Machine.run step (Gwd.start conf) evs₁) := by
    refine HoldInv.run ⟨fun some => absurd rfl some, fun dead => ?_, fun _ _ here => ?_⟩
      (unmoved_start conf j) (Machine.guarded_cut (split ▸ order)).1 (step_alive (alive split))
    · cases dead
    · cases here
  have pending {evs₁ evs₂ : List Event} {e : Event} {j : JobId} (split : evs = evs₁ ++ e :: evs₂)
      (enters : (Machine.run step (Gwd.start conf) evs₁).enters e j = true) :
      (Machine.run step (Gwd.start conf) evs₁).state j = some .pending :=
    ((moved j split).prologs.enters (moved j split).pool (alive split) enters).1
  constructor
  case fromPending =>
    intro evs₁ e evs₂ j split enters
    exact pending split enters
  case once =>
    intro evs₁ e evs₂ e' evs₃ j split enters enters'
    have live₁ := alive split
    have after := pool_step (moved j split).pool (step_alive live₁) live₁
    have entered : ((Machine.run step (Gwd.start conf) evs₁).step e).state j = some .prolog := by
      simp only [Gwd.enters, Bool.and_eq_true, beq_iff_eq] at enters
      exact enters.2
    have split' : evs = (evs₁ ++ e :: evs₂) ++ e' :: evs₃ := by rw [split]; simp
    have live₂ := alive split'
    have guarded := (Machine.guarded_cut (split ▸ order)).2.2
    rw [Machine.run_append, Machine.run_cons] at enters' live₂ ⊢
    have second := Unmoved.run ⟨after, prologInv_entered after entered⟩
      (Machine.guarded_cut guarded).1 (step_alive live₂)
    exact (second.prologs.enters second.pool live₂ enters').2
  case notHeld =>
    intro evs₁ e evs₂ j split enters
    by_contra on
    obtain ⟨job, here, st⟩ := Option.map_eq_some_iff.1 (pending split enters)
    have hold := ((held j split).held job (by simpa using on) here).1
    rw [st] at hold
    cases hold
  case notKilled =>
    intro evs₁ e evs₂ j split enters
    by_contra dead
    obtain ⟨job, here, st⟩ := Option.map_eq_some_iff.1 (pending split enters)
    rw [(held j split).killed (by simpa using dead)] at here
    cases here

/-- A host and a job in `PENDING`. -/
def pendingOne : List Event :=
  [.hostAllocate 0 { hostname := "host", emMad := "em", tmMad := "tm", imMad := "im" },
    .submit { owner := "user", template := { executable := some "exe" } }, .dm {}]

/-- A job is held, released and dispatched. -/
theorem prolog_once_released : PrologOnce ⟨4, 4, 4, 4⟩ (pendingOne ++
    [.request .hold 0, .dm {}, .request .release 0, .dm {}, .scheduleJob 0 0 "default" 0 {},
      .dm {}]) := by
  apply prolog_once
  · decide
  · decide

/-- A hold that waits in the queue when the job is dispatched is granted, and the job enters
`PROLOG` from `HOLD`. -/
theorem prolog_of_held : ¬ ∀ (conf : Conf) (evs : List Event),
    (Machine.run step (Gwd.start conf) evs).crashed = false → PrologOnce conf evs := by
  intro once
  have held := (once ⟨4, 4, 4, 4⟩
    (pendingOne ++ [.request .hold 0, .scheduleJob 0 0 "default" 0 {}, .dm {}, .dm {}])
    (by decide)).fromPending
    (pendingOne ++ [.request .hold 0, .scheduleJob 0 0 "default" 0 {}, .dm {}]) (.dm {}) [] 0 rfl
    (by decide)
  have hold : (Machine.run step (Gwd.start ⟨4, 4, 4, 4⟩)
      (pendingOne ++ [.request .hold 0, .scheduleJob 0 0 "default" 0 {}, .dm {}])).state 0 =
        some .hold := by decide
  rw [hold] at held
  cases held

end Gwd

end GridWay
