import GridWay.Gwd.Pool
import GridWay.Lib.Tally
import Mathlib.Tactic.Ring

/-!
# Slots

The used slots of a host are the slots of the open dispatches on it. A dispatch takes them; the
handler that sees the end of the execution gives them back.

* `Gwd.orderlyStep`: the events that keep the transitions of a job in order.
* `Gwd.SlotInv`: the invariant; `Gwd.slotInv_step`: one step.
* `Gwd.slots_exact`: the account after a run.
-/

namespace GridWay

open Lifecycle

namespace Gwd

/-- The dispatches of a job that are open, newest first. -/
def openPlaces (s : Gwd) (j : JobId) : List Placement :=
  match s.jobs j with
  | none => []
  | some job => job.places.take (holding job.jobState (s.moves j).head?)

/-- The slots that a job holds on a host. -/
def held (s : Gwd) (j : JobId) (h : HostId) : Int :=
  match s.jobs j with
  | none => 0
  | some job => job.template.np * (s.openPlaces j).countP (·.host = h)

/-- The events that keep the transitions of a job in order. -/
def orderlyStep (s : Gwd) : Event → Bool
  | .dm _ =>
    match s.dmQueue with
    | .job a j :: _ => (s.jobs j).all fun job =>
        orderly a job.jobState (job.emState == .done) (s.moves j).head?
    | _ => true
  | .scheduleJob j _ _ _ w => (s.jobs j).all fun job =>
      !Dm.dispatches w job || ((s.moves j).isEmpty && (job.jobState == .pending || w.historyFile))
  | .tmReload j _ => (s.jobs j).all fun job => !reenters job.jobState || (s.moves j).isEmpty
  | _ => true

variable {w : World} {s s' : Gwd} {i j : JobId}

/-- The transition of a job that waits, when it fits its state. -/
def Settled (job : Job) (ms : List DmAction) : Prop :=
  ms.length ≤ 1 ∧ fits job.jobState ms.head?

/-- The slot account of the daemon. -/
structure SlotInv (s : Gwd) : Prop extends Pool s where
  settled : ∀ i job, s.jobs i = some job → Settled job (s.moves i)
  placed : ∀ i job, s.jobs i = some job → ∀ p ∈ job.places, (s.hosts p.host).isSome
  exact : ∀ h, s.used h = ∑ i ∈ Finset.range s.conf.numberOfJobs, s.held i h

/-- What a job holds depends on its face and on its waiting transition. -/
lemma held_congr {h : HostId} (jobs : (s'.jobs i).map Job.face = (s.jobs i).map Job.face)
    (moves : (s.jobs i).isSome → s'.moves i = s.moves i) : s'.held i h = s.held i h := by
  unfold held openPlaces
  cases here : s.jobs i with
  | none =>
    rw [here, Option.map_none, Option.map_eq_none_iff] at jobs
    simp [jobs]
  | some job =>
    rw [here, Option.map_some] at jobs
    obtain ⟨job', here', face⟩ := Option.map_eq_some_iff.1 jobs
    rw [here', moves (by rw [here]; rfl)]
    have core := congrArg Face.core face
    have state : job'.jobState = job.jobState := congrArg Face.state face
    have np : job'.template.np = job.template.np := congrArg Job.Core.np core
    have places : job'.places = job.places := congrArg Job.Core.places core
    simp only [state, np, places]

lemma SlotInv.quiet (inv : SlotInv s) (quiet : Quiet s s') : SlotInv s' where
  toPool := inv.toPool.quiet quiet
  settled i job' here := by
    obtain ⟨job, before, face⟩ := quiet.job_before here
    have state : job'.jobState = job.jobState := congrArg Face.state face
    have settled := inv.settled i job before
    rw [Settled, state, quiet.moves i (by rw [before]; rfl)]
    exact settled
  placed i job' here p mem := by
    obtain ⟨job, before, face⟩ := quiet.job_before here
    have places : job'.places = job.places := congrArg (·.core.places) face
    exact quiet.hosts _ (inv.placed i job before p (places ▸ mem))
  exact h := by
    rw [quiet.used h, inv.exact h, quiet.conf]
    exact Finset.sum_congr rfl fun i _ => (held_congr (quiet.jobs i) (quiet.moves i)).symm

/-- A list of payments made for one job, on a host. -/
lemma slotChange_places (ps : List Placement) (n : Int) (h : HostId) :
    slotChange (ps.map fun p => (p.host, n)) h = n * ps.countP (·.host = h) := by
  induction ps with
  | nil => simp
  | cons p ps ih =>
    rw [List.map_cons, slotChange_cons, ih, List.countP_cons]
    by_cases same : p.host = h <;> simp [same, Int.mul_add, Int.add_comm]

/-- What a payment closes of the open dispatches. -/
lemma countP_pays (job : Job) {pays : Payment} {n m : Nat} (h : HostId)
    (count : n = m + pays.count) (head : pays = .head → n = 1) (prev : pays = .prev → n = 2)
    (both : pays = .both → n = 2) :
    (job.template.np : Int) * (job.places.take m).countP (·.host = h) =
      job.template.np * (job.places.take n).countP (·.host = h) +
        slotChange (pays.calls job) h := by
  have two : job.places.take 2 = job.places.take 1 ++ (job.places.drop 1).take 1 :=
    List.take_add (i := 1) (j := 1)
  cases pays with
  | none => simp_all [Payment.count]
  | head =>
    obtain rfl := head rfl
    have zero : m = 0 := by simpa [Payment.count] using count
    simp only [Payment.calls_head, slotChange_places, zero, List.take_zero, List.countP_nil]
    ring
  | prev =>
    obtain rfl := prev rfl
    have one : m = 1 := by simpa [Payment.count] using count
    simp only [Payment.calls_prev, slotChange_places, one, two, List.countP_append]
    push_cast
    ring
  | both =>
    obtain rfl := both rfl
    have zero : m = 0 := by simpa [Payment.count] using count
    simp only [Payment.calls_both, slotChange_places, zero, two, List.countP_append,
      List.take_zero, List.countP_nil]
    push_cast
    ring

/-- A job after a reply that keeps its fixed part. -/
lemma held_reply {r : Reply} {job : Job} {h : HostId}
    (state : r.job.jobState ≠ .hold ∨ ∀ code, Call.depCheck code ∉ r.calls)
    (core : r.job.core = job.core) :
    (reply w j r s).held j h =
      if .free ∈ r.calls then 0
      else job.template.np *
        (job.places.take (holding r.job.jobState ((reply w j r s).moves j).head?)).countP
          (·.host = h) := by
  have np : r.job.template.np = job.template.np := congrArg Job.Core.np core
  have places : r.job.places = job.places := congrArg Job.Core.places core
  unfold held openPlaces
  rw [reply_self state]
  split <;> simp_all

/-- The other jobs hold what they held: a release from `HOLD` opens nothing. -/
lemma held_other {r : Reply} {h : HostId} (other : i ≠ j) :
    (reply w j r s).held i h = s.held i h := by
  have moves := reply_moves_other w r s other
  rcases reply_other (w := w) (s := s) (r := r) other with same | ⟨job, here, hold, same⟩
  · simp only [held, openPlaces, same, moves]
  · simp only [held, openPlaces, same, here, moves, hold, Job.setState_jobState,
      Job.setState_frame, holding_released]

/-- A list of waiting transitions that is settled is its head. -/
lemma Settled.eq_head {job : Job} {ms : List DmAction} (settled : Settled job ms) :
    ms = ms.head?.toList := by
  match ms, settled.1 with
  | [], _ => rfl
  | [a], _ => rfl

/-- The transitions that wait when an action is taken from the queue. -/
lemma moves_taken {a : DmAction} {rest : List DmItem} {job : Job}
    (queue : s.dmQueue = .job a j :: rest) (settled : Settled job (s.moves j)) :
    (a.isTransition → (s.moves j).head? = some a) ∧
    ({ s with dmQueue := rest } : Gwd).moves j =
      if a.isTransition then [] else (s.moves j).head?.toList := by
  by_cases move : a.isTransition
  · have all : s.moves j = a :: ({ s with dmQueue := rest } : Gwd).moves j := by
      simp [moves, queue, DmItem.move?, move]
    have short := settled.1
    rw [all, List.length_cons] at short
    rw [all, if_pos move]
    exact ⟨fun _ => rfl, List.length_eq_zero_iff.1 (by omega)⟩
  · have all : ({ s with dmQueue := rest } : Gwd).moves j = s.moves j :=
      moves_pop queue (by simp [DmItem.move?, move])
    rw [if_neg move, all, ← settled.eq_head]
    exact ⟨fun yes => absurd yes move, rfl⟩

/-- A reply keeps the account when it keeps the account of its own job. -/
lemma SlotInv.reply (inv : SlotInv s) {q : List DmItem} {job : Job} {r : Reply}
    (here : s.jobs j = some job)
    (others : ∀ i ≠ j, ({ s with dmQueue := q } : Gwd).moves i = s.moves i)
    (live : (reply w j r { s with dmQueue := q }).crashed = false)
    (state : r.job.jobState ≠ .hold ∨ ∀ code, Call.depCheck code ∉ r.calls)
    (settled : .free ∉ r.calls → Settled r.job ((reply w j r { s with dmQueue := q }).moves j))
    (placed : ∀ p ∈ r.job.places, (s.hosts p.host).isSome)
    (account : ∀ h, (reply w j r { s with dmQueue := q }).held j h =
      s.held j h + slotChange (slotCalls r.calls) h) :
    SlotInv (reply w j r { s with dmQueue := q }) := by
  have self := reply_self (w := w) (s := { s with dmQueue := q }) (j := j) state
  have other {i : JobId} (ne : i ≠ j) :=
    reply_other (w := w) (s := { s with dmQueue := q }) (r := r) ne
  have moves {i : JobId} (ne : i ≠ j) :
      (Gwd.reply w j r { s with dmQueue := q }).moves i = s.moves i :=
    (reply_moves_other w r _ ne).trans (others i ne)
  have inside := inv.inside here
  refine { toPool := inv.toPool.reply here others, settled := ?settled, placed := ?placed, exact := ?exact }
  case settled =>
    intro i job' after
    by_cases same : i = j
    · subst same
      rw [self] at after
      split at after
      · cases after
      · rename_i stays
        cases after
        exact settled stays
    · rw [moves same]
      rcases other same with eq | ⟨job₀, before, hold, eq⟩
      · exact inv.settled i job' (eq.symm.trans after)
      · rw [after] at eq
        cases eq
        obtain ⟨short, fit⟩ := inv.settled i job₀ before
        exact ⟨short, fits_released _ (hold ▸ fit)⟩
  case placed =>
    intro i job' after p mem
    rw [reply_hosts_isSome]
    by_cases same : i = j
    · subst same
      rw [self] at after
      split at after
      · cases after
      · cases after
        exact placed p mem
    · rcases other same with eq | ⟨job₀, before, -, eq⟩
      · exact inv.placed i job' (eq.symm.trans after) p mem
      · rw [after] at eq
        cases eq
        exact inv.placed i job₀ before p mem
  case exact =>
    intro h
    have total : s.used h = ∑ i ∈ Finset.range s.conf.numberOfJobs, s.held i h := inv.exact h
    rw [reply_used live, (reply_frame ..).1, Tally.sum_change (Finset.mem_range.2 inside)
      (f := fun i => (Gwd.reply w j r { s with dmQueue := q }).held i h) (g := fun i => s.held i h)]
    · rw [account h, ← total]
      simp only [used]
      ring
    · intro i _ ne
      rw [held_other ne]
      simp only [held, openPlaces, others i ne]

/-- A handler of the Dispatch Manager keeps the account. -/
lemma SlotInv.act (inv : SlotInv s) {a : DmAction} {rest : List DmItem} {job : Job} {w' : World}
    (queue : s.dmQueue = .job a j :: rest) (here : s.jobs j = some job)
    (order : orderly a job.jobState (job.emState == .done) (s.moves j).head?)
    (live : (Gwd.reply w j (Dm.handle a w' job) { s with dmQueue := rest }).crashed = false) :
    SlotInv (Gwd.reply w j (Dm.handle a w' job) { s with dmQueue := rest }) := by
  have settled := inv.settled j job here
  obtain ⟨taken, left⟩ := moves_taken queue settled
  obtain ⟨eff, mem, real⟩ := Dm.handle_effect (reply_live live).2
  obtain ⟨short, fit, count, head, prev, both⟩ := effects_settle a _ _ _ settled.2 taken order eff mem
  have core := Dm.handle_core a w' job
  have places : (Dm.handle a w' job).job.places = job.places := congrArg Job.Core.places core
  have state : (Dm.handle a w' job).job.jobState ≠ .hold ∨
      ∀ code, Call.depCheck code ∉ (Dm.handle a w' job).calls := by
    by_cases ends : eff.next = .zombie
    · exact .inl (by rw [real.next, ends]; decide)
    · exact .inr fun code mem => ends (real.ends code mem)
  have after : (Gwd.reply w j (Dm.handle a w' job) { s with dmQueue := rest }).moves j =
      waiting a (s.moves j).head? eff.queued := by
    rw [reply_moves_self, left, real.queued]
    rfl
  refine inv.reply here ?_ live state ?_ ?_ ?_
  · intro i ne
    exact moves_taken_other queue ne
  · intro _
    rw [after]
    exact ⟨short, real.next ▸ fit⟩
  · intro p mem
    exact inv.placed j job here p (places ▸ mem)
  · intro h
    rw [held_reply state core, after, real.next, real.pays]
    have pays := countP_pays job h count head prev both
    have before : s.held j h = job.template.np *
        (job.places.take (holding job.jobState (s.moves j).head?)).countP (·.host = h) := by
      simp only [held, openPlaces, here]
    rw [before, ← pays]
    by_cases frees : eff.frees
    · simp [real.frees.2 frees, frees]
    · have stays : .free ∉ (Dm.handle a w' job).calls := fun mem => frees (real.frees.1 mem)
      simp [stays, frees]

lemma held_eq {job : Job} {ms : List DmAction} (h : HostId) (here : s.jobs j = some job)
    (moves : s.moves j = ms) :
    s.held j h =
      job.template.np * (job.places.take (holding job.jobState ms.head?)).countP (·.host = h) := by
  simp only [held, openPlaces, here, moves]

/-- A new record opens one more dispatch. -/
lemma countP_open (p : Placement) (ps : List Placement) (n np : Nat) (h : HostId) :
    (np : Int) * ((p :: ps).take (n + 1)).countP (·.host = h) =
      np * (ps.take n).countP (·.host = h) + slotChange [(p.host, (np : Int))] h := by
  rw [List.take_succ_cons, List.countP_cons]
  by_cases same : p.host = h <;> simp [same, Int.mul_add]

/-- A dispatch in order keeps the account. -/
lemma SlotInv.dispatch (inv : SlotInv s) {hid : HostId} {host : Host} {rank : Int} {queue : String}
    {job : Job} {w' : World} (there : s.hosts hid = some host) (here : s.jobs j = some job)
    (order : Dm.dispatches w' job → s.moves j = [] ∧ (job.jobState = .pending ∨ w'.historyFile))
    (live : (Gwd.reply w j (Dm.dispatchJob hid host rank queue w' job) s).crashed = false) :
    SlotInv (Gwd.reply w j (Dm.dispatchJob hid host rank queue w' job) s) := by
  rcases Dm.dispatchJob_cases hid host rank queue w' job with ⟨neutral, -⟩ | ⟨made, cases⟩
  · exact inv.quiet (quiet_reply here neutral (by simp) live)
  · obtain ⟨idle, fileOk⟩ := order made
    have placed : ∀ p ∈ (newRecord w' hid host rank queue job).toPlacement :: job.places,
        (s.hosts p.host).isSome := by
      intro p mem
      rcases List.mem_cons.1 mem with rfl | mem
      · simp [newRecord, there]
      · exact inv.placed j job here p mem
    rcases cases with ⟨unsaved, eq⟩ | ⟨-, st, eq⟩ | ⟨-, st, eq⟩
    · -- the record is linked, but no slots are taken and nothing is queued
      have st : job.jobState = .pending := by simpa [unsaved] using fileOk
      rw [eq] at live ⊢
      have moves : (Gwd.reply w j ⟨Dm.linked w' hid host rank queue job, []⟩ s).moves j = [] := by
        simp [reply_moves_self, idle]
      refine inv.reply (q := s.dmQueue) here (fun _ _ => rfl) live (.inr (by simp)) ?_ placed ?_
      · intro _
        exact moves ▸ ⟨by simp, rfl⟩
      · intro h
        rw [held_eq h here idle, held_eq h (reply_write (by simp) (by simp)) moves]
        simp [st, holding, Dm.linked]
    · rw [eq] at live ⊢
      have moves : (Gwd.reply w j
          ⟨Dm.linked w' hid host rank queue job,
            [.historyLine (historyLine host rank queue),
              .host hid (.incSlots job.template.np queue), .incRunning job.userId 1,
              .dm .prolog]⟩ s).moves j = [.prolog] := by
        simp [reply_moves_self, idle, DmAction.isTransition]
      refine inv.reply (q := s.dmQueue) here (fun _ _ => rfl) live (.inr (by simp)) ?_ placed ?_
      · intro _
        exact moves ▸ ⟨by simp, by simp [fits, leaves, Dm.linked, st]⟩
      · intro h
        rw [held_eq h here idle, held_eq h (reply_write (by simp) (by simp)) moves, st]
        exact countP_open (newRecord w' hid host rank queue job).toPlacement job.places 0 _ h
    · rw [eq] at live ⊢
      have moves : (Gwd.reply w j
          ⟨{ Dm.linked w' hid host rank queue job with
              restarted := job.restarted + 1, reschedule := false },
            [.historyLine (historyLine host rank queue),
              .host hid (.incSlots job.template.np queue), .dm .migrCancel]⟩ s).moves j =
          [.migrCancel] := by
        simp [reply_moves_self, idle, DmAction.isTransition]
      refine inv.reply (q := s.dmQueue) here (fun _ _ => rfl) live (.inr (by simp)) ?_ placed ?_
      · intro _
        exact moves ▸ ⟨by simp, by simp [fits, leaves, Dm.linked, st]⟩
      · intro h
        rw [held_eq h here idle, held_eq h (reply_write (by simp) (by simp)) moves, st]
        exact countP_open (newRecord w' hid host rank queue job).toPlacement job.places 1 _ h

/-- A reloaded transfer driver keeps the account. -/
lemma SlotInv.reload (inv : SlotInv s) {job : Job} {w' : World} (here : s.jobs j = some job)
    (order : reenters job.jobState → s.moves j = [])
    (live : (Gwd.reply w j (Tm.recover w' job) s).crashed = false) :
    SlotInv (Gwd.reply w j (Tm.recover w' job) s) := by
  rcases recover_cases w' job with eq | ⟨a, again, move, fit, same, eq⟩
  · rw [eq] at live ⊢
    have neutral : Neutral [] job ⟨{ job with tmState := .init }, []⟩ := ⟨rfl, rfl, rfl, rfl⟩
    exact inv.quiet (quiet_reply here neutral (by simp) live)
  · rw [eq] at live ⊢
    have idle := order again
    have moves : (Gwd.reply w j ⟨{ job with tmState := .init }, [.dm a]⟩ s).moves j = [a] := by
      simp [reply_moves_self, idle, move]
    refine inv.reply (q := s.dmQueue) here (fun _ _ => rfl) live (.inr (by simp)) ?_
      (inv.placed j job here) ?_
    · intro _
      exact moves ▸ ⟨by simp, fit⟩
    · intro h
      rw [held_eq h here idle, held_eq h (reply_write (by simp) (by simp)) moves]
      simp only [List.head?_cons, List.head?_nil, same]
      simp [Job.places]

/-- New jobs hold nothing. -/
lemma SlotInv.grown (inv : SlotInv s) {js : List JobId} (grown : Grown js s s') : SlotInv s' := by
  have moves (i : JobId) : s'.moves i = s.moves i := by simp only [Gwd.moves, grown.dmQueue]
  have kept {i : JobId} {job : Job} (here : s'.jobs i = some job) (old : i ∉ js) :
      s.jobs i = some job := (grown.old i old).symm.trans here
  have born {i : JobId} {job : Job} (here : s'.jobs i = some job) (mem : i ∈ js) :
      NewJob i job := by
    obtain ⟨job', here', new⟩ := grown.new i mem
    rw [here] at here'
    cases here'
    exact new
  refine { toPool := inv.toPool.grown grown, settled := ?settled, placed := ?placed, exact := ?exact }
  case settled =>
    intro i job here
    by_cases mem : i ∈ js
    · rw [moves, inv.idle i (grown.fresh i mem).1]
      exact ⟨by simp, rfl⟩
    · rw [moves]
      exact inv.settled i job (kept here mem)
  case placed =>
    intro i job here p place
    rw [grown.hosts]
    by_cases mem : i ∈ js
    · simp [Job.places, (born here mem).history] at place
    · exact inv.placed i job (kept here mem) p place
  case exact =>
    intro h
    have same : s'.used h = s.used h := by simp only [used, grown.hosts]
    rw [same, inv.exact h, grown.conf]
    refine Finset.sum_congr rfl fun i _ => ?_
    by_cases mem : i ∈ js
    · obtain ⟨job, here, new⟩ := grown.new i mem
      rw [held_eq h here rfl]
      simp [held, inv.fresh i (grown.fresh i mem).1, Job.places, new.history]
    · simp only [held, openPlaces, grown.old i mem, moves]

/-- Every event in order keeps the account. -/
lemma slotInv_step {e : Event} (inv : SlotInv s) (order : s.orderlyStep e = true)
    (alive : s.crashed = false) (live : (s.step e).crashed = false) : SlotInv (s.step e) := by
  rcases step_cases alive live with ⟨quiet, -⟩ | ⟨wS, a, j, rest, job, rfl, queue, here, eq⟩ |
    ⟨wS, msg, rest, rfl, queue, eq⟩ |
    ⟨j, hid, queue, rank, w, host, job, rfl, there, here, eq⟩ | ⟨j, w, job, rfl, here, eq⟩
  · exact inv.quiet quiet
  · simp only [orderlyStep, queue, here, Option.all_some] at order
    rw [eq] at live ⊢
    exact inv.act queue here order live
  · rw [eq] at live ⊢
    obtain ⟨js, grown, -⟩ := allocate_spec live
    exact (inv.quiet (quiet_taken queue)).grown grown
  · simp only [orderlyStep, here, Option.all_some] at order
    rw [eq] at live ⊢
    refine inv.dispatch there here (fun made => ?_) live
    have made' : Dm.dispatches w job = true := made
    have file : (s.world w).historyFile = w.historyFile := rfl
    simpa [made', file] using order
  · simp only [orderlyStep, here, Option.all_some] at order
    rw [eq] at live ⊢
    refine inv.reload here (fun again => ?_) live
    simpa [again] using order

lemma slotInv_start (conf : Conf) : SlotInv (Gwd.start conf) where
  toPool := Pool.start conf
  settled _ _ here := by cases here
  placed _ _ here := by cases here
  exact h := by simp [used, start, held]

end Gwd

end GridWay
