import GridWay.Gwd.One
import GridWay.Gwd.Rows
import GridWay.Gwd.Slots
import Mathlib.Algebra.BigOperators.Ring.Finset

/-!
# Queues

The rows of a host count jobs by the names of its queues. The Execution Manager finds the row of an
execution through the newest record of the job, also when a dispatch to another host has come in
between, and a report of the host gives the rows new names by their position.

* `Gwd.queueStep`: the events after which every counter still belongs to its jobs.
* `Gwd.QueueInv`: the invariant; `Gwd.queueInv_step`: one step.
* `Gwd.queues_counted`: the counters after a run.
-/

namespace GridWay

open Lifecycle

/-- The placement that a job is active on, with a transition waiting. -/
def Job.activePlaces (job : Job) (m : Option DmAction) : List Placement :=
  if job.emState = .active then executing job.jobState m job.places else []

/-- The counters that a job accounts for, with a transition waiting. -/
def Job.rowKeys (job : Job) (m : Option DmAction) : List RowKey :=
  (job.places.take (Lifecycle.running job.jobState m)).map (·.row .running) ++
    (job.activePlaces m).map (·.row .active)

namespace Gwd

/-- The counters that a job accounts for. -/
def rowKeys (s : Gwd) (j : JobId) : List RowKey :=
  match s.jobs j with
  | none => []
  | some job => job.rowKeys (s.moves j).head?

/-- How many entries of all jobs are for the counters `P`. -/
def load (s : Gwd) (P : RowKey → Bool) : Int :=
  ∑ j ∈ Finset.range s.conf.numberOfJobs, ((s.rowKeys j).countP P : Int)

/-- A host that reports the queue of a counter. -/
def reports (s : Gwd) (k : RowKey) : Bool :=
  (s.hosts k.2.1).any fun host => host.queues.any fun row => row.name == k.2.2

/-- The counters among `ks` that there is a row for. -/
def reported (s : Gwd) (ks : List RowKey) : List RowKey := ks.filter s.reports

/-- The rows of the execution of a job. -/
def executionRows (s : Gwd) (j : JobId) (job : Job) : List RowKey :=
  s.reported ((executing job.jobState (s.moves j).head? job.places).map (·.row .active))

/-- The rows that the Execution Manager moves. -/
def headRows (s : Gwd) (job : Job) : List RowKey :=
  s.reported ((job.places.take 1).map (·.row .active))

/-- A hard kill looks for the row of the old host under the name of the new queue. -/
def killRows (s : Gwd) : List Placement → Bool
  | head :: prev :: _ =>
    s.reported [(.running, prev.host, head.queue)] == s.reported [prev.row .running]
  | _ => true

/-- The running and the active jobs on a queue of a host. -/
def onName (s : Gwd) (h : HostId) (name : String) : Int × Int :=
  (s.load (· == (.running, h, name)), s.load (· == (.active, h, name)))

/-- At every position of a report stands a name with the jobs of the name it replaces. -/
def aligned (s : Gwd) (h : HostId) : List String → List QueueRow → Bool
  | [], _ => true
  | name :: names, [] => s.onName h name == (0, 0) && aligned s h names []
  | name :: names, row :: rows => s.onName h name == s.onName h row.name && aligned s h names rows

/-- The events that keep the counters with their jobs: an execution that is active is ended and
moved through the row it was counted in, a hard kill of a migration finds the rows of both hosts,
and a report of a host leaves every row to the jobs it counts. -/
def queueStep (s : Gwd) : Event → Bool
  | .dm _ =>
    match s.dmQueue with
    | .job a j :: _ => (s.jobs j).all fun job =>
        killsAll a job.jobState (s.moves j).head? &&
        (job.emState != .active || spares a job.jobState || s.executionRows j job == []) &&
        (a != .killHard || !migrating job.jobState || s.killRows job.places)
    | _ => true
  | .em _ =>
    match s.emQueue with
    | (a, j) :: _ => (s.jobs j).all fun job =>
        !Em.flips a job.emState ||
          s.executionRows j job == if a = .submit then [] else s.headRows job
    | _ => true
  | .scheduleJob j hid queue _ w => (s.jobs j).all fun job =>
      !Dm.dispatches w job || job.jobState != .pending || job.emState != .active ||
        s.reported [(.active, hid, queue)] == s.headRows job
  | .hostAllocate hid host =>
    (s.hosts hid).isSome || decide (host.queues.map (·.name)).Nodup
  | .hostUpdate hid info => (s.hosts hid).all fun host =>
      decide ((renameQueues (info.queues.map (·.name)) host.queues).map (·.name)).Nodup &&
        s.aligned hid (info.queues.map (·.name)) host.queues
  | _ => true

/-- The account of the queue rows. -/
structure QueueInv (s : Gwd) : Prop extends SlotInv s where
  named : ∀ h host, s.hosts h = some host → Named host
  rows : ∀ h host, s.hosts h = some host → ∀ row ∈ host.queues,
    (row.runningJobs, row.activeJobs) = s.onName h row.name
  total : ∀ h host, s.hosts h = some host → host.runningJobs = s.load (runsOn h)

variable {w : World} {s s' : Gwd} {i j : JobId} {job : Job} {r : Reply} {P : RowKey → Bool}

/-- What the account is about: the rows that there are, and the running jobs of a host. -/
def Fair (s : Gwd) (P : RowKey → Bool) : Prop := (∀ k, P k → s.reports k) ∨ ∃ h, P = runsOn h

/-- An execution does not count for the running jobs of a host. -/
lemma countP_active {h : HostId} {ps : List Placement} :
    (ps.map (·.row .active)).countP (runsOn h) = 0 := by
  simp [List.countP_eq_zero, runsOn, Placement.row]

/-- Executions without a row count nowhere. -/
lemma Fair.none {ps : List Placement} (fair : Fair s P)
    (away : s.reported (ps.map (·.row .active)) = []) : (ps.map (·.row .active)).countP P = 0 := by
  rcases fair with seen | ⟨h, rfl⟩
  · exact Tally.countP_of_filter_eq seen (away.trans List.filter_nil.symm)
  · exact countP_active

/-- Executions with the same rows count alike. -/
lemma Fair.same {ps qs : List Placement} (fair : Fair s P)
    (same : s.reported (ps.map (·.row .active)) = s.reported (qs.map (·.row .active))) :
    (ps.map (·.row .active)).countP P = (qs.map (·.row .active)).countP P := by
  rcases fair with seen | ⟨h, rfl⟩
  · exact Tally.countP_of_filter_eq seen same
  · rw [countP_active, countP_active]

/-- The calls of a turn move the counters by what the job accounts for. -/
def Balanced (s s' : Gwd) (j : JobId) (r : Reply) : Prop :=
  ∀ P, Fair s P →
    ((s'.rowKeys j).countP P : Int) = (s.rowKeys j).countP P + Tally.moved P (rowCalls r.calls)

lemma rowKeys_eq {ms : List DmAction} (here : s.jobs j = some job) (moves : s.moves j = ms) :
    s.rowKeys j = job.rowKeys ms.head? := by
  simp only [rowKeys, here, moves]

/-- The counters of a job, by the records that run and by the execution that is active. -/
lemma countP_rowKeys (m : Option DmAction) (P : RowKey → Bool) :
    (job.rowKeys m).countP P =
      (job.places.take (Lifecycle.running job.jobState m)).countP (fun p => P (p.row .running)) +
        ((job.activePlaces m).map (·.row .active)).countP P := by
  rw [Job.rowKeys, List.countP_append, List.countP_map]
  rfl

/-- What a payment moves. -/
lemma moved_rows (pays : Payment) (P : RowKey → Bool) :
    Tally.moved P (pays.rows job) =
      -((pays.places job.places).countP fun p => P (p.row .running) : Nat) := by
  have split : pays.rows job =
      ((pays.places job.places).map (·.row .running)).map fun k => (k, -1) := by
    rw [Payment.rows, List.map_map]
    rfl
  rw [split, Tally.moved_map, List.countP_map]
  simp only [Int.reduceNeg, Int.neg_mul, Int.one_mul]
  rfl

section Handler

variable {a : DmAction} {rest : List DmItem} {eff : Effect} {m m' : Option DmAction}

lemma activePlaces_idle (idle : job.emState ≠ .active) : job.activePlaces m = [] := if_neg idle

lemma activePlaces_active (active : job.emState = .active) :
    job.activePlaces m = executing job.jobState m job.places := if_pos active

/-- The counters of a job after a handler. -/
lemma Acted.rowKeys (act : Acted s s' j job a rest eff r) (settled : Settled job (s.moves j)) :
    s'.rowKeys j =
      if eff.frees then [] else r.job.rowKeys (waiting a (s.moves j).head? eff.queued).head? := by
  have moves : s'.moves j = waiting a (s.moves j).head? eff.queued := by
    rw [act.moves, (moves_taken act.queue settled).2]
    rfl
  unfold Gwd.rowKeys
  rw [act.jobs, moves]
  cases eff.frees <;> rfl

/-- The execution of a job after a handler that is no hard kill: what is active stays with its
record, unless it was without a row. -/
lemma execution_settled (settle : RowsSettle a job.jobState m eff)
    (waits : m' = (waiting a m eff.queued).head?) (soft : a ≠ .killHard) (fair : Fair s P)
    (em : r.job.emState = if Dm.resetsEm a job.jobState then .init else job.emState)
    (next : r.job.jobState = eff.next) (places : r.job.places = job.places)
    (spare : job.emState = .active → spares a job.jobState = false →
      s.reported ((executing job.jobState m job.places).map (·.row .active)) = []) :
    ((if eff.frees then [] else r.job.activePlaces m').map (·.row .active)).countP P =
      ((job.activePlaces m).map (·.row .active)).countP P := by
  obtain ⟨-, -, -, -, same, kills, resets, -⟩ := settle
  cases spared : spares a job.jobState
  · have away : ((job.activePlaces m).map (·.row .active)).countP P = 0 := by
      by_cases active : job.emState = .active
      · rw [activePlaces_active active]
        exact fair.none (spare active spared)
      · rw [activePlaces_idle active]
        rfl
    rw [away]
    cases freed : eff.frees
    · have reset := resets (by simp [spared]) soft freed
      have idle : r.job.emState ≠ .active := by
        rw [em, if_pos reset]
        decide
      rw [activePlaces_idle idle]
      rfl
    · rfl
  · have calm : Dm.resetsEm a job.jobState = false := by
      simp only [spares, Bool.and_eq_true, Bool.not_eq_true'] at spared
      exact spared.1
    have stays : eff.frees = false := by
      by_contra freed
      exact soft (kills spared (by simpa using freed))
    have second := same spared stays
    have kept : r.job.emState = job.emState := em.trans (if_neg (by simp [calm]))
    rw [if_neg (by simp [stays])]
    simp only [Job.activePlaces, executing, kept, next, places, waits, second]

/-- A handler that is no hard kill moves the rows by what its job accounts for. -/
lemma Acted.balanced (act : Acted s s' j job a rest eff (Dm.handle a w job))
    (here : s.jobs j = some job) (settled : Settled job (s.moves j)) (soft : a ≠ .killHard)
    (order : orderly a job.jobState (job.emState == .done) (s.moves j).head?)
    (spare : job.emState = .active → spares a job.jobState = false → s.executionRows j job = [])
    (live : .fault ∉ (Dm.handle a w job).calls) : Balanced s s' j (Dm.handle a w job) := by
  intro P fair
  have taken := (moves_taken act.queue settled).1
  have all : killsAll a job.jobState (s.moves j).head? := by simp [killsAll, soft]
  have settle := effects_count a _ _ _ settled.2 taken order all eff act.mem
  have places : (Dm.handle a w job).job.places = job.places := congrArg Job.Core.places act.core
  have active := execution_settled settle rfl soft fair (Dm.handle_emState soft live) act.real.next
    places spare
  obtain ⟨count, head, prev, both, -⟩ := settle
  have run := Payment.countP_places (P := fun p => P (p.row .running)) job.places count head prev
    both
  rw [rowKeys_eq here rfl, act.rowKeys settled, Dm.handle_rows soft live, moved_rows,
    countP_rowKeys, run, ← active]
  cases freed : eff.frees
  · rw [if_neg (by simp), if_neg (by simp), if_neg (by simp), countP_rowKeys, act.real.next, places]
    push_cast
    ring
  · simp

/-- A hard kill moves the rows by what its job accounts for. -/
lemma Acted.balanced_killHard (act : Acted s s' j job .killHard rest eff (Dm.killHard w job))
    (here : s.jobs j = some job) (settled : Settled job (s.moves j))
    (order : orderly .killHard job.jobState (job.emState == .done) (s.moves j).head?)
    (all : killsAll .killHard job.jobState (s.moves j).head?)
    (spare : job.emState = .active → spares .killHard job.jobState = false →
      s.executionRows j job = [])
    (kills : migrating job.jobState → s.killRows job.places)
    (live : .fault ∉ (Dm.killHard w job).calls) : Balanced s s' j (Dm.killHard w job) := by
  intro P fair
  have taken := (moves_taken act.queue settled).1
  obtain ⟨count, head, prev, both, -, -, -, freed⟩ :=
    effects_count .killHard _ _ _ settled.2 taken order all eff act.mem
  have run := Payment.countP_places (P := fun p => P (p.row .running)) job.places count head prev
    both
  rw [rowKeys_eq here rfl, act.rowKeys settled, if_pos (freed rfl), countP_rowKeys, run,
    if_pos (freed rfl), List.countP_nil, List.take_zero, List.countP_nil]
  have idle (rude : spares .killHard job.jobState = false) :
      ((job.activePlaces (s.moves j).head?).map (·.row .active)).countP P = 0 := by
    by_cases active : job.emState = .active
    · rw [activePlaces_active active]
      exact fair.none (spare active rude)
    · rw [activePlaces_idle active]
      rfl
  by_cases migr : migrating job.jobState
  · obtain ⟨head, prev, older, places, rows⟩ := Dm.killHard_rows_migrating migr live
    have both : runPays .killHard job.jobState = .both := if_pos migr
    have rude := spares_migrating job.jobState migr
    have same := kills migr
    rw [places] at same
    have moved : P (.running, prev.host, head.queue) = P (prev.row .running) := by
      rcases fair with seen | ⟨h, rfl⟩
      · have count := Tally.countP_of_filter_eq seen (eq_of_beq same)
        simp only [List.countP_cons, List.countP_nil] at count
        cases found : P (.running, prev.host, head.queue) <;>
          cases meant : P (prev.row .running) <;> simp [found, meant] at count ⊢
      · rfl
    rw [idle rude, rows, both, places]
    simp only [Payment.places, List.drop_one, List.tail_cons, List.take_succ_cons, List.take_zero,
      List.countP_append, List.countP_cons, List.countP_nil, Tally.moved_cons, Tally.moved_nil,
      moved]
    by_cases old : P (prev.row .running) <;> by_cases new : P (head.row .running) <;>
      simp [old, new]
  · have still : migrating job.jobState = false := by simpa using migr
    cases spared : spares .killHard job.jobState
    · rw [Dm.killHard_rows spared still live, moved_rows, idle spared]
      push_cast
      ring
    · have st := spares_executing job.jobState spared
      have one : holding job.jobState (s.moves j).head? ≠ 2 := by
        have pays : killPays job.jobState = 1 := by rcases st with st | st <;> rw [st] <;> rfl
        rw [eq_of_beq order, pays]
        decide
      have head : job.activePlaces (s.moves j).head? =
          if job.emState = .active then job.places.take 1 else [] := by
        simp only [Job.activePlaces, executing, one, if_false]
      have split : (job.activePlaces (s.moves j).head?).map (fun p => (p.row .active, (-1 : Int))) =
          ((job.activePlaces (s.moves j).head?).map (·.row .active)).map fun k => (k, -1) := by
        rw [List.map_map]
        rfl
      have pays : runPays .killHard job.jobState = .head := by
        rcases st with st | st <;> rw [st] <;> rfl
      rw [Dm.killHard_rows_executing st live, ← head, Tally.moved_append, split, Tally.moved_map,
        moved_rows, pays]
      push_cast
      ring

end Handler

section Turn

variable {cbs : List DmAction} {s₁ : Gwd}

/-- The counters of a job after a reply that leaves its lifecycle alone. -/
lemma rowKeys_neutral (neutral : Neutral cbs job r) (callbacks : ∀ a ∈ cbs, a.isTransition = false)
    (moves : s₁.moves j = s.moves j) :
    (reply w j r s₁).rowKeys j =
      (job.places.take (Lifecycle.running job.jobState (s.moves j).head?)).map (·.row .running) ++
        (r.job.activePlaces (s.moves j).head?).map (·.row .active) := by
  have same : (reply w j r s₁).moves j = s.moves j := by
    rw [reply_moves_self, filter_callbacks (fun _ => neutral.mem_dmCalls) callbacks,
      List.append_nil, moves]
  rw [rowKeys_eq (reply_write neutral.free neutral.calm) same, Job.rowKeys, neutral.state,
    show r.job.places = job.places from congrArg Job.Core.places neutral.core]

lemma activePlaces_congr {job' : Job} {m : Option DmAction} (places : job'.places = job.places)
    (state : job'.jobState = job.jobState)
    (em : job'.emState = .active ↔ job.emState = .active) :
    job'.activePlaces m = job.activePlaces m := by
  simp only [Job.activePlaces, places, state, em]

/-- A turn that moves no row and leaves the execution as it is. -/
lemma balanced_still (here : s.jobs j = some job) (neutral : Neutral cbs job r)
    (callbacks : ∀ a ∈ cbs, a.isTransition = false) (moves : s₁.moves j = s.moves j)
    (still : Still job r) : Balanced s (reply w j r s₁) j r := by
  intro P _
  have places : r.job.places = job.places := congrArg Job.Core.places neutral.core
  rw [rowKeys_neutral neutral callbacks moves, rowKeys_eq here rfl, Job.rowKeys, still.1,
    activePlaces_congr places neutral.state (by rw [still.2]), Tally.moved_nil, Int.add_zero]

/-- A turn of the Execution Manager that finds the row of the execution. -/
lemma balanced_em {a : EmAction} {w' : World} (here : s.jobs j = some job)
    (moves : s₁.moves j = s.moves j)
    (found : Em.flips a job.emState →
      s.executionRows j job = if a = .submit then [] else s.headRows job)
    (live : .fault ∉ (Em.handle a w' job).calls) :
    Balanced s (reply w j (Em.handle a w' job) s₁) j (Em.handle a w' job) := by
  intro P fair
  have neutral := Em.handle_neutral a w' job
  have places : (Em.handle a w' job).job.places = job.places :=
    congrArg Job.Core.places neutral.core
  rw [rowKeys_neutral neutral emCallbacks_not_moves moves, rowKeys_eq here rfl, Job.rowKeys,
    List.countP_append, List.countP_append]
  by_cases submit : a = .submit
  · subst submit
    obtain ⟨rows, idle⟩ := Em.submit_rows (w := w') job
    have after : (Em.handle .submit w' job).job.activePlaces (s.moves j).head? = [] := by
      rcases idle with none | idle
      · simp [Job.activePlaces, executing, places, none]
      · exact activePlaces_idle idle
    have before : ((job.activePlaces (s.moves j).head?).map (·.row .active)).countP P = 0 := by
      by_cases active : job.emState = .active
      · rw [activePlaces_active active]
        exact fair.none (found (by simp [Em.flips, active]))
      · rw [activePlaces_idle active]
        rfl
    rw [after, before, show rowCalls (Em.handle .submit w' job).calls = [] from rows]
    simp
  · have moved := Em.handle_rows submit live
    cases flip : Em.flips a job.emState
    · rw [flip, if_neg (by simp)] at moved
      rw [activePlaces_congr places neutral.state moved.1, moved.2, Tally.moved_nil, Int.add_zero]
    · rw [flip, if_pos rfl] at moved
      obtain ⟨turned, rows⟩ := moved
      have same := fair.same ((found flip).trans (if_neg submit))
      have head (n : Int) : Tally.moved P (Em.headRow job n) =
          n * ((job.places.take 1).map (·.row .active)).countP P := by
        have split : Em.headRow job n =
            ((job.places.take 1).map (·.row .active)).map fun k => (k, n) := by
          rw [Em.headRow, List.map_map]
          rfl
        rw [split, Tally.moved_map]
      by_cases active : job.emState = .active
      · have idle : (Em.handle a w' job).job.emState ≠ .active := fun again => turned.1 again active
        rw [activePlaces_idle idle, activePlaces_active active, rows, head, if_pos active, same,
          List.map_nil, List.countP_nil]
        push_cast
        ring
      · have now : (Em.handle a w' job).job.emState = .active := turned.2 active
        rw [activePlaces_idle active, activePlaces_active now, rows, head, if_neg active, places,
          neutral.state, same, List.map_nil, List.countP_nil]
        push_cast
        ring

/-- What a dispatch without effect moves. -/
lemma dispatchJob_still {hid : HostId} {host : Host} {rank : Int} {queue : String}
    (neutral : Neutral [] job (Dm.dispatchJob hid host rank queue w job)) :
    Still job (Dm.dispatchJob hid host rank queue w job) := by
  constructor
  · by_contra moves
    have taken : ∃ np, Call.host hid (.incSlots np queue) ∈
        (Dm.dispatchJob hid host rank queue w job).calls := by
      revert moves
      unfold Dm.dispatchJob
      repeat' split
      all_goals simp [Dm.uncheckJob_still.1]
    obtain ⟨np, mem⟩ := taken
    simpa using neutral.of_mem mem
  · rcases Dm.dispatchJob_side w job hid host rank queue with side | side <;>
      exact congrArg Side.emState side

/-- A dispatch moves the row of the new host. -/
lemma balanced_dispatch {hid : HostId} {host : Host} {rank : Int} {queue : String}
    {w' : World} (here : s.jobs j = some job)
    (order : Dm.dispatches w' job → s.moves j = [] ∧ (job.jobState = .pending ∨ w'.historyFile))
    (rows : Dm.dispatches w' job → job.jobState = .pending → job.emState = .active →
      s.reported [(.active, hid, queue)] = s.headRows job) :
    Balanced s (reply w j (Dm.dispatchJob hid host rank queue w' job) s) j
      (Dm.dispatchJob hid host rank queue w' job) := by
  rcases Dm.dispatchJob_cases hid host rank queue w' job with ⟨neutral, -⟩ | ⟨made, cases⟩
  · exact balanced_still here neutral (by simp) rfl (dispatchJob_still neutral)
  · obtain ⟨idle, fileOk⟩ := order made
    -- a pending job that is still active is active on the new record from now on
    have shifts {P : RowKey → Bool} {job' : Job} {m : Option DmAction} (fair : Fair s P)
        (st : job.jobState = .pending) (state : job'.jobState = .pending)
        (em : job'.emState = job.emState)
        (places : job'.places = (newRecord w' hid host rank queue job).toPlacement :: job.places)
        (one : holding .pending m ≠ 2) :
        ((job'.activePlaces m).map (·.row .active)).countP P =
          ((job.activePlaces none).map (·.row .active)).countP P := by
      by_cases active : job.emState = .active
      · rw [activePlaces_active active, activePlaces_active (em.trans active), executing, executing,
          st, state, places, if_neg one, if_neg (by decide), List.take_succ_cons, List.take_zero]
        exact fair.same (rows made st active)
      · rw [activePlaces_idle active, activePlaces_idle (em ▸ active)]
    have state : (Dm.linked w' hid host rank queue job).jobState = job.jobState := rfl
    intro P fair
    rw [rowKeys_eq here idle, List.head?_nil]
    rcases cases with ⟨unsaved, eq⟩ | ⟨-, st, eq⟩ | ⟨-, st, eq⟩
    · have st : job.jobState = .pending := by simpa [unsaved] using fileOk
      have moves : (reply w j ⟨Dm.linked w' hid host rank queue job, []⟩ s).moves j = [] := by
        simp [reply_moves_self, idle]
      rw [eq, rowKeys_eq (reply_write (by simp) (by simp)) moves, countP_rowKeys, countP_rowKeys,
        List.head?_nil, shifts fair st (state.trans st) rfl rfl (by decide)]
      simp [Dm.linked, st, Lifecycle.running, resting]
    · have moves : (reply w j
          ⟨Dm.linked w' hid host rank queue job,
            [.historyLine (historyLine host rank queue),
              .host hid (.incSlots job.template.np queue), .incRunning job.userId 1,
              .dm .prolog]⟩ s).moves j = [.prolog] := by
        simp [reply_moves_self, idle, DmAction.isTransition]
      rw [eq, rowKeys_eq (reply_write (by simp) (by simp)) moves, countP_rowKeys, countP_rowKeys,
        List.head?_cons, shifts fair st (state.trans st) rfl rfl (by decide)]
      have opened : ((Dm.linked w' hid host rank queue job).places.take 1).countP
          (fun p => P (p.row .running)) = if P (.running, hid, queue) then 1 else 0 := by
        simp [Dm.linked, Job.places, newRecord, Placement.row, List.countP_cons]
      simp only [st, Lifecycle.running, resting, opened]
      by_cases new : P (.running, hid, queue) <;> simp [new, Int.add_comm]
    · have moves : (reply w j
          ⟨{ Dm.linked w' hid host rank queue job with
              restarted := job.restarted + 1, reschedule := false },
            [.historyLine (historyLine host rank queue),
              .host hid (.incSlots job.template.np queue), .dm .migrCancel]⟩ s).moves j =
          [.migrCancel] := by
        simp [reply_moves_self, idle, DmAction.isTransition]
      rw [eq, rowKeys_eq (reply_write (by simp) (by simp)) moves, countP_rowKeys, countP_rowKeys,
        List.head?_cons]
      have active : ({ Dm.linked w' hid host rank queue job with
          restarted := job.restarted + 1, reschedule := false } : Job).activePlaces
            (some .migrCancel) = job.activePlaces none := by
        simp [Job.activePlaces, executing, Dm.linked, Job.places, st, holding]
      have opened : (({ Dm.linked w' hid host rank queue job with
          restarted := job.restarted + 1, reschedule := false } : Job).places.take 2).countP
            (fun p => P (p.row .running)) =
          (job.places.take 1).countP (fun p => P (p.row .running)) +
            if P (.running, hid, queue) then 1 else 0 := by
        simp [Dm.linked, Job.places, newRecord, Placement.row, List.countP_cons]
      simp only [st, Lifecycle.running, resting, migrating, active, opened]
      by_cases new : P (.running, hid, queue) <;> simp [new, Int.add_right_comm]

/-- The transition that a reloaded transfer driver queues leaves the running records. -/
lemma recover_running {a : DmAction} (queued : dmCalls (Tm.recover w job).calls = [a]) :
    Lifecycle.running job.jobState (some a) = Lifecycle.running job.jobState none := by
  unfold Tm.recover at queued
  cases st : job.jobState <;> simp [st] at queued <;> subst queued <;> rfl

/-- A reloaded transfer driver moves nothing. -/
lemma balanced_reload {w' : World} (here : s.jobs j = some job)
    (order : reenters job.jobState → s.moves j = []) :
    Balanced s (reply w j (Tm.recover w' job) s) j (Tm.recover w' job) := by
  rcases recover_cases w' job with eq | ⟨a, again, move, -, same, eq⟩
  · rw [eq]
    have neutral : Neutral [] job ⟨{ job with tmState := .init }, []⟩ := ⟨rfl, rfl, rfl, rfl⟩
    exact balanced_still here neutral (by simp) rfl ⟨rfl, rfl⟩
  · have idle := order again
    have queued : dmCalls (Tm.recover w' job).calls = [a] := by
      rw [eq]
      rfl
    have runs := recover_running queued
    have moves : (reply w j ⟨{ job with tmState := .init }, [.dm a]⟩ s).moves j = [a] := by
      simp [reply_moves_self, idle, move]
    intro P _
    rw [eq, rowKeys_eq here idle, rowKeys_eq (reply_write (by simp) (by simp)) moves]
    have keys : ({ job with tmState := .init } : Job).rowKeys (some a) = job.rowKeys none := by
      simp only [Job.rowKeys, Job.activePlaces, executing, runs, same]
      rfl
    simp [keys]

end Turn

section Account

/-- The other jobs account for what they did: a release from `HOLD` moves nothing. -/
lemma rowKeys_other (other : i ≠ j) : (reply w j r s).rowKeys i = s.rowKeys i := by
  have moves := reply_moves_other w r s other
  rcases reply_other (w := w) (s := s) (r := r) other with same | ⟨job, here, hold, same⟩
  · simp only [rowKeys, same, moves]
  · have keys (m : Option DmAction) : (job.setState .pending).rowKeys m = job.rowKeys m := by
      have runs : ∀ m, Lifecycle.running .pending m = Lifecycle.running .hold m := by decide
      have places : (job.setState .pending).places = job.places := rfl
      simp only [Job.rowKeys, Job.activePlaces, executing, Job.setState_jobState, places, hold,
        runs, holding_released]
      rfl
    simp only [rowKeys, same, here, moves, keys]

/-- A balanced turn moves the counters by its calls. -/
lemma Balanced.load {s₁ : Gwd} (balanced : Balanced s (reply w j r s₁) j r) (fair : Fair s P)
    (inside : j < s.conf.numberOfJobs) (conf : s₁.conf = s.conf)
    (others : ∀ i, i ≠ j → s₁.rowKeys i = s.rowKeys i) :
    (reply w j r s₁).load P = s.load P + Tally.moved P (rowCalls r.calls) := by
  have same : (reply w j r s₁).conf.numberOfJobs = s.conf.numberOfJobs := by
    rw [(reply_frame ..).1, conf]
  rw [Gwd.load, Gwd.load, same, Tally.sum_change (Finset.mem_range.2 inside)
    (f := fun i => (((reply w j r s₁).rowKeys i).countP P : Int))
    (g := fun i => ((s.rowKeys i).countP P : Int)), balanced P fair]
  · ring
  · intro i _ other
    rw [rowKeys_other other, others i other]

/-- A row of a host is about reported counters. -/
lemma Fair.row {h : HostId} {host : Host} {row : QueueRow} (here : s.hosts h = some host)
    (mem : row ∈ host.queues) (c : Counter) : Fair s (· == (c, h, row.name)) := by
  refine .inl fun k same => ?_
  rw [eq_of_beq same]
  simp only [reports, here, Option.any_some]
  exact List.any_eq_true.2 ⟨row, mem, by simp⟩

/-- A balanced turn keeps the account. -/
lemma QueueInv.turn {s₁ : Gwd} (inv : QueueInv s) (here : s.jobs j = some job)
    (same : s₁.conf = s.conf ∧ s₁.jobs = s.jobs ∧ s₁.hosts = s.hosts)
    (others : ∀ i, i ≠ j → s₁.moves i = s.moves i) (slots : SlotInv (reply w j r s₁))
    (balanced : Balanced s (reply w j r s₁) j r) : QueueInv (reply w j r s₁) := by
  obtain ⟨conf, jobs, hosts⟩ := same
  have load {P : RowKey → Bool} (fair : Fair s P) :
      (reply w j r s₁).load P = s.load P + Tally.moved P (rowCalls r.calls) := by
    refine balanced.load fair (inv.inside here) conf fun i other => ?_
    simp only [rowKeys, jobs, others i other]
  have before {h : HostId} {host' : Host} (after : (reply w j r s₁).hosts h = some host') :
      ∃ host, s.hosts h = some host ∧ Credited (rowCalls r.calls) h host host' := by
    have there : (s₁.hosts h).isSome := by
      rw [← reply_hosts_isSome w j r s₁ h, after]
      rfl
    obtain ⟨host, there⟩ := Option.isSome_iff_exists.1 there
    have old : s.hosts h = some host := hosts ▸ there
    obtain ⟨host'', after', credited⟩ :=
      reply_credited (w := w) (j := j) (r := r) there (inv.named h host old)
    rw [after] at after'
    cases after'
    exact ⟨host, old, credited⟩
  refine { toSlotInv := slots, named := ?named, rows := ?rows, total := ?total }
  case named =>
    intro h host' after
    obtain ⟨host, old, credited⟩ := before after
    exact credited.named (inv.named h host old)
  case rows =>
    intro h host' after row' mem'
    obtain ⟨host, old, credited⟩ := before after
    rw [credited.queues] at mem'
    obtain ⟨row, mem, rfl⟩ := List.mem_map.1 mem'
    have exact := inv.rows h host old row mem
    have name : (credit (rowCalls r.calls) h row).name = row.name := rfl
    rw [name, onName, load (.row old mem .running), load (.row old mem .active)]
    simp only [onName, Prod.mk.injEq] at exact
    simp only [credit, exact]
  case total =>
    intro h host' after
    obtain ⟨host, old, credited⟩ := before after
    rw [credited.runningJobs, inv.total h host old, load (.inr ⟨h, rfl⟩)]

end Account

section Step

variable {e : Event}

/-- A turn of a job in order moves the counters by what the job accounts for. -/
lemma QueueInv.balanced {t : Turn} {s₁ : Gwd} (inv : QueueInv s) (here : s.jobs j = some job)
    (takes : Takes s j e t w s₁) (order : s.orderlyStep e = true) (found : s.queueStep e = true)
    (live : (reply w j (t.handler (s.world w) job) s₁).crashed = false) :
    Balanced s (reply w j (t.handler (s.world w) job) s₁) j (t.handler (s.world w) job) := by
  have safe := (reply_live live).2
  cases takes with
  | @dm wS a rest queue =>
    simp only [orderlyStep, queue, here, Option.all_some] at order
    simp only [queueStep, queue, here, Option.all_some, Bool.and_eq_true, Bool.or_eq_true,
      bne_iff_ne, Bool.not_eq_true', beq_iff_eq] at found
    obtain ⟨⟨all, spare⟩, kills⟩ := found
    obtain ⟨eff, act⟩ := acted queue live
    have settled := inv.settled j job here
    have spare' : job.emState = .active → spares a job.jobState = false →
        s.executionRows j job = [] := by
      intro active rude
      rcases spare with (idle | spared) | none
      · exact absurd active idle
      · rw [rude] at spared
        cases spared
      · exact none
    by_cases kill : a = .killHard
    · subst kill
      refine act.balanced_killHard here settled order all spare' (fun migr => ?_) safe
      rcases kills with (soft | still) | rows
      · exact absurd rfl soft
      · rw [migr] at still
        cases still
      · exact rows
    · exact act.balanced here settled kill order spare' safe
  | @em w a rest queue =>
    simp only [queueStep, queue, here, Option.all_some, Bool.or_eq_true, Bool.not_eq_true',
      beq_iff_eq] at found
    refine balanced_em here rfl (fun flip => ?_) safe
    rcases found with idle | rows
    · rw [flip] at idle
      cases idle
    · exact rows
  | @tm w a rest queue =>
    have own := Tm.handle_own a (s.world w) job
    exact balanced_still here own.neutral tmCallbacks_not_moves rfl own.still
  | @emMsg msg w =>
    have neutral := Em.listener_neutral msg (s.world w) job
    exact balanced_still here neutral emCallbacks_not_moves rfl (Em.listener_still msg)
  | @tmMsg msg w =>
    have own := Tm.listener_own msg (s.world w) job
    exact balanced_still here own.neutral tmCallbacks_not_moves rfl own.still
  | dispatch there =>
    simp only [orderlyStep, here, Option.all_some] at order
    simp only [queueStep, here, Option.all_some, Bool.or_eq_true, Bool.not_eq_true', bne_iff_ne,
      beq_iff_eq] at found
    refine balanced_dispatch here (fun made => ?_) fun made st active => ?_
    · have made' : Dm.dispatches w job = true := made
      have file : (s.world w).historyFile = w.historyFile := rfl
      simpa [made', file] using order
    · have made' : Dm.dispatches w job = true := made
      rcases found with ((idle | moved) | still) | rows
      · rw [made'] at idle
        cases idle
      · exact absurd st moved
      · exact absurd active still
      · exact rows
  | @uncheck w =>
    have neutral : Neutral [] job (Dm.uncheckJob (s.world w) job) := Dm.uncheckJob_neutral
    have still : Still job (Dm.uncheckJob (s.world w) job) := Dm.uncheckJob_still
    exact balanced_still here neutral (by simp) rfl still
  | check => exact balanced_still here Dm.checkJob_neutral (by simp) rfl Dm.checkJob_still
  | emTimer => exact balanced_still here Em.timer_neutral emCallbacks_not_moves rfl Em.timer_still
  | @tmTimer w =>
    have own := Tm.timer_own (s.world w) job
    exact balanced_still here own.neutral tmCallbacks_not_moves rfl own.still
  | @tmReload w =>
    simp only [orderlyStep, here, Option.all_some] at order
    have balanced : Balanced s (reply w j (Tm.recover (s.world w) job) s) j
        (Tm.recover (s.world w) job) :=
      balanced_reload here fun again => by simpa [again] using order
    exact balanced

/-- A change of the daemon that leaves what the jobs account for. -/
lemma load_congr (conf : s'.conf = s.conf) (keys : ∀ i, s'.rowKeys i = s.rowKeys i) :
    s'.load = s.load := by
  funext P
  simp only [load, conf, keys]

lemma onName_congr (loads : s'.load = s.load) : s'.onName = s.onName := by
  funext h name
  simp only [onName, loads]

/-- The hosts of a daemon whose jobs account for what they did. -/
lemma QueueInv.kept (inv : QueueInv s) (slots : SlotInv s') (loads : s'.load = s.load)
    (hosts : s'.hosts = s.hosts) : QueueInv s' where
  toSlotInv := slots
  named h host here := inv.named h host (hosts ▸ here)
  rows h host here row mem := by
    rw [onName_congr loads]
    exact inv.rows h host (hosts ▸ here) row mem
  total h host here := by
    rw [loads]
    exact inv.total h host (hosts ▸ here)

lemma Calm.rowKeys (calm : Calm s s') (i : JobId) : s'.rowKeys i = s.rowKeys i := by
  unfold Gwd.rowKeys
  cases here : s.jobs i with
  | none => rw [calm.jobs, here]
  | some job => rw [calm.jobs, here, calm.moves i (by rw [here]; rfl)]

/-- New jobs account for nothing. -/
lemma Grown.rowKeys {js : List JobId} (grown : Grown js s s') (pool : Pool s) (i : JobId) :
    s'.rowKeys i = s.rowKeys i := by
  have moves : s'.moves i = s.moves i := by simp only [Gwd.moves, grown.dmQueue]
  by_cases mem : i ∈ js
  · obtain ⟨job, here, new⟩ := grown.new i mem
    have places : job.places = [] := by rw [Job.places, new.history, List.map_nil]
    have absent : s.rowKeys i = [] := by
      simp only [Gwd.rowKeys, pool.fresh i (grown.fresh i mem).1]
    rw [rowKeys_eq here (Eq.refl _), absent, Job.rowKeys, Job.activePlaces, executing, places]
    simp
  · simp only [Gwd.rowKeys, grown.old i mem, moves]

/-- Jobs account for hosts of the pool only. -/
lemma QueueInv.host_of_key (inv : QueueInv s) {k : RowKey} (mem : k ∈ s.rowKeys i) :
    (s.hosts k.2.1).isSome := by
  unfold rowKeys at mem
  cases here : s.jobs i with
  | none => simp [here] at mem
  | some job =>
    have place (ps : List Placement) (sub : ∀ p ∈ ps, p ∈ job.places) (c : Counter)
        (mem : k ∈ ps.map (·.row c)) : (s.hosts k.2.1).isSome := by
      obtain ⟨p, inside, rfl⟩ := List.mem_map.1 mem
      exact inv.placed i job here p (sub p inside)
    simp only [here, Job.rowKeys] at mem
    rcases List.mem_append.1 mem with mem | mem
    · exact place _ (fun p => List.mem_of_mem_take) _ mem
    · refine place _ (fun p mem => ?_) _ mem
      unfold Job.activePlaces executing at mem
      split at mem
      · split at mem
        · exact List.mem_of_mem_drop (List.mem_of_mem_take mem)
        · exact List.mem_of_mem_take mem
      · cases mem

/-- A host that is not in the pool has no jobs. -/
lemma QueueInv.load_absent (inv : QueueInv s) {h : HostId} (absent : s.hosts h = none)
    (about : ∀ k, P k → k.2.1 = h) : s.load P = 0 := by
  refine Finset.sum_eq_zero fun i _ => ?_
  rw [Int.natCast_eq_zero, List.countP_eq_zero]
  intro k mem counted
  have there := inv.host_of_key mem
  rw [about k counted, absent] at there
  cases there

/-- A host is entered with counters that belong to its jobs. -/
lemma QueueInv.put (inv : QueueInv s) {hid : HostId} {host : Host}
    (slots : SlotInv { s with hosts := Function.update s.hosts hid (some host) })
    (named : Named host)
    (rows : ∀ row ∈ host.queues, (row.runningJobs, row.activeJobs) = s.onName hid row.name)
    (total : host.runningJobs = s.load (runsOn hid)) :
    QueueInv { s with hosts := Function.update s.hosts hid (some host) } := by
  have after {h : HostId} {host' : Host}
      (here : Function.update s.hosts hid (some host) h = some host') :
      (h = hid ∧ host' = host) ∨ s.hosts h = some host' := by
    by_cases same : h = hid
    · subst same
      rw [Function.update_self] at here
      cases here
      exact .inl ⟨rfl, rfl⟩
    · rw [Function.update_of_ne same] at here
      exact .inr here
  refine { toSlotInv := slots, named := ?named, rows := ?rows, total := ?total }
  case named =>
    intro h host' here
    rcases after here with ⟨rfl, rfl⟩ | old
    · exact named
    · exact inv.named h host' old
  case rows =>
    intro h host' here
    rcases after here with ⟨rfl, rfl⟩ | old
    · exact rows
    · exact inv.rows h host' old
  case total =>
    intro h host' here
    rcases after here with ⟨rfl, rfl⟩ | old
    · exact total
    · exact inv.total h host' old

/-- A new host starts without jobs. -/
lemma QueueInv.host (inv : QueueInv s) {hid : HostId} {host : Host}
    (slots : SlotInv (s.hostAllocate hid host))
    (named : (s.hosts hid).isSome ∨ (host.queues.map (·.name)).Nodup) :
    QueueInv (s.hostAllocate hid host) := by
  unfold hostAllocate at slots ⊢
  cases there : s.hosts hid with
  | some _ => exact inv
  | none =>
    simp only [there] at slots ⊢
    have distinct : (host.queues.map (·.name)).Nodup := named.resolve_left (by simp [there])
    refine inv.put slots ?_ (fun row mem => ?_) ?_
    · simpa [Named, Function.comp_def] using distinct
    · obtain ⟨old, -, rfl⟩ := List.mem_map.1 mem
      have none (c : Counter) : s.load (· == (c, hid, old.name)) = 0 :=
        inv.load_absent there fun k eq => by rw [eq_of_beq eq]
      exact (Prod.ext (none .running) (none .active)).symm
    · refine (inv.load_absent there fun k runs => ?_).symm
      simpa [runsOn] using (Bool.and_eq_true_iff.1 runs).2

/-- Rows that an aligned report renames count the jobs of their new names. -/
lemma aligned_rows {h : HostId} {names : List String} {rows : List QueueRow}
    (aligned : s.aligned h names rows = true)
    (exact : ∀ row ∈ rows, (row.runningJobs, row.activeJobs) = s.onName h row.name) :
    ∀ row ∈ renameQueues names rows, (row.runningJobs, row.activeJobs) = s.onName h row.name := by
  induction names generalizing rows with
  | nil => exact exact
  | cons name names ih =>
    cases rows with
    | nil =>
      obtain ⟨first, rest⟩ := Bool.and_eq_true_iff.1 aligned
      rintro row (_ | ⟨_, mem⟩)
      · exact (eq_of_beq first).symm
      · exact ih rest exact row mem
    | cons old rows =>
      obtain ⟨first, rest⟩ := Bool.and_eq_true_iff.1 aligned
      rintro row (_ | ⟨_, mem⟩)
      · exact (exact old List.mem_cons_self).trans (eq_of_beq first).symm
      · exact ih rest (fun row mem => exact row (List.mem_cons_of_mem _ mem)) row mem

/-- A report that leaves every row to the jobs it counts keeps the account. -/
lemma QueueInv.report (inv : QueueInv s) {hid : HostId} {info : Host}
    (slots : SlotInv (s.hostUpdate hid info))
    (found : ∀ host, s.hosts hid = some host →
      ((renameQueues (info.queues.map (·.name)) host.queues).map (·.name)).Nodup ∧
        s.aligned hid (info.queues.map (·.name)) host.queues = true) :
    QueueInv (s.hostUpdate hid info) := by
  unfold hostUpdate at slots ⊢
  cases there : s.hosts hid with
  | none => exact inv
  | some old =>
    simp only [there] at slots ⊢
    obtain ⟨distinct, aligned⟩ := found old there
    exact inv.put slots distinct (aligned_rows aligned (inv.rows hid old there))
      (inv.total hid old there)

/-- Every event that keeps the counters with their jobs keeps the account. -/
lemma queueInv_step (inv : QueueInv s) (order : s.orderlyStep e = true)
    (found : s.queueStep e = true) (live : (s.step e).crashed = false) : QueueInv (s.step e) := by
  have slots := slotInv_step inv.toSlotInv order (step_alive live) live
  have happens := happens_step s e
  generalize s.step e = s' at happens slots live ⊢
  cases happens with
  | turn here takes =>
    exact inv.turn here takes.same (fun i other => takes.moves_other other) slots
      (inv.balanced here takes order found live)
  | submit same queue =>
    obtain ⟨js, grown, -⟩ := allocate_spec live
    have pool := inv.toPool.quiet (quiet_taken queue)
    refine inv.kept slots (load_congr grown.conf fun i => ?_) grown.hosts
    rw [Grown.rowKeys grown pool]
    simp only [rowKeys, moves_pop queue rfl]
  | host same =>
    subst same
    simp only [queueStep, Bool.or_eq_true, decide_eq_true_eq] at found
    exact inv.host slots found
  | report same =>
    subst same
    simp only [queueStep] at found
    refine inv.report slots fun host here => ?_
    simpa [here] using found
  | calm calm => exact inv.kept slots (load_congr calm.conf calm.rowKeys) calm.hosts

end Step

section Run

lemma queueInv_start (conf : Conf) : QueueInv (Gwd.start conf) where
  toSlotInv := slotInv_start conf
  named _ _ here := by cases here
  rows _ _ here := by cases here
  total _ _ here := by cases here

lemma load_nonneg (s : Gwd) (P : RowKey → Bool) : 0 ≤ s.load P :=
  Finset.sum_nonneg fun _ _ => Int.natCast_nonneg _

/-- A job is active on a queue of a host. -/
def activeOn (s : Gwd) (h : HostId) (queue : String) (j : JobId) : Bool :=
  (s.jobs j).any fun job => (job.activePlaces (s.moves j).head?).any fun p =>
    p.host == h && p.queue == queue

/-- The records of running jobs on queues that their host does not report. -/
def unreported (s : Gwd) (h : HostId) : Int := s.load fun k => runsOn h k && !s.reports k

/-- The counters of the queues belong to the jobs. -/
structure QueuesCounted (s : Gwd) : Prop where
  active : ∀ h host, s.hosts h = some host → ∀ row ∈ host.queues, row.activeJobs =
    ((Finset.range s.conf.numberOfJobs).filter fun j => s.activeOn h row.name j).card
  running : ∀ h host, s.hosts h = some host →
    (host.queues.map (·.runningJobs)).sum + s.unreported h = host.runningJobs
  nonneg : ∀ h host, s.hosts h = some host →
    0 ≤ host.runningJobs ∧ ∀ row ∈ host.queues, 0 ≤ row.runningJobs ∧ 0 ≤ row.activeJobs

/-- A job has at most one entry for its execution. -/
lemma countP_activeOn (s : Gwd) (h : HostId) (queue : String) (j : JobId) :
    (s.rowKeys j).countP (· == (.active, h, queue)) = if s.activeOn h queue j then 1 else 0 := by
  unfold rowKeys activeOn
  cases s.jobs j with
  | none => rfl
  | some job =>
    have running : (job.places.take (Lifecycle.running job.jobState (s.moves j).head?)).countP
        (fun p => p.row .running == (.active, h, queue)) = 0 := by
      simp [List.countP_eq_zero, Placement.row]
    have short : (job.activePlaces (s.moves j).head?).length ≤ 1 := by
      unfold Job.activePlaces executing
      split
      · split <;> exact List.length_take_le _ _
      · exact Nat.zero_le _
    rw [countP_rowKeys, running, Option.any_some]
    rcases places : job.activePlaces (s.moves j).head? with _ | ⟨p, _ | ⟨q, rest⟩⟩
    · rfl
    · simp [Placement.row, List.countP_cons]
    · simp [places] at short

lemma load_active (s : Gwd) (h : HostId) (queue : String) :
    s.load (· == (.active, h, queue)) =
      ((Finset.range s.conf.numberOfJobs).filter fun j => s.activeOn h queue j).card := by
  rw [load, Finset.card_filter, Nat.cast_sum]
  exact Finset.sum_congr rfl fun j _ => by rw [countP_activeOn]

/-- The entries of all jobs. -/
def allKeys (s : Gwd) : List RowKey := (List.range s.conf.numberOfJobs).flatMap s.rowKeys

lemma load_eq_countP (s : Gwd) (P : RowKey → Bool) : s.load P = s.allKeys.countP P := by
  unfold load allKeys
  induction s.conf.numberOfJobs with
  | zero => rfl
  | succ n ih =>
    rw [Finset.sum_range_succ, ih, List.range_succ, List.flatMap_append, List.countP_append]
    simp

/-- The running jobs of a host are those on its queues and those on queues it does not report. -/
lemma load_runsOn (s : Gwd) {h : HostId} {host : Host} (here : s.hosts h = some host)
    (named : Named host) :
    (host.queues.map fun row => s.load (· == (.running, h, row.name))).sum + s.unreported h =
      s.load (runsOn h) := by
  have split := Tally.countP_keys (fun k : RowKey => k.2.2) named (s.allKeys.filter (runsOn h))
  have rows (name : String) : (s.allKeys.filter (runsOn h)).countP (fun k => k.2.2 = name) =
      s.allKeys.countP (· == (.running, h, name)) := by
    rw [List.countP_filter]
    refine List.countP_congr fun k _ => ?_
    obtain ⟨c, h', queue⟩ := k
    simp only [runsOn, Bool.and_eq_true, decide_eq_true_eq, beq_iff_eq, Prod.mk.injEq]
    exact ⟨fun same => ⟨same.2.1, same.2.2, same.1⟩, fun same => ⟨same.2.2, same.1, same.2.1⟩⟩
  have others : (s.allKeys.filter (runsOn h)).countP (fun k => k.2.2 ∉ host.queues.map (·.name)) =
      s.allKeys.countP fun k => runsOn h k && !s.reports k := by
    rw [List.countP_filter]
    refine List.countP_congr fun k _ => ?_
    obtain ⟨c, h', queue⟩ := k
    simp only [Bool.and_eq_true, decide_eq_true_eq, runsOn, beq_iff_eq, Bool.not_eq_true']
    rw [and_comm]
    refine and_congr_right fun runs => ?_
    simp [reports, runs.2, here]
  rw [others, ← List.countP_eq_length_filter, List.map_map] at split
  simp only [Function.comp_def, rows] at split
  rw [unreported, load_eq_countP, load_eq_countP, ← split]
  simp [load_eq_countP, Nat.cast_list_sum, List.map_map, Function.comp_def]

/-- What the account says of the queues. -/
lemma QueueInv.counted (inv : QueueInv s) : QueuesCounted s where
  active h host here row mem := by
    rw [← load_active]
    exact congrArg Prod.snd (inv.rows h host here row mem)
  running h host here := by
    rw [inv.total h host here, ← load_runsOn s here (inv.named h host here)]
    congr 2
    exact List.map_congr_left fun row mem => congrArg Prod.fst (inv.rows h host here row mem)
  nonneg h host here := by
    refine ⟨inv.total h host here ▸ load_nonneg s _, fun row mem => ?_⟩
    have exact := inv.rows h host here row mem
    simp only [onName, Prod.mk.injEq] at exact
    exact ⟨exact.1 ▸ load_nonneg s _, exact.2 ▸ load_nonneg s _⟩

/-- The counters of the queues: in a run whose events come in order and keep the counters with
their jobs, every queue counts the jobs that are active on it, the running jobs of a host are those
of its queues and those on queues it does not report, and no counter is negative. -/
theorem queues_counted (conf : Conf) (evs : List Event)
    (order : Machine.Guarded step (fun s e => s.orderlyStep e = true ∧ s.queueStep e = true)
      (Gwd.start conf) evs)
    (live : (Machine.run step (Gwd.start conf) evs).crashed = false) :
    QueuesCounted (Machine.run step (Gwd.start conf) evs) := by
  have inv := Machine.run_induction (fun s => s.crashed = false → QueueInv s)
    (fun s e inv order live => queueInv_step (inv (step_alive live)) order.1 order.2 live)
    (fun _ => queueInv_start conf) order live
  exact inv.counted

/-- A host that reports one queue. -/
def oneQueue (hostname : String) : Host :=
  { hostname, emMad := "em", tmMad := "tm", imMad := "im", queues := [{ name := "default" }] }

/-- Two hosts, and a job of one task without wrapper script that runs on the first of them. -/
def activeOne : List Event :=
  [.hostAllocate 0 (oneQueue "old"), .hostAllocate 1 (oneQueue "new"),
    .submit { owner := "user", template := { executable := some "exe" } }, .dm {},
    .scheduleJob 0 0 "default" 0 {}, .dm {}, .tm {},
    .tmMsg 0 { verb := .start } {}, .tmMsg 0 { verb := .mkdir } {},
    .tmMsg 0 { verb := .cp 0 } {}, .tmMsg 0 { verb := .finish } {}, .dm {}, .dm {}, .em {},
    .emMsg 0 { verb := .callback, result := "SUCCESS", info := "ACTIVE" } {}, .em {}]

/-- The report that the execution has ended. -/
def doneOne : List Event :=
  [.emMsg 0 { verb := .callback, result := "SUCCESS", info := "DONE" } {}, .em {}]

/-- An execution that starts and ends on the host it was dispatched to. -/
theorem queues_counted_done : QueuesCounted (Machine.run step (Gwd.start ⟨4, 4, 4, 4⟩)
    (activeOne ++ doneOne ++ [.dm {}])) := by
  apply queues_counted
  · decide
  · decide

/-- A negative counter breaks the account. -/
lemma not_counted {h : HostId}
    (negative : ((s.hosts h).any fun host => host.queues.any (·.activeJobs < 0)) = true) :
    ¬ QueuesCounted s := by
  intro counted
  obtain ⟨host, here, some⟩ := (Option.any_eq_true ..).1 negative
  obtain ⟨row, mem, below⟩ := List.any_eq_true.1 some
  have above := ((counted.nonneg h host here).2 row mem).2
  exact absurd (of_decide_eq_true below) (Int.not_lt.2 above)

/-- An execution that ends after its job was dispatched to another host is taken from the queue of
that host. -/
theorem queues_miscounted : ¬ ∀ (conf : Conf) (evs : List Event),
    (Machine.run step (Gwd.start conf) evs).crashed = false →
      QueuesCounted (Machine.run step (Gwd.start conf) evs) := by
  intro counted
  refine not_counted (h := 1) ?_ (counted ⟨4, 4, 4, 4⟩ (activeOne ++
    [.request .reschedule 0, .dm {}, .scheduleJob 0 1 "default" 0 {}, .dm {}, .em {}] ++ doneOne)
    ?_)
  all_goals decide

end Run

end Gwd

end GridWay
