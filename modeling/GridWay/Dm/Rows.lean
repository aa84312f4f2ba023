import GridWay.Dm.Dispatches
import GridWay.Dm.Refine
import GridWay.Dm.Sides
import GridWay.Lib.Tally

/-!
# Queue rows

A host counts, for each of its queues, the jobs that run there and the jobs whose execution is
active. A record of a job is counted as running from its dispatch on; it is taken back when the job
comes to rest, or when a migration has left the host of the record.

* `Lifecycle.running`: the number of records that count as running, newest first.
* `Lifecycle.executing`: the record that the execution belongs to.
* `Lifecycle.effects_count`: an orderly action takes back exactly the records that it ends.
* `Dm.handle_rows`: what the handlers take back.
-/

namespace GridWay

/-- The two counters of a queue row. -/
inductive Counter where
  | running | active
deriving DecidableEq, Repr

/-- A counter of a queue of a host. -/
abbrev RowKey := Counter × HostId × String

/-- The counter of the queue that a placement names. -/
def Placement.row (c : Counter) (p : Placement) : RowKey := (c, p.host, p.queue)

/-- The change that a call makes to a queue row. -/
@[simp] def Call.row? : Call → Option (RowKey × Int)
  | .host h (.incSlots _ queue) => some ((.running, h, queue), 1)
  | .host h (.decSlots _ queue) => some ((.running, h, queue), -1)
  | .host h (.incRjobs queue) => some ((.running, h, queue), 1)
  | .host h (.decRjobs queue) => some ((.running, h, queue), -1)
  | .host h (.incAjobs queue) => some ((.active, h, queue), 1)
  | .host h (.decAjobs queue) => some ((.active, h, queue), -1)
  | _ => none

/-- The changes that a reply makes to the queue rows. -/
def rowCalls (cs : List Call) : List (RowKey × Int) := cs.filterMap Call.row?

section Calls

variable {c : Call} {cs cs' : List Call}

@[simp] lemma rowCalls_nil : rowCalls [] = [] := rfl
@[simp] lemma rowCalls_append : rowCalls (cs ++ cs') = rowCalls cs ++ rowCalls cs' :=
  List.filterMap_append
@[simp] lemma rowCalls_cons : rowCalls (c :: cs) = c.row?.toList ++ rowCalls cs := by
  cases h : c.row? <;> simp only [rowCalls, List.filterMap_cons, h] <;> rfl

end Calls

namespace Lifecycle

/-- The states on the way of a migration. -/
def migrating (st : JobState) : Bool := st == .migrCancel || st == .migrProlog || st == .migrEpilog

/-- The number of records of a job that count as running, with a transition waiting. -/
def running (st : JobState) (m : Option DmAction) : Nat :=
  match m with
  | some .migrCancel => 2
  | some .migrProlog => 2
  | some .migrEpilog => 2
  | some _ => 1
  | none => if resting st then 0 else if migrating st then 2 else 1

/-- The records that an action takes back in a state. -/
def runPays (a : DmAction) (st : JobState) : Payment :=
  match a with
  | .prologFailed => if st = .migrProlog then .prev else .none
  | .epilogDone => if st = .migrEpilog then .prev else .none
  | .epilogFailed => if st = .migrEpilog then .prev else .none
  | .killHard => if migrating st then .both else if resting st then .none else .head
  | .zombie => if st = .epilog ∨ st = .killEpilog then .head else .none
  | .pending | .failed | .stopped => .head
  | _ => .none

/-- The placements that a payment is about. -/
def Payment.places : Payment → List Placement → List Placement
  | .none, _ => []
  | .head, ps => ps.take 1
  | .prev, ps => (ps.drop 1).take 1
  | .both, ps => (ps.drop 1).take 1 ++ ps.take 1

/-- The placement that the execution of a job belongs to: while a migration waits or cancels the old
execution, the one before the newest. -/
def executing (st : JobState) (m : Option DmAction) (ps : List Placement) : List Placement :=
  if holding st m = 2 then (ps.drop 1).take 1 else ps.take 1

/-- The action ends no execution behind the back of the Execution Manager: it keeps the job and the
state of the execution, or it is a hard kill that takes the active job back itself. -/
def spares (a : DmAction) (st : JobState) : Bool :=
  !Dm.resetsEm a st &&
    match a with
    | .kill => !resting st
    | .killHard => st == .preWrapper || st == .wrapper
    | .zombie => st != .killEpilog
    | _ => true

lemma spares_migrating : ∀ st, migrating st → spares .killHard st = false := by decide

lemma spares_executing : ∀ st, spares .killHard st → st = .preWrapper ∨ st = .wrapper := by decide

/-- An effect settles the account of the rows. -/
def RowsSettle (a : DmAction) (st : JobState) (m : Option DmAction) (eff : Effect) : Prop :=
  running st m = (if eff.frees then 0 else running eff.next (waiting a m eff.queued).head?) +
    (runPays a st).count ∧
  (runPays a st = .head → running st m = 1) ∧ (runPays a st = .prev → running st m = 2) ∧
  (runPays a st = .both → running st m = 2) ∧
  (spares a st → eff.frees = false →
    (holding eff.next (waiting a m eff.queued).head? = 2 ↔ holding st m = 2)) ∧
  (spares a st → eff.frees → a = .killHard) ∧
  (!spares a st → a ≠ .killHard → eff.frees = false → Dm.resetsEm a st) ∧
  (a = .killHard → eff.frees)

instance {a st m eff} : Decidable (RowsSettle a st m eff) := inferInstanceAs (Decidable (_ ∧ _))

/-- A hard kill takes back what runs. -/
def killsAll (a : DmAction) (st : JobState) (m : Option DmAction) : Bool :=
  a != .killHard || running st m == (runPays .killHard st).count

lemma transition_count : ∀ a : DmAction, a.isTransition → ∀ st ∈ leaves a, ∀ done,
    orderly a st done (some a) → ∀ eff ∈ effects a st done, RowsSettle a st (some a) eff := by
  decide

lemma request_count : ∀ a : DmAction, ¬a.isTransition → ∀ st done,
    orderly a st done none → killsAll a st none →
      ∀ eff ∈ effects a st done, RowsSettle a st none eff := by
  decide

lemma request_count_waiting : ∀ a : DmAction, ¬a.isTransition → ∀ b, ∀ st ∈ leaves b, ∀ done,
    orderly a st done (some b) → killsAll a st (some b) →
      ∀ eff ∈ effects a st done, RowsSettle a st (some b) eff := by
  decide

/-- An orderly action takes back exactly the records that it ends. -/
theorem effects_count (a : DmAction) (st : JobState) (done : Bool) (m : Option DmAction)
    (fit : fits st m) (taken : a.isTransition → m = some a) (order : orderly a st done m)
    (all : killsAll a st m) : ∀ eff ∈ effects a st done, RowsSettle a st m eff := by
  by_cases move : a.isTransition
  · obtain rfl := taken move
    exact transition_count a move st (of_decide_eq_true fit) done order
  · cases m with
    | none => exact request_count a move st done order all
    | some b => exact request_count_waiting a move b st (of_decide_eq_true fit) done order all

/-- The changes that take back the records of a payment. -/
def Payment.rows (job : Job) (pays : Payment) : List (RowKey × Int) :=
  (pays.places job.places).map fun p => (p.row .running, -1)

section Payment

variable (job : Job)

@[simp] lemma Payment.rows_none : Payment.none.rows job = [] := rfl

@[simp] lemma Payment.rows_head :
    Payment.head.rows job = (job.places.take 1).map fun p => (p.row .running, -1) := rfl

@[simp] lemma Payment.rows_prev :
    Payment.prev.rows job = ((job.places.drop 1).take 1).map fun p => (p.row .running, -1) := rfl

/-- What a payment takes back of the newest records. -/
lemma Payment.countP_places {P : Placement → Bool} {pays : Payment} {n m : Nat}
    (ps : List Placement) (count : n = m + pays.count) (head : pays = .head → n = 1)
    (prev : pays = .prev → n = 2) (both : pays = .both → n = 2) :
    (ps.take n).countP P = (ps.take m).countP P + (pays.places ps).countP P := by
  have two : ps.take 2 = ps.take 1 ++ (ps.drop 1).take 1 := List.take_add (i := 1) (j := 1)
  cases pays with
  | none =>
    simpa [Payment.count, Payment.places] using congrArg (fun k => (ps.take k).countP P) count
  | head =>
    obtain rfl := head rfl
    have zero : m = 0 := by simpa [Payment.count] using count
    simp [Payment.places, zero]
  | prev =>
    obtain rfl := prev rfl
    have one : m = 1 := by simpa [Payment.count] using count
    rw [one, two, List.countP_append]
    rfl
  | both =>
    obtain rfl := both rfl
    have zero : m = 0 := by simpa [Payment.count] using count
    rw [zero, two, List.countP_append]
    simp [Payment.places, Nat.add_comm]

end Payment

end Lifecycle

namespace Dm

open Lifecycle

variable {w : World} {job job' : Job}

@[simp] lemma cancelReschedule_rows : rowCalls (cancelReschedule job).calls = [] := by
  unfold cancelReschedule
  split <;> simp

@[simp] lemma cancelExecution_rows {st reason} :
    rowCalls (cancelExecution st reason job).calls = [] := by
  simp [cancelExecution]

@[simp] lemma dispose_rows : rowCalls (dispose job) = [] := by simp [dispose]

lemma hold_rows : rowCalls (hold w job).calls = [] := by
  unfold hold
  split <;> simp

lemma release_rows : rowCalls (release w job).calls = [] := by
  unfold release
  split <;> simp [askSchedule]

lemma stop_rows : rowCalls (stop w job).calls = [] := by
  unfold stop
  split <;> simp

lemma resume_rows : rowCalls (resume w job).calls = [] := by
  unfold resume
  split <;> simp [askSchedule]

lemma kill_rows : rowCalls (kill w job).calls = [] := by
  unfold kill
  split <;> simp

lemma wait_rows : rowCalls (wait w job).calls = [] := by
  unfold wait
  dsimp only
  split <;> simp

lemma reschedule_rows : rowCalls (reschedule w job).calls = [] := by
  unfold reschedule
  split
  · dsimp only
    split <;> simp [askSchedule]
  · dsimp only
    split <;> simp [askSchedule]
  · simp

lemma stageIn_rows : rowCalls (stageIn w job).calls = [] := by
  unfold stageIn
  split
  · split <;> simp
  · simp

lemma enterProlog_rows {st} : rowCalls (enterProlog w st job).calls = [] := by
  unfold enterProlog
  dsimp only
  split
  · simp
  · simp [stageIn_rows]

lemma prolog_rows : rowCalls (prolog w job).calls = [] := by
  unfold prolog
  split
  · exact stageIn_rows
  · exact enterProlog_rows

lemma prologDoneCb_rows : rowCalls (prologDoneCb w job).calls = [] := by
  unfold prologDoneCb
  split
  · simp
  · dsimp only
    split
    · split <;> simp
    · simp
    · simp

lemma execute_rows {st f} : rowCalls (execute st f job).calls = [] := by
  unfold execute
  split <;> simp

@[simp] lemma wrapperFailedStats_rows {head : HistoryRecord} {past : List HistoryRecord} :
    rowCalls (wrapperFailedStats w job head past).calls = [] := by
  unfold wrapperFailedStats
  split <;> simp

/-- The callbacks of the Execution Manager pay slots only. -/
lemma wrapperFailedCb_rows : rowCalls (wrapperFailedCb w job).calls = [] := by
  unfold wrapperFailedCb
  dsimp only
  split
  · split <;> simp
  · simp

lemma wrapperDoneCb_rows : rowCalls (wrapperDoneCb w job).calls = [] := by
  unfold wrapperDoneCb
  dsimp only
  split
  case h_6 => simp
  all_goals split <;> simp

lemma migrCancel_rows : rowCalls (migrCancel w job).calls = [] := by
  unfold migrCancel
  split
  · split <;> simp
  · simp

lemma stageOut_rows {files} : rowCalls (stageOut files w job).calls = [] := by
  unfold stageOut
  split <;> simp

lemma enterEpilog_rows {st stamp files} :
    rowCalls (enterEpilog st stamp files w job).calls = [] := by
  unfold enterEpilog
  split
  · exact stageOut_rows
  · dsimp only
    split
    · simp
    · simp [stageOut_rows]

lemma epilog_rows : rowCalls (epilog w job).calls = [] := by
  unfold epilog
  split
  · exact enterEpilog_rows
  · split
    · exact stageOut_rows
    · split
      · simp
      · exact enterEpilog_rows

lemma prologFailedCb_rows :
    rowCalls (prologFailedCb w job).calls = (runPays .prologFailed job.jobState).rows job := by
  cases hist : job.history with
  | nil =>
    by_cases st : job.jobState = .migrProlog <;>
      simp [prologFailedCb, runPays, hist, st, Job.places]
  | cons head past =>
    by_cases st : job.jobState = .migrProlog
    · cases past <;> simp [prologFailedCb, runPays, hist, st, Job.places, Placement.row]
    · simp [prologFailedCb, runPays, hist, st]

lemma restartExit_rows : rowCalls (restartExit job).calls = [] := by
  unfold restartExit
  split
  · simp
  · split <;> simp

/-- The two callbacks that leave `MIGR_EPILOG` take back the record of the old host. -/
lemma migrated_rows : rowCalls (migrated job).calls = Payment.prev.rows job := by
  rcases hist : job.history with _ | ⟨head, _ | ⟨prev, older⟩⟩ <;>
    simp [migrated, hist, Job.places, Placement.row]

lemma epilogDoneExit_rows :
    rowCalls (epilogDoneExit w job).calls = (runPays .epilogDone job.jobState).rows job := by
  unfold epilogDoneExit
  cases st : job.jobState <;> simp only [runPays]
  case migrEpilog => exact migrated_rows
  case epilogRestart => exact restartExit_rows
  case epilogStd => split <;> simp
  all_goals simp

lemma epilogFailedExit_rows :
    rowCalls (epilogFailedExit job).calls = (runPays .epilogFailed job.jobState).rows job := by
  unfold epilogFailedExit
  cases st : job.jobState <;> simp only [runPays]
  case migrEpilog => exact migrated_rows
  case epilogRestart => exact restartExit_rows
  case epilog | epilogFail | epilogStd => split <;> simp
  all_goals simp

/-- The two epilog callbacks: the times move nothing, the transition pays. -/
lemma epilogCb_rows {a : DmAction} {exit : Job → Reply} {r : Reply}
    (def_r : r = if isEpilog job.jobState then
      match epilogTimes w job with
      | none => .crash job
      | some job => exit job
      else ⟨job, []⟩)
    (idle : ¬isEpilog job.jobState → runPays a job.jobState = .none)
    (exits : ∀ job, rowCalls (exit job).calls = (runPays a job.jobState).rows job)
    (live : .fault ∉ r.calls) : rowCalls r.calls = (runPays a job.jobState).rows job := by
  by_cases inside : isEpilog job.jobState
  · rw [if_pos inside] at def_r
    cases times : epilogTimes w job with
    | none => simp [def_r, times] at live
    | some job' =>
      obtain ⟨state, -, places, -⟩ := epilogTimes_stamps _ _ times
      rw [times] at def_r
      rw [def_r, exits, state, Payment.rows, Payment.rows, places]
  · rw [if_neg inside] at def_r
    rw [def_r, idle inside]
    rfl

lemma closeDispatch_rows (job : Job) {next : HistoryRecord → List Call}
    (calm : ∀ head, rowCalls (next head) = []) :
    rowCalls (closeDispatch job next) = Payment.head.rows job := by
  unfold closeDispatch
  cases hist : job.history <;> simp [calm, Job.places, hist, Placement.row]

@[simp] lemma reportFailure_rows {head : HistoryRecord} :
    rowCalls (reportFailure job head) = [] := by
  unfold reportFailure
  split <;> simp

lemma zombie_rows (live : .fault ∉ (zombie w job).calls) :
    rowCalls (zombie w job).calls = (runPays .zombie job.jobState).rows job := by
  cases st : job.jobState
  case epilog =>
    cases hist : job.history with
    | nil => simp [zombie, st, hist] at live
    | cons head past =>
      by_cases waiting : job.clientWaiting > 0
      · simp [zombie, runPays, st, hist, waiting, Job.places, Placement.row]
      · cases dispose : w.dispose <;>
          simp [zombie, runPays, st, hist, waiting, dispose, Job.places, Placement.row]
  case killEpilog =>
    simp only [zombie, runPays, st, rowCalls_cons, Call.row?]
    exact closeDispatch_rows _ fun _ => dispose_rows
  all_goals simp [zombie, runPays, st]

/-- Every handler but the hard kill takes back exactly what the table says, at the row of its own
record. -/
theorem handle_rows {a : DmAction} (soft : a ≠ .killHard) (live : .fault ∉ (handle a w job).calls) :
    rowCalls (handle a w job).calls = (runPays a job.jobState).rows job := by
  cases a
  case killHard => exact absurd rfl soft
  case hold => exact hold_rows (w := w)
  case release => exact release_rows (w := w)
  case stop => exact stop_rows (w := w)
  case resume => exact resume_rows (w := w)
  case kill => exact kill_rows (w := w)
  case wait => exact wait_rows (w := w)
  case reschedule => exact reschedule_rows (w := w)
  case prologDone => exact prologDoneCb_rows
  case prologFailed => exact prologFailedCb_rows
  case epilogDone =>
    refine epilogCb_rows rfl (fun idle => ?_) (fun _ => epilogDoneExit_rows (w := w)) live
    exact if_neg fun (st : job.jobState = .migrEpilog) => idle (by rw [st]; rfl)
  case epilogFailed =>
    refine epilogCb_rows rfl (fun idle => ?_) (fun _ => epilogFailedExit_rows) live
    exact if_neg fun (st : job.jobState = .migrEpilog) => idle (by rw [st]; rfl)
  case wrapperDone => exact wrapperDoneCb_rows
  case wrapperFailed => exact wrapperFailedCb_rows
  case prolog => exact prolog_rows
  case migrProlog => exact enterProlog_rows
  case preWrapper => exact execute_rows
  case wrapper => exact execute_rows
  case epilog => exact epilog_rows
  case epilogStd => exact enterEpilog_rows
  case migrEpilog => exact enterEpilog_rows
  case stopEpilog => exact enterEpilog_rows
  case killEpilog => exact enterEpilog_rows
  case epilogFail => exact enterEpilog_rows
  case epilogRestart => exact enterEpilog_rows
  case migrCancel => exact migrCancel_rows
  case pending =>
    exact closeDispatch_rows job fun head => by simp
  case zombie => exact zombie_rows live
  case failed =>
    have waits : rowCalls (if job.clientWaiting > 0 then [Call.rm .waitSuccess] else []) = [] := by
      split <;> simp
    have closes : rowCalls (closeDispatch job (reportFailure job)) = Payment.head.rows job :=
      closeDispatch_rows job fun head => reportFailure_rows
    calc rowCalls (failed w job).calls
        = rowCalls (closeDispatch job (reportFailure job)) := by simp [failed, waits]
      _ = Payment.head.rows job := closes
  case stopped => exact closeDispatch_rows job fun _ => rfl

/-- The state of the execution after a handler that keeps the job. -/
lemma handle_emState {a : DmAction} (soft : a ≠ .killHard)
    (live : .fault ∉ (handle a w job).calls) :
    (handle a w job).job.emState = if resetsEm a job.jobState then .init else job.emState := by
  obtain ⟨xfrs, side, -⟩ := handle_side soft live
  exact congrArg Side.emState side

/-- A hard kill during a migration takes back the record of the old host, but under the queue of
the new one. -/
lemma killHard_rows_migrating (migr : migrating job.jobState)
    (live : .fault ∉ (killHard w job).calls) :
    ∃ head prev older, job.places = head :: prev :: older ∧
      rowCalls (killHard w job).calls =
        [((.running, prev.host, head.queue), -1), (head.row .running, -1)] := by
  rcases hist : job.history with _ | ⟨head, _ | ⟨prev, older⟩⟩
  case cons.cons =>
    refine ⟨head.toPlacement, prev.toPlacement, older.map HistoryRecord.toPlacement,
      by simp [Job.places, hist], ?_⟩
    cases st : job.jobState <;> simp only [st] at migr <;> try cases migr
    all_goals simp [killHard, killTransfer, st, hist, Placement.row]
  all_goals
    cases st : job.jobState <;> simp only [st] at migr <;> try cases migr
    all_goals simp [killHard, st, hist] at live

/-- A hard kill of an execution takes back the active job too. -/
lemma killHard_rows_executing (st : job.jobState = .preWrapper ∨ job.jobState = .wrapper)
    (live : .fault ∉ (killHard w job).calls) :
    rowCalls (killHard w job).calls = Payment.head.rows job ++
      (if job.emState = .active then job.places.take 1 else []).map
        fun p => (p.row .active, -1) := by
  cases hist : job.history with
  | nil => rcases st with st | st <;> simp [killHard, st, hist] at live
  | cons head past =>
    by_cases em : job.emState = .active <;>
      rcases st with st | st <;> simp [killHard, st, hist, em, Job.places, Placement.row]

/-- Any other hard kill takes back what the table says. -/
lemma killHard_rows (calm : spares .killHard job.jobState = false)
    (still : migrating job.jobState = false) (live : .fault ∉ (killHard w job).calls) :
    rowCalls (killHard w job).calls = (runPays .killHard job.jobState).rows job := by
  cases st : job.jobState <;> simp only [st] at calm still
  case preWrapper | wrapper => cases calm
  case migrCancel | migrProlog | migrEpilog => cases still
  case init | pending | hold | stopped | failed | zombie =>
    simp [killHard, runPays, migrating, resting, st]
  all_goals
    cases hist : job.history with
    | nil => simp [killHard, st, hist] at live
    | cons head past =>
      simp [killHard, killTransfer, runPays, migrating, resting, st, hist, Job.places,
        Placement.row]

end Dm

end GridWay
