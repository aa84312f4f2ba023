import GridWay.Dm.Frame
import GridWay.Dm.Refine
import GridWay.Em.Listener
import GridWay.Tm.Frame

/-!
# Handlers outside the lifecycle

The Execution Manager, the Transfer Manager and the rescheduling checks never move a job to another
state: they touch the execution and the transfers and report to the Dispatch Manager by callbacks.

* `Em.handle_neutral`, `Em.timer_neutral`, `Em.listener_neutral`.
* `Tm.handle_neutral`, `Tm.timer_neutral`, `Tm.listener_neutral`.
* `Dm.uncheckJob_neutral`, `Dm.checkJob_neutral`.
-/

namespace GridWay

/-- A call without effect on the lifecycle: at the Dispatch Manager it queues only callbacks of
`cbs`. -/
@[simp] def Call.quiet (cbs : List DmAction) : Call → Bool
  | .host _ (.incAjobs _) => true
  | .host _ (.decAjobs _) => true
  | .dm a => a ∈ cbs
  | .em _ => true
  | .tm _ => true
  | .sched _ => true
  | .emMad _ _ => true
  | .tmMad _ _ => true
  | .contact _ => true
  | .fault => true
  | _ => false

/-- The callbacks of the Execution Manager. -/
abbrev emCallbacks : List DmAction := [.wrapperDone, .wrapperFailed]

/-- A reply that leaves the lifecycle of its job alone. -/
structure Neutral (cbs : List DmAction) (job : Job) (r : Reply) : Prop where
  core : r.job.core = job.core
  state : r.job.jobState = job.jobState
  restarted : r.job.restarted = job.restarted
  quiet : r.calls.all (Call.quiet cbs) = true

namespace Neutral

variable {cbs : List DmAction} {job : Job} {r : Reply}

lemma of_mem (h : Neutral cbs job r) {c : Call} (mem : c ∈ r.calls) : c.quiet cbs = true :=
  List.all_eq_true.1 h.quiet c mem

lemma free (h : Neutral cbs job r) : .free ∉ r.calls := fun mem => by
  simpa using h.of_mem mem

lemma calm (h : Neutral cbs job r) (code : Int) : .depCheck code ∉ r.calls := fun mem => by
  simpa using h.of_mem mem

lemma slots (h : Neutral cbs job r) : slotCalls r.calls = [] := by
  refine List.filterMap_eq_nil_iff.2 fun c mem => ?_
  have quiet := h.of_mem mem
  cases c
  case host i op => cases op <;> first | rfl | simp at quiet
  all_goals rfl

lemma running (h : Neutral cbs job r) : runningCalls r.calls = [] := by
  refine List.filterMap_eq_nil_iff.2 fun c mem => ?_
  have quiet := h.of_mem mem
  cases c <;> first | rfl | simp at quiet

lemma mem_dmCalls (h : Neutral cbs job r) {a : DmAction} (mem : a ∈ dmCalls r.calls) :
    a ∈ cbs := by
  obtain ⟨c, mem, same⟩ := List.mem_filterMap.1 mem
  have quiet := h.of_mem mem
  cases c <;> simp_all

lemma weaken (h : Neutral [] job r) : Neutral cbs job r where
  core := h.core
  state := h.state
  restarted := h.restarted
  quiet := List.all_eq_true.2 fun c mem => by
    have quiet := h.of_mem mem
    cases c
    case host i op => cases op <;> simp_all
    all_goals simp_all

/-- Two neutral replies in a row. -/
lemma after {r' : Reply} (h : Neutral cbs job r) (h' : Neutral cbs r.job r') :
    Neutral cbs job (r'.after r.calls) where
  core := h'.core.trans h.core
  state := h'.state.trans h.state
  restarted := h'.restarted.trans h.restarted
  quiet := by simp [h.quiet, h'.quiet]

/-- A neutral reply for a job that differs outside the lifecycle. -/
lemma of_same {job' : Job} (h : Neutral cbs job' r) (core : job'.core = job.core)
    (state : job'.jobState = job.jobState) (restarted : job'.restarted = job.restarted) :
    Neutral cbs job r := ⟨h.core.trans core, h.state.trans state, h.restarted.trans restarted, h.quiet⟩

/-- Nothing but calls. -/
lemma of_calls {cs : List Call} (quiet : cs.all (Call.quiet cbs) = true) :
    Neutral cbs job ⟨job, cs⟩ := ⟨rfl, rfl, rfl, quiet⟩

/-- Records that keep their placements keep the job. -/
lemma of_history {job' : Job} {cs : List Call} (records : List HistoryRecord)
    (core : job'.core = { job with history := records }.core)
    (places : records.map HistoryRecord.toPlacement = job.history.map HistoryRecord.toPlacement)
    (state : job'.jobState = job.jobState) (restarted : job'.restarted = job.restarted)
    (quiet : cs.all (Call.quiet cbs) = true) : Neutral cbs job ⟨job', cs⟩ where
  core := core.trans (Dm.core_congr rfl rfl rfl rfl rfl rfl places)
  state := state
  restarted := restarted
  quiet := quiet

end Neutral

namespace Dm

variable {w : World} {job : Job}

lemma uncheckJob_neutral : Neutral [] job (uncheckJob w job) := by
  unfold uncheckJob
  split
  · exact .of_calls rfl
  · rename_i head past hist
    split
    · exact .of_history ({ head with reason := .none } :: past) rfl (by simp [hist])
        rfl rfl rfl
    · exact .of_calls rfl

lemma checkJobSuspension_neutral : Neutral [] job (checkJobSuspension w job) := by
  unfold checkJobSuspension
  split
  · split
    · exact .of_calls rfl
    · rename_i head past hist
      split
      · exact .of_history ({ head with reason := .suspensionTime } :: past) rfl
          (by simp [hist]) rfl rfl rfl
      · exact .of_calls rfl
  · exact .of_calls rfl

lemma checkJobRescheduling_neutral : Neutral [] job (checkJobRescheduling w job) := by
  unfold checkJobRescheduling
  split
  · split
    · exact ⟨rfl, rfl, rfl, rfl⟩
    · split
      · split
        · split
          · exact ⟨rfl, rfl, rfl, rfl⟩
          · exact ⟨rfl, rfl, rfl, rfl⟩
        · rename_i head past hist
          split
          · exact .of_history ({ head with reason := .reschedulingTimeout } :: past) rfl
              (by simp [hist]) rfl rfl rfl
          · exact ⟨rfl, rfl, rfl, rfl⟩
      · exact .of_calls rfl
  · exact .of_calls rfl

lemma checkJob_neutral : Neutral [] job (checkJob w job) := by
  unfold checkJob
  split
  · exact checkJobSuspension_neutral.after checkJobRescheduling_neutral
  · exact .of_calls rfl

/-- A dispatch of the job is made: the drivers are loaded and the state asks for it. -/
def dispatches (w : World) (job : Job) : Bool :=
  w.tmMadLoaded && w.emMadLoaded &&
    (job.jobState == .pending || (job.jobState == .wrapper && !nowActive job))

/-- The job with the record of a new dispatch. -/
def linked (w : World) (hid : HostId) (host : Host) (rank : Int) (queue : String) (job : Job) : Job :=
  { job with history := newRecord w hid host rank queue job :: job.history }

/-- What a dispatch does: nothing to the lifecycle, a record that is linked although the history
file cannot be written, a dispatch of a pending job, or the first half of a migration. -/
lemma dispatchJob_cases (hid : HostId) (host : Host) (rank : Int) (queue : String) (w : World)
    (job : Job) :
    (Neutral [] job (dispatchJob hid host rank queue w job) ∧
      (dispatchJob hid host rank queue w job).job.places = job.places) ∨
    dispatches w job = true ∧
      ((w.historyFile = false ∧
          dispatchJob hid host rank queue w job = ⟨linked w hid host rank queue job, []⟩) ∨
        (w.historyFile = true ∧ job.jobState = .pending ∧
          dispatchJob hid host rank queue w job = ⟨linked w hid host rank queue job,
            [.historyLine (historyLine host rank queue),
              .host hid (.incSlots job.template.np queue), .incRunning job.userId 1,
              .dm .prolog]⟩) ∨
        (w.historyFile = true ∧ job.jobState = .wrapper ∧
          dispatchJob hid host rank queue w job =
            ⟨{ linked w hid host rank queue job with
                restarted := job.restarted + 1, reschedule := false },
              [.historyLine (historyLine host rank queue),
                .host hid (.incSlots job.template.np queue), .dm .migrCancel]⟩)) := by
  have nothing : Neutral [] job ⟨job, []⟩ := .of_calls rfl
  unfold dispatchJob
  cases st : job.jobState
  case pending =>
    by_cases loaded : w.tmMadLoaded = true ∧ w.emMadLoaded = true
    · right
      refine ⟨by simp [dispatches, loaded, st], ?_⟩
      cases file : w.historyFile <;> simp [historyAdd, loaded, file, linked]
    · left
      simpa [historyAdd, loaded] using nothing
  case wrapper =>
    by_cases active : nowActive job
    · left
      simp only [active, if_true]
      exact ⟨uncheckJob_neutral, congrArg Job.Core.places uncheckJob_neutral.core⟩
    · by_cases loaded : w.tmMadLoaded = true ∧ w.emMadLoaded = true
      · right
        refine ⟨by simp [dispatches, loaded, st, active], ?_⟩
        cases file : w.historyFile <;> simp [historyAdd, loaded, file, linked, active]
      · left
        simpa [historyAdd, loaded, active] using nothing
  all_goals
    left
    exact ⟨nothing, rfl⟩

end Dm

namespace Em

variable {w : World} {job : Job}

@[simp] lemma retryCancel_quiet : (retryCancel job).all (Call.quiet emCallbacks) = true := by
  unfold retryCancel
  split <;> rfl

@[simp] lemma leaveActive_quiet {head : HistoryRecord} :
    (leaveActive job head).all (Call.quiet emCallbacks) = true := by
  unfold leaveActive
  split <;> rfl

lemma submit_neutral : Neutral emCallbacks job (submit w job) := by
  unfold submit
  split
  · exact .of_calls rfl
  · rename_i head past hist
    dsimp only
    split
    · exact .of_history
        ({ head.stamp fun s =>
          { s with lastSuspensionTime := w.now, suspensionTime := 0, activeTime := 0 } with
          counter := -1, tries := head.tries + 1 } :: past) rfl (by simp [hist]) rfl rfl rfl
    · exact .of_history ({ head with counter := -1 } :: past) rfl (by simp [hist])
        rfl rfl rfl

lemma cancel_neutral : Neutral emCallbacks job (cancel w job) := by
  unfold cancel
  split
  · exact .of_calls rfl
  · rename_i head past hist
    split
    · exact .of_calls rfl
    · dsimp only
      repeat' split
      all_goals
        exact .of_history
          ({ head with cancelTries := head.cancelTries + 1 } :: past) rfl (by simp [hist])
          rfl rfl rfl

lemma timer_neutral : Neutral emCallbacks job (timer w job) := by
  unfold timer
  split
  · exact .of_calls rfl
  · rename_i head past hist
    repeat' split
    all_goals first
      | exact .of_calls rfl
      | exact ⟨rfl, rfl, rfl, rfl⟩
      | exact .of_history ({ head with counter := -1 } :: past) rfl (by simp [hist])
          rfl rfl rfl

lemma pending_neutral : Neutral emCallbacks job (pending w job) := by
  unfold pending
  split
  · split
    · exact .of_calls (by simp)
    · exact ⟨rfl, rfl, rfl, by simp⟩
  · exact ⟨rfl, rfl, rfl, by simp⟩

lemma active_neutral : Neutral emCallbacks job (active w job) := by
  unfold active
  split
  · exact .of_calls (by simp)
  · split
    · exact .of_calls (by simp)
    · rename_i head past hist
      exact .of_history ((head.stamp _) :: past) rfl (by simp [hist]) rfl rfl (by simp)

lemma suspended_neutral : Neutral emCallbacks job (suspended w job) := by
  unfold suspended
  split
  · exact .of_calls (by simp)
  · split
    · exact ⟨rfl, rfl, rfl, by simp⟩
    · split
      · exact .of_calls (by simp)
      · rename_i head past hist
        exact .of_history ((head.stamp _) :: past) rfl (by simp [hist]) rfl rfl (by simp)

lemma done_neutral : Neutral emCallbacks job (done w job) := by
  unfold done
  split
  · exact .of_calls rfl
  · split
    · exact .of_calls rfl
    · rename_i head past hist
      split
      · split
        · exact .of_calls (by simp)
        · rename_i prev older
          exact .of_history (head :: prev.stamp _ :: older) rfl (by simp [hist]) rfl rfl
            (by simp)
      · exact .of_history (head.stamp _ :: past) rfl (by simp [hist]) rfl rfl (by simp)

lemma failed_neutral : Neutral emCallbacks job (failed w job) := by
  unfold failed
  split
  · exact .of_calls rfl
  · rename_i head past hist
    dsimp only
    split
    · exact .of_history ({ head.stamp _ with counter := -1 } :: past) rfl
        (by simp [hist]) rfl rfl (by simp)
    · exact .of_history ({ head.stamp _ with counter := head.tries } :: past) rfl
        (by simp [hist]) rfl rfl (by simp)

/-- The Execution Manager only reports the end of an execution. -/
theorem handle_neutral (a : EmAction) (w : World) (job : Job) :
    Neutral emCallbacks job (handle a w job) := by
  cases a
  case submit => exact submit_neutral
  case cancel => exact cancel_neutral (w := w)
  case pending => exact pending_neutral (w := w)
  case active => exact active_neutral
  case suspended => exact suspended_neutral
  case done => exact done_neutral
  case failed => exact failed_neutral (w := w)

lemma report_neutral {info : String} {onFailed : Job → Reply}
    (failed : Neutral emCallbacks job (onFailed job)) :
    Neutral emCallbacks job (report info onFailed job) := by
  unfold report
  repeat' split
  all_goals first
    | exact failed
    | exact ⟨rfl, rfl, rfl, rfl⟩

lemma pollFailed_neutral : Neutral emCallbacks job (pollFailed w job) := by
  unfold pollFailed
  split
  · exact .of_calls rfl
  · rename_i head past hist
    dsimp only
    split <;> exact .of_history ({ head with failedPolls := _ } :: past) rfl
      (by simp [hist]) rfl rfl rfl

lemma recoverFailed_neutral : Neutral emCallbacks job (recoverFailed job) := by
  unfold recoverFailed
  split
  · exact .of_calls rfl
  · rename_i head past hist
    exact .of_history ({ head with tries := _ } :: past) rfl (by simp [hist]) rfl rfl rfl

/-- A message of an execution driver only queues actions of the Execution Manager. -/
theorem listener_neutral (msg : Msg) (w : World) (job : Job) :
    Neutral emCallbacks job (listener msg w job) := by
  unfold listener
  split
  · exact .of_calls rfl
  · split
    · exact .of_calls rfl
    · unfold receive
      split
      · split <;> exact .of_calls rfl
      · exact .of_calls rfl
      · split
        · exact (report_neutral (.of_calls rfl)).of_same rfl rfl rfl
        · exact pollFailed_neutral
      · split
        · exact report_neutral recoverFailed_neutral
        · exact .of_calls rfl
      · repeat' split
        · exact report_neutral (.of_calls rfl)
        · exact .of_calls rfl
        · exact .of_calls rfl

end Em

namespace Tm

variable {w : World} {job : Job}

lemma Own.neutral {r : Reply} (h : Own job r) : Neutral tmCallbacks job r where
  core := h.core
  state := h.jobState
  restarted := h.restarted
  quiet := List.all_eq_true.2 fun c mem => by
    have transfer := h.of_mem mem
    cases c <;> simp_all

/-- The Transfer Manager only reports the end of a transfer. -/
theorem handle_neutral (a : TmAction) (w : World) (job : Job) :
    Neutral tmCallbacks job (handle a w job) := (handle_own a w job).neutral

/-- The timer of the Transfer Manager only sends requests to the drivers. -/
theorem timer_neutral (w : World) (job : Job) : Neutral tmCallbacks job (timer w job) :=
  (timer_own w job).neutral

/-- A message of a transfer driver leaves the lifecycle to the callbacks. -/
theorem listener_neutral (msg : Msg) (w : World) (job : Job) :
    Neutral tmCallbacks job (listener msg w job) := (listener_own msg w job).neutral

end Tm

end GridWay
