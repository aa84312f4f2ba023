import GridWay.Gwd.Reach

/-!
# Cancelled executions

A kill, a stop or a migration cancels the execution of a job. Three places decide about a
submission, at three times: a report that a submission failed arms a retry, the timer queues the
submission when the time of the retry has come, and the queued submission is sent.

* `Gwd.disarmedStep`: the events that leave no submission to a cancelled execution.
* `Gwd.Disarmed`: no submission waits and no retry is armed.
* `Gwd.no_submission`: the submissions of a run.
-/

namespace GridWay

open Lifecycle

/-- A retry of a failed submission waits for its time. -/
def Job.armed (job : Job) : Bool :=
  job.emState == .failed && job.history.head?.any fun r => r.counter != -1

/-- A submission that fails is tried again. -/
def Job.retries (job : Job) : Bool :=
  job.history.head?.any fun r => r.tries < job.template.numberOfRetries

/-- The retry of a job is kept in its side. -/
lemma Job.armed_side (job : Job) : job.armed =
    (job.side.emState == .failed && job.side.records.head?.any fun r => r.counter != -1) := by
  cases hist : job.history <;> simp [Job.armed, Job.side, hist, HistoryRecord.bare]

lemma Job.armed_congr {job job' : Job} (same : job'.side = job.side) : job'.armed = job.armed := by
  rw [Job.armed_side, Job.armed_side, same]

/-- A submission. -/
def EmReq.isSubmit : EmReq → Bool
  | .submit _ _ => true
  | _ => false

/-- A reply that neither submits nor queues a submission; it arms a retry only when it is told to
try `again`. -/
structure NoSubmit (again : Bool) (job : Job) (r : Reply) : Prop where
  armed : again = false → r.job.armed → job.armed
  queued : .submit ∉ emCalls r.calls
  sent : (emReqs r.calls).filter EmReq.isSubmit = []

namespace NoSubmit

variable {again : Bool} {job : Job} {r : Reply}

lemma weaken (h : NoSubmit false job r) : NoSubmit again job r :=
  ⟨fun _ => h.armed rfl, h.queued, h.sent⟩

/-- A reply that does not reach the Execution Manager. -/
lemma of_apart (armed : r.job.armed → job.armed) (apart : r.calls.all Call.apart = true) :
    NoSubmit again job r where
  armed _ := armed
  queued := by rw [apart_emCalls apart]; exact List.not_mem_nil
  sent := by rw [apart_emReqs apart]; rfl

/-- A reply for a job that differs outside the retry. -/
lemma of_same {job' : Job} (h : NoSubmit again job' r) (armed : job'.armed → job.armed) :
    NoSubmit again job r := ⟨fun last => armed ∘ h.armed last, h.queued, h.sent⟩

/-- A reply without a submission among its calls. -/
lemma of_calls (armed : again = false → r.job.armed → job.armed)
    (calls : r.calls.all (fun
      | .em a => a != .submit
      | .emMad _ q => !q.isSubmit
      | _ => true) = true) : NoSubmit again job r where
  armed := armed
  queued mem := by
    obtain ⟨c, mem, queues⟩ := List.mem_filterMap.1 mem
    have none := List.all_eq_true.1 calls c mem
    cases c <;> simp_all
  sent := List.filter_eq_nil_iff.2 fun q mem => by
    obtain ⟨c, mem, sends⟩ := List.mem_filterMap.1 mem
    have none := List.all_eq_true.1 calls c mem
    cases c <;> simp_all

end NoSubmit

namespace Dm

variable {w : World} {job : Job}

/-- A handler that starts no execution. -/
lemma handle_noSubmit {a : DmAction} (other : a ≠ .killHard) (calm : starts a = false)
    (safe : .fault ∉ (handle a w job).calls) : NoSubmit false job (handle a w job) where
  armed _ := by
    obtain ⟨xfrs, side, -⟩ := handle_side other safe
    rw [Job.armed_side, side, Job.armed_side]
    dsimp only
    split
    · intro armed
      cases armed
    · exact id
  queued := by
    rw [emCalls_trace, handle_trace safe]
    exact marks_submit a _ _ _ calm
  sent := by rw [(handle_reqs other safe).1]; rfl

/-- A hard kill submits nothing. -/
lemma killHard_sent : (emReqs (killHard w job).calls).filter EmReq.isSubmit = [] := by
  unfold killHard
  dsimp only
  split
  all_goals first
    | rfl
    | split
      all_goals first
        | rfl
        | simp [dispose, EmReq.isSubmit]
          done
        | split <;> simp [dispose, EmReq.isSubmit]

lemma uncheckJob_noSubmit : NoSubmit false job (uncheckJob w job) := by
  refine .of_apart ?_ uncheckJob_apart
  rw [Job.armed_congr uncheckJob_side]
  exact id

lemma checkJob_noSubmit : NoSubmit false job (checkJob w job) := by
  refine .of_apart ?_ checkJob_apart
  rw [Job.armed_congr checkJob_side]
  exact id

/-- The record of a dispatch has no retry. -/
lemma dispatchJob_noSubmit (hid : HostId) (host : Host) (rank : Int) (queue : String) :
    NoSubmit false job (dispatchJob hid host rank queue w job) := by
  refine .of_apart ?_ (dispatchJob_apart hid host rank queue)
  rcases dispatchJob_side w job hid host rank queue with side | side
  · rw [Job.armed_congr side]
    exact id
  · rw [Job.armed_side, side]
    simp [newRecord, HistoryRecord.bare]

end Dm

namespace Em

variable {w : World} {job : Job}

lemma retryCancel_calls {f : Call → Bool} (cancel : f (.em .cancel) = true) :
    (retryCancel job).all f = true := by
  unfold retryCancel
  split <;> simp [cancel]

lemma leaveActive_calls {f : Call → Bool} (head : HistoryRecord)
    (dec : f (.host head.host (.decAjobs head.queue)) = true) :
    (leaveActive job head).all f = true := by
  unfold leaveActive
  split <;> simp [dec]

lemma cancel_noSubmit : NoSubmit false job (cancel w job) := by
  unfold cancel
  cases hist : job.history with
  | nil => exact .of_calls (fun _ => id) rfl
  | cons head past =>
    dsimp only
    have armed : ({ job with history := { head with cancelTries := head.cancelTries + 1 } :: past } :
        Job).armed → job.armed := by
      simp [Job.armed, hist]
    split
    · exact .of_calls (fun _ => id) rfl
    · split
      · split
        · exact .of_calls (fun _ => armed) rfl
        · exact .of_calls (fun _ => armed) rfl
      · exact .of_calls (fun _ => armed) rfl

lemma pending_noSubmit : NoSubmit false job (pending w job) := by
  unfold pending
  split
  · split
    · exact .of_calls (fun _ => id) (by simp [List.all_append, retryCancel_calls])
    · refine .of_calls (by simp [Job.armed]) ?_
      rw [List.all_append, retryCancel_calls rfl, leaveActive_calls _ rfl]
      rfl
  · exact .of_calls (by simp [Job.armed]) (retryCancel_calls rfl)

lemma active_noSubmit : NoSubmit false job (active w job) := by
  unfold active
  split
  · exact .of_calls (fun _ => id) (retryCancel_calls rfl)
  · split
    · exact .of_calls (fun _ => id) (by simp [List.all_append, retryCancel_calls])
    · exact .of_calls (by simp [Job.armed]) (by simp [List.all_append, retryCancel_calls])

lemma suspended_noSubmit : NoSubmit false job (suspended w job) := by
  unfold suspended
  split
  · exact .of_calls (fun _ => id) (retryCancel_calls rfl)
  · split
    · exact .of_calls (by simp [Job.armed]) (retryCancel_calls rfl)
    · split
      · exact .of_calls (fun _ => id) (by simp [List.all_append, retryCancel_calls])
      · refine .of_calls (by simp [Job.armed]) ?_
        rw [List.all_append, retryCancel_calls rfl, leaveActive_calls _ rfl]
        rfl

lemma done_noSubmit : NoSubmit false job (done w job) := by
  unfold done
  split
  · exact .of_calls (fun _ => id) rfl
  · split
    · exact .of_calls (fun _ => id) rfl
    · split
      · split
        · refine .of_calls (fun _ => id) ?_
          rw [List.all_append, leaveActive_calls _ rfl]
          rfl
        · refine .of_calls (by simp [Job.armed]) ?_
          rw [List.all_append, leaveActive_calls _ rfl]
          rfl
      · refine .of_calls (by simp [Job.armed]) ?_
        rw [List.all_append, leaveActive_calls _ rfl]
        rfl

/-- A submission that failed is tried again, or arms nothing. -/
lemma failed_noSubmit : NoSubmit job.retries job (failed w job) := by
  unfold failed
  cases hist : job.history with
  | nil => exact .of_calls (fun _ => id) rfl
  | cons head past =>
    dsimp only
    split
    · refine .of_calls (by simp [Job.armed]) ?_
      rw [List.all_append, leaveActive_calls _ rfl]
      rfl
    · rename_i more
      have again : job.retries = true := by simpa [Job.retries, hist] using more
      refine .of_calls (by simp [again]) ?_
      rw [leaveActive_calls _ rfl]

/-- A handler that is no submission. -/
lemma handle_noSubmit {a : EmAction} (other : a ≠ .submit) :
    NoSubmit (a == .failed && job.retries) job (handle a w job) := by
  cases a
  case submit => exact absurd rfl other
  case cancel => exact cancel_noSubmit (w := w)
  case pending => exact pending_noSubmit (w := w)
  case active => exact active_noSubmit
  case suspended => exact suspended_noSubmit
  case done => exact done_noSubmit
  case failed => exact failed_noSubmit

lemma report_noSubmit {info : String} {onFailed : Job → Reply}
    (failed : NoSubmit false job (onFailed job)) : NoSubmit false job (report info onFailed job) := by
  unfold report
  split
  · exact .of_calls (fun _ => id) rfl
  · split
    · exact .of_calls (fun _ => id) rfl
    · split
      · exact .of_calls (fun _ => id) rfl
      · split
        · exact .of_calls (by simp [Job.armed]) rfl
        · split
          · exact failed
          · exact .of_calls (fun _ => id) rfl

lemma pollFailed_noSubmit : NoSubmit false job (pollFailed w job) := by
  unfold pollFailed
  cases hist : job.history with
  | nil => exact .of_calls (fun _ => id) rfl
  | cons head past =>
    dsimp only
    split <;> exact .of_calls (by simp [Job.armed, hist]) rfl

lemma recoverFailed_noSubmit : NoSubmit false job (recoverFailed job) := by
  unfold recoverFailed
  cases hist : job.history with
  | nil => exact .of_calls (fun _ => id) rfl
  | cons head past => exact .of_calls (by simp [Job.armed, hist]) rfl

/-- A message of an execution driver queues reports only. -/
lemma listener_noSubmit (msg : Msg) : NoSubmit false job (listener msg w job) := by
  have nothing : NoSubmit false job ⟨job, []⟩ := .of_calls (fun _ => id) rfl
  unfold listener receive
  split
  · exact nothing
  · split
    · exact nothing
    · split
      · split <;> exact .of_calls (fun _ => id) rfl
      · exact nothing
      · split
        · exact (report_noSubmit (.of_calls (fun _ => id) rfl)).of_same (by simp [Job.armed])
        · exact pollFailed_noSubmit
      · split
        · exact report_noSubmit recoverFailed_noSubmit
        · exact .of_calls (fun _ => id) rfl
      · split
        · exact report_noSubmit (.of_calls (fun _ => id) rfl)
        · split <;> exact .of_calls (fun _ => id) rfl

/-- The timer queues the submission of an armed retry only. -/
lemma timer_noSubmit (disarmed : job.jobState.isExecution → job.armed = false) :
    NoSubmit false job (timer w job) := by
  have nothing : NoSubmit false job ⟨job, []⟩ := .of_calls (fun _ => id) rfl
  unfold timer
  cases hist : job.history with
  | nil => exact nothing
  | cons head past =>
    dsimp only
    split
    · rename_i execution
      split
      · split
        · split
          · exact nothing
          · exact .of_calls (by simp [Job.armed, hist]) rfl
        · exact nothing
      · split
        · rename_i armed
          have off := disarmed execution
          simp [Job.armed, hist, armed] at off
        · exact nothing
    · exact nothing

end Em

namespace Tm

variable {job : Job} {r : Reply}

lemma Own.noSubmit (h : Own job r) : NoSubmit false job r where
  armed _ := by simp [Job.armed, h.history, h.emState]
  queued := by rw [h.emCalls]; exact List.not_mem_nil
  sent := by rw [h.emReqs]; rfl

lemma recover_noSubmit (w : World) (job : Job) : NoSubmit false job (recover w job) := by
  rcases Gwd.recover_cases w job with eq | ⟨a, -, -, -, -, eq⟩
  all_goals
    rw [eq]
    exact .of_calls (by simp [Job.armed]) rfl

end Tm

namespace Lifecycle

/-- The execution states are entered by their own actions. -/
lemma effects_started : ∀ a st done, starts a = false → st ≠ .preWrapper → st ≠ .wrapper →
    ∀ eff ∈ effects a st done, eff.next ≠ .preWrapper ∧ eff.next ≠ .wrapper := by
  decide

/-- A state in which an execution is cancelled is entered from `WRAPPER`. -/
lemma effects_canceled : ∀ a st done, ∀ eff ∈ effects a st done, eff.next.isCancel →
    st.isCancel ∨ (st = .wrapper ∧ (a = .kill ∨ a = .stop ∨ (a = .migrCancel ∧ done = false))) := by
  decide

/-- A started execution is not being cancelled. -/
lemma effects_starts : ∀ a st done, starts a = true → ∀ eff ∈ effects a st done,
    eff.next.isCancel = false := by
  decide

lemma isCancel_started {st : JobState} (cancel : st.isCancel) :
    st ≠ .preWrapper ∧ st ≠ .wrapper := by
  revert cancel
  cases st <;> decide

lemma isCancel_resting {st : JobState} (cancel : st.isCancel) : resting st = false := by
  revert cancel
  cases st <;> decide

/-- A hard kill frees its job. -/
lemma effects_killHard : ∀ st done, ∀ eff ∈ effects .killHard st done, eff.frees := by
  decide

end Lifecycle

namespace Gwd

variable {w : World} {s s' : Gwd} {j : JobId} {job : Job} {e : Event}

/-- The submissions that were sent for a job. -/
def submissions (s : Gwd) (j : JobId) : List EmReq := (s.emSent j).filter EmReq.isSubmit

/-- The execution of the job is being cancelled. -/
def canceling (s : Gwd) (j : JobId) : Bool := (s.state j).any JobState.isCancel

/-- An event starts an execution of the job. -/
def startsAt (s : Gwd) (j : JobId) : Event → Bool
  | .dm _ =>
    match s.dmQueue with
    | .job a i :: _ => i == j && starts a && (s.jobs i).isSome
    | _ => false
  | _ => false

/-- An action cancels the execution of a job. -/
def cancels (a : DmAction) (job : Job) : Bool :=
  job.jobState == .wrapper &&
    (a == .kill || a == .stop || (a == .migrCancel && job.emState != .done))

/-- The events that leave no submission to a cancelled execution: it is cancelled when no
submission waits and no retry is armed, and a failure that would be retried does not come while it
is being cancelled. -/
def disarmedStep (s : Gwd) : Event → Bool
  | .dm _ =>
    match s.dmQueue with
    | .job a j :: _ => (s.jobs j).all fun job =>
        !cancels a job || (!job.armed && !(s.emWaiting j).contains .submit)
    | _ => true
  | .em _ =>
    match s.emQueue with
    | (.failed, j) :: _ => (s.jobs j).all fun job => !(job.jobState.isCancel && job.retries)
    | _ => true
  | _ => true

/-- No submission waits for the job, and no retry is armed. -/
structure Disarmed (j : JobId) (s : Gwd) : Prop where
  queued : .submit ∉ s.emWaiting j
  job : ∀ job, s.jobs j = some job →
    job.jobState ≠ .preWrapper ∧ job.jobState ≠ .wrapper ∧ (job.jobState.isCancel → job.armed = false)

/-- What waits after an entry was taken waited before. -/
lemma mem_emWaiting_taken {a b : EmAction} {rest : List (EmAction × JobId)}
    (queue : s.emQueue = (a, j) :: rest)
    (mem : b ∈ ({ s with emQueue := rest } : Gwd).emWaiting j) : b ∈ s.emWaiting j := by
  rw [emWaiting_taken queue]
  exact List.mem_cons_of_mem _ mem

/-- What a turn leaves waiting at the Execution Manager. -/
lemma turn_emWaiting {t : Turn} {s₁ : Gwd} {r : Reply} {a : EmAction} (takes : Takes s j e t w s₁)
    (mem : a ∈ (reply w j r s₁).emWaiting j) : a ∈ s.emWaiting j ∨ a ∈ emCalls r.calls := by
  rw [reply_emWaiting] at mem
  refine (List.mem_append.1 mem).imp_left fun mem => ?_
  cases takes
  case em b rest queue mem => exact mem_emWaiting_taken queue mem
  all_goals exact mem

/-- A turn outside the Dispatch Manager that is no submission, for a disarmed job. -/
lemma Disarmed.noSubmit (inv : Disarmed j s) (here : s.jobs j = some job) {t : Turn} {s₁ : Gwd}
    (takes : Takes s j e t w s₁) (other : ∀ a, t ≠ .dm a) (order : s.disarmedStep e = true) :
    ∃ again, NoSubmit again job (t.handler (s.world w) job) ∧
      (job.jobState.isCancel → again = false) := by
  obtain ⟨pre, wrap, off⟩ := inv.job job here
  cases takes
  case dm => exact absurd rfl (other _)
  case em a rest queue =>
    refine ⟨_, Em.handle_noSubmit ?_, fun cancel => ?_⟩
    · rintro rfl
      exact inv.queued (emWaiting_taken queue ▸ List.mem_cons_self)
    · cases a
      case failed =>
        simp only [disarmedStep, queue, here, Option.all_some] at order
        simpa [cancel] using order
      all_goals rfl
  case emMsg => exact ⟨_, Em.listener_noSubmit _, fun _ => rfl⟩
  case emTimer =>
    refine ⟨_, Em.timer_noSubmit fun execution => off ?_, fun _ => rfl⟩
    simpa [JobState.isExecution, pre, wrap] using execution
  case tm a rest queue => exact ⟨_, (Tm.handle_own a _ job).noSubmit, fun _ => rfl⟩
  case tmMsg => exact ⟨_, (Tm.listener_own _ _ job).noSubmit, fun _ => rfl⟩
  case tmTimer => exact ⟨_, (Tm.timer_own _ job).noSubmit, fun _ => rfl⟩
  case tmReload => exact ⟨_, Tm.recover_noSubmit (s.world w) job, fun _ => rfl⟩
  case dispatch => exact ⟨_, Dm.dispatchJob_noSubmit _ _ _ _, fun _ => rfl⟩
  case uncheck => exact ⟨_, Dm.uncheckJob_noSubmit (w := s.world w), fun _ => rfl⟩
  case check => exact ⟨_, Dm.checkJob_noSubmit, fun _ => rfl⟩

/-- A handler of the Dispatch Manager is seen from the job as `Acted`. -/
lemma turn_acted {wS : SubmitWorld} {a : DmAction} {rest : List DmItem}
    (queue : s.dmQueue = .job a j :: rest)
    (eq : s.step (.dm wS) =
      reply wS.world j (Dm.handle a (s.world wS.world) job) { s with dmQueue := rest })
    (live : (s.step (.dm wS)).crashed = false) :
    .fault ∉ (Dm.handle a (s.world wS.world) job).calls ∧
      ∃ eff, Acted s (s.step (.dm wS)) j job a rest eff (Dm.handle a (s.world wS.world) job) := by
  rw [eq] at live ⊢
  exact ⟨(reply_live live).2, acted queue live⟩

lemma Disarmed.aside (inv : Disarmed j s) (aside : Aside s s' j) : Disarmed j s' := by
  refine ⟨by rw [aside.em]; exact inv.queued, fun job' after => ?_⟩
  rcases aside.jobs with same | ⟨job, before, hold, released⟩
  · rw [same] at after
    exact inv.job job' after
  · rw [released] at after
    cases after
    exact ⟨by simp, by simp, by simp [JobState.isCancel]⟩

/-- A disarmed job stays so, until an execution of it starts. -/
lemma Disarmed.step (inv : Disarmed j s) (below : j < s.nextJobId) (pool : Pool s)
    (order : s.disarmedStep e = true) (calm : s.startsAt j e = false)
    (live : (s.step e).crashed = false) : Disarmed j (s.step e) := by
  cases here : s.jobs j with
  | none =>
    refine ⟨fun mem => inv.queued ((absent_step here pool live).em _ mem), fun job after => ?_⟩
    rw [(gone_step here below live).1] at after
    cases after
  | some job =>
    obtain ⟨pre, wrap, off⟩ := inv.job job here
    rcases turn_cases here live pool with aside | ⟨-, reloaded⟩ | ⟨t, w, s₁, takes, eq⟩
    · exact inv.aside aside
    · exact absurd reloaded.running wrap
    · by_cases dm : ∃ a, t = .dm a
      · obtain ⟨a, rfl⟩ := dm
        cases takes
        case dm wS rest queue =>
          obtain ⟨safe, eff, act⟩ := turn_acted queue eq live
          have calm : starts a = false := by
            simpa [startsAt, queue, here] using calm
          refine ⟨fun mem => ?_, fun job' after => ?_⟩
          · rw [eq] at mem
            refine (turn_emWaiting (.dm queue) mem).elim inv.queued fun mem => ?_
            have mem : .submit ∈ emCalls (Dm.handle a (s.world wS.world) job).calls := mem
            rw [emCalls_trace, Dm.handle_trace safe] at mem
            exact marks_submit a _ _ _ calm mem
          · have jobs := act.jobs
            rw [after] at jobs
            split at jobs
            · cases jobs
            · rename_i stays
              cases jobs
              obtain ⟨pre', wrap'⟩ := effects_started a _ _ calm pre wrap eff act.mem
              rw [act.real.next]
              refine ⟨pre', wrap', fun cancel => ?_⟩
              have before := (effects_canceled a _ _ eff act.mem cancel).resolve_right
                fun h => wrap h.1
              have other : a ≠ .killHard := by
                rintro rfl
                exact stays (effects_killHard _ _ eff act.mem)
              have no := Dm.handle_noSubmit other calm safe
              have off := off before
              by_contra armed
              rw [no.armed rfl (by simpa using armed)] at off
              cases off
      · have other : ∀ a, t ≠ .dm a := fun a same => dm ⟨a, same⟩
        obtain ⟨again, no, last⟩ := inv.noSubmit here takes other order
        obtain ⟨after, state⟩ := turn_keeps w s s₁ j job other
        rw [eq]
        refine ⟨fun mem => (turn_emWaiting takes mem).elim inv.queued no.queued,
          fun job' after' => ?_⟩
        rw [after] at after'
        cases after'
        rw [state]
        refine ⟨pre, wrap, fun cancel => ?_⟩
        have off := off cancel
        by_contra armed
        rw [no.armed (last cancel) (by simpa using armed)] at off
        cases off

/-- What a turn has sent to the execution drivers. -/
lemma turn_emSent {t : Turn} {s₁ : Gwd} {r : Reply} (takes : Takes s j e t w s₁) :
    (reply w j r s₁).emSent j = s.emSent j ++ emReqs r.calls := by
  rw [reply_emSent]
  cases takes <;> rfl

/-- Nothing is submitted for a disarmed job. -/
lemma Disarmed.submissions (inv : Disarmed j s) (pool : Pool s) (order : s.disarmedStep e = true)
    (live : (s.step e).crashed = false) : (s.step e).submissions j = s.submissions j := by
  cases here : s.jobs j with
  | none => rw [Gwd.submissions, (absent_step here pool live).emSent, Gwd.submissions]
  | some job =>
    rcases turn_cases here live pool with aside | ⟨-, reloaded⟩ | ⟨t, w, s₁, takes, eq⟩
    · rw [Gwd.submissions, aside.emSent, Gwd.submissions]
    · exact absurd reloaded.running (inv.job job here).2.1
    · have none : (emReqs (t.handler (s.world w) job).calls).filter EmReq.isSubmit = [] := by
        by_cases dm : ∃ a, t = .dm a
        · obtain ⟨a, rfl⟩ := dm
          cases takes
          case dm wS rest queue =>
            obtain ⟨safe, -⟩ := turn_acted queue eq live
            by_cases hard : a = .killHard
            · subst hard
              exact Dm.killHard_sent
            · have sent : emReqs (Dm.handle a (s.world wS.world) job).calls = [] :=
                (Dm.handle_reqs hard safe).1
              simp only [Turn.handler, sent, List.filter_nil]
        · obtain ⟨again, no, -⟩ := inv.noSubmit here takes (fun a same => dm ⟨a, same⟩) order
          exact no.sent
      rw [Gwd.submissions, eq, turn_emSent takes, List.filter_append, none, List.append_nil,
        Gwd.submissions]

/-- The action that cancels an execution leaves the job disarmed. -/
lemma Disarmed.of_cancel {a : DmAction} {rest : List DmItem} {wS : SubmitWorld} {eff : Effect}
    (queue : s.dmQueue = .job a j :: rest) (here : s.jobs j = some job)
    (eq : s.step (.dm wS) =
      reply wS.world j (Dm.handle a (s.world wS.world) job) { s with dmQueue := rest })
    (safe : .fault ∉ (Dm.handle a (s.world wS.world) job).calls)
    (act : Acted s (s.step (.dm wS)) j job a rest eff (Dm.handle a (s.world wS.world) job))
    (running : job.jobState = .wrapper)
    (cancel : a = .kill ∨ a = .stop ∨ (a = .migrCancel ∧ (job.emState == .done) = false))
    (next : eff.next.isCancel) (order : s.disarmedStep (.dm wS) = true) :
    Disarmed j (s.step (.dm wS)) := by
  have calm : starts a = false ∧ a ≠ .killHard := by
    rcases cancel with rfl | rfl | ⟨rfl, -⟩ <;> decide
  have no := Dm.handle_noSubmit calm.2 calm.1 safe
  have clean : job.armed = false ∧ .submit ∉ s.emWaiting j := by
    have cancels : cancels a job = true := by
      rcases cancel with rfl | rfl | ⟨rfl, running'⟩ <;> simp_all [cancels]
    simpa [disarmedStep, queue, here, cancels] using order
  refine ⟨fun mem => ?_, fun job' after => ?_⟩
  · rw [eq] at mem
    exact (turn_emWaiting (.dm queue) mem).elim clean.2 no.queued
  · have jobs := act.jobs
    rw [after] at jobs
    split at jobs
    · cases jobs
    · cases jobs
      rw [act.real.next]
      refine ⟨(isCancel_started next).1, (isCancel_started next).2, fun _ => ?_⟩
      by_contra armed
      have off := clean.1
      rw [no.armed rfl (by simpa using armed)] at off
      cases off

/-- The jobs whose execution is being cancelled are disarmed. -/
def CancelInv (j : JobId) (s : Gwd) : Prop := s.canceling j = true → Disarmed j s

/-- Every cancellation leaves its job disarmed, and it stays so. -/
lemma CancelInv.step (inv : CancelInv j s) (pool : Pool s) (order : s.disarmedStep e = true)
    (live : (s.step e).crashed = false) : CancelInv j (s.step e) := by
  intro canceling
  obtain ⟨job', after, cancel⟩ : ∃ job', (s.step e).jobs j = some job' ∧ job'.jobState.isCancel := by
    simpa [Gwd.canceling, state, Option.any_eq_true] using canceling
  cases here : s.jobs j with
  | none =>
    have resting := (born_step here pool live after).1.resting
    rw [isCancel_resting cancel] at resting
    cases resting
  | some job =>
    have step (before : job.jobState.isCancel) (calm : s.startsAt j e = false) :
        Disarmed j (s.step e) := by
      refine Disarmed.step (inv ?_) (pool.below here) pool order calm live
      simp [Gwd.canceling, state, here, before]
    rcases turn_cases here live pool with aside | ⟨⟨mad, rfl⟩, reloaded⟩ | ⟨t, w, s₁, takes, eq⟩
    · rcases aside.jobs with same | ⟨job₀, before, hold, released⟩
      · refine (inv ?_).aside aside
        simp [Gwd.canceling, state, ← same, after, cancel]
      · rw [released] at after
        cases after
        cases cancel
    · rw [reloaded.jobs] at after
      cases after
      exact step cancel rfl
    · by_cases dm : ∃ a, t = .dm a
      · obtain ⟨a, rfl⟩ := dm
        cases takes
        case dm wS rest queue =>
          obtain ⟨safe, eff, act⟩ := turn_acted queue eq live
          have jobs := act.jobs
          rw [after] at jobs
          split at jobs
          · cases jobs
          · cases jobs
            rw [act.real.next] at cancel
            rcases effects_canceled a _ _ eff act.mem cancel with before | ⟨running, cancels⟩
            · refine step before ?_
              by_contra start
              have start : starts a = true := by simpa [startsAt, queue, here] using start
              rw [effects_starts a _ _ start eff act.mem] at cancel
              cases cancel
            · exact .of_cancel queue here eq safe act running cancels cancel order
      · have other : ∀ a, t ≠ .dm a := fun a same => dm ⟨a, same⟩
        obtain ⟨after', state⟩ := turn_keeps w s s₁ j job other
        rw [eq, after'] at after
        cases after
        rw [state] at cancel
        refine step cancel ?_
        cases takes
        case dm => exact absurd rfl (other _)
        all_goals rfl

/-- The submissions of a run: from the time at which the execution of a job is being cancelled on,
nothing is submitted for the job until another execution of it starts. -/
structure NoSubmission (conf : Conf) (evs : List Event) : Prop where
  quiet : ∀ evs₁ evs₂ e evs₃ j, evs = evs₁ ++ (evs₂ ++ e :: evs₃) →
    (Machine.run step (Gwd.start conf) evs₁).canceling j = true →
    Machine.Guarded step (fun s e => s.startsAt j e = false)
      (Machine.run step (Gwd.start conf) evs₁) evs₂ →
    ((Machine.run step (Gwd.start conf) (evs₁ ++ evs₂)).step e).submissions j =
      (Machine.run step (Gwd.start conf) (evs₁ ++ evs₂)).submissions j

/-- The invariants of a job along a run. -/
lemma cancelInv_run {evs : List Event} (conf : Conf)
    (order : Machine.Guarded step (fun s e => s.disarmedStep e = true) (Gwd.start conf) evs)
    (live : (Machine.run step (Gwd.start conf) evs).crashed = false) (j : JobId) :
    Pool (Machine.run step (Gwd.start conf) evs) ∧
      CancelInv j (Machine.run step (Gwd.start conf) evs) :=
  Machine.run_induction (fun s => s.crashed = false → Pool s ∧ CancelInv j s)
    (fun _ _ inv order live =>
      have inv := inv (step_alive live)
      ⟨pool_step inv.1 (step_alive live) live, inv.2.step inv.1 order live⟩)
    (fun _ => ⟨.start conf, fun canceling => by cases canceling⟩) order live

/-- A disarmed job stays disarmed until its next execution starts. -/
lemma disarmed_run {evs : List Event} (inv : Disarmed j s) (below : j < s.nextJobId) (pool : Pool s)
    (order : Machine.Guarded step (fun s e => s.disarmedStep e = true) s evs)
    (calm : Machine.Guarded step (fun s e => s.startsAt j e = false) s evs)
    (live : (Machine.run step s evs).crashed = false) :
    Disarmed j (Machine.run step s evs) ∧ Pool (Machine.run step s evs) := by
  induction evs generalizing s with
  | nil => exact ⟨inv, pool⟩
  | cons e evs ih =>
    obtain ⟨allowed, order⟩ := order
    obtain ⟨same, calm⟩ := calm
    have live' := run_alive (s := s.step e) live
    exact ih (inv.step below pool allowed same live')
      (Nat.lt_of_lt_of_le below (nextJobId_step live')) (pool_step pool (step_alive live') live')
      order calm live

/-- No submission after a cancel, in a run whose events leave no submission to a cancelled
execution. -/
theorem no_submission (conf : Conf) (evs : List Event)
    (order : Machine.Guarded step (fun s e => s.disarmedStep e = true) (Gwd.start conf) evs)
    (live : (Machine.run step (Gwd.start conf) evs).crashed = false) : NoSubmission conf evs := by
  constructor
  intro evs₁ evs₂ e evs₃ j split canceling calm
  have split' : evs = evs₁ ++ evs₂ ++ e :: evs₃ := by rw [split, List.append_assoc]
  obtain ⟨before, allowed, -⟩ := Machine.guarded_cut (split' ▸ order)
  obtain ⟨first, second⟩ := Machine.guarded_append.1 before
  have live₂ : ((Machine.run step (Gwd.start conf) (evs₁ ++ evs₂)).step e).crashed = false := by
    rw [split', Machine.run_append, Machine.run_cons] at live
    exact run_alive live
  have live₁ := step_alive live₂
  rw [Machine.run_append] at live₁ live₂ allowed ⊢
  obtain ⟨pool, inv⟩ := cancelInv_run conf first (run_alive live₁) j
  obtain ⟨job, here, -⟩ : ∃ job, (Machine.run step (Gwd.start conf) evs₁).jobs j = some job ∧
      job.jobState.isCancel := by
    simpa [Gwd.canceling, state, Option.any_eq_true] using canceling
  obtain ⟨disarmed, pool₂⟩ := disarmed_run (inv canceling) (pool.below here) pool second calm live₁
  exact disarmed.submissions pool₂ allowed live₂

/-- A job with three tries, submitted to the execution driver of its host. -/
def submittedOne : List Event :=
  [.hostAllocate 0 { hostname := "host", emMad := "em", tmMad := "tm", imMad := "im" },
    .submit { owner := "user", template := { executable := some "exe", numberOfRetries := 3 } },
    .dm {}, .scheduleJob 0 0 "default" 0 {}, .dm {}, .tm {},
    .tmMsg 0 { verb := .start } {}, .tmMsg 0 { verb := .mkdir } {},
    .tmMsg 0 { verb := .cp 0 } {}, .tmMsg 0 { verb := .finish } {}, .dm {}, .dm {}, .em {}]

/-- A running job is killed. -/
theorem no_submission_active : NoSubmission ⟨4, 4, 4, 4⟩ (submittedOne ++
    [.emMsg 0 { verb := .callback, result := "SUCCESS", info := "ACTIVE" } {}, .em {},
      .request .kill 0, .dm {}, .em {},
      .emMsg 0 { verb := .callback, result := "SUCCESS", info := "DONE" } {}, .em {}, .dm {},
      .dm {}]) := by
  apply no_submission
  · decide
  · decide

/-- The submission fails and its retry is armed; then the job is killed. -/
def killedRetry : List Event :=
  submittedOne ++ [.emMsg 0 { verb := .submit, result := "FAILURE", info := "" } {}, .em {},
    .request .kill 0, .dm {}]

/-- A retry that is armed when the job is killed: the timer queues it, and it is submitted. -/
theorem submission_of_killed : ¬ ∀ (conf : Conf) (evs : List Event),
    (Machine.run step (Gwd.start conf) evs).crashed = false → NoSubmission conf evs := by
  intro quiet
  have same := (quiet ⟨4, 4, 4, 4⟩ (killedRetry ++ ([.em {}, .emTimer 0 {}] ++ [.em {}]))
    (by decide)).quiet killedRetry [.em {}, .emTimer 0 {}] (.em {}) [] 0 rfl
    (by decide) (by decide)
  revert same
  decide

end Gwd

end GridWay
