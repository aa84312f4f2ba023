import GridWay.Dm.Dispatch
import GridWay.Dm.Lifecycle

/-!
# The Dispatch Manager refines the lifecycle

Every handler that does not crash does to the lifecycle of its job what an entry of the table
`Lifecycle.effects` says.

* `Lifecycle.Realises`: a reply does what an effect says.
* `Dm.handle_effect`: the refinement, for all actions.
* `Dm.handle_same`: what no handler changes.
-/

namespace GridWay

/-- The action that a call queues at the Dispatch Manager. -/
@[simp] def Call.dm? : Call → Option DmAction
  | .dm a => some a
  | _ => none

/-- The change that a call makes to the used slots of a host. -/
@[simp] def Call.slots? : Call → Option (HostId × Int)
  | .host h (.incSlots np _) => some (h, np)
  | .host h (.decSlots np _) => some (h, -np)
  | .host h (.decUslots np) => some (h, -np)
  | _ => none

/-- The change that a call makes to the running jobs of a user. -/
@[simp] def Call.running? : Call → Option (Option UserId × Int)
  | .incRunning u n => some (u, n)
  | .decRunning u => some (u, -1)
  | _ => none

/-- The DM actions that a reply queues. -/
def dmCalls (cs : List Call) : List DmAction := cs.filterMap Call.dm?

/-- The changes that a reply makes to the used slots of the hosts. -/
def slotCalls (cs : List Call) : List (HostId × Int) := cs.filterMap Call.slots?

/-- The changes that a reply makes to the running jobs of the users. -/
def runningCalls (cs : List Call) : List (Option UserId × Int) := cs.filterMap Call.running?

section Calls

variable {c : Call} {cs cs' : List Call}

@[simp] lemma dmCalls_nil : dmCalls [] = [] := rfl
@[simp] lemma dmCalls_append : dmCalls (cs ++ cs') = dmCalls cs ++ dmCalls cs' :=
  List.filterMap_append
@[simp] lemma dmCalls_cons : dmCalls (c :: cs) = c.dm?.toList ++ dmCalls cs := by
  cases h : c.dm? <;> simp only [dmCalls, List.filterMap_cons, h] <;> rfl

@[simp] lemma slotCalls_nil : slotCalls [] = [] := rfl
@[simp] lemma slotCalls_append : slotCalls (cs ++ cs') = slotCalls cs ++ slotCalls cs' :=
  List.filterMap_append
@[simp] lemma slotCalls_cons : slotCalls (c :: cs) = c.slots?.toList ++ slotCalls cs := by
  cases h : c.slots? <;> simp only [slotCalls, List.filterMap_cons, h] <;> rfl

@[simp] lemma runningCalls_nil : runningCalls [] = [] := rfl
@[simp] lemma runningCalls_append :
    runningCalls (cs ++ cs') = runningCalls cs ++ runningCalls cs' :=
  List.filterMap_append
@[simp] lemma runningCalls_cons :
    runningCalls (c :: cs) = c.running?.toList ++ runningCalls cs := by
  cases h : c.running? <;> simp only [runningCalls, List.filterMap_cons, h] <;> rfl

end Calls

namespace Lifecycle

/-- The slot changes of a payment: the number of slots of the job, on the host of the record. -/
def Payment.calls (job : Job) : Payment → List (HostId × Int)
  | .none => []
  | .head => (job.places.take 1).map fun p => (p.host, -(job.template.np : Int))
  | .prev => ((job.places.drop 1).take 1).map fun p => (p.host, -(job.template.np : Int))
  | .both => ((job.places.drop 1).take 1 ++ job.places.take 1).map fun p =>
      (p.host, -(job.template.np : Int))

section Payment

variable (job : Job)

@[simp] lemma Payment.calls_none : Payment.none.calls job = [] := rfl

@[simp] lemma Payment.calls_head :
    Payment.head.calls job = (job.places.take 1).map fun p => (p.host, -(job.template.np : Int)) :=
  rfl

@[simp] lemma Payment.calls_prev : Payment.prev.calls job =
    ((job.places.drop 1).take 1).map fun p => (p.host, -(job.template.np : Int)) := rfl

@[simp] lemma Payment.calls_both :
    Payment.both.calls job = ((job.places.drop 1).take 1 ++ job.places.take 1).map fun p =>
      (p.host, -(job.template.np : Int)) := rfl

end Payment

/-- A reply does what an effect says. -/
structure Realises (eff : Effect) (job : Job) (r : Reply) : Prop where
  next : r.job.jobState = eff.next
  queued : dmCalls r.calls = eff.queued
  pays : slotCalls r.calls = eff.pays.calls job
  closes : runningCalls r.calls = if eff.closes then [(job.userId, -1)] else []
  frees : Call.free ∈ r.calls ↔ eff.frees = true
  /-- The jobs that depend on this one are looked at only when it ends. -/
  ends : ∀ code, Call.depCheck code ∈ r.calls → eff.next = .zombie

/-- An effect of a reply that comes after calls of no effect. -/
lemma Realises.after {eff : Effect} {job job' : Job} {r : Reply} {cs : List Call}
    (real : Realises eff job' r) (same : eff.pays.calls job' = eff.pays.calls job)
    (user : job'.userId = job.userId) (queued : dmCalls cs = []) (slots : slotCalls cs = [])
    (running : runningCalls cs = []) (free : Call.free ∉ cs)
    (calm : ∀ code, Call.depCheck code ∉ cs) : Realises eff job (r.after cs) where
  next := real.next
  queued := by simp [queued, real.queued]
  pays := by simp [slots, real.pays, same]
  closes := by simp [running, real.closes, user]
  frees := by simp [free, real.frees]
  ends code mem := real.ends code (by simpa [calm code] using mem)

/-- An effect that pays nothing is the same for a job that differs in its template. -/
lemma Realises.transfer {eff : Effect} {job job' : Job} {r : Reply} (real : Realises eff job' r)
    (free : eff.pays = .none) (user : job'.userId = job.userId) : Realises eff job r where
  next := real.next
  queued := real.queued
  pays := by simpa [free] using real.pays
  closes := by simpa [user] using real.closes
  frees := real.frees
  ends := real.ends

end Lifecycle

namespace Dm

open Lifecycle

variable {w : World} {job : Job}

/-- The effects of an action in the state of a job. -/
abbrev effectsOn (a : DmAction) (job : Job) : List Effect :=
  effects a job.jobState (job.emState == .done)

/-- The handler of an action has one of its effects. -/
abbrev HasEffect (a : DmAction) (job : Job) (r : Reply) : Prop :=
  ∃ eff ∈ effectsOn a job, Realises eff job r

lemma hold_effect : HasEffect .hold job (hold w job) := by
  by_cases st : job.jobState = .pending
  · exact ⟨{ next := .hold }, by simp [effects, only, st], by constructor <;> simp [hold, st]⟩
  · exact ⟨{ next := job.jobState }, by simp [effects, only, st], by constructor <;> simp [hold, st]⟩

lemma release_effect : HasEffect .release job (release w job) := by
  by_cases st : job.jobState = .hold
  · exact ⟨{ next := .pending }, by simp [effects, only, st],
      by constructor <;> simp [release, askSchedule, st]⟩
  · exact ⟨{ next := job.jobState }, by simp [effects, only, st],
      by constructor <;> simp [release, st]⟩

lemma resume_effect : HasEffect .resume job (resume w job) := by
  by_cases st : job.jobState = .stopped
  · exact ⟨{ next := .pending }, by simp [effects, only, st],
      by constructor <;> simp [resume, askSchedule, st]⟩
  · exact ⟨{ next := job.jobState }, by simp [effects, only, st],
      by constructor <;> simp [resume, st]⟩

lemma wait_effect : HasEffect .wait job (wait w job) := by
  refine ⟨{ next := job.jobState }, by simp [effects], ?_⟩
  unfold wait
  constructor <;> split <;> simp

/-- Taking a job back from the scheduler touches only its reschedule flag. -/
@[simp] lemma cancelReschedule_frame :
    (cancelReschedule job).job.jobState = job.jobState ∧
    (cancelReschedule job).job.history = job.history ∧
    dmCalls (cancelReschedule job).calls = [] ∧ slotCalls (cancelReschedule job).calls = [] ∧
    runningCalls (cancelReschedule job).calls = [] ∧
    (Call.free ∈ (cancelReschedule job).calls ↔ False) ∧
    (∀ code, Call.depCheck code ∈ (cancelReschedule job).calls ↔ False) ∧
    (Call.fault ∈ (cancelReschedule job).calls ↔ False) := by
  unfold cancelReschedule
  split <;> simp

lemma cancelExecution_realises {st reason} :
    Realises { next := st } job (cancelExecution st reason job) := by
  constructor <;> simp [cancelExecution]

lemma stop_effect : HasEffect .stop job (stop w job) := by
  by_cases st : job.jobState = .wrapper
  · refine ⟨{ next := .stopCancel }, by simp [effects, only, st], ?_⟩
    simpa only [stop, st, if_true] using cancelExecution_realises
  · exact ⟨{ next := job.jobState }, by simp [effects, only, st],
      by constructor <;> simp [stop, st]⟩

lemma kill_effect : HasEffect .kill job (kill w job) := by
  cases st : job.jobState
  case wrapper =>
    refine ⟨{ next := .killCancel }, by simp [effects, Lifecycle.kill, resting, st], ?_⟩
    simpa only [kill, st] using cancelExecution_realises
  case init | pending | hold | stopped | failed | zombie =>
    refine ⟨{ next := job.jobState, frees := true },
      by simp [effects, Lifecycle.kill, resting, st], ?_⟩
    constructor <;> simp [kill, st, dispose]
  all_goals
    refine ⟨{ next := job.jobState }, by simp [effects, Lifecycle.kill, resting, st], ?_⟩
    constructor <;> simp [kill, st]

lemma killHard_effect (live : Call.fault ∉ (killHard w job).calls) :
    HasEffect .killHard job (killHard w job) := by
  cases st : job.jobState
  case init | pending | hold | stopped | failed | zombie =>
    refine ⟨{ next := job.jobState, frees := true },
      by simp [effects, Lifecycle.killHard, st], ?_⟩
    constructor <;> simp [killHard, st, dispose]
  case migrProlog | migrEpilog =>
    refine ⟨{ next := job.jobState, pays := .head, frees := true },
      by simp [effects, Lifecycle.killHard, st], ?_⟩
    rcases hist : job.history with _ | ⟨head, _ | ⟨prev, older⟩⟩
    · simp [killHard, st, hist] at live
    · simp [killHard, st, hist] at live
    · constructor <;> simp [killHard, killTransfer, st, hist, dispose, Job.places]
  case migrCancel =>
    refine ⟨{ next := job.jobState, pays := .both, frees := true },
      by simp [effects, Lifecycle.killHard, st], ?_⟩
    rcases hist : job.history with _ | ⟨head, _ | ⟨prev, older⟩⟩
    · simp [killHard, st, hist] at live
    · simp [killHard, st, hist] at live
    · constructor <;> simp [killHard, killExecution, st, hist, dispose, Job.places]
  case prolog | stopCancel | killCancel =>
    refine ⟨{ next := job.jobState, pays := .head, frees := true },
      by simp [effects, Lifecycle.killHard, st], ?_⟩
    cases hist : job.history with
    | nil => simp [killHard, st, hist] at live
    | cons head past =>
      constructor <;>
        simp [killHard, killTransfer, killExecution, st, hist, dispose, Job.places]
  case preWrapper | wrapper =>
    refine ⟨{ next := job.jobState, pays := .head, frees := true },
      by simp [effects, Lifecycle.killHard, st], ?_⟩
    cases hist : job.history with
    | nil => simp [killHard, st, hist] at live
    | cons head past =>
      by_cases em : job.emState = .active <;>
        constructor <;> simp [killHard, killExecution, st, hist, em, dispose, Job.places]
  all_goals
    refine ⟨{ next := job.jobState, frees := true },
      by simp [effects, Lifecycle.killHard, st], ?_⟩
    cases hist : job.history with
    | nil => simp [killHard, st, hist] at live
    | cons head past => constructor <;> simp [killHard, killTransfer, st, hist, dispose]

lemma reschedule_effect (live : Call.fault ∉ (reschedule w job).calls) :
    HasEffect .reschedule job (reschedule w job) := by
  cases st : job.jobState
  case wrapper =>
    refine ⟨{ next := job.jobState }, by simp [effects, only, st], ?_⟩
    cases hist : job.history with
    | nil => simp [reschedule, st, hist] at live
    | cons head past => constructor <;> simp [reschedule, askSchedule, st, hist]
  case failed =>
    refine ⟨{ next := .pending }, by simp [effects, only, st], ?_⟩
    cases hist : job.history with
    | nil => simp [reschedule, st, hist] at live
    | cons head past => constructor <;> simp [reschedule, askSchedule, st, hist]
  all_goals
    refine ⟨{ next := job.jobState }, by simp [effects, only, st], ?_⟩
    constructor <;> simp [reschedule, st]

/-- What stepping into a prolog does, when it does not crash. -/
lemma stageIn_realises (live : Call.fault ∉ (stageIn w job).calls) :
    Realises { next := job.jobState } job (stageIn w job) ∨
      Realises { next := job.jobState, queued := [.prologFailed] } job (stageIn w job) := by
  by_cases env : w.environment
  · left
    cases files : prologSetFiles w job with
    | none => simp [stageIn, env, files] at live
    | some xfrs => constructor <;> simp [stageIn, env, files]
  · right
    constructor <;> simp [stageIn, env]

lemma enterProlog_effect {st} (live : Call.fault ∉ (enterProlog w st job).calls) :
    Realises { next := st } job (enterProlog w st job) ∨
      Realises { next := st, queued := [.prologFailed] } job (enterProlog w st job) := by
  cases hist : job.history with
  | nil => simp [enterProlog, hist] at live
  | cons head past =>
    simp only [enterProlog, Job.setState_frame, hist] at live ⊢
    rcases stageIn_realises (fun fault => live (List.mem_append_right _ fault)) with real | real
    · left
      exact real.after rfl rfl rfl rfl rfl (by simp) (by simp)
    · right
      exact real.after rfl rfl rfl rfl rfl (by simp) (by simp)

lemma prolog_effect (live : Call.fault ∉ (prolog w job).calls) :
    HasEffect .prolog job (prolog w job) := by
  have either : Realises { next := .prolog } job (prolog w job) ∨
      Realises { next := .prolog, queued := [.prologFailed] } job (prolog w job) := by
    by_cases st : job.jobState = .prolog
    · simp only [prolog, st, if_true] at live ⊢
      exact st ▸ stageIn_realises live
    · simp only [prolog, st, if_false] at live ⊢
      exact enterProlog_effect live
  rcases either with real | real
  · exact ⟨_, by simp [effects], real⟩
  · exact ⟨_, by simp [effects], real⟩

lemma migrProlog_effect (live : Call.fault ∉ (migrProlog w job).calls) :
    HasEffect .migrProlog job (migrProlog w job) := by
  rcases enterProlog_effect live with real | real
  · exact ⟨_, by simp [effects], real⟩
  · exact ⟨_, by simp [effects], real⟩

lemma prologDoneCb_effect (live : Call.fault ∉ (prologDoneCb w job).calls) :
    HasEffect .prologDone job (prologDoneCb w job) := by
  cases hist : job.history with
  | nil => simp [prologDoneCb, hist] at live
  | cons head past =>
    cases st : job.jobState
    case prolog =>
      by_cases pre : job.template.preWrapper.isSome
      · refine ⟨{ next := job.jobState, queued := [.preWrapper] },
          by simp [effects, Lifecycle.prologDone, st], ?_⟩
        constructor <;> simp [prologDoneCb, hist, st, pre]
      · refine ⟨{ next := job.jobState, queued := [.wrapper] },
          by simp [effects, Lifecycle.prologDone, st], ?_⟩
        constructor <;> simp [prologDoneCb, hist, st, pre]
    case migrProlog =>
      refine ⟨{ next := job.jobState, queued := [.migrEpilog] },
        by simp [effects, Lifecycle.prologDone, st], ?_⟩
      constructor <;> simp [prologDoneCb, hist, st]
    all_goals
      refine ⟨{ next := job.jobState }, by simp [effects, Lifecycle.prologDone, st], ?_⟩
      constructor <;> simp [prologDoneCb, hist, st]

lemma failureExit_cases (job : Job) : failureExit job = .pending ∨ failureExit job = .failed := by
  unfold failureExit
  split <;> simp

lemma prologFailedCb_effect (live : Call.fault ∉ (prologFailedCb w job).calls) :
    HasEffect .prologFailed job (prologFailedCb w job) := by
  cases hist : job.history with
  | nil => simp [prologFailedCb, hist] at live
  | cons head past =>
    refine ⟨{ next := job.jobState, queued := [failureExit job], pays := .head }, ?_, ?_⟩
    · rcases failureExit_cases job with out | out <;> simp [effects, exits, out]
    · by_cases st : job.jobState = .migrProlog
      · cases past <;> constructor <;> simp [prologFailedCb, hist, st, Job.places]
      · constructor <;> simp [prologFailedCb, hist, st, Job.places]

lemma execute_realises {st f} (live : Call.fault ∉ (execute st f job).calls) :
    Realises { next := st } job (execute st f job) := by
  cases hist : job.history with
  | nil => simp [execute, hist] at live
  | cons head past => constructor <;> simp [execute, hist]

lemma wrapperDoneCb_effect (live : Call.fault ∉ (wrapperDoneCb w job).calls) :
    HasEffect .wrapperDone job (wrapperDoneCb w job) := by
  cases st : job.jobState
  case preWrapper =>
    cases hist : job.history with
    | nil => simp [wrapperDoneCb, st, hist] at live
    | cons head past =>
      refine ⟨{ next := job.jobState, queued := [.wrapper] },
        by simp [effects, Lifecycle.wrapperDone, st], ?_⟩
      constructor <;> simp [wrapperDoneCb, st, hist]
  case wrapper =>
    cases hist : job.history with
    | nil => simp [wrapperDoneCb, st, hist] at live
    | cons head past =>
      by_cases wbe : w.wrapperBased { job with emState := .init }
      · refine ⟨{ next := job.jobState, queued := [.epilogStd], pays := .head },
          by simp [effects, Lifecycle.wrapperDone, st], ?_⟩
        constructor <;> simp_all [wrapperDoneCb, Job.places]
      · refine ⟨{ next := job.jobState, queued := [.epilog], pays := .head },
          by simp [effects, Lifecycle.wrapperDone, st], ?_⟩
        constructor <;> simp_all [wrapperDoneCb, Job.places]
  case stopCancel =>
    cases hist : job.history with
    | nil => simp [wrapperDoneCb, st, hist] at live
    | cons head past =>
      refine ⟨{ next := job.jobState, queued := [.stopEpilog], pays := .head },
        by simp [effects, Lifecycle.wrapperDone, st], ?_⟩
      constructor <;> simp [wrapperDoneCb, st, hist, Job.places]
  case killCancel =>
    cases hist : job.history with
    | nil => simp [wrapperDoneCb, st, hist] at live
    | cons head past =>
      refine ⟨{ next := job.jobState, queued := [.killEpilog], pays := .head },
        by simp [effects, Lifecycle.wrapperDone, st], ?_⟩
      constructor <;> simp [wrapperDoneCb, st, hist, Job.places]
  case migrCancel =>
    rcases hist : job.history with _ | ⟨head, _ | ⟨prev, older⟩⟩
    · simp [wrapperDoneCb, st, hist] at live
    · simp [wrapperDoneCb, st, hist] at live
    · refine ⟨{ next := job.jobState, queued := [.migrProlog], pays := .prev },
        by simp [effects, Lifecycle.wrapperDone, st], ?_⟩
      constructor <;> simp [wrapperDoneCb, st, hist, Job.places]
  all_goals
    refine ⟨{ next := job.jobState }, by simp [effects, Lifecycle.wrapperDone, st], ?_⟩
    constructor <;> simp [wrapperDoneCb, st]

/-- The statistics of a failed wrapper have no effect on the lifecycle. -/
@[simp] lemma wrapperFailedStats_frame {head : HistoryRecord} {past : List HistoryRecord} :
    (wrapperFailedStats w job head past).job.jobState = job.jobState ∧
    dmCalls (wrapperFailedStats w job head past).calls = [] ∧
    slotCalls (wrapperFailedStats w job head past).calls = [] ∧
    runningCalls (wrapperFailedStats w job head past).calls = [] ∧
    (Call.free ∈ (wrapperFailedStats w job head past).calls ↔ False) ∧
    (∀ code, Call.depCheck code ∈ (wrapperFailedStats w job head past).calls ↔ False) := by
  unfold wrapperFailedStats
  split <;> simp

lemma wrapperFailedCb_effect (live : Call.fault ∉ (wrapperFailedCb w job).calls) :
    HasEffect .wrapperFailed job (wrapperFailedCb w job) := by
  refine ⟨{ next := job.jobState, queued := [.epilogFail], pays := .head }, by simp [effects], ?_⟩
  cases hist : job.history with
  | nil =>
    by_cases st : job.jobState = .preWrapper ∨ job.jobState = .wrapper
    · simp [wrapperFailedCb, hist, st] at live
    · constructor <;> simp [wrapperFailedCb, hist, st, Job.places]
  | cons head past => constructor <;> simp [wrapperFailedCb, hist, Job.places]

lemma migrCancel_effect (live : Call.fault ∉ (migrCancel w job).calls) :
    HasEffect .migrCancel job (migrCancel w job) := by
  by_cases still : job.jobState = .wrapper ∧ job.emState ≠ .done
  · cases hist : job.history with
    | nil => simp [migrCancel, still, hist] at live
    | cons head past =>
      refine ⟨{ next := .migrCancel }, by simp [effects, still], ?_⟩
      constructor <;> simp [migrCancel, still, hist]
  · refine ⟨{ next := job.jobState }, ?_, ?_⟩
    · simp only [effects]
      rw [if_neg (by simpa using still)]
      exact List.mem_singleton.2 rfl
    · constructor <;> simp [migrCancel, still]

lemma stageOut_realises {files} (live : Call.fault ∉ (stageOut files w job).calls) :
    Realises { next := job.jobState } job (stageOut files w job) := by
  cases xs : files w job with
  | none => simp [stageOut, xs] at live
  | some xfrs => constructor <;> simp [stageOut, xs]

/-- A stamp of the records keeps everything but the statistics. -/
def Stamps (stamp : Job → Option Job) : Prop :=
  ∀ job job', stamp job = some job' →
    job'.jobState = job.jobState ∧ job'.userId = job.userId ∧ job'.places = job.places ∧
      job'.template = job.template

lemma stamps_some : Stamps some := by
  rintro job job' ⟨⟩
  exact ⟨rfl, rfl, rfl, rfl⟩

lemma stamps_head {f} : Stamps (stampHead f) := by
  intro job job' h
  cases hist : job.history with
  | nil => simp [stampHead, hist] at h
  | cons head past =>
    simp only [stampHead, hist, Option.some.injEq] at h
    subst h
    simp [Job.places, hist]

lemma stamps_prev {f} : Stamps (stampPrev f) := by
  intro job job' h
  rcases hist : job.history with _ | ⟨head, _ | ⟨prev, older⟩⟩
  · simp [stampPrev, hist] at h
  · simp [stampPrev, hist] at h
  · simp only [stampPrev, hist, Option.some.injEq] at h
    subst h
    simp [Job.places, hist]

lemma enterEpilog_realises {st stamp files} (stamps : Stamps stamp)
    (live : Call.fault ∉ (enterEpilog st stamp files w job).calls) :
    Realises { next := st } job (enterEpilog st stamp files w job) := by
  by_cases here : job.jobState = st
  · simp only [enterEpilog, here, if_true] at live ⊢
    exact here ▸ stageOut_realises live
  · cases stamped : stamp (job.setState st) with
    | none => simp [enterEpilog, here, stamped] at live
    | some job' =>
      obtain ⟨state, user, -, -⟩ := stamps _ _ stamped
      simp only [enterEpilog, here, if_false, stamped] at live ⊢
      have real := stageOut_realises (fun fault => live (List.mem_append_right _ fault))
      rw [state] at real
      exact real.after rfl user rfl rfl rfl (by simp) (by simp)

lemma epilog_realises (live : Call.fault ∉ (epilog w job).calls) :
    Realises { next := .epilog } job (epilog w job) := by
  unfold epilog at live ⊢
  by_cases std : job.jobState = .epilogStd
  · rw [if_pos std] at live ⊢
    exact enterEpilog_realises stamps_some live
  · by_cases here : job.jobState = .epilog
    · rw [if_neg std, if_pos here] at live ⊢
      exact here ▸ stageOut_realises live
    · rw [if_neg std, if_neg here] at live ⊢
      cases stamped : stampHead (epilogStart w) job with
      | none => simp [stamped] at live
      | some job' =>
        obtain ⟨-, user, places, tmpl⟩ := stamps_head _ _ stamped
        simp only [stamped] at live ⊢
        have real := enterEpilog_realises stamps_some live
        exact ⟨real.next, real.queued, real.pays, real.closes, real.frees, real.ends⟩

lemma setReason_stamps {reason} : Stamps (setReason reason) := by
  intro job job' h
  cases hist : job.history with
  | nil => simp [setReason, hist] at h
  | cons head past =>
    simp only [setReason, hist, Option.some.injEq] at h
    subst h
    simp [Job.places, hist]

/-- The exit times are written into the records; the state and the placements stay. -/
lemma epilogTimes_stamps : Stamps (epilogTimes w) := by
  intro job job' h
  unfold epilogTimes at h
  split at h
  · split at h
    · rename_i hist
      cases h
      simp [Job.places, hist]
    · cases h
  · exact stamps_some _ _ h
  · exact stamps_head _ _ h

/-- A reply that only queues an action. -/
lemma realises_queue {a} (job : Job) :
    Realises { next := job.jobState, queued := [a] } job ⟨job, [.dm a]⟩ := by
  constructor <;> simp

lemma restartExit_realises (live : Call.fault ∉ (restartExit job).calls) :
    ∃ eff ∈ exits job.jobState .none, Realises eff job (restartExit job) := by
  cases hist : job.history with
  | nil => simp [restartExit, hist] at live
  | cons head past =>
    by_cases moved : head.reason = .performance ∨ head.reason = .selfMigration
    · exact ⟨_, List.mem_cons_self, by simpa [restartExit, hist, moved] using realises_queue job⟩
    · rcases failureExit_cases job with out | out
      · refine ⟨_, List.mem_cons_self, ?_⟩
        simpa [restartExit, hist, moved, out] using realises_queue job
      · refine ⟨_, List.mem_cons_of_mem _ List.mem_cons_self, ?_⟩
        simpa [restartExit, hist, moved, out] using realises_queue job

lemma failureExit_realises (job : Job) :
    ∃ eff ∈ exits job.jobState .none, Realises eff job ⟨job, [.dm (failureExit job)]⟩ := by
  rcases failureExit_cases job with out | out <;> rw [out]
  · exact ⟨_, List.mem_cons_self, realises_queue job⟩
  · exact ⟨_, List.mem_cons_of_mem _ List.mem_cons_self, realises_queue job⟩

lemma migrated_realises (live : Call.fault ∉ (migrated job).calls) :
    Realises { next := job.jobState, queued := [.wrapper] } job (migrated job) := by
  rcases hist : job.history with _ | ⟨head, _ | ⟨prev, older⟩⟩
  · simp [migrated, hist] at live
  · simp [migrated, hist] at live
  · constructor <;> simp [migrated, hist]

/-- No end of an epilog pays slots. -/
lemma epilogOver_pays (st : JobState) : ∀ eff ∈ epilogOver st, eff.pays = .none := by
  cases st <;> decide

lemma parseWrapperStd_frame {job' ok} (parsed : parseWrapperStd w job = some (job', ok)) :
    job'.jobState = job.jobState ∧ job'.userId = job.userId ∧ job'.places = job.places ∧
      job'.template.np = job.template.np := by
  unfold parseWrapperStd at parsed
  split at parsed
  case h_3 =>
    cases parsed
    exact ⟨rfl, rfl, rfl, rfl⟩
  all_goals
    obtain ⟨job'', set, same⟩ := Option.map_eq_some_iff.1 parsed
    cases same
    obtain ⟨state, user, places, tmpl⟩ := setReason_stamps _ _ set
    exact ⟨state, user, places, by rw [tmpl]⟩

lemma epilogDoneExit_effect (live : Call.fault ∉ (epilogDoneExit w job).calls) :
    ∃ eff ∈ epilogOver job.jobState, Realises eff job (epilogDoneExit w job) := by
  unfold epilogDoneExit at live ⊢
  cases st : job.jobState <;> simp only [st] at live ⊢
  case epilog => exact ⟨_, List.mem_cons_self, st ▸ realises_queue job⟩
  case killEpilog => exact ⟨_, List.mem_cons_self, st ▸ realises_queue job⟩
  case stopEpilog => exact ⟨_, List.mem_cons_self, st ▸ realises_queue job⟩
  case migrEpilog => exact ⟨_, List.mem_cons_self, st ▸ migrated_realises live⟩
  case epilogFail => simpa only [epilogOver, st] using failureExit_realises job
  case epilogRestart => simpa only [epilogOver, st] using restartExit_realises live
  case epilogStd =>
    cases parsed : parseWrapperStd w job with
    | none => simp [parsed] at live
    | some out =>
      obtain ⟨job', ok⟩ := out
      obtain ⟨state, user, -, -⟩ := parseWrapperStd_frame parsed
      have real {a} : Realises { next := .epilogStd, queued := [a] } job ⟨job', [.dm a]⟩ :=
        (state.trans st ▸ realises_queue job').transfer rfl user
      cases ok
      · exact ⟨_, List.mem_cons_of_mem _ List.mem_cons_self, real⟩
      · exact ⟨_, List.mem_cons_self, real⟩
  all_goals exact ⟨_, List.mem_cons_self, by constructor <;> simp [st]⟩

lemma epilogFailedExit_effect (live : Call.fault ∉ (epilogFailedExit job).calls) :
    ∃ eff ∈ epilogOver job.jobState, Realises eff job (epilogFailedExit job) := by
  have failing {job' : Job} (set : setReason .executionError job = some job') {a} :
      Realises { next := job.jobState, queued := [a] } job ⟨job', [.dm a]⟩ := by
    obtain ⟨state, user, -, -⟩ := setReason_stamps _ _ set
    exact (state ▸ realises_queue job').transfer rfl user
  unfold epilogFailedExit at live ⊢
  cases st : job.jobState <;> simp only [st] at live ⊢
  case killEpilog => exact ⟨_, List.mem_cons_self, st ▸ realises_queue job⟩
  case stopEpilog => exact ⟨_, List.mem_cons_self, st ▸ realises_queue job⟩
  case migrEpilog => exact ⟨_, List.mem_cons_self, st ▸ migrated_realises live⟩
  case epilogRestart => simpa only [epilogOver, st] using restartExit_realises live
  case epilog =>
    cases set : setReason .executionError job with
    | none => simp [set] at live
    | some job' =>
      rcases failureExit_cases job' with out | out <;> simp only [out]
      · exact ⟨_, List.mem_cons_of_mem _ List.mem_cons_self, st ▸ failing set⟩
      · exact ⟨_, List.mem_cons_of_mem _ (List.mem_cons_of_mem _ List.mem_cons_self),
          st ▸ failing set⟩
  case epilogFail =>
    cases set : setReason .executionError job with
    | none => simp [set] at live
    | some job' =>
      rcases failureExit_cases job' with out | out <;> simp only [out]
      · exact ⟨_, List.mem_cons_self, st ▸ failing set⟩
      · exact ⟨_, List.mem_cons_of_mem _ List.mem_cons_self, st ▸ failing set⟩
  case epilogStd =>
    cases set : setReason .executionError job with
    | none => simp [set] at live
    | some job' => exact ⟨_, List.mem_cons_of_mem _ List.mem_cons_self, st ▸ failing set⟩
  all_goals exact ⟨_, List.mem_cons_self, by constructor <;> simp [st]⟩

/-- Outside the epilog states both callbacks do nothing. -/
lemma epilogOver_idle {st : JobState} (idle : ¬ isEpilog st) : epilogOver st = [{ next := st }] := by
  cases st <;> simp_all [isEpilog, epilogOver]

lemma realises_nothing (job : Job) : Realises { next := job.jobState } job ⟨job, []⟩ := by
  constructor <;> simp

/-- The two epilog callbacks: the times, and then a transition. -/
lemma epilogCb_effect {exit : Job → Reply} {r : Reply}
    (def_r : r = if isEpilog job.jobState then
      match epilogTimes w job with
      | none => .crash job
      | some job => exit job
      else ⟨job, []⟩)
    (exits : ∀ job, Call.fault ∉ (exit job).calls →
      ∃ eff ∈ epilogOver job.jobState, Realises eff job (exit job))
    (live : Call.fault ∉ r.calls) : ∃ eff ∈ epilogOver job.jobState, Realises eff job r := by
  by_cases inside : isEpilog job.jobState
  · rw [if_pos inside] at def_r
    cases times : epilogTimes w job with
    | none => simp [def_r, times] at live
    | some job' =>
      rw [times] at def_r
      subst def_r
      obtain ⟨state, user, -, -⟩ := epilogTimes_stamps _ _ times
      obtain ⟨eff, mem, real⟩ := exits job' live
      rw [state] at mem
      exact ⟨eff, mem, real.transfer (epilogOver_pays _ _ mem) user⟩
  · rw [if_neg inside] at def_r
    rw [epilogOver_idle inside, def_r]
    exact ⟨_, List.mem_cons_self, realises_nothing job⟩

lemma epilogDoneCb_effect (live : Call.fault ∉ (epilogDoneCb w job).calls) :
    HasEffect .epilogDone job (epilogDoneCb w job) :=
  epilogCb_effect rfl (fun _ => epilogDoneExit_effect) live

lemma epilogFailedCb_effect (live : Call.fault ∉ (epilogFailedCb w job).calls) :
    HasEffect .epilogFailed job (epilogFailedCb w job) :=
  epilogCb_effect rfl (fun _ => epilogFailedExit_effect) live

lemma stopped_effect (live : Call.fault ∉ (stopped w job).calls) :
    HasEffect .stopped job (stopped w job) := by
  refine ⟨_, List.mem_cons_self, ?_⟩
  cases hist : job.history with
  | nil => simp [stopped, closeDispatch, hist] at live
  | cons head past => constructor <;> simp [stopped, closeDispatch, hist]

@[simp] lemma reportFailure_frame {head : HistoryRecord} :
    dmCalls (reportFailure job head) = [] ∧ slotCalls (reportFailure job head) = [] ∧
    runningCalls (reportFailure job head) = [] ∧
    (Call.free ∈ reportFailure job head ↔ False) ∧
    (∀ code, Call.depCheck code ∈ reportFailure job head ↔ False) ∧
    (Call.fault ∈ reportFailure job head ↔ False) := by
  unfold reportFailure
  split <;> simp

lemma failed_effect (live : Call.fault ∉ (failed w job).calls) :
    HasEffect .failed job (failed w job) := by
  refine ⟨_, List.mem_cons_self, ?_⟩
  cases hist : job.history with
  | nil => simp [failed, closeDispatch, hist] at live
  | cons head past =>
    by_cases waiting : job.clientWaiting > 0 <;>
      constructor <;> simp [failed, closeDispatch, hist, waiting]

lemma pending_effect (live : Call.fault ∉ (pending w job).calls) :
    HasEffect .pending job (pending w job) := by
  refine ⟨_, List.mem_cons_self, ?_⟩
  cases hist : job.history with
  | nil => simp [pending, closeDispatch, hist] at live
  | cons head past => constructor <;> simp [pending, closeDispatch, hist]

lemma zombie_effect (live : Call.fault ∉ (zombie w job).calls) :
    HasEffect .zombie job (zombie w job) := by
  cases st : job.jobState
  case epilog =>
    cases hist : job.history with
    | nil => simp [zombie, st, hist] at live
    | cons head past =>
      by_cases waiting : job.clientWaiting > 0
      · refine ⟨{ next := .zombie, closes := true }, by simp [effects, Lifecycle.zombie, st], ?_⟩
        constructor <;> simp [zombie, st, hist, waiting]
      · cases dispose : w.dispose
        · refine ⟨{ next := .zombie, closes := true }, by simp [effects, Lifecycle.zombie, st], ?_⟩
          constructor <;> simp [zombie, st, hist, waiting, dispose]
        · refine ⟨{ next := .zombie, queued := [.kill], closes := true },
            by simp [effects, Lifecycle.zombie, st], ?_⟩
          constructor <;> simp [zombie, st, hist, waiting, dispose]
  case killEpilog =>
    refine ⟨{ next := .zombie, closes := true, frees := true },
      by simp [effects, Lifecycle.zombie, st], ?_⟩
    cases hist : job.history with
    | nil => simp [zombie, closeDispatch, st, hist] at live
    | cons head past => constructor <;> simp [zombie, closeDispatch, st, hist, dispose]
  all_goals
    refine ⟨{ next := job.jobState }, by simp [effects, Lifecycle.zombie, st], ?_⟩
    constructor <;> simp [zombie, st]

/-- The Dispatch Manager refines the lifecycle: a handler that does not crash has one of the
effects of its action. -/
theorem handle_effect {a : DmAction} (live : Call.fault ∉ (handle a w job).calls) :
    HasEffect a job (handle a w job) := by
  cases a
  case hold => exact hold_effect (w := w)
  case release => exact release_effect (w := w)
  case stop => exact stop_effect (w := w)
  case resume => exact resume_effect (w := w)
  case kill => exact kill_effect (w := w)
  case killHard => exact killHard_effect live
  case wait => exact wait_effect (w := w)
  case reschedule => exact reschedule_effect (w := w) live
  case prologDone => exact prologDoneCb_effect live
  case prologFailed => exact prologFailedCb_effect live
  case epilogDone => exact epilogDoneCb_effect live
  case epilogFailed => exact epilogFailedCb_effect live
  case wrapperDone => exact wrapperDoneCb_effect live
  case wrapperFailed => exact wrapperFailedCb_effect live
  case prolog => exact prolog_effect live
  case migrProlog => exact migrProlog_effect live
  case preWrapper => exact ⟨_, List.mem_cons_self, execute_realises live⟩
  case wrapper => exact ⟨_, List.mem_cons_self, execute_realises live⟩
  case epilog => exact ⟨_, List.mem_cons_self, epilog_realises live⟩
  case epilogStd => exact ⟨_, List.mem_cons_self, enterEpilog_realises stamps_head live⟩
  case migrEpilog => exact ⟨_, List.mem_cons_self, enterEpilog_realises stamps_prev live⟩
  case stopEpilog => exact ⟨_, List.mem_cons_self, enterEpilog_realises stamps_head live⟩
  case killEpilog => exact ⟨_, List.mem_cons_self, enterEpilog_realises stamps_head live⟩
  case epilogFail => exact ⟨_, List.mem_cons_self, enterEpilog_realises stamps_head live⟩
  case epilogRestart => exact ⟨_, List.mem_cons_self, enterEpilog_realises stamps_some live⟩
  case migrCancel => exact migrCancel_effect live
  case pending => exact pending_effect (w := w) live
  case zombie => exact zombie_effect live
  case failed => exact failed_effect live
  case stopped => exact stopped_effect (w := w) live

end Dm

end GridWay
