import GridWay.Tm.Action

/-!
# What the Transfer Manager writes

The Transfer Manager writes the fields of the transfers and the time of the last checkpoint, sends
requests to the transfer drivers, and reports to the Dispatch Manager by callbacks.

* `Tm.Own`: a reply that does no more.
* `Tm.handle_own`, `Tm.timer_own`, `Tm.listener_own`.
-/

namespace GridWay

/-- The callbacks of the Transfer Manager. -/
abbrev tmCallbacks : List DmAction := [.prologDone, .prologFailed, .epilogDone, .epilogFailed]

/-- A call of the Transfer Manager. -/
@[simp] def Call.transfer : Call → Bool
  | .dm a => a ∈ tmCallbacks
  | .tmMad _ _ => true
  | .fault => true
  | _ => false

namespace Tm

/-- The job `job'` with the fields of the transfers of `job`. -/
def ownOf (job job' : Job) : Job :=
  { job' with
    tmState := job.tmState
    xfrs := job.xfrs
    chkXfrs := job.chkXfrs
    lastCheckpointTime := job.lastCheckpointTime }

/-- A reply of the Transfer Manager. -/
structure Own (job : Job) (r : Reply) : Prop where
  rest : ownOf job r.job = job
  calls : r.calls.all Call.transfer = true

namespace Own

variable {job job' : Job} {r : Reply}

lemma of_mem (h : Own job r) {c : Call} (mem : c ∈ r.calls) : c.transfer = true :=
  List.all_eq_true.1 h.calls c mem

/-- A reply for a job that differs in the fields of the transfers. -/
lemma of_same (h : Own job' r) (same : ownOf job job' = job) : Own job r where
  rest := (congrArg (ownOf job) h.rest).trans same
  calls := h.calls

lemma history (h : Own job r) : r.job.history = job.history := (congrArg Job.history h.rest :)

lemma emState (h : Own job r) : r.job.emState = job.emState := (congrArg Job.emState h.rest :)

lemma core (h : Own job r) : r.job.core = job.core := (congrArg Job.core h.rest :)

lemma jobState (h : Own job r) : r.job.jobState = job.jobState := (congrArg Job.jobState h.rest :)

lemma restarted (h : Own job r) : r.job.restarted = job.restarted := (congrArg Job.restarted h.rest :)

end Own

variable {w : World} {job : Job}

lemma startXfr_transfer {urls mad mode i x} :
    (startXfr urls mad mode i x).2.all Call.transfer = true := by
  unfold startXfr
  repeat' split
  all_goals rfl

@[simp] lemma startXfrs_transfer {urls mad mode i} {xs : List Xfr} :
    (startXfrs urls mad mode i xs).2.all Call.transfer = true := by
  induction xs generalizing i with
  | nil => rfl
  | cons x xs ih =>
    simp only [startXfrs, List.all_append, ih, Bool.and_true]
    exact startXfr_transfer

lemma prologVerdict_own {head} : Own job (prologVerdict job head) := by
  unfold prologVerdict
  split <;> exact ⟨rfl, rfl⟩

lemma epilogFinish_own {head rdir} : Own job (epilogFinish job head rdir) := by
  unfold epilogFinish
  split <;> exact ⟨rfl, rfl⟩

lemma epilogGiveUp_own {head rdir} : Own job (epilogGiveUp job head rdir) := by
  unfold epilogGiveUp
  split <;> exact ⟨rfl, rfl⟩

lemma epilogVerdict_own {head rdir} :
    Own job (epilogVerdict job head rdir) := by
  unfold epilogVerdict
  split
  · exact epilogGiveUp_own
  · exact epilogFinish_own

/-- The transfers that are started, in front of what follows. -/
lemma after_start {job' : Job} {r : Reply} {cs : List Call} (h : Own job' r)
    (same : ownOf job job' = job) (transfer : cs.all Call.transfer = true) :
    Own job (r.after cs) where
  rest := (h.of_same same).rest
  calls := by simp only [Reply.after_calls, List.all_append, h.calls, transfer, Bool.and_self]

lemma prologStageIn_own : Own job (prologStageIn w job) := by
  unfold prologStageIn
  split
  · exact ⟨rfl, rfl⟩
  · dsimp only
    split
    · exact prologVerdict_own.of_same rfl
    · exact ⟨rfl, startXfrs_transfer⟩

lemma prologCpFailed_transfer {head i x x' cs}
    (failed : prologCpFailed w job head i x = some (x', cs)) :
    cs.all Call.transfer = true := by
  unfold prologCpFailed at failed
  dsimp only at failed
  repeat' split at failed
  all_goals
    cases failed
    try rfl

lemma prologCpCb_own {i failure} : Own job (prologCpCb w i failure job) := by
  unfold prologCpCb
  split
  · exact ⟨rfl, rfl⟩
  · split
    · exact ⟨rfl, rfl⟩
    · split
      · exact ⟨rfl, rfl⟩
      · rename_i x' cs outcome
        have transfer : cs.all Call.transfer = true := by
          split at outcome
          · exact prologCpFailed_transfer outcome
          · cases outcome
            rfl
        dsimp only
        split
        · exact after_start prologVerdict_own rfl transfer
        · exact ⟨rfl, transfer⟩

lemma epilogStageOut_own : Own job (epilogStageOut w job) := by
  unfold epilogStageOut
  split
  · exact ⟨rfl, rfl⟩
  · split
    · exact ⟨rfl, rfl⟩
    · split
      · exact epilogFinish_own
      · dsimp only
        split
        · exact after_start epilogGiveUp_own rfl startXfrs_transfer
        · exact ⟨rfl, startXfrs_transfer⟩

lemma epilogCpCb_own {i failure} : Own job (epilogCpCb i failure job) := by
  unfold epilogCpCb
  split
  · exact ⟨rfl, rfl⟩
  · split
    · exact ⟨rfl, rfl⟩
    · rename_i x _
      generalize (if failure then epilogCpFailed job x else (Xfr.close true x, true)) = out
      dsimp only
      split
      · split
        · exact ⟨rfl, rfl⟩
        · exact epilogVerdict_own.of_same rfl
      · exact ⟨rfl, rfl⟩

lemma checkpointVerdict_own {head} :
    Own job (checkpointVerdict w job head) := by
  unfold checkpointVerdict
  split
  · exact epilogStageOut_own.of_same rfl
  · exact ⟨rfl, rfl⟩

lemma checkpointCp_own : Own job (checkpointCp w job) := by
  unfold checkpointCp
  split
  · exact ⟨rfl, rfl⟩
  · split
    · exact ⟨rfl, rfl⟩
    · dsimp only
      split
      · exact after_start checkpointVerdict_own rfl startXfrs_transfer
      · exact ⟨rfl, startXfrs_transfer⟩

lemma checkpointCpCb_own {i failure} :
    Own job (checkpointCpCb w i failure job) := by
  unfold checkpointCpCb
  split
  · exact ⟨rfl, rfl⟩
  · split
    · exact ⟨rfl, rfl⟩
    · rename_i x _
      generalize (if failure then epilogCpFailed job x else (Xfr.close true x, true)) = out
      dsimp only
      split
      · exact checkpointVerdict_own.of_same rfl
      · exact ⟨rfl, rfl⟩

lemma prolog_own : Own job (prolog w job) := by
  unfold prolog
  split
  · exact ⟨rfl, rfl⟩
  · split <;> exact ⟨rfl, rfl⟩

lemma epilog_own : Own job (epilog w job) := by
  unfold epilog
  repeat' split
  all_goals exact ⟨rfl, rfl⟩

/-- The handlers write the fields of the transfers only. -/
theorem handle_own (a : TmAction) (w : World) (job : Job) :
    Own job (handle a w job) := by
  cases a
  case prolog => exact prolog_own (w := w)
  case epilog => exact epilog_own (w := w)

lemma tickXfr_transfer {urls mad mode i x x' cs}
    (tick : tickXfr urls mad mode i x = some (x', cs)) :
    cs.all Call.transfer = true := by
  unfold tickXfr at tick
  repeat' split at tick
  all_goals
    cases tick
    try rfl

lemma tickXfrs_transfer {urls mad mode i xs xs' cs}
    (tick : tickXfrs urls mad mode i xs = some (xs', cs)) :
    cs.all Call.transfer = true := by
  induction xs generalizing i xs' cs with
  | nil =>
    cases tick
    rfl
  | cons x xs ih =>
    simp only [tickXfrs, Option.bind_eq_bind, Option.bind_eq_some_iff, Prod.exists] at tick
    obtain ⟨x', cs', head, xs'', cs'', tail, same⟩ := tick
    cases same
    simp only [List.all_append, tickXfr_transfer head, ih tail, Bool.and_self]

lemma tick_own : Own job (tick w job) := by
  unfold tick
  split
  · split
    · exact ⟨rfl, rfl⟩
    · split
      · exact ⟨rfl, rfl⟩
      · rename_i ticked
        exact ⟨rfl, tickXfrs_transfer ticked⟩
  · split
    · split
      · exact ⟨rfl, rfl⟩
      · rename_i ticked
        exact ⟨rfl, tickXfrs_transfer ticked⟩
    · exact ⟨rfl, rfl⟩
  · split
    · split
      · exact ⟨rfl, rfl⟩
      · rename_i ticked
        exact ⟨rfl, tickXfrs_transfer ticked⟩
    · exact ⟨rfl, rfl⟩
  · exact ⟨rfl, rfl⟩

/-- The timer only sends requests to the drivers. -/
theorem timer_own (w : World) (job : Job) : Own job (timer w job) := by
  unfold timer
  split
  · split
    · split <;> exact ⟨rfl, rfl⟩
    · exact ⟨rfl, rfl⟩
  · exact tick_own

lemma startCb_own {msg} : Own job (startCb w msg job) := by
  unfold startCb
  split
  · split
    · exact ⟨rfl, rfl⟩
    · split <;> exact ⟨rfl, rfl⟩
  · split
    · exact ⟨rfl, rfl⟩
    · exact epilogStageOut_own
  · split
    · exact ⟨rfl, rfl⟩
    · exact checkpointCp_own
  · exact ⟨rfl, rfl⟩

lemma rmdirCb_own {msg} : Own job (rmdirCb msg job) := by
  unfold rmdirCb
  repeat' split
  all_goals exact ⟨rfl, rfl⟩

lemma mkdirCb_own {msg} : Own job (mkdirCb w msg job) := by
  unfold mkdirCb
  split
  · split
    · exact ⟨rfl, rfl⟩
    · exact prologStageIn_own
  · exact ⟨rfl, rfl⟩

lemma endCb_own : Own job (endCb job) := by
  unfold endCb
  repeat' split
  all_goals exact ⟨rfl, rfl⟩

/-- A message of a transfer driver leaves the rest of the job alone. -/
theorem listener_own (msg : Msg) (w : World) (job : Job) :
    Own job (listener msg w job) := by
  unfold listener
  split
  · exact ⟨rfl, rfl⟩
  · split
    · exact startCb_own
    · exact endCb_own
    · exact mkdirCb_own
    · exact rmdirCb_own
    · unfold cpCb
      split
      · exact prologCpCb_own
      · exact epilogCpCb_own
      · exact checkpointCpCb_own
      · exact ⟨rfl, rfl⟩

end Tm

end GridWay
