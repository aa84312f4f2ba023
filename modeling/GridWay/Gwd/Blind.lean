import GridWay.Gwd.Turn

/-!
# What the reschedule flag decides

The flag `reschedule` of a job only decides whether the scheduler is told that the job is gone.

* `Reply.hush`: a reply without the flag and without the messages to the scheduler.
* `Turn.handler_hush`: no handler looks at the flag otherwise.
-/

namespace GridWay

/-- The job with another reschedule flag. -/
def Job.flag (b : Bool) (job : Job) : Job := { job with reschedule := b }

/-- A message to the scheduler. -/
@[simp] def Call.told : Call → Bool
  | .sched _ => true
  | _ => false

namespace Reply

def flag (b : Bool) (r : Reply) : Reply := ⟨r.job.flag b, r.calls⟩

/-- What is left of a reply without the flag and without the messages to the scheduler. -/
def hush (r : Reply) : Reply := ⟨r.job.flag false, r.calls.filter fun c => !c.told⟩

lemma flag_after (b : Bool) (cs : List Call) (r : Reply) :
    (r.after cs).flag b = (r.flag b).after cs := rfl

lemma hush_flag (b : Bool) (r : Reply) : (r.flag b).hush = r.hush := rfl

end Reply

/-- A handler that hands the flag on. -/
def Carries (f : World → Job → Reply) : Prop := ∀ b w job, f w (job.flag b) = (f w job).flag b

/-- A handler that looks at the flag for a message to the scheduler at most. -/
def Hushes (f : World → Job → Reply) : Prop :=
  ∀ b w job, (f w (job.flag b)).hush = (f w job).hush

/-- Jobs that differ in the flag. -/
lemma Hushes.congr {f : World → Job → Reply} (hushes : Hushes f) {job job' : Job}
    (alike : job.flag false = job'.flag false) (w : World) : (f w job).hush = (f w job').hush := by
  rw [← hushes false w job, alike, hushes false w job']

lemma Carries.hushes {f : World → Job → Reply} (carries : Carries f) : Hushes f := by
  intro b w job
  rw [carries, Reply.hush_flag]

namespace Dm

lemma stageIn_carries : Carries stageIn := by
  intro b w job
  have files : prologSetFiles w (job.flag b) = prologSetFiles w job := rfl
  unfold stageIn
  rw [files]
  repeat' split
  all_goals rfl

lemma enterProlog_flag (b : Bool) (w : World) (st : JobState) (job : Job) :
    enterProlog w st (job.flag b) = (enterProlog w st job).flag b := by
  unfold enterProlog Job.flag
  dsimp only [Job.setState]
  split
  · rfl
  · rw [Reply.flag_after, ← stageIn_carries]
    rfl

lemma prolog_carries : Carries prolog := by
  intro b w job
  have state : (job.flag b).jobState = job.jobState := rfl
  unfold prolog
  rw [stageIn_carries, enterProlog_flag, state]
  split
  all_goals rfl

lemma prologDoneCb_carries : Carries prologDoneCb := by
  intro b w job
  unfold prologDoneCb Job.flag
  dsimp only
  repeat' split
  all_goals rfl

lemma prologFailedCb_carries : Carries prologFailedCb := by
  intro b w job
  unfold prologFailedCb Job.flag
  dsimp only
  repeat' split
  all_goals rfl

lemma execute_carries (st : JobState) (f : World → Stats → Stats) :
    Carries fun w => execute st (f w) := by
  intro b w job
  unfold execute Job.flag
  dsimp only
  split
  all_goals rfl

/-- A job that is taken from the scheduler has no flag, whether the scheduler is told or not. -/
lemma cancelReschedule_eq (job : Job) : cancelReschedule job =
    ⟨job.flag false, if job.reschedule then [.sched (.jobDel job.id)] else []⟩ := by
  unfold cancelReschedule
  split
  · rfl
  · rename_i unset
    rw [Job.flag, ← (Bool.not_eq_true _).mp unset]

/-- What is left of a reply with the message that takes the job from the scheduler. -/
lemma hush_cancel (job : Job) (b : Bool) (m : SchedMsg) (before after : List Call) :
    Reply.hush ⟨job, before ++ (if b then [.sched m] else []) ++ after⟩ =
      Reply.hush ⟨job, before ++ after⟩ := by
  cases b <;> simp [Reply.hush]

lemma wrapperDoneCb_hushes : Hushes wrapperDoneCb := by
  intro b w job
  unfold wrapperDoneCb Job.flag
  dsimp only
  split
  case h_2 =>
    split
    · rfl
    · rw [cancelReschedule_eq, cancelReschedule_eq]
      exact (hush_cancel _ b _ [_] [_]).trans (hush_cancel _ job.reschedule _ [_] [_]).symm
  all_goals
    repeat' split
    all_goals rfl

lemma wrapperFailedCb_hushes : Hushes wrapperFailedCb := by
  intro b w job
  unfold wrapperFailedCb wrapperFailedStats Job.flag
  dsimp only
  split
  · split
    all_goals rfl
  · split
    case h_2 =>
      rw [cancelReschedule_eq, cancelReschedule_eq]
      exact (hush_cancel _ b _ [] [_, _]).trans (hush_cancel _ job.reschedule _ [] [_, _]).symm
    all_goals rfl

lemma cancelExecution_hushes (st : JobState) (reason : Reason) :
    Hushes fun _ => cancelExecution st reason := by
  intro b w job
  have marked : (markReason reason (job.flag b)).setState st =
      ((markReason reason job).setState st).flag b := by
    unfold markReason Job.flag
    dsimp only
    split
    all_goals rfl
  unfold cancelExecution
  dsimp only
  rw [marked, cancelReschedule_eq, cancelReschedule_eq]
  exact (hush_cancel _ b _ [_] [_]).trans
    (hush_cancel _ ((markReason reason job).setState st).reschedule _ [_] [_]).symm

lemma kill_hushes : Hushes kill := by
  intro b w job
  have state : (job.flag b).jobState = job.jobState := rfl
  unfold kill
  rw [state]
  split
  case h_7 => exact cancelExecution_hushes .killCancel .kill b w job
  all_goals rfl

lemma stop_hushes : Hushes stop := by
  intro b w job
  have state : (job.flag b).jobState = job.jobState := rfl
  unfold stop
  rw [state]
  split
  · exact cancelExecution_hushes .stopCancel .stopResume b w job
  · rfl

lemma migrCancel_carries : Carries migrCancel := by
  intro b w job
  unfold migrCancel Job.flag
  dsimp only
  repeat' split
  all_goals rfl

/-- The files of an epilog do not depend on the flag. -/
lemma stageOut_carries {files : World → Job → Option Xfrs}
    (same : ∀ b w job, files w (job.flag b) = files w job) : Carries (stageOut files) := by
  intro b w job
  unfold stageOut
  rw [same]
  split
  all_goals rfl

lemma enterEpilog_carries {st : JobState} (stamp : World → Job → Option Job)
    {files : World → Job → Option Xfrs}
    (stamps : ∀ b w job, stamp w (job.flag b) = (stamp w job).map (Job.flag b))
    (same : ∀ b w job, files w (job.flag b) = files w job) :
    Carries fun w => enterEpilog st (stamp w) files w := by
  intro b w job
  have set : (job.flag b).setState st = (job.setState st).flag b := rfl
  have state : (job.flag b).jobState = job.jobState := rfl
  unfold enterEpilog
  dsimp only
  rw [stageOut_carries same, set, stamps, state]
  split
  · rfl
  · cases stamp w (job.setState st) with
    | none => rfl
    | some job' =>
      dsimp only [Option.map_some]
      rw [stageOut_carries same]
      rfl

lemma stampHead_flag (f : World → Stats → Stats) (b : Bool) (w : World) (job : Job) :
    stampHead (f w) (job.flag b) = (stampHead (f w) job).map (Job.flag b) := by
  unfold stampHead Job.flag
  dsimp only
  split
  all_goals rfl

lemma stampPrev_flag (f : World → Stats → Stats) (b : Bool) (w : World) (job : Job) :
    stampPrev (f w) (job.flag b) = (stampPrev (f w) job).map (Job.flag b) := by
  unfold stampPrev Job.flag
  dsimp only
  split
  all_goals rfl

lemma epilogStd_carries : Carries epilogStd :=
  enterEpilog_carries _ (stampHead_flag epilogStart) fun _ _ _ => rfl

lemma migrEpilog_carries : Carries migrEpilog :=
  enterEpilog_carries _ (stampPrev_flag epilogStart) fun _ _ _ => rfl

lemma stopEpilog_carries : Carries stopEpilog :=
  enterEpilog_carries _ (stampHead_flag epilogStart) fun _ _ _ => rfl

lemma killEpilog_carries : Carries killEpilog :=
  enterEpilog_carries _ (stampHead_flag epilogStart) fun _ _ _ => rfl

lemma epilogFail_carries : Carries epilogFail :=
  enterEpilog_carries _ (stampHead_flag epilogStart) fun _ _ _ => rfl

lemma epilogRestart_carries : Carries epilogRestart :=
  enterEpilog_carries (fun _ => some) (fun _ _ _ => rfl) fun _ _ _ => rfl

lemma epilog_carries : Carries epilog := by
  intro b w job
  have out : Carries (stageOut epilogFiles) := stageOut_carries fun _ _ _ => rfl
  have enter : Carries (enterEpilog .epilog some epilogFiles) :=
    enterEpilog_carries (fun _ => some) (fun _ _ _ => rfl) fun _ _ _ => rfl
  have state : (job.flag b).jobState = job.jobState := rfl
  unfold epilog
  rw [out, enter, state, stampHead_flag epilogStart]
  split
  · rfl
  · split
    · rfl
    · cases stampHead (epilogStart w) job with
      | none => rfl
      | some job' => exact enter b w job'

lemma epilogTimes_flag (b : Bool) (w : World) (job : Job) :
    epilogTimes w (job.flag b) = (epilogTimes w job).map (Job.flag b) := by
  have state : (job.flag b).jobState = job.jobState := rfl
  have history : (job.flag b).history = job.history := rfl
  unfold epilogTimes
  rw [stampHead_flag fun w s => { s with epilogExitTime := w.now, exitTime := w.now }, state,
    history]
  split
  · split
    all_goals rfl
  all_goals rfl

lemma setReason_flag (b : Bool) (reason : Reason) (job : Job) :
    setReason reason (job.flag b) = (setReason reason job).map (Job.flag b) := by
  unfold setReason Job.flag
  dsimp only
  split
  all_goals rfl

lemma parseWrapperStd_flag (b : Bool) (w : World) (job : Job) :
    parseWrapperStd w (job.flag b) =
      (parseWrapperStd w job).map fun r => (r.1.flag b, r.2) := by
  unfold parseWrapperStd
  dsimp only
  split
  case h_1 newReqs newRank _ =>
    have set := setReason_flag b .selfMigration { job with
      template := { job.template with
        requirements := newReqs <|> job.template.requirements
        rank := newRank <|> job.template.rank } }
    refine (congrArg (Option.map (·, false)) set).trans ?_
    rw [Option.map_map, Option.map_map]
    rfl
  case h_3 => rfl
  all_goals
    rw [setReason_flag, Option.map_map, Option.map_map]
    rfl

lemma migrated_flag (b : Bool) (job : Job) : migrated (job.flag b) = (migrated job).flag b := by
  unfold migrated Job.flag
  dsimp only
  split
  all_goals rfl

lemma restartExit_flag (b : Bool) (job : Job) :
    restartExit (job.flag b) = (restartExit job).flag b := by
  unfold restartExit Job.flag
  dsimp only
  repeat' split
  all_goals rfl

lemma epilogDoneExit_carries : Carries epilogDoneExit := by
  intro b w job
  have state : (job.flag b).jobState = job.jobState := rfl
  unfold epilogDoneExit
  rw [state, migrated_flag, restartExit_flag, parseWrapperStd_flag]
  split
  case h_7 => cases parseWrapperStd w job <;> rfl
  all_goals rfl

lemma epilogDoneCb_carries : Carries epilogDoneCb := by
  intro b w job
  have state : (job.flag b).jobState = job.jobState := rfl
  unfold epilogDoneCb
  rw [state, epilogTimes_flag]
  split
  · cases epilogTimes w job with
    | none => rfl
    | some job' => exact epilogDoneExit_carries b w job'
  · rfl

lemma epilogFailedExit_flag (b : Bool) (job : Job) :
    epilogFailedExit (job.flag b) = (epilogFailedExit job).flag b := by
  have state : (job.flag b).jobState = job.jobState := rfl
  unfold epilogFailedExit
  rw [state, migrated_flag, restartExit_flag, setReason_flag]
  cases setReason .executionError job
  all_goals
    split
    all_goals rfl

lemma epilogFailedCb_carries : Carries epilogFailedCb := by
  intro b w job
  have state : (job.flag b).jobState = job.jobState := rfl
  unfold epilogFailedCb
  rw [state, epilogTimes_flag]
  split
  · cases epilogTimes w job with
    | none => rfl
    | some job' => exact epilogFailedExit_flag b job'
  · rfl

lemma zombie_carries : Carries zombie := by
  intro b w job
  unfold zombie Job.flag
  dsimp only [Job.setState]
  repeat' split
  all_goals rfl

lemma killHard_carries : Carries killHard := by
  intro b w job
  unfold killHard Job.flag
  dsimp only
  repeat' split
  all_goals rfl

lemma reschedule_hushes : Hushes reschedule := by
  intro b w job
  unfold reschedule Job.flag
  dsimp only [Job.setState]
  repeat' split
  all_goals rfl

lemma hold_carries : Carries hold := by
  intro b w job
  unfold hold Job.flag
  dsimp only
  split
  all_goals rfl

lemma release_carries : Carries release := by
  intro b w job
  unfold release Job.flag
  dsimp only
  split
  all_goals rfl

lemma resume_carries : Carries resume := by
  intro b w job
  unfold resume Job.flag
  dsimp only
  split
  all_goals rfl

lemma historyAdd_flag (b : Bool) (w : World) (hid : HostId) (host : Host) (rank : Int)
    (queue : String) (job : Job) : historyAdd w hid host rank queue (job.flag b) =
      ((historyAdd w hid host rank queue job).1.flag b,
        (historyAdd w hid host rank queue job).2) := by
  unfold historyAdd
  split
  all_goals rfl

lemma uncheckJob_hushes : Hushes uncheckJob := by
  intro b w job
  unfold uncheckJob Job.flag
  dsimp only
  repeat' split
  all_goals rfl

lemma dispatchJob_hushes (hid : HostId) (host : Host) (rank : Int) (queue : String) :
    Hushes (dispatchJob hid host rank queue) := by
  intro b w job
  have state : (job.flag b).jobState = job.jobState := rfl
  have active : nowActive (job.flag b) = nowActive job := rfl
  unfold dispatchJob
  rw [state, active, historyAdd_flag]
  dsimp only
  split
  · split
    all_goals rfl
  · split
    · exact uncheckJob_hushes b w job
    · split
      all_goals rfl
  · rfl

lemma checkJobSuspension_hushes : Hushes checkJobSuspension := by
  intro b w job
  unfold checkJobSuspension Job.flag
  dsimp only
  repeat' split
  all_goals rfl

lemma checkJobRescheduling_hushes : Hushes checkJobRescheduling := by
  intro b w job
  unfold checkJobRescheduling Job.flag
  dsimp only
  repeat' split
  all_goals rfl

lemma hush_after {cs cs' : List Call} {r r' : Reply}
    (calls : cs.filter (fun c => !c.told) = cs'.filter fun c => !c.told) (same : r.hush = r'.hush) :
    (r.after cs).hush = (r'.after cs').hush := by
  obtain ⟨job, rest⟩ := Reply.mk.inj same
  simp only [Reply.hush, Reply.after, List.filter_append, calls, job, rest]

lemma checkJob_hushes : Hushes checkJob := by
  intro b w job
  have state : (job.flag b).jobState = job.jobState := rfl
  have reason : (job.flag b).reason = job.reason := rfl
  unfold checkJob
  rw [state, reason]
  split
  · obtain ⟨left, calls⟩ := Reply.mk.inj (checkJobSuspension_hushes b w job)
    exact hush_after calls (checkJobRescheduling_hushes.congr left w)
  · rfl

lemma handle_hushes (a : DmAction) : Hushes (handle a) := by
  cases a
  case hold => exact hold_carries.hushes
  case release => exact release_carries.hushes
  case stop => exact stop_hushes
  case resume => exact resume_carries.hushes
  case kill => exact kill_hushes
  case killHard => exact killHard_carries.hushes
  case reschedule => exact reschedule_hushes
  case prologDone => exact prologDoneCb_carries.hushes
  case prologFailed => exact prologFailedCb_carries.hushes
  case epilogDone => exact epilogDoneCb_carries.hushes
  case epilogFailed => exact epilogFailedCb_carries.hushes
  case wrapperDone => exact wrapperDoneCb_hushes
  case wrapperFailed => exact wrapperFailedCb_hushes
  case prolog => exact prolog_carries.hushes
  case migrProlog => exact (fun b w job => by rw [handle, migrProlog, enterProlog_flag]; rfl)
  case preWrapper => exact (execute_carries .preWrapper _).hushes
  case wrapper => exact (execute_carries .wrapper _).hushes
  case epilog => exact epilog_carries.hushes
  case epilogStd => exact epilogStd_carries.hushes
  case migrEpilog => exact migrEpilog_carries.hushes
  case stopEpilog => exact stopEpilog_carries.hushes
  case killEpilog => exact killEpilog_carries.hushes
  case epilogFail => exact epilogFail_carries.hushes
  case epilogRestart => exact epilogRestart_carries.hushes
  case migrCancel => exact migrCancel_carries.hushes
  case zombie => exact zombie_carries.hushes
  all_goals exact (fun b w job => rfl)

end Dm

namespace Em

lemma handle_carries (a : EmAction) : Carries (handle a) := by
  intro b w job
  cases a
  case submit =>
    unfold handle submit Job.flag
    dsimp only
    repeat' split
    all_goals rfl
  case cancel =>
    have history : (job.flag b).history = job.history := rfl
    have mad (history : List HistoryRecord) :
        execMad { job.flag b with history } = execMad { job with history } := rfl
    unfold handle cancel
    dsimp only
    rw [history]
    split
    · rfl
    · rw [mad]
      unfold Job.flag
      repeat' split
      all_goals rfl
  case pending =>
    unfold handle pending Job.flag
    dsimp only
    repeat' split
    all_goals rfl
  case active =>
    unfold handle active Job.flag
    dsimp only
    repeat' split
    all_goals rfl
  case suspended =>
    unfold handle suspended Job.flag
    dsimp only
    repeat' split
    all_goals rfl
  case done =>
    unfold handle done Job.flag
    dsimp only
    repeat' split
    all_goals rfl
  case failed =>
    unfold handle failed Job.flag
    dsimp only
    repeat' split
    all_goals rfl

lemma timer_carries : Carries timer := by
  intro b w job
  have mad : execMad (job.flag b) = execMad job := rfl
  unfold timer
  rw [mad]
  unfold Job.flag
  dsimp only
  repeat' split
  all_goals rfl

lemma report_carries {f : Job → Reply} (carries : ∀ b job, f (job.flag b) = (f job).flag b)
    (info : String) (b : Bool) (job : Job) :
    report info f (job.flag b) = (report info f job).flag b := by
  unfold report
  rw [carries]
  repeat' split
  all_goals rfl

lemma pollFailed_carries : Carries pollFailed := by
  intro b w job
  unfold pollFailed Job.flag
  dsimp only
  repeat' split
  all_goals rfl

lemma recoverFailed_flag (b : Bool) (job : Job) :
    recoverFailed (job.flag b) = (recoverFailed job).flag b := by
  unfold recoverFailed Job.flag
  dsimp only
  split
  all_goals rfl

lemma receive_carries (msg : Msg) : Carries fun w => receive w msg := by
  intro b w job
  unfold receive
  dsimp only
  split
  · split
    all_goals rfl
  · rfl
  · split
    · exact report_carries (fun _ _ => rfl) msg.info b
        { job with nextPollTime := w.now + w.pollInterval / 2 + w.rand }
    · exact pollFailed_carries b w job
  · split
    · exact report_carries recoverFailed_flag msg.info b job
    · rfl
  · split
    · exact report_carries (fun _ _ => rfl) msg.info b job
    · have state : (job.flag b).jobState = job.jobState := rfl
      rw [state]
      split
      all_goals rfl

lemma listener_carries (msg : Msg) : Carries (listener msg) := by
  intro b w job
  have state : (job.flag b).jobState = job.jobState := rfl
  have em : (job.flag b).emState = job.emState := rfl
  have received := receive_carries msg b w job
  dsimp only at received
  unfold listener
  rw [state, em, received]
  repeat' split
  all_goals rfl

end Em

namespace Tm

lemma handle_carries (a : TmAction) : Carries (handle a) := by
  intro b w job
  cases a
  case prolog =>
    unfold handle prolog Job.flag
    dsimp only
    repeat' split
    all_goals rfl
  case epilog =>
    unfold handle epilog Job.flag
    dsimp only
    repeat' split
    all_goals rfl

lemma tick_carries : Carries tick := by
  intro b w job
  have state : (job.flag b).tmState = job.tmState := rfl
  have history : (job.flag b).history = job.history := rfl
  have rdir : epilogRdir (job.flag b) = epilogRdir job := rfl
  have stageIn : prologBuildUrls w (job.flag b) = prologBuildUrls w job := rfl
  have stageOut : epilogBuildUrls w (job.flag b) = epilogBuildUrls w job := rfl
  have xfrs : (job.flag b).xfrs = job.xfrs := rfl
  have chk : (job.flag b).chkXfrs = job.chkXfrs := rfl
  unfold tick
  rw [state, history, rdir, stageIn, stageOut, xfrs, chk]
  repeat' split
  all_goals rfl

lemma timer_carries : Carries timer := by
  intro b w job
  have ticked := tick_carries b w job
  unfold timer
  rw [ticked]
  unfold Job.flag
  dsimp only
  repeat' split
  all_goals rfl

lemma prologVerdict_flag (b : Bool) (job : Job) (head : HistoryRecord) :
    prologVerdict (job.flag b) head = (prologVerdict job head).flag b := by
  unfold prologVerdict Job.flag
  dsimp only
  split
  all_goals rfl

lemma epilogGiveUp_flag (b : Bool) (job : Job) (head : HistoryRecord) (rdir : String) :
    epilogGiveUp (job.flag b) head rdir = (epilogGiveUp job head rdir).flag b := by
  unfold epilogGiveUp Job.flag
  dsimp only
  split
  all_goals rfl

lemma epilogFinish_flag (b : Bool) (job : Job) (head : HistoryRecord) (rdir : String) :
    epilogFinish (job.flag b) head rdir = (epilogFinish job head rdir).flag b := by
  unfold epilogFinish Job.flag
  dsimp only
  split
  all_goals rfl

lemma epilogVerdict_flag (b : Bool) (job : Job) (head : HistoryRecord) (rdir : String) :
    epilogVerdict (job.flag b) head rdir = (epilogVerdict job head rdir).flag b := by
  have xfrs : (job.flag b).xfrs = job.xfrs := rfl
  unfold epilogVerdict
  rw [epilogGiveUp_flag, epilogFinish_flag, xfrs]
  split
  all_goals rfl

lemma epilogStageOut_carries : Carries epilogStageOut := by
  intro b w job
  have history : (job.flag b).history = job.history := rfl
  have rdir : epilogRdir (job.flag b) = epilogRdir job := rfl
  have urls : epilogBuildUrls w (job.flag b) = epilogBuildUrls w job := rfl
  have xfrs : (job.flag b).xfrs = job.xfrs := rfl
  unfold epilogStageOut
  rw [history, rdir, urls, xfrs]
  split
  · rfl
  · split
    · rfl
    · split
      · exact epilogFinish_flag ..
      · dsimp only
        split
        · rw [Reply.flag_after]
          exact congrArg _ (epilogGiveUp_flag b { job with xfrs := _ } _ _)
        · rfl

lemma checkpointVerdict_flag (b : Bool) (w : World) (job : Job) (head : HistoryRecord) :
    checkpointVerdict w (job.flag b) head = (checkpointVerdict w job head).flag b := by
  have state : (job.flag b).jobState = job.jobState := rfl
  unfold checkpointVerdict
  rw [state]
  split
  · exact epilogStageOut_carries b w { job with tmState := .epilog }
  · rfl

lemma checkpointCp_carries : Carries checkpointCp := by
  intro b w job
  have history : (job.flag b).history = job.history := rfl
  have rdir : epilogRdir (job.flag b) = epilogRdir job := rfl
  have urls : epilogBuildUrls w (job.flag b) = epilogBuildUrls w job := rfl
  have entries : checkpointEntries (job.flag b) = checkpointEntries job := rfl
  unfold checkpointCp
  rw [history, rdir, urls, entries]
  split
  · rfl
  · split
    · rfl
    · dsimp only
      split
      · rw [Reply.flag_after]
        exact congrArg _ (checkpointVerdict_flag b w { job with chkXfrs := _ } _)
      · rfl

lemma prologStageIn_carries : Carries prologStageIn := by
  intro b w job
  have history : (job.flag b).history = job.history := rfl
  have urls : prologBuildUrls w (job.flag b) = prologBuildUrls w job := rfl
  have xfrs : (job.flag b).xfrs = job.xfrs := rfl
  unfold prologStageIn
  rw [history, urls, xfrs]
  split
  · rfl
  · dsimp only
    split
    · exact prologVerdict_flag b { job with xfrs := _ } _
    · rfl

lemma prologCpCb_carries (i : Nat) (failure : Bool) : Carries fun w => prologCpCb w i failure := by
  intro b w job
  have history : (job.flag b).history = job.history := rfl
  have failed : prologCpFailed w (job.flag b) = prologCpFailed w job := rfl
  have xfrs : (job.flag b).xfrs = job.xfrs := rfl
  unfold prologCpCb
  dsimp only
  rw [history, failed, xfrs]
  split
  · rfl
  · split
    · rfl
    · split
      · rfl
      · split
        · rw [Reply.flag_after]
          exact congrArg _ (prologVerdict_flag b { job with xfrs := _ } _)
        · rfl

lemma epilogCpCb_flag (i : Nat) (failure : Bool) (b : Bool) (job : Job) :
    epilogCpCb i failure (job.flag b) = (epilogCpCb i failure job).flag b := by
  have history : (job.flag b).history = job.history := rfl
  have failed : epilogCpFailed (job.flag b) = epilogCpFailed job := rfl
  have xfrs : (job.flag b).xfrs = job.xfrs := rfl
  have rdir (x : Xfrs) : epilogRdir { job.flag b with xfrs := x, history := job.history } =
      epilogRdir { job with xfrs := x } := rfl
  unfold epilogCpCb
  rw [history, failed, xfrs]
  split
  · rfl
  · split
    · rfl
    · rename_i x _
      generalize (if failure = true then epilogCpFailed job x else (Xfr.close true x, true)) = tried
      obtain ⟨y, goOn⟩ := tried
      dsimp only
      split
      · rw [rdir]
        split
        · rfl
        · exact epilogVerdict_flag b { job with xfrs := _ } _ _
      · rfl

lemma checkpointCpCb_carries (i : Nat) (failure : Bool) :
    Carries fun w => checkpointCpCb w i failure := by
  intro b w job
  have history : (job.flag b).history = job.history := rfl
  have failed : epilogCpFailed (job.flag b) = epilogCpFailed job := rfl
  have chk : (job.flag b).chkXfrs = job.chkXfrs := rfl
  unfold checkpointCpCb
  dsimp only
  rw [history, failed, chk]
  split
  · rfl
  · split
    · rfl
    · rename_i x _
      generalize (if failure = true then epilogCpFailed job x else (Xfr.close true x, true)) = tried
      obtain ⟨y, goOn⟩ := tried
      dsimp only
      split
      · exact checkpointVerdict_flag b w { job with chkXfrs := _ } _
      · rfl

lemma startCb_carries (msg : Msg) : Carries fun w => startCb w msg := by
  intro b w job
  have state : (job.flag b).tmState = job.tmState := rfl
  have history : (job.flag b).history = job.history := rfl
  unfold startCb
  dsimp only
  rw [state, history, epilogStageOut_carries, checkpointCp_carries]
  repeat' split
  all_goals rfl

lemma rmdirCb_flag (msg : Msg) (b : Bool) (job : Job) :
    rmdirCb msg (job.flag b) = (rmdirCb msg job).flag b := by
  unfold rmdirCb Job.flag
  dsimp only
  repeat' split
  all_goals rfl

lemma mkdirCb_carries (msg : Msg) : Carries fun w => mkdirCb w msg := by
  intro b w job
  have state : (job.flag b).tmState = job.tmState := rfl
  unfold mkdirCb
  dsimp only
  rw [state, prologStageIn_carries]
  repeat' split
  all_goals rfl

lemma cpCb_carries (i : Nat) (failure : Bool) : Carries fun w => cpCb w i failure := by
  intro b w job
  have state : (job.flag b).tmState = job.tmState := rfl
  unfold cpCb
  dsimp only
  rw [state]
  split
  · exact prologCpCb_carries i failure b w job
  · exact epilogCpCb_flag i failure b job
  · exact checkpointCpCb_carries i failure b w job
  · rfl

lemma endCb_flag (b : Bool) (job : Job) : endCb (job.flag b) = (endCb job).flag b := by
  unfold endCb Job.flag
  dsimp only
  repeat' split
  all_goals rfl

lemma listener_carries (msg : Msg) : Carries (listener msg) := by
  intro b w job
  have state : (job.flag b).tmState = job.tmState := rfl
  unfold listener
  rw [state]
  split
  · rfl
  · split
    · exact startCb_carries msg b w job
    · exact endCb_flag b job
    · exact mkdirCb_carries msg b w job
    · exact rmdirCb_flag msg b job
    · exact cpCb_carries _ msg.failure b w job

lemma recover_carries : Carries recover := by
  intro b w job
  unfold recover Job.flag
  dsimp only
  split
  all_goals rfl

end Tm

/-- No handler looks at the flag, except for what it tells the scheduler. -/
theorem Turn.handler_hushes (t : Turn) : Hushes t.handler := by
  cases t with
  | dm a => exact Dm.handle_hushes a
  | em a => exact (Em.handle_carries a).hushes
  | tm a => exact (Tm.handle_carries a).hushes
  | emMsg msg => exact (Em.listener_carries msg).hushes
  | tmMsg msg => exact (Tm.listener_carries msg).hushes
  | dispatch hid host queue rank => exact Dm.dispatchJob_hushes hid host rank queue
  | uncheck => exact Dm.uncheckJob_hushes
  | check => exact Dm.checkJob_hushes
  | emTimer => exact Em.timer_carries.hushes
  | tmTimer => exact Tm.timer_carries.hushes
  | tmReload => exact Tm.recover_carries.hushes

end GridWay
