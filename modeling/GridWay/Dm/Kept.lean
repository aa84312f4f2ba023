import GridWay.Dm.Dispatch

/-!
# What the work on a job leaves alone

The handlers write the states, the history and the times of their job. Its directory, the number of
its restarts and the number of the clients that wait for it are counted elsewhere: a handler moves
no directory, five actions count a restart or a client, and no other does.

* `Dm.counting`: the actions that count.
* `Dm.handle_kept`, `Dm.checkJob_kept`, `Dm.uncheckJob_kept`: no other handler does.
-/

namespace GridWay

/-- The directory of a job, its restarts and the clients that wait for it. -/
structure Kept where
  directory : String
  restarted : Nat
  clientWaiting : Int

/-- What the work on a job leaves alone. -/
def Job.kept (job : Job) : Kept := ⟨job.directory, job.restarted, job.clientWaiting⟩

@[simp] lemma Job.setState_kept (job : Job) (st : JobState) :
    (job.setState st).kept = job.kept := rfl

namespace Dm

variable {w : World} {job : Job}

@[simp] lemma cancelReschedule_kept : (cancelReschedule job).job.kept = job.kept := by
  unfold cancelReschedule
  split <;> rfl

@[simp] lemma markReason_kept {reason} : (markReason reason job).kept = job.kept := by
  unfold markReason
  split <;> rfl

lemma cancelExecution_kept {st reason} :
    (cancelExecution st reason job).job.kept = job.kept := by
  show (cancelReschedule ((markReason reason job).setState st)).job.kept = job.kept
  rw [cancelReschedule_kept, Job.setState_kept, markReason_kept]

lemma stageIn_kept : (stageIn w job).job.kept = job.kept := by
  unfold stageIn
  repeat' split
  all_goals rfl

lemma enterProlog_kept {st} : (enterProlog w st job).job.kept = job.kept := by
  unfold enterProlog
  dsimp only
  split
  · rfl
  · rw [Reply.after_job, stageIn_kept]
    rfl

lemma execute_kept {st f} : (execute st f job).job.kept = job.kept := by
  unfold execute
  split <;> rfl

lemma prologDoneCb_kept : (prologDoneCb w job).job.kept = job.kept := by
  unfold prologDoneCb
  split
  · rfl
  · dsimp only
    repeat' split
    all_goals rfl

lemma prologFailedCb_kept : (prologFailedCb w job).job.kept = job.kept := by
  unfold prologFailedCb
  split
  · rfl
  · dsimp only
    repeat' split
    all_goals rfl

lemma wrapperDoneCb_kept : (wrapperDoneCb w job).job.kept = job.kept := by
  unfold wrapperDoneCb
  dsimp only
  split
  case h_2 =>
    split
    · rfl
    · exact cancelReschedule_kept
  case h_6 => rfl
  all_goals split <;> rfl

lemma wrapperFailedCb_kept : (wrapperFailedCb w job).job.kept = job.kept := by
  unfold wrapperFailedCb
  dsimp only
  split
  · split <;> rfl
  · show (wrapperFailedStats w _ _ _).job.kept = job.kept
    unfold wrapperFailedStats
    split
    case h_2 => exact cancelReschedule_kept
    all_goals rfl

lemma migrCancel_kept : (migrCancel w job).job.kept = job.kept := by
  unfold migrCancel
  repeat' split
  all_goals rfl

lemma stageOut_kept {files} : (stageOut files w job).job.kept = job.kept := by
  unfold stageOut
  split <;> rfl

/-- A change of a job that leaves the rest of it alone. -/
def Keeps (f : Job → Option Job) : Prop :=
  ∀ job job', f job = some job' → job'.kept = job.kept

lemma some_keeps : Keeps some := by
  intro job job' h
  cases h
  rfl

lemma stampHead_keeps {f} : Keeps (stampHead f) := by
  intro job job' h
  unfold stampHead at h
  split at h
  · cases h
  · cases h
    rfl

lemma stampPrev_keeps {f} : Keeps (stampPrev f) := by
  intro job job' h
  unfold stampPrev at h
  split at h
  · cases h
    rfl
  · cases h

lemma setReason_keeps {reason} : Keeps (setReason reason) := by
  intro job job' h
  unfold setReason at h
  split at h
  · cases h
  · cases h
    rfl

lemma epilogTimes_keeps : Keeps (epilogTimes w) := by
  intro job job' h
  unfold epilogTimes at h
  split at h
  · split at h
    · cases h
      rfl
    · cases h
  · exact some_keeps _ _ h
  · exact stampHead_keeps _ _ h

lemma parseWrapperStd_kept {job' ok} (parsed : parseWrapperStd w job = some (job', ok)) :
    job'.kept = job.kept := by
  unfold parseWrapperStd at parsed
  split at parsed
  case h_3 =>
    cases parsed
    rfl
  all_goals
    obtain ⟨job'', set, same⟩ := Option.map_eq_some_iff.1 parsed
    cases same
    exact (setReason_keeps _ _ set).trans rfl

lemma enterEpilog_kept {st stamp files} (keeps : Keeps stamp) :
    (enterEpilog st stamp files w job).job.kept = job.kept := by
  unfold enterEpilog
  split
  · exact stageOut_kept
  · dsimp only
    cases stamped : stamp (job.setState st) with
    | none => rfl
    | some job' =>
      rw [Reply.after_job, stageOut_kept]
      show job'.kept = (job.setState st).kept
      exact keeps _ _ stamped

lemma epilog_kept : (epilog w job).job.kept = job.kept := by
  unfold epilog
  split
  · exact enterEpilog_kept some_keeps
  · split
    · exact stageOut_kept
    · cases stamped : stampHead (epilogStart w) job with
      | none => rfl
      | some job' =>
        exact (enterEpilog_kept some_keeps).trans (stampHead_keeps _ _ stamped)

lemma migrated_kept : (migrated job).job.kept = job.kept := by
  unfold migrated
  split <;> rfl

lemma restartExit_kept : (restartExit job).job.kept = job.kept := by
  unfold restartExit
  repeat' split
  all_goals rfl

lemma epilogDoneExit_kept : (epilogDoneExit w job).job.kept = job.kept := by
  unfold epilogDoneExit
  split
  case h_3 => exact migrated_kept
  case h_6 => exact restartExit_kept
  case h_7 =>
    cases parsed : parseWrapperStd w job with
    | none => rfl
    | some out => exact parseWrapperStd_kept parsed
  all_goals rfl

lemma epilogFailedExit_kept : (epilogFailedExit job).job.kept = job.kept := by
  unfold epilogFailedExit
  split
  case h_4 => exact migrated_kept
  case h_6 => exact restartExit_kept
  case h_1 | h_2 | h_7 =>
    cases set : setReason .executionError job with
    | none => rfl
    | some job' => exact setReason_keeps _ _ set
  all_goals rfl

lemma epilogDoneCb_kept : (epilogDoneCb w job).job.kept = job.kept := by
  unfold epilogDoneCb
  split
  · cases times : epilogTimes w job with
    | none => rfl
    | some job' => exact epilogDoneExit_kept.trans (epilogTimes_keeps _ _ times)
  · rfl

lemma epilogFailedCb_kept : (epilogFailedCb w job).job.kept = job.kept := by
  unfold epilogFailedCb
  split
  · cases times : epilogTimes w job with
    | none => rfl
    | some job' => exact epilogFailedExit_kept.trans (epilogTimes_keeps _ _ times)
  · rfl

lemma zombie_kept : (zombie w job).job.kept = job.kept := by
  unfold zombie
  split
  · dsimp only
    split <;> rfl
  · rfl
  · rfl

lemma kill_kept : (kill w job).job.kept = job.kept := by
  unfold kill
  split
  case h_7 => exact cancelExecution_kept
  all_goals rfl

lemma killHard_kept : (killHard w job).job.kept = job.kept := by
  unfold killHard
  dsimp only
  split
  all_goals first
    | rfl
    | split <;> rfl

lemma hold_kept : (hold w job).job.kept = job.kept := by
  unfold hold
  split <;> rfl

lemma release_kept : (release w job).job.kept = job.kept := by
  unfold release
  split <;> rfl

lemma stop_kept : (stop w job).job.kept = job.kept := by
  unfold stop
  split
  · exact cancelExecution_kept
  · rfl

/-- The actions that count a restart or a waiting client. -/
def counting : DmAction → Bool
  | .pending | .resume | .reschedule | .wait => true
  | _ => false

/-- A handler that does not count leaves the files and the waiting clients of its job alone. -/
theorem handle_kept {a : DmAction} (other : counting a = false) :
    (handle a w job).job.kept = job.kept := by
  cases a
  case hold => exact hold_kept (w := w)
  case release => exact release_kept (w := w)
  case stop => exact stop_kept (w := w)
  case kill => exact kill_kept
  case killHard => exact killHard_kept
  case prologDone => exact prologDoneCb_kept
  case prologFailed => exact prologFailedCb_kept
  case epilogDone => exact epilogDoneCb_kept
  case epilogFailed => exact epilogFailedCb_kept
  case wrapperDone => exact wrapperDoneCb_kept
  case wrapperFailed => exact wrapperFailedCb_kept
  case prolog =>
    show (prolog w job).job.kept = job.kept
    unfold prolog
    split
    · exact stageIn_kept
    · exact enterProlog_kept
  case migrProlog => exact enterProlog_kept
  case preWrapper => exact execute_kept
  case wrapper => exact execute_kept
  case epilog => exact epilog_kept
  case epilogStd => exact enterEpilog_kept stampHead_keeps
  case migrEpilog => exact enterEpilog_kept stampPrev_keeps
  case stopEpilog => exact enterEpilog_kept stampHead_keeps
  case killEpilog => exact enterEpilog_kept stampHead_keeps
  case epilogFail => exact enterEpilog_kept stampHead_keeps
  case epilogRestart => exact enterEpilog_kept some_keeps
  case migrCancel => exact migrCancel_kept
  case zombie => exact zombie_kept
  case failed | stopped => rfl
  case pending | resume | reschedule | wait => cases other

lemma uncheckJob_kept : (uncheckJob w job).job.kept = job.kept := by
  unfold uncheckJob
  repeat' split
  all_goals rfl

lemma checkJob_kept : (checkJob w job).job.kept = job.kept := by
  have suspension : (checkJobSuspension w job).job.kept = job.kept := by
    unfold checkJobSuspension
    repeat' split
    all_goals rfl
  have rescheduling (job : Job) : (checkJobRescheduling w job).job.kept = job.kept := by
    unfold checkJobRescheduling
    repeat' split
    all_goals rfl
  unfold checkJob
  split
  · exact (rescheduling _).trans suspension
  · rfl

end Dm

end GridWay
