import GridWay.Dm.Dispatch

/-!
# What the handlers of the Dispatch Manager leave alone

No handler changes who its job is, what it asks for or where it was dispatched; only a dispatch
adds a placement.
-/

namespace GridWay.Dm

variable {w : World} {job : Job}

/-- Records that keep their placements keep the fixed part of the job. -/
lemma core_congr {job job' : Job} (id : job'.id = job.id) (user : job'.userId = job.userId)
    (array : job'.arrayId = job.arrayId) (dep : job'.typeDep = job.typeDep)
    (np : job'.template.np = job.template.np)
    (retries : job'.template.numberOfRetries = job.template.numberOfRetries)
    (places : job'.places = job.places) : job'.core = job.core := by
  simp only [Job.core, id, user, array, dep, np, retries, places]

@[simp] lemma cancelReschedule_core : (cancelReschedule job).job.core = job.core := by
  unfold cancelReschedule
  split <;> rfl

@[simp] lemma markReason_core {reason} : (markReason reason job).core = job.core := by
  unfold markReason
  split
  · rfl
  · rename_i hist
    exact core_congr rfl rfl rfl rfl rfl rfl (by simp [Job.places, hist])

@[simp] lemma cancelExecution_core {st reason} :
    (cancelExecution st reason job).job.core = job.core := by
  simp [cancelExecution]

lemma stageIn_core : (stageIn w job).job.core = job.core := by
  unfold stageIn
  split
  · split <;> rfl
  · rfl

lemma enterProlog_core {st} : (enterProlog w st job).job.core = job.core := by
  unfold enterProlog
  cases hist : job.history with
  | nil => simp [hist]
  | cons head past =>
    simp only [Job.setState_frame, hist, Reply.after_job, stageIn_core]
    exact core_congr rfl rfl rfl rfl rfl rfl (by simp [Job.places, hist])

lemma execute_core {st f} : (execute st f job).job.core = job.core := by
  unfold execute
  split
  · rfl
  · rename_i hist
    exact core_congr rfl rfl rfl rfl rfl rfl (by simp [Job.places, hist])

lemma prologDoneCb_core : (prologDoneCb w job).job.core = job.core := by
  unfold prologDoneCb
  split
  · rfl
  · rename_i hist
    dsimp only
    repeat' split
    all_goals exact core_congr rfl rfl rfl rfl rfl rfl (by simp [Job.places, hist])

lemma prologFailedCb_core : (prologFailedCb w job).job.core = job.core := by
  unfold prologFailedCb
  split
  · rfl
  · rename_i hist
    dsimp only
    repeat' split
    all_goals exact core_congr rfl rfl rfl rfl rfl rfl (by simp [Job.places, hist])

lemma wrapperDoneCb_core : (wrapperDoneCb w job).job.core = job.core := by
  unfold wrapperDoneCb
  dsimp only
  split
  case h_6 => rfl
  case h_2 =>
    split
    · rfl
    · rename_i hist
      rw [cancelReschedule_core]
      exact core_congr rfl rfl rfl rfl rfl rfl (by simp [Job.places, hist])
  all_goals
    split
    · first
        | rfl
        | rename_i hist
          exact core_congr rfl rfl rfl rfl rfl rfl (by simp [Job.places, hist])
    · first
        | rfl
        | rename_i hist
          exact core_congr rfl rfl rfl rfl rfl rfl (by simp [Job.places, hist])

lemma wrapperFailedCb_core : (wrapperFailedCb w job).job.core = job.core := by
  unfold wrapperFailedCb
  dsimp only
  split
  · split <;> rfl
  · rename_i hist
    unfold wrapperFailedStats
    split
    case h_2 =>
      rw [cancelReschedule_core]
      exact core_congr rfl rfl rfl rfl rfl rfl (by simp [Job.places, hist])
    all_goals exact core_congr rfl rfl rfl rfl rfl rfl (by simp [Job.places, hist])

lemma migrCancel_core : (migrCancel w job).job.core = job.core := by
  unfold migrCancel
  split
  · split
    · rfl
    · rename_i hist
      exact core_congr rfl rfl rfl rfl rfl rfl (by simp [Job.places, hist])
  · rfl

lemma stageOut_core {files} : (stageOut files w job).job.core = job.core := by
  unfold stageOut
  split <;> rfl

/-- A stamp that keeps the fixed part of a job. -/
def KeepsCore (stamp : Job → Option Job) : Prop :=
  ∀ job job', stamp job = some job' → job'.core = job.core

lemma some_keepsCore : KeepsCore some := by
  rintro job job' ⟨⟩
  rfl

lemma stampHead_keepsCore {f} : KeepsCore (stampHead f) := by
  intro job job' h
  unfold stampHead at h
  split at h
  · cases h
  · rename_i hist
    cases h
    exact core_congr rfl rfl rfl rfl rfl rfl (by simp [Job.places, hist])

lemma stampPrev_keepsCore {f} : KeepsCore (stampPrev f) := by
  intro job job' h
  unfold stampPrev at h
  split at h
  · rename_i hist
    cases h
    exact core_congr rfl rfl rfl rfl rfl rfl (by simp [Job.places, hist])
  · cases h

lemma setReason_keepsCore {reason} : KeepsCore (setReason reason) := by
  intro job job' h
  unfold setReason at h
  split at h
  · cases h
  · rename_i hist
    cases h
    exact core_congr rfl rfl rfl rfl rfl rfl (by simp [Job.places, hist])

lemma epilogTimes_keepsCore : KeepsCore (epilogTimes w) := by
  intro job job' h
  unfold epilogTimes at h
  split at h
  · split at h
    · rename_i hist
      cases h
      exact core_congr rfl rfl rfl rfl rfl rfl (by simp [Job.places, hist])
    · cases h
  · exact some_keepsCore _ _ h
  · exact stampHead_keepsCore _ _ h

lemma parseWrapperStd_core {job' ok} (parsed : parseWrapperStd w job = some (job', ok)) :
    job'.core = job.core := by
  unfold parseWrapperStd at parsed
  split at parsed
  case h_3 =>
    cases parsed
    rfl
  all_goals
    obtain ⟨job'', set, same⟩ := Option.map_eq_some_iff.1 parsed
    cases same
    exact (setReason_keepsCore _ _ set).trans rfl

lemma enterEpilog_core {st stamp files} (keeps : KeepsCore stamp) :
    (enterEpilog st stamp files w job).job.core = job.core := by
  unfold enterEpilog
  split
  · exact stageOut_core
  · dsimp only
    cases stamped : stamp (job.setState st) with
    | none => rfl
    | some job' => simpa [stageOut_core] using keeps _ _ stamped

lemma epilog_core : (epilog w job).job.core = job.core := by
  unfold epilog
  split
  · exact enterEpilog_core some_keepsCore
  · split
    · exact stageOut_core
    · cases stamped : stampHead (epilogStart w) job with
      | none => rfl
      | some job' =>
        exact (enterEpilog_core some_keepsCore).trans (stampHead_keepsCore _ _ stamped)

lemma migrated_core : (migrated job).job.core = job.core := by
  unfold migrated
  split <;> rfl

lemma restartExit_core : (restartExit job).job.core = job.core := by
  unfold restartExit
  repeat' split
  all_goals rfl

lemma epilogDoneExit_core : (epilogDoneExit w job).job.core = job.core := by
  unfold epilogDoneExit
  split
  case h_3 => exact migrated_core
  case h_6 => exact restartExit_core
  case h_7 =>
    cases parsed : parseWrapperStd w job with
    | none => rfl
    | some out => exact parseWrapperStd_core parsed
  all_goals rfl

lemma epilogFailedExit_core : (epilogFailedExit job).job.core = job.core := by
  unfold epilogFailedExit
  split
  case h_4 => exact migrated_core
  case h_6 => exact restartExit_core
  case h_1 | h_2 | h_7 =>
    cases set : setReason .executionError job with
    | none => rfl
    | some job' => exact setReason_keepsCore _ _ set
  all_goals rfl

lemma epilogDoneCb_core : (epilogDoneCb w job).job.core = job.core := by
  unfold epilogDoneCb
  split
  · cases times : epilogTimes w job with
    | none => rfl
    | some job' => exact epilogDoneExit_core.trans (epilogTimes_keepsCore _ _ times)
  · rfl

lemma epilogFailedCb_core : (epilogFailedCb w job).job.core = job.core := by
  unfold epilogFailedCb
  split
  · cases times : epilogTimes w job with
    | none => rfl
    | some job' => exact epilogFailedExit_core.trans (epilogTimes_keepsCore _ _ times)
  · rfl

lemma zombie_core : (zombie w job).job.core = job.core := by
  unfold zombie
  split
  · dsimp only
    split
    · rfl
    · rename_i hist
      exact core_congr rfl rfl rfl rfl rfl rfl (by simp_all [Job.places])
  · rfl
  · rfl

lemma kill_core : (kill w job).job.core = job.core := by
  unfold kill
  split
  case h_7 => exact cancelExecution_core
  all_goals rfl

lemma killHard_core : (killHard w job).job.core = job.core := by
  unfold killHard
  dsimp only
  split
  all_goals first
    | rfl
    | split
      all_goals first
        | rfl
        | rename_i hist
          exact core_congr rfl rfl rfl rfl rfl rfl
            (by simp [killTransfer, killExecution, Job.places, hist])

lemma hold_core : (hold w job).job.core = job.core := by
  unfold hold
  split <;> rfl

lemma release_core : (release w job).job.core = job.core := by
  unfold release
  split <;> rfl

lemma stop_core : (stop w job).job.core = job.core := by
  unfold stop
  split
  · exact cancelExecution_core
  · rfl

lemma resume_core : (resume w job).job.core = job.core := by
  unfold resume
  split <;> rfl

lemma reschedule_core : (reschedule w job).job.core = job.core := by
  unfold reschedule
  split
  · dsimp only
    split
    · rfl
    · rename_i hist
      exact core_congr rfl rfl rfl rfl rfl rfl (by simp [Job.places, hist])
  · dsimp only
    split
    · rfl
    · rename_i hist
      exact core_congr rfl rfl rfl rfl rfl rfl (by simp_all [Job.places])
  · rfl

/-- No handler changes the fixed part of its job. -/
theorem handle_core (a : DmAction) (w : World) (job : Job) : (handle a w job).job.core = job.core := by
  cases a
  case hold => exact hold_core (w := w)
  case release => exact release_core (w := w)
  case stop => exact stop_core (w := w)
  case resume => exact resume_core (w := w)
  case kill => exact kill_core
  case killHard => exact killHard_core
  case reschedule => exact reschedule_core (w := w)
  case prologDone => exact prologDoneCb_core
  case prologFailed => exact prologFailedCb_core
  case epilogDone => exact epilogDoneCb_core
  case epilogFailed => exact epilogFailedCb_core
  case wrapperDone => exact wrapperDoneCb_core
  case wrapperFailed => exact wrapperFailedCb_core
  case prolog =>
    simp only [handle, prolog]
    split
    · exact stageIn_core
    · exact enterProlog_core
  case migrProlog => exact enterProlog_core
  case preWrapper => exact execute_core
  case wrapper => exact execute_core
  case epilog => exact epilog_core
  case epilogStd => exact enterEpilog_core stampHead_keepsCore
  case migrEpilog => exact enterEpilog_core stampPrev_keepsCore
  case stopEpilog => exact enterEpilog_core stampHead_keepsCore
  case killEpilog => exact enterEpilog_core stampHead_keepsCore
  case epilogFail => exact enterEpilog_core stampHead_keepsCore
  case epilogRestart => exact enterEpilog_core some_keepsCore
  case migrCancel => exact migrCancel_core
  case zombie => exact zombie_core
  case wait | pending | failed | stopped => rfl

end GridWay.Dm
