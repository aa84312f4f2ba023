import GridWay.Dm.Dispatch

/-!
# The sides of a job

The Execution Manager and the Transfer Manager keep fields of their own in a job. The handlers of
the Dispatch Manager set them back at the start of an execution and list the files of a stage; they
write nothing else there.

* `Job.side`: the fields of the two managers.
* `Dm.handle_side`: what a handler does to them.
-/

namespace GridWay

/-- A record without its times and its reason, which all managers write. -/
def HistoryRecord.bare (r : HistoryRecord) : HistoryRecord :=
  { r with stats := {}, reason := .none }

@[simp] lemma HistoryRecord.stamp_bare (r : HistoryRecord) (f : Stats → Stats) :
    (r.stamp f).bare = r.bare := rfl

/-- What the Execution Manager and the Transfer Manager keep in a job. -/
structure Side where
  records : List HistoryRecord
  emState : EmState
  tmState : TmState
  xfrs : Xfrs
  chkXfrs : Xfrs

/-- The side of a job. -/
def Job.side (job : Job) : Side where
  records := job.history.map HistoryRecord.bare
  emState := job.emState
  tmState := job.tmState
  xfrs := job.xfrs
  chkXfrs := job.chkXfrs

/-- No file of the list has arrived or was given up. -/
def Xfrs.Fresh (x : Xfrs) : Prop := ∀ f ∈ x.xfrs, f.done = false ∧ f.success = false

lemma Xfrs.build_fresh {n : Nat} {tries limit : Int} {entries : List Xfr} {x : Xfrs}
    (built : Xfrs.build n tries entries limit = some x)
    (fresh : ∀ f ∈ entries, f.done = false ∧ f.success = false) : x.Fresh := by
  unfold Xfrs.build at built
  split at built
  · cases built
    intro f mem
    rcases List.mem_append.1 mem with mem | mem
    · exact fresh f mem
    · obtain ⟨-, rfl⟩ := List.mem_replicate.1 mem
      exact ⟨rfl, rfl⟩
  · cases built

namespace Dm

variable {w : World} {job job' : Job}

/-- The actions that set the state of the execution back. -/
def resetsEm (a : DmAction) (st : JobState) : Bool :=
  match a with
  | .preWrapper | .wrapper | .wrapperDone | .wrapperFailed => true
  | .resume => st == .stopped
  | .reschedule => st == .failed
  | _ => false

/-- The actions that set the state of the transfers back. -/
def resetsTm (a : DmAction) (st : JobState) : Bool :=
  match a with
  | .resume => st == .stopped
  | .reschedule => st == .failed
  | _ => false

/-- The actions that list the files of a stage; a prolog first needs its environment. -/
def lists (a : DmAction) (environment : Bool) : Bool :=
  match a with
  | .prolog | .migrProlog => environment
  | .epilog | .epilogStd | .migrEpilog | .stopEpilog | .killEpilog | .epilogFail
  | .epilogRestart => true
  | _ => false

/-- Records that are the same up to times and reasons. -/
lemma side_congr (records : job'.history.map HistoryRecord.bare = job.history.map HistoryRecord.bare)
    (em : job'.emState = job.emState) (tm : job'.tmState = job.tmState) (xfrs : job'.xfrs = job.xfrs)
    (chk : job'.chkXfrs = job.chkXfrs) : job'.side = job.side := by
  simp only [Job.side, records, em, tm, xfrs, chk]

/-- Such records of a job whose execution is set back. -/
lemma side_init (records : job'.history.map HistoryRecord.bare = job.history.map HistoryRecord.bare)
    (em : job'.emState = .init) (tm : job'.tmState = job.tmState) (xfrs : job'.xfrs = job.xfrs)
    (chk : job'.chkXfrs = job.chkXfrs) : job'.side = { job.side with emState := .init } := by
  simp only [Job.side, records, em, tm, xfrs, chk]

@[simp] lemma setState_side (st : JobState) : (job.setState st).side = job.side := rfl

@[simp] lemma setState_xfrs (st : JobState) :
    (job.setState st).xfrs = job.xfrs ∧ (job.setState st).chkXfrs = job.chkXfrs := ⟨rfl, rfl⟩

section Files

lemma inputEntries_fresh (wbe : Bool) :
    ∀ f ∈ inputEntries wbe job, f.done = false ∧ f.success = false := by
  intro f mem
  simp only [inputEntries, List.mem_append, List.mem_map, or_assoc] at mem
  rcases mem with ⟨_, -, rfl⟩ | mem | ⟨_, -, rfl⟩ | ⟨_, -, rfl⟩ | ⟨_, -, rfl⟩ | mem | mem
  case inr.inl | inr.inr.inr.inr.inr.inl =>
    split at mem
    · cases List.mem_singleton.1 mem
      exact ⟨rfl, rfl⟩
    · cases mem
  case inr.inr.inr.inr.inr.inr =>
    split at mem
    · obtain ⟨_, -, rfl⟩ := List.mem_map.1 mem
      exact ⟨rfl, rfl⟩
    · cases mem
  all_goals exact ⟨rfl, rfl⟩

lemma restartEntry_fresh (prev : HistoryRecord) (file : String) :
    (restartEntry job prev file).done = false ∧ (restartEntry job prev file).success = false := by
  unfold restartEntry
  dsimp only
  split <;> exact ⟨rfl, rfl⟩

lemma prologSetFiles_fresh {x : Xfrs} (set : prologSetFiles w job = some x) : x.Fresh := by
  unfold prologSetFiles at set
  dsimp only at set
  split at set
  · split at set
    · refine Xfrs.build_fresh set fun f mem => ?_
      rcases List.mem_append.1 mem with mem | mem
      · exact inputEntries_fresh _ f mem
      · obtain ⟨file, -, rfl⟩ := List.mem_map.1 mem
        exact restartEntry_fresh _ file
    · cases set
  · exact Xfrs.build_fresh set (inputEntries_fresh _)

/-- The entries of a list under construction are fresh. -/
def Files.Fresh (fs : Files) : Prop := ∀ f ∈ fs.entries, f.done = false ∧ f.success = false

lemma Files.fresh_append {fs : Files} (fresh : fs.Fresh) {more : List Xfr} {limit : Int}
    (all : ∀ f ∈ more, f.done = false ∧ f.success = false) :
    Files.Fresh ⟨fs.entries ++ more, limit⟩ := by
  intro f mem
  exact (List.mem_append.1 mem).elim (fresh f) (all f)

lemma files_fresh : Files.Fresh {} := by
  intro f mem
  cases mem

lemma outEntries_fresh {xs : List Xfr} {src : String} {dst : Option String}
    (rest : ∀ f ∈ xs, f.done = false ∧ f.success = false) :
    ∀ f ∈ outEntry job src dst :: xs, f.done = false ∧ f.success = false := by
  intro f mem
  rcases List.mem_cons.1 mem with rfl | mem
  · exact ⟨rfl, rfl⟩
  · exact rest f mem

lemma stdWrapperFiles_fresh {fs : Files} (fresh : fs.Fresh) : (stdWrapperFiles job fs).Fresh :=
  Files.fresh_append fresh (outEntries_fresh (outEntries_fresh (by simp)))

lemma mandatoryFile_fresh {fs : Files} {src : String} {dst : Option String} (fresh : fs.Fresh) :
    (mandatoryFile job src dst fs).Fresh := by
  unfold mandatoryFile
  split
  · exact fresh
  · exact Files.fresh_append fresh (outEntries_fresh (by simp))

lemma helperFiles_fresh {fs : Files} {name : String} {present : Bool} (fresh : fs.Fresh) :
    (helperFiles job name present fs).Fresh := by
  unfold helperFiles
  split
  · exact Files.fresh_append fresh (outEntries_fresh (outEntries_fresh (by simp)))
  · exact fresh

lemma stdFiles_fresh {fs : Files} (fresh : fs.Fresh) : (stdFiles job fs).Fresh :=
  helperFiles_fresh (helperFiles_fresh (mandatoryFile_fresh (mandatoryFile_fresh fresh)))

lemma outputFiles_fresh {fs : Files} (fresh : fs.Fresh) : (outputFiles job fs).Fresh := by
  refine Files.fresh_append fresh fun f mem => ?_
  obtain ⟨_, -, rfl⟩ := List.mem_map.1 mem
  exact ⟨rfl, rfl⟩

lemma restartFiles_fresh {fs : Files} (fresh : fs.Fresh) : (restartFiles job fs).Fresh := by
  refine Files.fresh_append fresh fun f mem => ?_
  obtain ⟨_, -, rfl⟩ := List.mem_map.1 mem
  exact ⟨rfl, rfl⟩

lemma buildFiles_fresh {n : Nat} {fs : Files} {x : Xfrs} (built : buildFiles job n fs = some x)
    (fresh : fs.Fresh) : x.Fresh := Xfrs.build_fresh built fresh

/-- The files that a stage lists have neither arrived nor been given up. -/
def FilesFresh (files : World → Job → Option Xfrs) : Prop :=
  ∀ w job x, files w job = some x → x.Fresh

lemma epilogStdFiles_fresh : FilesFresh epilogStdFiles :=
  fun _ _ _ built => buildFiles_fresh built (stdWrapperFiles_fresh files_fresh)

lemma migrEpilogFiles_fresh : FilesFresh migrEpilogFiles :=
  fun _ _ _ built => buildFiles_fresh built (stdFiles_fresh files_fresh)

lemma stopEpilogFiles_fresh : FilesFresh stopEpilogFiles := by
  intro w job x built
  unfold stopEpilogFiles at built
  split at built
  · exact buildFiles_fresh built (stdFiles_fresh files_fresh)
  · exact buildFiles_fresh built (restartFiles_fresh (stdFiles_fresh files_fresh))

lemma wrapperOnlyFiles_fresh : FilesFresh wrapperOnlyFiles := by
  intro w job x built
  unfold wrapperOnlyFiles at built
  split at built
  · exact buildFiles_fresh built (stdWrapperFiles_fresh files_fresh)
  · cases built
    intro f mem
    cases mem

lemma epilogFiles_fresh : FilesFresh epilogFiles :=
  fun _ _ _ built => buildFiles_fresh built (stdFiles_fresh (outputFiles_fresh files_fresh))

lemma epilogRestartFiles_fresh : FilesFresh epilogRestartFiles := by
  intro w job x built
  unfold epilogRestartFiles at built
  dsimp only at built
  split at built
  · exact buildFiles_fresh built (stdFiles_fresh (outputFiles_fresh files_fresh))
  · exact buildFiles_fresh built
      (restartFiles_fresh (stdFiles_fresh (outputFiles_fresh files_fresh)))

end Files

@[simp] lemma cancelReschedule_side : (cancelReschedule job).job.side = job.side := by
  unfold cancelReschedule
  split <;> rfl

@[simp] lemma markReason_side {reason} : (markReason reason job).side = job.side := by
  unfold markReason
  split
  · rfl
  · rename_i hist
    exact side_congr (by rw [hist]; rfl) rfl rfl rfl rfl

@[simp] lemma cancelExecution_side {st reason} :
    (cancelExecution st reason job).job.side = job.side := by
  simp [cancelExecution]

/-- A prolog lists its files, when its environment could be written. -/
lemma stageIn_side (safe : .fault ∉ (stageIn w job).calls) :
    ∃ xfrs, (stageIn w job).job.side = { job.side with xfrs } ∧
      if w.environment then xfrs.Fresh else xfrs = job.xfrs := by
  unfold stageIn at safe ⊢
  split at safe
  · rename_i env
    split at safe
    · rename_i xfrs set
      simp only [env, if_true]
      exact ⟨xfrs, rfl, prologSetFiles_fresh set⟩
    · simp at safe
  · rename_i env
    rw [if_neg env]
    exact ⟨job.xfrs, rfl, by simp [env]⟩

lemma enterProlog_side {st} (safe : .fault ∉ (enterProlog w st job).calls) :
    ∃ xfrs, (enterProlog w st job).job.side = { job.side with xfrs } ∧
      if w.environment then xfrs.Fresh else xfrs = job.xfrs := by
  unfold enterProlog at safe ⊢
  cases hist : job.history with
  | nil => simp [hist] at safe
  | cons head past =>
    simp only [Job.setState_frame, hist] at safe ⊢
    have safe' := fun mem => safe (List.mem_append_right _ mem)
    obtain ⟨xfrs, side, files⟩ := stageIn_side safe'
    refine ⟨xfrs, side.trans ?_, files⟩
    simp [Job.side, hist, Job.setState]

/-- An execution starts with its state set back. -/
lemma execute_side {st f} (safe : .fault ∉ (execute st f job).calls) :
    (execute st f job).job.side = { job.side with emState := .init } := by
  unfold execute at safe ⊢
  split at safe
  · simp at safe
  · rename_i hist
    simp [hist, Job.side, Job.setState]

lemma prologDoneCb_side : (prologDoneCb w job).job.side = job.side := by
  unfold prologDoneCb
  split
  · rfl
  · rename_i hist
    dsimp only
    repeat' split
    all_goals exact side_congr (by rw [hist]; rfl) rfl rfl rfl rfl

lemma prologFailedCb_side : (prologFailedCb w job).job.side = job.side := by
  unfold prologFailedCb
  split
  · rfl
  · rename_i hist
    dsimp only
    repeat' split
    all_goals exact side_congr (by rw [hist]; rfl) rfl rfl rfl rfl

lemma wrapperDoneCb_side :
    (wrapperDoneCb w job).job.side = { job.side with emState := .init } := by
  unfold wrapperDoneCb
  dsimp only
  split
  case h_6 => rfl
  case h_2 =>
    split
    · rfl
    · rename_i hist
      rw [cancelReschedule_side]
      exact side_init (by rw [hist]; rfl) rfl rfl rfl rfl
  all_goals
    split
    · first
        | rfl
        | rename_i hist
          exact side_init (by rw [hist]; rfl) rfl rfl rfl rfl
    · first
        | rfl
        | rename_i hist
          exact side_init (by rw [hist]; rfl) rfl rfl rfl rfl

lemma wrapperFailedCb_side :
    (wrapperFailedCb w job).job.side = { job.side with emState := .init } := by
  unfold wrapperFailedCb
  dsimp only
  split
  · split <;> rfl
  · rename_i hist
    unfold wrapperFailedStats
    split
    case h_2 =>
      rw [cancelReschedule_side]
      exact side_init (by rw [hist]; rfl) rfl rfl rfl rfl
    all_goals exact side_init (by rw [hist]; rfl) rfl rfl rfl rfl

lemma migrCancel_side : (migrCancel w job).job.side = job.side := by
  unfold migrCancel
  split
  · split
    · rfl
    · rename_i hist
      exact side_congr (by rw [hist]; rfl) rfl rfl rfl rfl
  · rfl

lemma stageOut_side {files} (fresh : FilesFresh files) (safe : .fault ∉ (stageOut files w job).calls) :
    ∃ xfrs, (stageOut files w job).job.side = { job.side with xfrs } ∧ xfrs.Fresh := by
  unfold stageOut at safe ⊢
  split at safe
  · rename_i xfrs set
    exact ⟨xfrs, rfl, fresh _ _ _ set⟩
  · simp at safe

/-- A stamp that keeps the side of a job. -/
def KeepsSide (stamp : Job → Option Job) : Prop :=
  ∀ job job', stamp job = some job' → job'.side = job.side

lemma some_keepsSide : KeepsSide some := by
  rintro job job' ⟨⟩
  rfl

lemma stampHead_keepsSide {f} : KeepsSide (stampHead f) := by
  intro job job' h
  unfold stampHead at h
  split at h
  · cases h
  · rename_i hist
    cases h
    exact side_congr (by rw [hist]; rfl) rfl rfl rfl rfl

lemma stampPrev_keepsSide {f} : KeepsSide (stampPrev f) := by
  intro job job' h
  unfold stampPrev at h
  split at h
  · rename_i hist
    cases h
    exact side_congr (by rw [hist]; rfl) rfl rfl rfl rfl
  · cases h

lemma setReason_keepsSide {reason} : KeepsSide (setReason reason) := by
  intro job job' h
  unfold setReason at h
  split at h
  · cases h
  · rename_i hist
    cases h
    exact side_congr (by rw [hist]; rfl) rfl rfl rfl rfl

lemma epilogTimes_keepsSide : KeepsSide (epilogTimes w) := by
  intro job job' h
  unfold epilogTimes at h
  split at h
  · split at h
    · rename_i hist
      cases h
      exact side_congr (by rw [hist]; rfl) rfl rfl rfl rfl
    · cases h
  · exact some_keepsSide _ _ h
  · exact stampHead_keepsSide _ _ h

lemma parseWrapperStd_side {ok} (parsed : parseWrapperStd w job = some (job', ok)) :
    job'.side = job.side := by
  unfold parseWrapperStd at parsed
  split at parsed
  case h_3 =>
    cases parsed
    rfl
  all_goals
    obtain ⟨job'', set, same⟩ := Option.map_eq_some_iff.1 parsed
    cases same
    exact (setReason_keepsSide _ _ set).trans rfl

/-- An epilog lists its files. -/
lemma enterEpilog_side {st stamp files} (keeps : KeepsSide stamp) (fresh : FilesFresh files)
    (safe : .fault ∉ (enterEpilog st stamp files w job).calls) :
    ∃ xfrs, (enterEpilog st stamp files w job).job.side = { job.side with xfrs } ∧ xfrs.Fresh := by
  unfold enterEpilog at safe ⊢
  by_cases there : job.jobState = st
  · rw [if_pos there] at safe ⊢
    exact stageOut_side fresh safe
  · rw [if_neg there] at safe ⊢
    dsimp only at safe ⊢
    cases stamped : stamp (job.setState st) with
    | none => simp [stamped] at safe
    | some job' =>
      simp only [stamped] at safe ⊢
      have safe' := fun mem => safe (List.mem_append_right _ mem)
      obtain ⟨xfrs, side, files⟩ := stageOut_side fresh safe'
      have same : job'.side = job.side := (keeps _ _ stamped).trans rfl
      exact ⟨xfrs, side.trans (by rw [same]), files⟩

lemma epilog_side (safe : .fault ∉ (epilog w job).calls) :
    ∃ xfrs, (epilog w job).job.side = { job.side with xfrs } ∧ xfrs.Fresh := by
  unfold epilog at safe ⊢
  split at safe
  · rename_i st
    rw [if_pos st]
    exact enterEpilog_side some_keepsSide epilogFiles_fresh safe
  · rename_i other
    rw [if_neg other]
    split at safe
    · rename_i st
      rw [if_pos st]
      exact stageOut_side epilogFiles_fresh safe
    · rename_i outside
      rw [if_neg outside]
      cases stamped : stampHead (epilogStart w) job with
      | none => simp [stamped] at safe
      | some job' =>
        simp only [stamped] at safe ⊢
        obtain ⟨xfrs, side, files⟩ := enterEpilog_side some_keepsSide epilogFiles_fresh safe
        have same : job'.side = job.side := stampHead_keepsSide _ _ stamped
        exact ⟨xfrs, side.trans (by rw [same]), files⟩

lemma migrated_side : (migrated job).job.side = job.side := by
  unfold migrated
  split <;> rfl

lemma restartExit_side : (restartExit job).job.side = job.side := by
  unfold restartExit
  repeat' split
  all_goals rfl

lemma epilogDoneExit_side : (epilogDoneExit w job).job.side = job.side := by
  unfold epilogDoneExit
  split
  case h_3 => exact migrated_side
  case h_6 => exact restartExit_side
  case h_7 =>
    cases parsed : parseWrapperStd w job with
    | none => rfl
    | some out => exact parseWrapperStd_side parsed
  all_goals rfl

lemma epilogFailedExit_side : (epilogFailedExit job).job.side = job.side := by
  unfold epilogFailedExit
  split
  case h_4 => exact migrated_side
  case h_6 => exact restartExit_side
  case h_1 | h_2 | h_7 =>
    cases set : setReason .executionError job with
    | none => rfl
    | some job' => exact setReason_keepsSide _ _ set
  all_goals rfl

lemma epilogDoneCb_side : (epilogDoneCb w job).job.side = job.side := by
  unfold epilogDoneCb
  split
  · cases times : epilogTimes w job with
    | none => rfl
    | some job' => exact epilogDoneExit_side.trans (epilogTimes_keepsSide _ _ times)
  · rfl

lemma epilogFailedCb_side : (epilogFailedCb w job).job.side = job.side := by
  unfold epilogFailedCb
  split
  · cases times : epilogTimes w job with
    | none => rfl
    | some job' => exact epilogFailedExit_side.trans (epilogTimes_keepsSide _ _ times)
  · rfl

lemma zombie_side : (zombie w job).job.side = job.side := by
  unfold zombie
  split
  · dsimp only
    split
    · rfl
    · rename_i hist
      have hist' : job.history = _ := hist
      exact side_congr (by rw [hist']; rfl) rfl rfl rfl rfl
  · rfl
  · rfl

lemma kill_side : (kill w job).job.side = job.side := by
  unfold kill
  split
  case h_7 => exact cancelExecution_side
  all_goals rfl

lemma hold_side : (hold w job).job.side = job.side := by
  unfold hold
  split <;> rfl

lemma release_side : (release w job).job.side = job.side := by
  unfold release
  split <;> rfl

lemma stop_side : (stop w job).job.side = job.side := by
  unfold stop
  split
  · exact cancelExecution_side
  · rfl

/-- A job that is resumed starts with no execution and no transfer. -/
lemma resume_side : (resume w job).job.side =
    { job.side with
      emState := if resetsEm .resume job.jobState then .init else job.emState
      tmState := if resetsTm .resume job.jobState then .init else job.tmState } := by
  unfold resume
  by_cases st : job.jobState = .stopped <;> simp [st, resetsEm, resetsTm, Job.side]

lemma reschedule_side : (reschedule w job).job.side =
    { job.side with
      emState := if resetsEm .reschedule job.jobState then .init else job.emState
      tmState := if resetsTm .reschedule job.jobState then .init else job.tmState } := by
  unfold reschedule
  cases st : job.jobState
  case wrapper =>
    cases hist : job.history <;>
      simp [resetsEm, resetsTm, Job.side, hist, HistoryRecord.bare]
  case failed =>
    cases hist : job.history <;>
      simp [resetsEm, resetsTm, Job.side, hist, HistoryRecord.bare]
  all_goals simp [resetsEm, resetsTm, Job.side]

/-- A handler that does not crash, other than a hard kill, sets the states of the execution and of
the transfers back or leaves them, and lists the files of a stage or leaves them. -/
theorem handle_side {a : DmAction} (other : a ≠ .killHard) (safe : .fault ∉ (handle a w job).calls) :
    ∃ xfrs, (handle a w job).job.side =
      { job.side with
        emState := if resetsEm a job.jobState then .init else job.emState
        tmState := if resetsTm a job.jobState then .init else job.tmState
        xfrs } ∧
      if lists a w.environment then xfrs.Fresh else xfrs = job.xfrs := by
  cases a
  case killHard => exact absurd rfl other
  case hold => exact ⟨_, hold_side (w := w), rfl⟩
  case release => exact ⟨_, release_side (w := w), rfl⟩
  case stop => exact ⟨_, stop_side (w := w), rfl⟩
  case resume => exact ⟨_, resume_side (w := w), rfl⟩
  case kill => exact ⟨_, kill_side, rfl⟩
  case reschedule => exact ⟨_, reschedule_side (w := w), rfl⟩
  case prologDone => exact ⟨_, prologDoneCb_side, rfl⟩
  case prologFailed => exact ⟨_, prologFailedCb_side, rfl⟩
  case epilogDone => exact ⟨_, epilogDoneCb_side, rfl⟩
  case epilogFailed => exact ⟨_, epilogFailedCb_side, rfl⟩
  case wrapperDone => exact ⟨_, wrapperDoneCb_side, rfl⟩
  case wrapperFailed => exact ⟨_, wrapperFailedCb_side, rfl⟩
  case prolog =>
    simp only [handle, prolog] at safe ⊢
    by_cases there : job.jobState = .prolog
    · rw [if_pos there] at safe ⊢
      exact stageIn_side safe
    · rw [if_neg there] at safe ⊢
      exact enterProlog_side safe
  case migrProlog => exact enterProlog_side safe
  case preWrapper => exact ⟨_, execute_side safe, rfl⟩
  case wrapper => exact ⟨_, execute_side safe, rfl⟩
  case epilog => exact epilog_side safe
  case epilogStd => exact enterEpilog_side stampHead_keepsSide epilogStdFiles_fresh safe
  case migrEpilog => exact enterEpilog_side stampPrev_keepsSide migrEpilogFiles_fresh safe
  case stopEpilog => exact enterEpilog_side stampHead_keepsSide stopEpilogFiles_fresh safe
  case killEpilog => exact enterEpilog_side stampHead_keepsSide wrapperOnlyFiles_fresh safe
  case epilogFail => exact enterEpilog_side stampHead_keepsSide wrapperOnlyFiles_fresh safe
  case epilogRestart => exact enterEpilog_side some_keepsSide epilogRestartFiles_fresh safe
  case migrCancel => exact ⟨_, migrCancel_side, rfl⟩
  case zombie => exact ⟨_, zombie_side, rfl⟩
  case wait => exact ⟨_, rfl, rfl⟩
  case pending => exact ⟨_, rfl, rfl⟩
  case failed => exact ⟨_, rfl, rfl⟩
  case stopped => exact ⟨_, rfl, rfl⟩

/-- The checks of the scheduler leave the side of a job. -/
lemma uncheckJob_side : (uncheckJob w job).job.side = job.side := by
  unfold uncheckJob
  split
  · rfl
  · rename_i hist
    split
    · exact side_congr (by rw [hist]; rfl) rfl rfl rfl rfl
    · rfl

lemma checkJobSuspension_side : (checkJobSuspension w job).job.side = job.side := by
  unfold checkJobSuspension
  split
  · split
    · rfl
    · rename_i hist
      split
      · exact side_congr (by rw [hist]; rfl) rfl rfl rfl rfl
      · rfl
  · rfl

lemma checkJobRescheduling_side : (checkJobRescheduling w job).job.side = job.side := by
  unfold checkJobRescheduling
  split
  · split
    · rfl
    · split
      · split
        · split <;> rfl
        · rename_i hist
          split
          · exact side_congr (by rw [hist]; rfl) rfl rfl rfl rfl
          · rfl
      · rfl
  · rfl

lemma checkJob_side : (checkJob w job).job.side = job.side := by
  unfold checkJob
  split
  · exact checkJobRescheduling_side.trans checkJobSuspension_side
  · rfl

/-- A dispatch leaves the side of a job, or links a record with no retry waiting. -/
lemma dispatchJob_side (w : World) (job : Job) (hid : HostId) (host : Host) (rank : Int) (queue : String) :
    (dispatchJob hid host rank queue w job).job.side = job.side ∨
    (dispatchJob hid host rank queue w job).job.side =
      { job.side with
        records := (newRecord w hid host rank queue job).bare :: job.side.records } := by
  unfold dispatchJob
  cases st : job.jobState
  case pending =>
    by_cases loaded : w.tmMadLoaded = true ∧ w.emMadLoaded = true
    · right
      cases file : w.historyFile <;> simp [historyAdd, loaded, file, Job.side]
    · left
      simp [historyAdd, loaded]
  case wrapper =>
    by_cases active : nowActive job
    · left
      simp [active, uncheckJob_side]
    · by_cases loaded : w.tmMadLoaded = true ∧ w.emMadLoaded = true
      · right
        cases file : w.historyFile <;> simp [historyAdd, loaded, file, active, Job.side]
      · left
        simp [historyAdd, loaded, active]
  all_goals exact .inl rfl

end Dm

end GridWay
