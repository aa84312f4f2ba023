import GridWay.Dm.Label
import GridWay.Gwd.Recover
import GridWay.Gwd.Frame
import GridWay.Dm.Frame

/-!
# What a recovery reads

A recovery replays `job.state` and takes a line of `job.history` for every line `PROLOG` or
`MIGR_CANCEL`. Nothing else of the run before the crash comes back: in particular the number of
restarts is counted by the records.

* `Replayed`: the job in the course of its replay.
* `Gwd.recoverDir_self`, `Gwd.recoverDir_other`: one job directory.
* `Gwd.restart_label`: a recovered job.
-/

namespace GridWay

/-- A state for which a recovery reads a record of `job.history`. -/
def JobState.dispatched (st : JobState) : Bool := st == .prolog || st == .migrCancel

/-- The records that a recovery reads for the lines of `job.state`. -/
def dispatchLines (lines : List (Time × JobState)) : Nat := lines.countP fun l => l.2.dispatched

/-- The records that a recovery of the directory reads. -/
def JobDir.shown (dir : JobDir) : Nat := dispatchLines (dir.states.getD [])

/-- The job after a part of its replay in which `n` records were read. -/
structure Replayed (old job : Job) (n : Nat) : Prop where
  id : job.id = old.id
  user : job.userId = old.userId
  np : job.template.np = old.template.np
  label : job.label = ⟨old.directory, n - 1⟩
  length : job.history.length = n

namespace Replayed

variable {old job job' : Job} {n : Nat}

/-- A change that keeps the fixed part and the label of a job is no part of the replay. -/
lemma congr (h : Replayed old job n) (core : job'.core = job.core) (label : job'.label = job.label) :
    Replayed old job' n where
  id := (congrArg Job.Core.id core).trans h.id
  user := (congrArg Job.Core.userId core).trans h.user
  np := (congrArg Job.Core.np core).trans h.np
  label := label.trans h.label
  length := by
    have places : job'.places = job.places := congrArg Job.Core.places core
    have length := congrArg List.length places
    simp only [Job.places, List.length_map] at length
    exact length.trans h.length

/-- A stamp in the history. -/
lemma stamp {f : Job → Option Job} (core : Dm.KeepsCore f) (keeps : Dm.Keeps f)
    {r r' : Gwd.Replay} (h : Replayed old r.job n) (stamped : r.stamp f = some r') :
    Replayed old r'.job n := by
  obtain ⟨job, eq, rfl⟩ := Option.map_eq_some_iff.1 stamped
  exact h.congr (core _ _ eq) (label_congr (keeps _ _ eq))

end Replayed

namespace Gwd

variable {w : World} {s s' : Gwd} {i j : JobId} {old : Job} {n : Nat} {r r' : Replay} {ok : Bool}

section Hosts

/-- Only the host pool differs. -/
def SameButHosts (s s' : Gwd) : Prop := ∃ hosts, s' = { s with hosts }

lemma SameButHosts.refl (s : Gwd) : SameButHosts s s := ⟨s.hosts, rfl⟩

lemma SameButHosts.trans {s₁ s₂ s₃ : Gwd} (h : SameButHosts s₁ s₂) (h' : SameButHosts s₂ s₃) :
    SameButHosts s₁ s₃ := by
  obtain ⟨hosts, rfl⟩ := h
  obtain ⟨hosts', rfl⟩ := h'
  exact ⟨hosts', rfl⟩

lemma registerHost_same {line : HistoryLine} {h : HostId} (eq : s.registerHost line = some (s', h)) :
    SameButHosts s s' := by
  unfold registerHost at eq
  split at eq
  · cases eq
    exact .refl s
  · split at eq
    · cases eq
    · cases eq
      exact ⟨_, rfl⟩

lemma stamp_same {f : Job → Option Job} (stamped : r.stamp f = some r') : r'.gwd = r.gwd := by
  obtain ⟨job, -, rfl⟩ := Option.map_eq_some_iff.1 stamped
  rfl

lemma stamped_same {f : Job → Option Job} (eq : (r.stamp f).map (·, true) = some (r', ok)) :
    SameButHosts r.gwd r'.gwd := by
  obtain ⟨r₁, stamped, same⟩ := Option.map_eq_some_iff.1 eq
  cases same
  exact stamp_same stamped ▸ .refl r.gwd

lemma recoverHistoryRecord_same (eq : recoverHistoryRecord w r = some (r', ok)) :
    SameButHosts r.gwd r'.gwd := by
  unfold recoverHistoryRecord at eq
  split at eq
  · cases eq
    exact .refl _
  · cases eq
    exact .refl _
  · split at eq
    · cases eq
    · rename_i registered
      have same := registerHost_same registered
      split at eq
      · cases eq
      · dsimp only at eq
        split at eq
        · cases eq
          exact same.trans ⟨_, rfl⟩
        · cases eq
          exact same.trans ⟨_, rfl⟩

lemma leaveState_same {t : Time} {prev : JobState} (eq : leaveState t prev r = some r') :
    r'.gwd = r.gwd := by
  unfold leaveState at eq
  split at eq
  case h_10 =>
    cases eq
    rfl
  all_goals exact stamp_same eq

lemma enterState_same {t : Time} {prev st : JobState}
    (eq : enterState w t prev st r = some (r', ok)) : SameButHosts r.gwd r'.gwd := by
  cases st
  case prolog =>
    simp only [enterState] at eq
    split at eq
    · cases eq
    · rename_i r₁ read
      cases eq
      exact recoverHistoryRecord_same read
    · rename_i r₁ read
      exact (recoverHistoryRecord_same read).trans (stamped_same eq)
  case migrCancel => exact recoverHistoryRecord_same eq
  case epilog =>
    simp only [enterState] at eq
    split at eq
    · exact stamped_same eq
    · cases eq
      exact .refl _
  case stopped | failed =>
    obtain ⟨r₁, head, same⟩ := Option.map_eq_some_iff.1 eq
    cases same
    exact stamp_same head ▸ .refl r.gwd
  case zombie =>
    obtain ⟨r₂, both, same⟩ := Option.map_eq_some_iff.1 eq
    cases same
    obtain ⟨r₁, head, reason⟩ := Option.bind_eq_some_iff.1 both
    exact (stamp_same reason).trans (stamp_same head) ▸ .refl r.gwd
  case init | pending | hold | preWrapper | stopCancel | killCancel =>
    cases eq
    exact .refl _
  all_goals exact stamped_same eq

lemma recoverTransition_same {out : WrapperStd} {t : Time} {prev st : JobState}
    (eq : recoverTransition w out t prev st r = some (r', ok)) : SameButHosts r.gwd r'.gwd := by
  obtain ⟨r₁, left, entered⟩ := Option.bind_eq_some_iff.1 eq
  have same : r₁.gwd = r.gwd := by
    have left := leaveState_same left
    split at left
    · exact left
    · exact left
  exact same ▸ enterState_same entered

/-- A replay registers hosts, and changes nothing else of the daemon. -/
lemma recoverStates_same {out : WrapperStd} {before prev : JobState}
    {lines : List (Time × JobState)} {last : Option (JobState × JobState)}
    (eq : recoverStates w out before prev lines r = some (r', last)) :
    SameButHosts r.gwd r'.gwd := by
  induction lines generalizing before prev r with
  | nil =>
    cases eq
    exact .refl _
  | cons line lines ih =>
    simp only [recoverStates] at eq
    split at eq
    · cases eq
    · rename_i r₁ one
      cases eq
      exact recoverTransition_same one
    · rename_i r₁ one
      exact (recoverTransition_same one).trans (ih eq)

end Hosts

section Job

/-- A record is read: one restart more, unless it is the first. -/
lemma recoverHistoryRecord_replayed (h : Replayed old r.job n)
    (eq : recoverHistoryRecord w r = some (r', true)) : Replayed old r'.job (n + 1) := by
  unfold recoverHistoryRecord at eq
  split at eq
  · cases eq
  · cases eq
  · split at eq
    · cases eq
    · split at eq
      · cases eq
      · dsimp only at eq
        split at eq
        · cases eq
          refine ⟨h.id, h.user, h.np, ?_, congrArg (· + 1) h.length⟩
          have directory : r.job.directory = old.directory := congrArg Label.directory h.label
          have restarted : r.job.restarted = n - 1 := congrArg Label.restarted h.label
          simp only [Job.label, directory, restarted, Nat.add_sub_cancel]
          cases hist : r.job.history with
          | nil =>
            -- the first record
            have zero : n = 0 := by rw [← h.length, hist]; rfl
            simp [zero]
          | cons head past =>
            have pos : 0 < n := by rw [← h.length, hist]; exact Nat.succ_pos _
            simp only [reduceCtorEq, if_false, Nat.sub_add_cancel pos]
        · cases eq

/-- The state that is left stamps the history. -/
lemma leaveState_replayed {t : Time} {prev : JobState} (h : Replayed old r.job n)
    (eq : leaveState t prev r = some r') : Replayed old r'.job n := by
  unfold leaveState at eq
  split at eq
  case h_9 => exact h.stamp Dm.stampPrev_keepsCore Dm.stampPrev_keeps eq
  case h_10 =>
    cases eq
    exact h
  all_goals exact h.stamp Dm.stampHead_keepsCore Dm.stampHead_keeps eq

lemma stampHead_replayed {f : Stats → Stats} (h : Replayed old r.job n)
    (eq : (r.stamp (Dm.stampHead f)).map (·, true) = some (r', ok)) : Replayed old r'.job n := by
  obtain ⟨r₁, stamped, same⟩ := Option.map_eq_some_iff.1 eq
  cases same
  exact h.stamp Dm.stampHead_keepsCore Dm.stampHead_keeps stamped

/-- The state that is entered reads a record when it is a dispatch, and stamps the history. -/
lemma enterState_replayed {t : Time} {prev st : JobState} (h : Replayed old r.job n)
    (eq : enterState w t prev st r = some (r', true)) :
    Replayed old r'.job (n + if st.dispatched then 1 else 0) := by
  cases st
  case prolog =>
    simp only [enterState] at eq
    split at eq
    · cases eq
    · cases eq
    · rename_i r₁ read
      exact stampHead_replayed (recoverHistoryRecord_replayed h read) eq
  case migrCancel => exact recoverHistoryRecord_replayed h eq
  case migrEpilog =>
    obtain ⟨r₁, stamped, same⟩ := Option.map_eq_some_iff.1 eq
    cases same
    exact h.stamp Dm.stampPrev_keepsCore Dm.stampPrev_keeps stamped
  case epilog =>
    simp only [enterState] at eq
    split at eq
    · exact stampHead_replayed h eq
    · cases eq
      exact h
  case stopped | failed =>
    obtain ⟨r₁, head, same⟩ := Option.map_eq_some_iff.1 eq
    cases same
    have h' := h.stamp Dm.stampHead_keepsCore Dm.stampHead_keeps head
    exact h'.congr rfl rfl
  case zombie =>
    obtain ⟨r₂, both, same⟩ := Option.map_eq_some_iff.1 eq
    cases same
    obtain ⟨r₁, head, reason⟩ := Option.bind_eq_some_iff.1 both
    have h₁ := h.stamp Dm.stampHead_keepsCore Dm.stampHead_keeps head
    have h₂ := h₁.stamp Dm.setReason_keepsCore Dm.setReason_keeps reason
    exact h₂.congr rfl rfl
  case init => cases eq
  case pending | hold | preWrapper | stopCancel | killCancel =>
    cases eq
    exact h
  all_goals exact stampHead_replayed h eq

/-- One line of `job.state`. -/
lemma recoverTransition_replayed {out : WrapperStd} {t : Time} {prev st : JobState}
    (h : Replayed old r.job n) (eq : recoverTransition w out t prev st r = some (r', true)) :
    Replayed old r'.job (n + if st.dispatched then 1 else 0) := by
  -- the exit code is no part of the replay
  have coded : Replayed old (recoverExitCode out r.job) n := by
    unfold recoverExitCode
    split
    · exact h.congr rfl rfl
    · exact h
  obtain ⟨r₁, left, entered⟩ := Option.bind_eq_some_iff.1 eq
  apply enterState_replayed _ entered
  split at left
  · exact leaveState_replayed coded left
  · exact leaveState_replayed h left

lemma dispatchLines_cons (t : Time) (st : JobState) (lines : List (Time × JobState)) :
    dispatchLines ((t, st) :: lines) = (if st.dispatched then 1 else 0) + dispatchLines lines := by
  rw [dispatchLines, List.countP_cons, Nat.add_comm]
  rfl

/-- The lines of `job.state` after the first one. -/
lemma recoverStates_replayed {out : WrapperStd} {before prev : JobState}
    {lines : List (Time × JobState)} {last : JobState × JobState} (h : Replayed old r.job n)
    (eq : recoverStates w out before prev lines r = some (r', some last)) :
    Replayed old r'.job (n + dispatchLines lines) := by
  induction lines generalizing before prev r n with
  | nil =>
    cases eq
    exact h
  | cons line lines ih =>
    obtain ⟨t, st⟩ := line
    simp only [recoverStates] at eq
    split at eq
    · cases eq
    · cases eq
    · rename_i r₁ one
      rw [dispatchLines_cons, ← Nat.add_assoc]
      exact ih (recoverTransition_replayed h one) eq

end Job

/-- A call that a recovery makes: it counts the job again and queues what comes next. -/
@[simp] def recoversCall : Call → Bool
  | .host _ _ => true
  | .incRunning _ _ => true
  | .dm _ => true
  | .sched _ => true
  | .emMad _ _ => true
  | .fault => true
  | _ => false

lemma reenterEpilog_calls (a : DmAction) (job : Job) :
    (reenterEpilog a job).all recoversCall = true := by
  unfold reenterEpilog
  split <;> rfl

lemma reenterExecution_calls (job : Job) {next : List Call} (rest : next.all recoversCall = true) :
    (reenterExecution job next).all recoversCall = true := by
  unfold reenterExecution
  split
  · rfl
  · simpa using rest

lemma reenterMigration_calls (a : DmAction) (job : Job) :
    (reenterMigration a job).all recoversCall = true := by
  unfold reenterMigration
  split <;> rfl

/-- The last state is entered again: the job keeps its label, and only counters and queues are
written. -/
lemma lastTransition_spec (contact : Option String) (st : JobState) (job : Job) :
    (lastTransition contact st job).job.core = job.core ∧
      (lastTransition contact st job).job.label = job.label ∧
      (lastTransition contact st job).calls.all recoversCall = true := by
  unfold lastTransition
  cases st
  case wrapper =>
    dsimp only
    split
    · exact ⟨rfl, rfl, reenterExecution_calls job rfl⟩
    · exact ⟨rfl, rfl, reenterExecution_calls job rfl⟩
  case prolog | preWrapper => exact ⟨rfl, rfl, reenterExecution_calls job rfl⟩
  case migrCancel | migrProlog | migrEpilog => exact ⟨rfl, rfl, reenterMigration_calls _ job⟩
  case pending | hold | stopped | failed | zombie | init => exact ⟨rfl, rfl, rfl⟩
  all_goals exact ⟨rfl, rfl, reenterEpilog_calls _ job⟩

lemma reply_recovers {out : Reply} (calls : out.calls.all recoversCall = true) :
    (reply w j out s).jobs = Function.update s.jobs j (some out.job) ∧
      (reply w j out s).dirs = s.dirs := by
  have all {γ : Type} (π : Gwd → γ) (step : ∀ s c, recoversCall c = true → π (call w j s c) = π s)
      (cs : List Call) (s : Gwd) (calls : cs.all recoversCall = true) :
      π (cs.foldl (call w j) s) = π s := by
    induction cs generalizing s with
    | nil => rfl
    | cons c cs ih =>
      simp only [List.all_cons, Bool.and_eq_true] at calls
      rw [List.foldl_cons, ih _ calls.2, step s c calls.1]
  constructor
  · apply all Gwd.jobs _ out.calls _ calls
    intro s c ok
    cases c <;> simp [call, incRunningJobs] at ok ⊢
  · apply all Gwd.dirs _ out.calls _ calls
    intro s c ok
    cases c <;> simp [call, incRunningJobs] at ok ⊢

/-- A job that is replayed to the end is stored with what its directory shows; else no job of the
pool changes. -/
lemma replayJob_spec {wR : RecoverWorld} {uid : UserId} {dir : JobDir} {job job' : Job}
    (start : Replayed old job 0) (eq : replayJob wR uid dir s job = some (s', job', ok)) :
    s'.dirs = s.dirs ∧
      if ok then
        s'.jobs = Function.update s.jobs job.id (some job') ∧ Replayed old job' dir.shown
      else s'.jobs = s.jobs := by
  unfold replayJob at eq
  split at eq
  · cases eq
    exact ⟨rfl, rfl⟩
  · cases eq
  · rename_i t st lines states
    split at eq
    · cases eq
    · rename_i r₁ first
      cases eq
      obtain ⟨hosts, same⟩ := recoverTransition_same first
      rw [same]
      exact ⟨rfl, rfl⟩
    · rename_i r₁ first
      have h₁ := recoverTransition_replayed start first
      split at eq
      · cases eq
      · rename_i r₂ rest
        cases eq
        obtain ⟨hosts, same⟩ := (recoverTransition_same first).trans (recoverStates_same rest)
        rw [same]
        exact ⟨rfl, rfl⟩
      · rename_i r₂ before last rest
        cases eq
        obtain ⟨hosts, same⟩ := (recoverTransition_same first).trans (recoverStates_same rest)
        have h₂ := recoverStates_replayed h₁ rest
        obtain ⟨core, label, calls⟩ := lastTransition_spec dir.contact last (r₂.job.setState before)
        obtain ⟨jobs, dirs⟩ := reply_recovers (w := wR.world) (j := job.id) (s := r₂.gwd) calls
        refine ⟨?_, ?_, ?_⟩
        · rw [incJobs, (userOp_frame ..).2.2.2.2.2.2.2.2.2.2.2.2.2.1, dirs, same]
        · rw [incJobs, (userOp_frame ..).2.1, jobs, same]
        · have shown : dir.shown = 0 + (if st.dispatched then 1 else 0) + dispatchLines lines := by
            rw [JobDir.shown, states, Option.getD_some, dispatchLines_cons, Nat.zero_add]
          rw [shown]
          exact h₂.congr core label

/-- The user of a recovered job is looked up or registered; the jobs and the directories stay. -/
lemma recoverUser_frame (wR : RecoverWorld) (conf : JobConf) (s : Gwd) :
    (s.recoverUser wR conf).1.jobs = s.jobs ∧ (s.recoverUser wR conf).1.dirs = s.dirs := by
  unfold recoverUser
  split
  · exact ⟨rfl, rfl⟩
  · unfold userAllocate
    dsimp only
    repeat' split
    all_goals exact ⟨rfl, rfl⟩

/-- A job that is recovered is stored with its directory and the restarts that the directory
shows. -/
lemma jobRecover_spec {wR : RecoverWorld} {dir : JobDir} {job job' : Job}
    (first : job.history = []) (zero : job.restarted = 0)
    (eq : s.jobRecover wR dir job = some (s', job', ok)) :
    s'.dirs = s.dirs ∧
      if ok then
        s'.jobs = Function.update s.jobs job.id (some job') ∧
          job'.label = ⟨job.directory, dir.shown - 1⟩
      else s'.jobs = s.jobs := by
  unfold jobRecover at eq
  split at eq
  · dsimp only at eq
    split at eq
    · cases eq
      exact ⟨rfl, rfl⟩
    · rename_i conf _
      obtain ⟨jobs, dirs⟩ := recoverUser_frame wR conf s
      split at eq
      · rename_i user
        rw [user] at jobs dirs
        cases eq
        exact ⟨dirs, jobs⟩
      · rename_i uid user
        rw [user] at jobs dirs
        split at eq
        · have label {job : Job} (first : job.history = []) (zero : job.restarted = 0) :
              Replayed job job 0 :=
            ⟨rfl, rfl, rfl, by simp only [Job.label, zero], by rw [first]; rfl⟩
          obtain ⟨dirs', stored⟩ := replayJob_spec (label (by exact first) (by exact zero)) eq
          refine ⟨dirs'.trans dirs, ?_⟩
          cases ok with
          | false => exact stored.trans jobs
          | true =>
            obtain ⟨jobs', replayed⟩ := stored
            rw [jobs] at jobs'
            exact ⟨jobs', replayed.label⟩
        · cases eq
          exact ⟨dirs, jobs⟩
  · cases eq
    exact ⟨rfl, rfl⟩

/-- What the pool holds of a job when the directories are read. -/
structure Restored (old s : Gwd) : Prop where
  dirs : s.dirs = old.dirs
  label : s.crashed = false → ∀ j job, s.jobs j = some job →
    ∃ dir, old.dirs j = some dir ∧ job.label = ⟨directoryOf j, dir.shown - 1⟩

/-- One directory is read. -/
lemma Restored.recoverDir {old s : Gwd} (h : Restored old s) (wR : RecoverWorld) (j : JobId) :
    Restored old (recoverDir wR s j) := by
  unfold Gwd.recoverDir
  split
  · exact h
  · rename_i alive
    have alive : s.crashed = false := by simpa using alive
    split
    · exact h
    · rename_i dir there
      split
      · exact h
      · dsimp only
        split
        · exact ⟨h.dirs, fun up => by cases up⟩
        · -- the job is freed again
          rename_i s₁ job failed
          obtain ⟨dirs, jobs⟩ := jobRecover_spec rfl rfl failed
          refine ⟨by simpa using dirs.trans h.dirs, fun _ i job' here => ?_⟩
          simp only [jobPoolFree_frame, Function.update_idem] at here
          by_cases same : i = j
          · subst same
            simp at here
          · have jobs : s₁.jobs i = s.jobs i := by
              rw [jobs]
              exact Function.update_of_ne same ..
            rw [Function.update_of_ne same, jobs] at here
            exact h.label alive i job' here
        · rename_i s₁ job recovered
          obtain ⟨dirs, jobs, label⟩ := jobRecover_spec rfl rfl recovered
          have restored : Restored old s₁ := by
            refine ⟨dirs.trans h.dirs, fun _ i job' here => ?_⟩
            by_cases same : i = j
            · subst same
              rw [jobs] at here
              have self : job = job' := by simpa [jobInit] using here
              exact ⟨dir, h.dirs ▸ there, self ▸ label⟩
            · rw [jobs, Function.update_of_ne (by exact same)] at here
              exact h.label alive i job' (by simpa [same] using here)
          split
          · exact restored
          · exact ⟨restored.dirs, restored.label⟩

/-- The check of the dependencies may release a job; it moves no label. -/
lemma depConsistency_label (w : World) (s : Gwd) (j : JobId) :
    ((s.depConsistency w).jobs j).map Job.label = (s.jobs j).map Job.label ∧
      (s.depConsistency w).crashed = s.crashed := by
  have one (s : Gwd) (i : JobId) :
      (((s.depConsistencyOne w i).jobs j).map Job.label, (s.depConsistencyOne w i).crashed) =
        ((s.jobs j).map Job.label, s.crashed) := by
    unfold depConsistencyOne
    split
    · rename_i ds job deps here
      split
      · dsimp only
        split
        · by_cases same : j = i
          · subst same
            simp [here]
          · simp [same]
        · rfl
      · rfl
    · rfl
  have all := foldl_frame (π := fun s : Gwd => ((s.jobs j).map Job.label, s.crashed)) one s
    (List.range s.conf.numberOfJobs)
  exact ⟨congrArg Prod.fst all, congrArg Prod.snd all⟩

/-- A recovered job has its directory, and the restarts that its directory shows. -/
theorem restart_label {wR : RecoverWorld} {job : Job} (up : (s.restart wR).crashed = false)
    (back : (s.restart wR).jobs j = some job) :
    ∃ dir, s.dirs j = some dir ∧ job.label = ⟨directoryOf j, dir.shown - 1⟩ := by
  have start : Restored s { Gwd.start s.conf with dirs := s.dirs } :=
    ⟨rfl, fun _ i job here => by cases here⟩
  have read (js : List JobId) (s₁ : Gwd) (h : Restored s s₁) :
      Restored s (js.foldl (recoverDir wR) s₁) := by
    induction js generalizing s₁ with
    | nil => exact h
    | cons i js ih => exact ih _ (h.recoverDir wR i)
  have restored := read wR.order _ start
  unfold restart recoverState at up back
  dsimp only at up back
  split at up
  · rename_i crashed
    rw [crashed] at up
    cases up
  · rename_i alive
    rw [if_neg alive] at back
    obtain ⟨labels, crashes⟩ := depConsistency_label wR.world
      (wR.order.foldl (recoverDir wR) { Gwd.start s.conf with dirs := s.dirs }) j
    rw [back, Option.map_some] at labels
    obtain ⟨job', here, label⟩ := Option.map_eq_some_iff.1 labels.symm
    obtain ⟨dir, there, shown⟩ := restored.label (crashes.symm.trans up) j job' here
    exact ⟨dir, there, label.symm.trans shown⟩

end Gwd

end GridWay
