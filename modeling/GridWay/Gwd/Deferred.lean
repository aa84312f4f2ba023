import GridWay.Em.Frame
import GridWay.Gwd.Cancels

/-!
# Epilogs that wait for a checkpoint

In `STOP_EPILOG` and `EPILOG_RESTART` the Transfer Manager does not interrupt a checkpoint: it takes
the request for the epilog, and the end of the checkpoint is to start it. The end of the last copy
looks at the state of the job; a driver that fails to start the transfer does not.

* `Gwd.deferrals`: the observer that remembers which epilogs were deferred and have not started.
* `Gwd.DeferralsKept`: a deferred epilog still has a transfer in progress that will start it.
* `Gwd.deferrals_kept`: it holds along a run if and only if no start of a checkpoint fails while
  the epilog of the job is deferred.
-/

namespace GridWay

/-- The states whose epilog lets a checkpoint end first. -/
def JobState.defers : JobState → Bool
  | .stopEpilog | .epilogRestart => true
  | _ => false

/-- The action that starts the epilog of such a state anew. -/
def JobState.restartOf : JobState → DmAction
  | .stopEpilog => .stopEpilog
  | _ => .epilogRestart

/-- A checkpoint of the job is in progress, or is being cancelled. -/
def Job.checkpointing (job : Job) : Bool :=
  job.tmState == .checkpoint || job.tmState == .checkpointCancel

/-- The files of an epilog are on their way, or were given up. -/
def Job.inEpilog (job : Job) : Bool := job.tmState == .epilog || job.tmState == .epilogFailed

namespace Tm

variable {w : World} {job : Job}

/-- The end of a checkpoint whose job waits for an epilog starts the epilog. -/
lemma checkpointVerdict_starts {head} (defers : job.jobState.defers) :
    (checkpointVerdict w job head).job.inEpilog := by
  have waits : job.jobState = .stopEpilog ∨ job.jobState = .epilogRestart := by
    cases st : job.jobState <;> simp_all [JobState.defers]
  rw [checkpointVerdict, if_pos waits]
  unfold epilogStageOut
  split
  · rfl
  · split
    · rfl
    · split
      · unfold epilogFinish
        split <;> rfl
      · dsimp only
        split
        · unfold epilogGiveUp
          split <;> rfl
        · rfl

lemma checkpointCp_busy (defers : job.jobState.defers) (busy : job.checkpointing) :
    (checkpointCp w job).job.checkpointing ∨ (checkpointCp w job).job.inEpilog := by
  unfold checkpointCp
  split
  · exact .inl busy
  · split
    · exact .inl busy
    · dsimp only
      split
      · exact .inr (checkpointVerdict_starts defers)
      · exact .inl busy

lemma checkpointCpCb_busy {i failure} (defers : job.jobState.defers) (busy : job.checkpointing) :
    (checkpointCpCb w i failure job).job.checkpointing ∨
      (checkpointCpCb w i failure job).job.inEpilog := by
  unfold checkpointCpCb
  split
  · exact .inl busy
  · split
    · exact .inl busy
    · dsimp only
      generalize (if failure = true then _ else _ : Xfr × Bool) = copied
      split
      · exact .inr (checkpointVerdict_starts defers)
      · exact .inl busy

lemma tick_tmState : (tick w job).job.tmState = job.tmState := by
  unfold tick
  repeat' split
  all_goals rfl

/-- The actions of the Transfer Manager leave a checkpoint of a job that waits for an epilog. -/
lemma handle_busy (a : TmAction) (defers : job.jobState.defers) (busy : job.checkpointing) :
    (handle a w job).job.checkpointing := by
  have started : job.tmState ≠ .init := fun init => by simp [Job.checkpointing, init] at busy
  cases a with
  | prolog =>
    simp only [handle, prolog]
    split
    · exact busy
    · rw [if_neg started]
      rfl
  | epilog =>
    simp only [handle, epilog]
    split
    · exact busy
    · rw [if_neg started]
      cases st : job.jobState <;> simp_all [JobState.defers]

lemma timer_busy (busy : job.checkpointing) : (timer w job).job.checkpointing := by
  have started : job.tmState ≠ .init := fun init => by simp [Job.checkpointing, init] at busy
  rw [timer, if_neg fun due => started due.2.2.1]
  simpa only [Job.checkpointing, tick_tmState] using busy

/-- A message, other than a failed start of the checkpoint, leaves the checkpoint or starts the
epilog. -/
lemma listener_busy (msg : Msg) (defers : job.jobState.defers) (busy : job.checkpointing)
    (start : ¬ (msg.verb = .start ∧ msg.failure = true ∧ job.tmState = .checkpoint)) :
    (listener msg w job).job.checkpointing ∨ (listener msg w job).job.inEpilog := by
  have state : job.tmState = .checkpoint ∨ job.tmState = .checkpointCancel := by
    simpa [Job.checkpointing] using busy
  rw [listener, if_neg (by rcases state with st | st <;> simp [st])]
  cases verb : msg.verb
  case start =>
    rcases state with st | st <;> simp only [startCb, st]
    · split
      · rename_i failure
        exact absurd ⟨verb, failure, st⟩ start
      · exact checkpointCp_busy defers busy
    · exact .inl busy
  case finish =>
    rcases state with st | st <;> simp only [endCb, st]
    · exact .inl busy
    · split
      · exact .inl busy
      · right
        have off : ¬ (job.jobState = .prolog ∨ job.jobState = .migrProlog) := by
          rintro (st | st) <;> simp [st, JobState.defers] at defers
        simp [Job.inEpilog, off]
  case mkdir =>
    rcases state with st | st <;> simp only [mkdirCb, st]
    all_goals exact .inl busy
  case rmdir =>
    rcases state with st | st <;> simp only [rmdirCb, st]
    all_goals exact .inl busy
  case cp =>
    rcases state with st | st <;> simp only [cpCb, st]
    · exact checkpointCpCb_busy defers busy
    · exact .inl busy

end Tm

namespace Gwd

variable {w : World} {s : Gwd} {j : JobId} {job : Job} {e : Event}

/-- `GW_TM_EPILOG` is taken for a job while its checkpoint is in progress: it starts nothing. -/
def defersEpilog (s : Gwd) (j : JobId) (e : Event) : Bool :=
  match e, s.tmQueue with
  | .tm _, (.epilog, i) :: _ =>
    i == j && (s.jobs j).any fun job =>
      job.tmState == .checkpoint && job.jobState.defers && !job.history.isEmpty
  | _, _ => false

/-- A step of the daemon in which the epilog of a job starts, or is queued anew. -/
def epilogStarts (s s' : Gwd) (j : JobId) (job' : Job) : Bool :=
  job'.inEpilog || s'.dmWaiting j == s.dmWaiting j ++ [job'.jobState.restartOf]

/-- The deferred epilogs after an event. An entry goes when the epilog starts, when the job leaves
the state in which the epilog was requested, and with the job. -/
def deferrals (s : Gwd) (deferred : JobId → Bool) (e : Event) (j : JobId) : Bool :=
  match s.jobs j, (s.step e).jobs j with
  | some job, some job' =>
    (deferred j || s.defersEpilog j e) && job'.jobState == job.jobState &&
      !epilogStarts s (s.step e) j job'
  | _, _ => false

/-- The daemon and the deferred epilogs, as a run begins. -/
def noDeferrals (conf : Conf) : Gwd × (JobId → Bool) := (Gwd.start conf, fun _ => false)

/-- A deferred epilog still has the transfer in progress that it waits for. -/
def DeferralsKept (p : Gwd × (JobId → Bool)) : Prop :=
  ∀ j, p.2 j = true → (p.1.jobs j).any Job.checkpointing = true

/-- The start of a checkpoint fails while the epilog of the job is deferred. -/
def abandons (p : Gwd × (JobId → Bool)) : Event → Bool
  | .tmMsg j msg _ =>
    p.2 j && msg.verb == .start && msg.failure && (p.1.jobs j).any (·.tmState == .checkpoint)
  | _ => false

/-- What is known of a job with a deferred epilog. -/
structure Deferring (s : Gwd) (j : JobId) (job : Job) : Prop where
  here : s.jobs j = some job
  defers : job.jobState.defers
  busy : job.checkpointing

/-- The invariant of the observed run. -/
structure DeferralInv (p : Gwd × (JobId → Bool)) : Prop where
  pool : Pool p.1
  deferring : ∀ j, p.2 j = true → ∃ job, Deferring p.1 j job

lemma DeferralInv.kept {p : Gwd × (JobId → Bool)} (inv : DeferralInv p) : DeferralsKept p := by
  intro j deferred
  obtain ⟨job, deferring⟩ := inv.deferring j deferred
  rw [deferring.here]
  exact deferring.busy

/-- Outside the Transfer Manager a turn leaves the state of the transfers, as long as the job is in
a state with an epilog and is not killed. -/
lemma turn_tmState {t : Turn} (defers : job.jobState.defers) (safe : .fault ∉ (t.handler w job).calls)
    (tm : ∀ a, t ≠ .tm a) (msg : ∀ m, t ≠ .tmMsg m) (timer : t ≠ .tmTimer) (reload : t ≠ .tmReload)
    (killed : t ≠ .dm .killHard) : (t.handler w job).job.tmState = job.tmState := by
  have side {r : Reply} (h : r.job.side = job.side) : r.job.tmState = job.tmState :=
    (congrArg Side.tmState h :)
  cases t
  case dm a =>
    obtain ⟨xfrs, same, -⟩ := Dm.handle_side (fun eq => killed (by rw [eq])) safe
    have keeps : Dm.resetsTm a job.jobState = false := by
      cases st : job.jobState <;> simp [st, JobState.defers] at defers <;> cases a <;> rfl
    have tm := congrArg Side.tmState same
    rw [keeps] at tm
    exact tm
  case em a => exact (Em.handle_own a w job).tmState
  case tm a => exact absurd rfl (tm a)
  case emMsg m => exact (Em.listener_own m w job).tmState
  case tmMsg m => exact absurd rfl (msg m)
  case dispatch hid host queue rank =>
    rcases Dm.dispatchJob_side w job hid host rank queue with same | same
    · exact side same
    · exact (congrArg Side.tmState same :)
  case uncheck => exact side (Dm.uncheckJob_side (w := w))
  case check => exact side Dm.checkJob_side
  case emTimer => exact Em.timer_own.tmState
  case tmTimer => exact absurd rfl timer
  case tmReload => exact absurd rfl reload

/-- A deferred epilog that a step does not start stays deferred. -/
lemma Deferring.step {job' : Job} (h : Deferring s j job) (pool : Pool s)
    (live : (s.step e).crashed = false) (after : (s.step e).jobs j = some job')
    (same : job'.jobState = job.jobState) (calm : epilogStarts s (s.step e) j job' = false)
    (start : ∀ msg w, e = .tmMsg j msg w →
      ¬ (msg.verb = .start ∧ msg.failure = true ∧ job.tmState = .checkpoint)) :
    Deferring (s.step e) j job' := by
  obtain ⟨here, defers, busy⟩ := h
  refine ⟨after, by rwa [same], ?_⟩
  have quiet : job'.inEpilog = false := by
    simp only [epilogStarts, Bool.or_eq_false_iff] at calm
    exact calm.1
  rcases turn_cases here live pool with aside | ⟨-, reloaded⟩ | ⟨t, w, s₁, takes, eq⟩
  · rcases aside.jobs with kept | ⟨job₀, before, hold, released⟩
    · rw [kept, here] at after
      cases after
      exact busy
    · rw [here] at before
      cases before
      simp [hold, JobState.defers] at defers
  · rw [reloaded.jobs] at after
    cases after
    exact busy
  · by_cases dm : ∃ a, t = .dm a
    · obtain ⟨a, rfl⟩ := dm
      cases takes
      case dm wS rest queue =>
        obtain ⟨safe, eff, act⟩ := turn_acted queue eq live
        have jobs := act.jobs
        rw [after] at jobs
        split at jobs
        · cases jobs
        · rename_i stays
          cases jobs
          have killed : a ≠ .killHard := by
            rintro rfl
            exact stays (Lifecycle.effects_killHard _ _ eff act.mem)
          have tm := turn_tmState (t := .dm a) defers safe (by simp) (by simp) (by simp) (by simp)
            (by simpa using killed)
          simpa only [Job.checkpointing, Turn.handler] using tm ▸ busy
    · have other : ∀ a, t ≠ .dm a := fun a is => dm ⟨a, is⟩
      obtain ⟨after', -⟩ := turn_keeps w s s₁ j job other
      rw [eq] at after live calm
      rw [after'] at after
      cases after
      cases takes
      case dm => exact absurd rfl (other _)
      case tm a rest queue => exact Tm.handle_busy a defers busy
      case tmMsg msg =>
        exact (Tm.listener_busy msg defers busy (start msg w rfl)).resolve_right fun begun => by
          rw [Turn.handler, begun] at quiet
          cases quiet
      case tmTimer => exact Tm.timer_busy busy
      case tmReload =>
        -- the reload queues the state of the job anew
        have queued : dmCalls (Tm.recover (s.world w) job).calls = [job.jobState.restartOf] := by
          cases st : job.jobState <;> simp [st, JobState.defers] at defers <;>
            simp [Tm.recover, st, JobState.restartOf, dmCalls]
        simp only [epilogStarts, reply_dmWaiting, Turn.handler, queued, Bool.or_eq_false_iff] at calm
        rw [show (Tm.recover (s.world w) job).job.jobState = job.jobState from same] at calm
        simp at calm
      all_goals
        have tm := turn_tmState defers (reply_live live).2 (by simp) (by simp) (by simp) (by simp)
          (by simp)
        simpa only [Job.checkpointing, tm] using busy

/-- The run with the observer of the deferred epilogs. -/
abbrev deferralStep : Gwd × (JobId → Bool) → Event → Gwd × (JobId → Bool) :=
  Machine.observe step deferrals

variable {p : Gwd × (JobId → Bool)}

/-- A job of which the observer remembers a deferred epilog after an event had one before, or gets
one with the event. -/
lemma deferrals_cases (deferred : (deferralStep p e).2 j = true) :
    ∃ job job', p.1.jobs j = some job ∧ (p.1.step e).jobs j = some job' ∧
      (p.2 j = true ∨ p.1.defersEpilog j e = true) ∧ job'.jobState = job.jobState ∧
      epilogStarts p.1 (p.1.step e) j job' = false := by
  simp only [deferralStep, Machine.observe, deferrals] at deferred
  split at deferred
  · rename_i job job' here after
    simp only [Bool.and_eq_true, Bool.or_eq_true, beq_iff_eq, Bool.not_eq_true'] at deferred
    exact ⟨job, job', here, after, deferred.1.1, deferred.1.2, deferred.2⟩
  · cases deferred

lemma DeferralInv.step (inv : DeferralInv p) (live : (p.1.step e).crashed = false)
    (ok : abandons p e = false) : DeferralInv (deferralStep p e) := by
  refine ⟨pool_step inv.pool (step_alive live) live, fun j deferred => ?_⟩
  obtain ⟨job, job', here, after, waits, same, calm⟩ := deferrals_cases deferred
  rcases waits with before | now
  · obtain ⟨job₀, deferring⟩ := inv.deferring j before
    have eq := deferring.here
    rw [here] at eq
    cases eq
    refine ⟨job', deferring.step inv.pool live after same calm ?_⟩
    rintro msg w rfl ⟨start, failure, st⟩
    simp [abandons, before, start, failure, here, st] at ok
  · unfold defersEpilog at now
    split at now
    · simp only [here, Option.any_some, Bool.and_eq_true, beq_iff_eq] at now
      obtain ⟨-, ⟨st, defers⟩, -⟩ := now
      have deferring : Deferring p.1 j job := ⟨here, defers, by simp [Job.checkpointing, st]⟩
      exact ⟨job', deferring.step inv.pool live after same calm (by rintro msg w ⟨⟩)⟩
    · cases now

/-- A failed start ends the checkpoint and leaves the epilog deferred. -/
lemma abandons_lost (abandons : abandons p e = true) (inv : DeferralInv p)
    (live : (p.1.step e).crashed = false) : ¬ DeferralsKept (deferralStep p e) := by
  cases e
  case tmMsg j msg w =>
    simp only [Gwd.abandons, Bool.and_eq_true, beq_iff_eq] at abandons
    obtain ⟨⟨⟨deferred, start⟩, failure⟩, checkpoint⟩ := abandons
    obtain ⟨job, here, -, -⟩ := inv.deferring j deferred
    have st : job.tmState = .checkpoint := by simpa [here] using checkpoint
    have eq : p.1.step (.tmMsg j msg w) = reply w j ⟨{ job with tmState := .init }, []⟩ p.1 := by
      simp [Gwd.step, step_alive live, Gwd.live, onJob, here, Tm.listener, Tm.startCb, start, st,
        failure]
    have after : (p.1.step (.tmMsg j msg w)).jobs j = some { job with tmState := .init } := by
      rw [eq]
      exact reply_write (by simp) (by simp)
    have queue : (p.1.step (.tmMsg j msg w)).dmWaiting j = p.1.dmWaiting j := by
      rw [eq, reply_dmWaiting]
      exact List.append_nil _
    intro kept
    have lost := kept j (by simp [deferralStep, Machine.observe, deferrals, here, after, deferred,
      epilogStarts, queue, Job.inEpilog])
    simp [deferralStep, Machine.observe, after, Job.checkpointing] at lost
  all_goals simp [Gwd.abandons] at abandons

lemma deferrals_kept_from {evs : List Event} (inv : DeferralInv p)
    (live : (Machine.run step p.1 evs).crashed = false) :
    (∀ evs₁ evs₂, evs = evs₁ ++ evs₂ → DeferralsKept (Machine.run deferralStep p evs₁)) ↔
      Machine.Guarded deferralStep (fun p e => abandons p e = false) p evs := by
  induction evs generalizing p with
  | nil =>
    refine ⟨fun _ => trivial, fun _ evs₁ evs₂ split => ?_⟩
    obtain ⟨rfl, -⟩ := List.append_eq_nil_iff.1 split.symm
    exact inv.kept
  | cons e evs ih =>
    have alive : (p.1.step e).crashed = false := run_alive live
    constructor
    · intro kept
      have calm : abandons p e = false := by
        rw [← Bool.not_eq_true]
        exact fun lost => abandons_lost lost inv alive (kept [e] evs rfl)
      refine ⟨calm, (ih (inv.step alive calm) live).1 fun evs₁ evs₂ split => ?_⟩
      exact kept (e :: evs₁) evs₂ (by rw [split, List.cons_append])
    · rintro ⟨calm, rest⟩ evs₁ evs₂ split
      cases evs₁ with
      | nil => exact inv.kept
      | cons e' evs₁ =>
        obtain ⟨rfl, rfl⟩ := List.cons_eq_cons.1 split
        exact (ih (inv.step alive calm) live).2 rest evs₁ evs₂ rfl

/-- Along a run every deferred epilog keeps the transfer that will start it, if and only if no
start of a checkpoint fails while the epilog of its job is deferred. -/
theorem deferrals_kept (conf : Conf) (evs : List Event)
    (live : (Machine.run step (Gwd.start conf) evs).crashed = false) :
    (∀ evs₁ evs₂, evs = evs₁ ++ evs₂ →
      DeferralsKept (Machine.run deferralStep (noDeferrals conf) evs₁)) ↔
    Machine.Guarded deferralStep (fun p e => abandons p e = false) (noDeferrals conf) evs :=
  deferrals_kept_from ⟨.start conf, fun _ deferred => by cases deferred⟩ live

/-- A job with a restart file is stopped while its checkpoint starts. -/
def deferredStop : List Event :=
  [.hostAllocate 0 { hostname := "host", emMad := "em", tmMad := "tm", imMad := "im" },
    .submit {
      owner := "user"
      template := {
        executable := some "exe", numberOfRetries := 3, restartFiles := ["state"]
        checkpointInterval := 10, checkpointUrl := "file:///backup" } },
    .dm {}, .scheduleJob 0 0 "default" 0 {}, .dm {}, .tm {},
    .tmMsg 0 { verb := .start } {}, .tmMsg 0 { verb := .mkdir } {},
    .tmMsg 0 { verb := .cp 0 } {}, .tmMsg 0 { verb := .finish } {}, .dm {}, .dm {}, .em {},
    .emMsg 0 { verb := .callback, result := "SUCCESS", info := "ACTIVE" } {}, .em {},
    .tmTimer 0 { now := 20 }, .request .stop 0, .dm {}, .em {},
    .emMsg 0 { verb := .callback, result := "SUCCESS", info := "DONE" } {}, .em {}, .dm {}, .dm {},
    .tm {}]

/-- The checkpoint ends and starts the epilog. -/
theorem deferrals_kept_copied :
    DeferralsKept (Machine.run deferralStep (noDeferrals ⟨4, 4, 4, 4⟩)
      (deferredStop ++ [.tmMsg 0 { verb := .start } {}, .tmMsg 0 { verb := .cp 0 } {}])) := by
  refine (deferrals_kept ⟨4, 4, 4, 4⟩ _ ?_).2 ?_ _ [] (List.append_nil _).symm
  · decide
  · decide

/-- The driver cannot start the transfer of the checkpoint: the job stays in `STOP_EPILOG`. -/
theorem deferral_lost : ¬ ∀ (conf : Conf) (evs : List Event),
    (Machine.run step (Gwd.start conf) evs).crashed = false →
    ∀ evs₁ evs₂, evs = evs₁ ++ evs₂ →
      DeferralsKept (Machine.run deferralStep (noDeferrals conf) evs₁) := by
  intro kept
  have lost := kept ⟨4, 4, 4, 4⟩ (deferredStop ++ [.tmMsg 0 { verb := .start, failure := true } {}])
    (by decide) _ [] (List.append_nil _).symm 0 (by decide)
  revert lost
  decide

end Gwd

end GridWay
