import GridWay.Gwd.Turn

/-!
# Reload of a transfer driver

`gw_job_pool_tm_recover` is called when a transfer driver was started again. It visits the whole
job pool: the driver and its user are no arguments of it.

* `Gwd.jobPoolTmRecover`: the visit of the pool.
* `Gwd.ReloadExact`: the transfers that the driver had are started again, and nothing else changes.
* `Gwd.reload_exact`: when a reload is exact.
-/

namespace GridWay

/-- The action that starts the files of a state again. -/
def JobState.stage : JobState → Option DmAction
  | .prolog => some .prolog
  | .migrProlog => some .migrProlog
  | .preWrapper => some .preWrapper
  | .epilog => some .epilog
  | .epilogStd => some .epilogStd
  | .epilogRestart => some .epilogRestart
  | .epilogFail => some .epilogFail
  | .stopEpilog => some .stopEpilog
  | .killEpilog => some .killEpilog
  | .migrEpilog => some .migrEpilog
  | _ => none

/-- The states for which `gw_job_pool_tm_recover` queues an action. -/
def JobState.reloaded (st : JobState) : Bool :=
  st.stage.isSome && st != .migrProlog && st != .preWrapper

/-- The transfers of the job go through the driver `mad` of the user `u`. -/
def Job.usesTm (u : UserId) (mad : String) (job : Job) : Bool :=
  job.userId == some u && job.history.head?.any (·.tmMad == mad)

/-- A transfer of the job is lost with the driver `mad` of the user `u`. -/
def Job.lost (u : UserId) (mad : String) (job : Job) : Bool :=
  job.usesTm u mad && (job.jobState.stage.isSome || job.tmState == .checkpoint)

/-- The jobs that a reload of the driver `mad` of the user `u` treats as it should: in the states
that are started again, the jobs of that driver; in the other states, the jobs that have no transfer
in progress and are not between two hosts with that driver. -/
def Job.wellReloaded (u : UserId) (mad : String) (job : Job) : Bool :=
  if job.jobState.reloaded then job.usesTm u mad
  else job.tmState == .init &&
    !(job.usesTm u mad && (job.jobState == .migrProlog || job.jobState == .preWrapper))

namespace Tm

/-- The visit of one job. -/
lemma recover_eq (w : World) (job : Job) :
    recover w job = ⟨{ job with tmState := .init },
      if job.jobState.reloaded then job.jobState.stage.toList.map .dm else []⟩ := by
  cases st : job.jobState <;> simp [recover, st, JobState.reloaded, JobState.stage]

end Tm

namespace Gwd

variable {w : World} {s s' : Gwd} {i j : JobId} {job : Job}

/-- `gw_job_pool_tm_recover`. -/
def jobPoolTmRecover (w : World) (s : Gwd) : Gwd :=
  (List.range s.conf.numberOfJobs).foldl (fun s j => s.onJob w j Tm.recover) s

/-- Nothing is queued, at a manager or at a driver, for the transfers of a job. -/
def Spared (s s' : Gwd) (j : JobId) : Prop :=
  s'.dmWaiting j = s.dmWaiting j ∧ s'.tmWaiting j = s.tmWaiting j ∧ s'.tmSent j = s.tmSent j

/-- The transfer of a job is started again: the action of its state is queued; for a checkpoint,
anything at all. -/
def Restarted (s s' : Gwd) (j : JobId) (job : Job) : Prop :=
  match job.jobState.stage with
  | some a => s'.dmWaiting j = s.dmWaiting j ++ [a]
  | none => ¬ Spared s s' j

/-- The reload of the driver `mad` of the user `u` starts again what was lost, and only that. -/
structure ReloadExact (u : UserId) (mad : String) (s s' : Gwd) : Prop where
  restarted : ∀ j job, j < s.conf.numberOfJobs → s.jobs j = some job → job.lost u mad = true →
    Restarted s s' j job
  kept : ∀ j job, j < s.conf.numberOfJobs → s.jobs j = some job → job.lost u mad = false →
    s'.jobs j = some job ∧ Spared s s' j

lemma Spared.refl : Spared s s j := ⟨rfl, rfl, rfl⟩

/-- A visit of another job. -/
lemma onJob_recover_other (other : j ≠ i) :
    (s.onJob w i Tm.recover).jobs j = s.jobs j ∧ Spared s (s.onJob w i Tm.recover) j := by
  unfold onJob
  cases s.jobs i with
  | none => exact ⟨rfl, .refl⟩
  | some job =>
    refine ⟨?_, reply_dmWaiting_other _ _ _ _ other, reply_tmWaiting_other _ _ _ _ other,
      reply_tmSent_other _ _ _ _ other⟩
    refine reply_other_calm other fun code mem => ?_
    rw [Tm.recover_eq] at mem
    split at mem
    · simp at mem
    · cases mem

/-- What the visit of a job leaves. -/
structure Visited (s s' : Gwd) (j : JobId) (job : Job) : Prop where
  jobs : s'.jobs j = some { job with tmState := .init }
  dm : s'.dmWaiting j =
    s.dmWaiting j ++ (if job.jobState.reloaded then job.jobState.stage.toList else [])
  tm : s'.tmWaiting j = s.tmWaiting j
  tmSent : s'.tmSent j = s.tmSent j

lemma onJob_recover (here : s.jobs j = some job) :
    Visited s (s.onJob w j Tm.recover) j job := by
  rw [onJob, here]
  dsimp only
  rw [Tm.recover_eq]
  by_cases st : job.jobState.reloaded
  · obtain ⟨a, stage⟩ : ∃ a, job.jobState.stage = some a := by
      simp only [JobState.reloaded, Bool.and_eq_true] at st
      exact Option.isSome_iff_exists.1 st.1.1
    simp only [if_pos st, stage, Option.toList_some, List.map_cons, List.map_nil]
    refine ⟨reply_write (by simp) (by simp), ?_, ?_, ?_⟩
    · rw [reply_dmWaiting, if_pos st, stage]
      rfl
    · rw [reply_tmWaiting]
      exact List.append_nil _
    · rw [reply_tmSent]
      exact List.append_nil _
  · rw [if_neg st]
    refine ⟨reply_write (by simp) (by simp), ?_, ?_, ?_⟩
    · rw [reply_dmWaiting, if_neg st]
      rfl
    · rw [reply_tmWaiting]
      exact List.append_nil _
    · rw [reply_tmSent]
      exact List.append_nil _

lemma visit_other (ids : List JobId) (other : j ∉ ids) :
    (ids.foldl (fun s j => s.onJob w j Tm.recover) s).jobs j = s.jobs j ∧
      Spared s (ids.foldl (fun s j => s.onJob w j Tm.recover) s) j := by
  induction ids generalizing s with
  | nil => exact ⟨rfl, .refl⟩
  | cons i ids ih =>
    have ne := List.ne_of_not_mem_cons other
    have rest := List.not_mem_of_not_mem_cons other
    obtain ⟨jobs, dm, tm, sent⟩ := onJob_recover_other (w := w) (s := s) ne
    obtain ⟨jobs', dm', tm', sent'⟩ := ih (s := s.onJob w i Tm.recover) rest
    exact ⟨jobs'.trans jobs, dm'.trans dm, tm'.trans tm, sent'.trans sent⟩

/-- The loop visits a job once. -/
lemma visit_self {ids : List JobId} (once : ids.Nodup) (mem : j ∈ ids) (here : s.jobs j = some job) :
    Visited s (ids.foldl (fun s j => s.onJob w j Tm.recover) s) j job := by
  induction ids generalizing s with
  | nil => cases mem
  | cons i ids ih =>
    obtain ⟨fresh, once⟩ := List.nodup_cons.1 once
    rcases List.mem_cons.1 mem with rfl | later
    · have first := onJob_recover (w := w) here
      obtain ⟨jobs, dm, tm, sent⟩ := visit_other (w := w) (s := s.onJob w j Tm.recover) ids fresh
      exact ⟨jobs.trans first.jobs, dm.trans first.dm, tm.trans first.tm, sent.trans first.tmSent⟩
    · have ne : j ≠ i := by
        rintro rfl
        exact fresh later
      obtain ⟨jobs, dm, tm, sent⟩ := onJob_recover_other (w := w) (s := s) ne
      have rest := ih (s := s.onJob w i Tm.recover) once later (jobs.trans here)
      exact ⟨rest.jobs, by rw [← dm]; exact rest.dm, rest.tm.trans tm, rest.tmSent.trans sent⟩

lemma jobPoolTmRecover_visited (below : j < s.conf.numberOfJobs) (here : s.jobs j = some job) :
    Visited s (s.jobPoolTmRecover w) j job :=
  visit_self List.nodup_range (List.mem_range.2 below) here

lemma Visited.exact_iff {u : UserId} {mad : String} (v : Visited s s' j job) :
    ((job.lost u mad = true → Restarted s s' j job) ∧
      (job.lost u mad = false → s'.jobs j = some job ∧ Spared s s' j)) ↔
    job.wellReloaded u mad = true := by
  by_cases st : job.jobState.reloaded
  · obtain ⟨a, stage⟩ : ∃ a, job.jobState.stage = some a := by
      simp only [JobState.reloaded, Bool.and_eq_true] at st
      exact Option.isSome_iff_exists.1 st.1.1
    have dm := v.dm
    rw [if_pos st, stage, Option.toList_some] at dm
    simp [Job.wellReloaded, Job.lost, Restarted, Spared, st, stage, dm]
  · have dm := v.dm
    rw [if_neg st, List.append_nil] at dm
    have same : some { job with tmState := .init } = some job ↔ job.tmState = .init := by
      rw [Option.some_inj]
      exact ⟨fun eq => eq ▸ rfl, fun eq => by rw [← eq]⟩
    cases stage : job.jobState.stage with
    | some a =>
      have between : (job.jobState == .migrProlog || job.jobState == .preWrapper) = true := by
        cases state : job.jobState <;> simp_all [JobState.reloaded, JobState.stage]
      cases uses : job.usesTm u mad <;>
        simp [Job.wellReloaded, Job.lost, Restarted, Spared, st, stage, dm, v.jobs, v.tm,
          v.tmSent, same, uses, between]
    | none =>
      have rest : job.jobState ≠ .migrProlog ∧ job.jobState ≠ .preWrapper := by
        constructor <;> intro state <;> simp [state, JobState.stage] at stage
      cases uses : job.usesTm u mad
      · simp [Job.wellReloaded, Job.lost, Spared, st, dm, v.jobs, v.tm, v.tmSent, same, uses]
      · by_cases checkpoint : job.tmState = .checkpoint
        · simp [Job.wellReloaded, Job.lost, Restarted, Spared, st, stage, dm, v.tm, v.tmSent,
            uses, checkpoint]
        · simp [Job.wellReloaded, Job.lost, Spared, st, stage, dm, v.jobs, v.tm, v.tmSent, same,
            uses, rest, checkpoint]

/-- The loop is the reload seen by one job after the other. -/
lemma jobPoolTmRecover_run (live : s.crashed = false) :
    s.jobPoolTmRecover w =
      Machine.run step s ((List.range s.conf.numberOfJobs).map (.tmReload · w)) := by
  rw [jobPoolTmRecover]
  generalize List.range s.conf.numberOfJobs = ids
  induction ids generalizing s with
  | nil => rfl
  | cons i ids ih =>
    have same : s.step (.tmReload i w) = s.onJob w i Tm.recover := by simp [step, live, Gwd.live]
    rw [List.foldl_cons, List.map_cons, Machine.run_cons, same]
    refine ih ?_
    unfold onJob
    cases s.jobs i with
    | none => exact live
    | some job =>
      dsimp only
      rw [Tm.recover_eq]
      cases st : job.jobState <;>
        simpa [st, JobState.reloaded, JobState.stage, reply, call] using live

/-- The reload of a driver is exact if and only if every job of the pool is one that it treats as
it should. -/
theorem reload_exact (w : World) (s : Gwd) (u : UserId) (mad : String) :
    ReloadExact u mad s (s.jobPoolTmRecover w) ↔
      ∀ j job, j < s.conf.numberOfJobs → s.jobs j = some job → job.wellReloaded u mad = true := by
  constructor
  · rintro ⟨restarted, kept⟩ j job below here
    exact (jobPoolTmRecover_visited below here).exact_iff.1
      ⟨restarted j job below here, kept j job below here⟩
  · intro well
    constructor
    · intro j job below here
      exact ((jobPoolTmRecover_visited below here).exact_iff.2 (well j job below here)).1
    · intro j job below here
      exact ((jobPoolTmRecover_visited below here).exact_iff.2 (well j job below here)).2

/-- A job whose prolog runs through the driver `tm`. -/
def prologOne : List Event :=
  [.hostAllocate 0 { hostname := "host", emMad := "em", tmMad := "tm", imMad := "im" },
    .submit { owner := "user", template := { executable := some "exe", numberOfRetries := 3 } },
    .dm {}, .scheduleJob 0 0 "default" 0 {}, .dm {}, .tm {}]

/-- Another driver is reloaded: the prolog, which was in progress, is started a second time. -/
theorem reload_not_exact : ¬ ∀ (conf : Conf) (evs : List Event) (w : World) (u : UserId)
    (mad : String), (Machine.run step (Gwd.start conf) evs).crashed = false →
    ReloadExact u mad (Machine.run step (Gwd.start conf) evs)
      ((Machine.run step (Gwd.start conf) evs).jobPoolTmRecover w) := by
  intro exact
  have kept := (exact ⟨4, 4, 4, 4⟩ prologOne {} 0 "other" (by decide)).kept 0
  obtain ⟨job, here⟩ : ∃ job,
      (Machine.run step (Gwd.start ⟨4, 4, 4, 4⟩) prologOne).jobs 0 = some job :=
    Option.isSome_iff_exists.1 (by decide)
  have unused : ((Machine.run step (Gwd.start ⟨4, 4, 4, 4⟩) prologOne).jobs 0).any
      (Job.lost 0 "other") = false := by decide
  rw [here, Option.any_some] at unused
  have same := (kept job (by decide) here unused).2.1
  revert same
  decide

end Gwd

end GridWay
