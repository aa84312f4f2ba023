import GridWay.Gwd.One

/-!
# Migrations

The dispatch of a job in `WRAPPER` links the record of the new host, counts a restart and takes
slots; the queued `MIGR_CANCEL` then starts the migration, or finds that the execution is over and
does nothing, and nothing of the dispatch is taken back.

* `Gwd.OnWay`: the migration waits or is on its way to `MIGR_PROLOG` on the new host.
* `Gwd.committedStep`: the events that let migrations go through.
* `Gwd.migration_whole`: the migrations of a run.
-/

namespace GridWay

open Lifecycle

namespace Lifecycle

/-- In `MIGR_CANCEL` the transition to `MIGR_PROLOG` is the only one that comes. -/
def migrates (a : DmAction) : Bool :=
  !a.isTransition || a == .migrProlog || a == .migrCancel || a == .zombie

lemma effects_migrates : ∀ a done, migrates a → ∀ eff ∈ effects a .migrCancel done,
    eff.frees ∨ eff.next = .migrCancel ∨ eff.next = .migrProlog := by
  decide

end Lifecycle

namespace Gwd

variable {w : World} {s s' : Gwd} {i j : JobId} {job : Job} {e : Event} {ps : List Placement}

/-- The migration of a job to the newest of the placements `ps` waits, or its old execution is
being cancelled. -/
def OnWay (ps : List Placement) (j : JobId) (s : Gwd) : Prop :=
  ∃ job, s.jobs j = some job ∧ job.places = ps ∧
    (.migrCancel ∈ s.moves j ∨ job.jobState = .migrCancel)

/-- The job is in `MIGR_PROLOG` on the newest of the placements `ps`, or it was freed. -/
def Finished (ps : List Placement) (j : JobId) (s : Gwd) : Prop :=
  s.jobs j = none ∨ ∃ job, s.jobs j = some job ∧ job.places = ps ∧ job.jobState = .migrProlog

/-- The job and the slots of the host `h` are what they were. -/
def RolledBack (s s' : Gwd) (j : JobId) (h : HostId) : Prop :=
  ∃ job job', s.jobs j = some job ∧ s'.jobs j = some job' ∧ job'.places = job.places ∧
    job'.restarted = job.restarted ∧ s'.used h = s.used h

/-- The events that let migrations go through: `MIGR_CANCEL` finds the execution running, no other
transition takes the job out of `MIGR_CANCEL`, and the job is not dispatched again while its
migration waits. -/
def committedStep (s : Gwd) : Event → Bool
  | .dm _ =>
    match s.dmQueue with
    | .job a j :: _ => (s.jobs j).all fun job =>
        (a != .migrCancel || (job.jobState == .wrapper && job.emState != .done)) &&
        (job.jobState != .migrCancel || migrates a)
    | _ => true
  | .scheduleJob j _ _ _ w => (s.jobs j).all fun job =>
      !Dm.dispatches w job || !(s.moves j).contains .migrCancel
  | _ => true

lemma places_of_core {job job' : Job} (same : job'.core = job.core) : job'.places = job.places :=
  congrArg Job.Core.places same

/-- A handler that runs for a job on its way: the migration starts, goes on, or ends. -/
lemma OnWay.act (places : job.places = ps)
    (way : .migrCancel ∈ s.moves j ∨ job.jobState = .migrCancel) {a : DmAction}
    {rest : List DmItem} {eff : Effect} {r : Reply} (act : Acted s s' j job a rest eff r)
    (starts : a = .migrCancel → job.jobState = .wrapper ∧ job.emState ≠ .done)
    (stays : job.jobState = .migrCancel → migrates a) :
    OnWay ps j s' ∨ Finished ps j s' := by
  have jobs := act.jobs
  by_cases frees : eff.frees
  · rw [if_pos frees] at jobs
    exact .inr (.inl jobs)
  · rw [if_neg frees] at jobs
    have kept : r.job.places = ps := (places_of_core act.core).trans places
    have next := act.real.next
    by_cases st : job.jobState = .migrCancel
    · have mem := act.mem
      rw [st] at mem
      rcases effects_migrates a _ (stays st) eff mem with free | same | entered
      · exact absurd free frees
      · exact .inl ⟨_, jobs, kept, .inr (next.trans same)⟩
      · exact .inr (.inr ⟨_, jobs, kept, next.trans entered⟩)
    · have waits := way.resolve_right st
      by_cases start : a = .migrCancel
      · obtain ⟨st', running⟩ := starts start
        have mem := act.mem
        have entered : eff.next = .migrCancel := by
          subst start
          have live : (job.emState == .done) = false := by simpa using running
          rw [st', live] at mem
          rw [List.mem_singleton.1 mem]
        exact .inl ⟨_, jobs, kept, .inr (next.trans entered)⟩
      · refine .inl ⟨_, jobs, kept, .inl ?_⟩
        rw [act.moves]
        refine List.mem_append_left _ ?_
        rw [moves_of_queue act.queue] at waits
        rcases List.mem_append.1 waits with mem | mem
        · split at mem
          · exact absurd (List.mem_singleton.1 mem).symm start
          · cases mem
        · exact mem

/-- A dispatch that does not take effect leaves a job on its way. -/
lemma OnWay.dispatch (here : s.jobs j = some job) (places : job.places = ps)
    (way : .migrCancel ∈ s.moves j ∨ job.jobState = .migrCancel) {hid : HostId} {host : Host}
    {rank : Int} {queue : String} {w' : World}
    (single : Dm.dispatches w' job → .migrCancel ∉ s.moves j)
    (live : (reply w j (Dm.dispatchJob hid host rank queue w' job) s).crashed = false) :
    OnWay ps j (reply w j (Dm.dispatchJob hid host rank queue w' job) s) := by
  rcases Dm.dispatchJob_cases hid host rank queue w' job with ⟨neutral, -⟩ | ⟨made, -⟩
  · have quiet := quiet_reply here neutral (by simp) live
    obtain ⟨job', after, face⟩ := quiet.job_after here
    have state : job'.jobState = job.jobState := congrArg Face.state face
    refine ⟨job', after, (places_of_core (congrArg Face.core face)).trans places, ?_⟩
    rw [state, quiet.moves j (by rw [here]; rfl)]
    exact way
  · have st := way.resolve_left (single made)
    simp [Dm.dispatches, st] at made

/-- A job on its way stays on it, arrives, or is freed. -/
lemma OnWay.step (way : OnWay ps j s) (pool : Pool s) (order : s.committedStep e = true)
    (live : (s.step e).crashed = false) : OnWay ps j (s.step e) ∨ Finished ps j (s.step e) := by
  obtain ⟨job, here, places, way⟩ := way
  rcases job_cases here live pool with ⟨⟨job', after, face⟩, moves, -⟩ |
    ⟨hold, -, after, moves, -⟩ | ⟨wS, a, rest, eff, rfl, eq, act⟩ |
    ⟨hid, queue, rank, w, host, rfl, there, eq⟩ | ⟨w, rfl, eq⟩
  · have state : job'.jobState = job.jobState := congrArg Face.state face
    refine .inl ⟨job', after, (places_of_core (congrArg Face.core face)).trans places, ?_⟩
    rw [state, moves]
    exact way
  · refine .inl ⟨_, after, places, .inl ?_⟩
    rw [moves]
    refine way.resolve_right fun st => ?_
    rw [hold] at st
    cases st
  · simp only [committedStep, act.queue, here, Option.all_some, Bool.and_eq_true, Bool.or_eq_true]
      at order
    refine OnWay.act places way act (fun start => ?_) fun st => ?_
    · simpa [start] using order.1
    · simpa [st] using order.2
  · simp only [committedStep, here, Option.all_some] at order
    rw [eq] at live ⊢
    refine .inl (OnWay.dispatch here places way (fun made => ?_) live)
    have made' : Dm.dispatches w job = true := made
    simpa [made'] using order
  · rw [eq]
    refine .inl ⟨_, (reload_state _).1, places, ?_⟩
    rw [reply_moves_self]
    exact way.imp_left fun mem => List.mem_append_left _ mem

/-- A job on its way stays on it for the whole run, or it has arrived or was freed on the way. -/
lemma OnWay.run {evs : List Event} (way : OnWay ps j s) (pool : Pool s)
    (order : Machine.Guarded Gwd.step (fun s e => s.committedStep e = true) s evs)
    (live : (Machine.run Gwd.step s evs).crashed = false) :
    OnWay ps j (Machine.run Gwd.step s evs) ∨
      ∃ evs₁ evs₂, evs = evs₁ ++ evs₂ ∧ Finished ps j (Machine.run Gwd.step s evs₁) := by
  induction evs generalizing s with
  | nil => exact .inl way
  | cons e evs ih =>
    obtain ⟨allowed, rest⟩ := order
    have live' := run_alive (s := s.step e) live
    rcases way.step pool allowed live' with way' | finished
    · rcases ih way' (pool_step pool (step_alive live') live') rest live with
        way'' | ⟨evs₁, evs₂, rfl, finished⟩
      · exact .inl way''
      · exact .inr ⟨e :: evs₁, evs₂, rfl, finished⟩
    · exact .inr ⟨[e], evs, rfl, finished⟩

/-- The placements of a job after a dispatch. -/
def dispatchedTo (s : Gwd) (w : World) (hid : HostId) (host : Host) (queue : String) (rank : Int)
    (job : Job) : List Placement :=
  (newRecord (s.world w) hid host rank queue job).toPlacement :: job.places

/-- The dispatch of a running job puts it on its way to the new host. -/
lemma onWay_dispatched {hid : HostId} {host : Host} {queue : String} {rank : Int}
    (there : s.hosts hid = some host) (here : s.jobs j = some job)
    (running : job.jobState = .wrapper) (made : Dm.dispatches w job = true)
    (file : w.historyFile = true) (live : (s.step (.scheduleJob j hid queue rank w)).crashed = false) :
    OnWay (s.dispatchedTo w hid host queue rank job) j (s.step (.scheduleJob j hid queue rank w)) := by
  have eq : s.step (.scheduleJob j hid queue rank w) =
      reply w j (Dm.dispatchJob hid host rank queue (s.world w) job) s := by
    simp [Gwd.step, step_alive live, Gwd.live, scheduleJob, onJob, there, here]
  rw [eq] at live ⊢
  have loaded : w.tmMadLoaded ∧ w.emMadLoaded ∧ Dm.nowActive job = false := by
    simpa [Dm.dispatches, running, and_assoc] using made
  have reply_eq : Dm.dispatchJob hid host rank queue (s.world w) job =
      ⟨{ Dm.linked (s.world w) hid host rank queue job with
          restarted := job.restarted + 1, reschedule := false },
        [.historyLine (historyLine host rank queue),
          .host hid (.incSlots job.template.np queue), .dm .migrCancel]⟩ := by
    simp [Dm.dispatchJob, running, historyAdd, Dm.linked, loaded, file, world]
  rw [reply_eq]
  refine ⟨_, reply_write (by simp) (by simp), rfl, .inl ?_⟩
  simp [reply_moves_self, DmAction.isTransition]

/-- Every migration of a run: from its dispatch on the job is on its way to the new host, until it
is in `MIGR_PROLOG` there or is freed; or everything is as before the dispatch. -/
structure MigrationWhole (conf : Conf) (evs : List Event) : Prop where
  whole : ∀ evs₁ evs₂ evs₃ j hid queue rank w host job,
    evs = evs₁ ++ .scheduleJob j hid queue rank w :: (evs₂ ++ evs₃) →
    (Machine.run step (Gwd.start conf) evs₁).hosts hid = some host →
    (Machine.run step (Gwd.start conf) evs₁).jobs j = some job →
    job.jobState = .wrapper → Dm.dispatches w job = true → w.historyFile = true →
    OnWay ((Machine.run step (Gwd.start conf) evs₁).dispatchedTo w hid host queue rank job) j
      (Machine.run step (Gwd.start conf) (evs₁ ++ .scheduleJob j hid queue rank w :: evs₂)) ∨
    (∃ evs₄ evs₅, evs₂ = evs₄ ++ evs₅ ∧
      Finished ((Machine.run step (Gwd.start conf) evs₁).dispatchedTo w hid host queue rank job) j
        (Machine.run step (Gwd.start conf) (evs₁ ++ .scheduleJob j hid queue rank w :: evs₄))) ∨
    RolledBack (Machine.run step (Gwd.start conf) evs₁)
      (Machine.run step (Gwd.start conf) (evs₁ ++ .scheduleJob j hid queue rank w :: evs₂)) j hid

/-- Migrations are all or nothing, in a run whose events let them go through. -/
theorem migration_whole (conf : Conf) (evs : List Event)
    (order : Machine.Guarded step (fun s e => s.committedStep e = true) (Gwd.start conf) evs)
    (live : (Machine.run step (Gwd.start conf) evs).crashed = false) :
    MigrationWhole conf evs := by
  constructor
  intro evs₁ evs₂ evs₃ j hid queue rank w host job split there here running made file
  obtain ⟨-, -, after⟩ := Machine.guarded_cut (split ▸ order)
  have live₂ : (Machine.run step (Gwd.start conf)
      (evs₁ ++ .scheduleJob j hid queue rank w :: evs₂)).crashed = false := by
    rw [split, show evs₁ ++ Event.scheduleJob j hid queue rank w :: (evs₂ ++ evs₃) =
      (evs₁ ++ .scheduleJob j hid queue rank w :: evs₂) ++ evs₃ by simp, Machine.run_append] at live
    exact run_alive live
  rw [Machine.run_append, Machine.run_cons] at live₂
  have live₁ := run_alive live₂
  have pool := pool_run (.start conf) (step_alive live₁)
  have way := (onWay_dispatched there here running made file live₁).run
    (pool_step pool (step_alive live₁) live₁) (Machine.guarded_append.1 after).1 live₂
  simp only [Machine.run_append, Machine.run_cons]
  exact way.imp_right .inl

/-- Two hosts and a job of one task without wrapper script, running on the first host, that the
user asked to reschedule. -/
def runningOne : List Event :=
  [.hostAllocate 0 { hostname := "old", emMad := "em", tmMad := "tm", imMad := "im" },
    .hostAllocate 1 { hostname := "new", emMad := "em", tmMad := "tm", imMad := "im" },
    .submit { owner := "user", template := { executable := some "exe" } }, .dm {},
    .scheduleJob 0 0 "default" 0 {}, .dm {}, .tm {},
    .tmMsg 0 { verb := .start } {}, .tmMsg 0 { verb := .mkdir } {},
    .tmMsg 0 { verb := .cp 0 } {}, .tmMsg 0 { verb := .finish } {}, .dm {}, .dm {}, .em {},
    .emMsg 0 { verb := .callback, result := "SUCCESS", info := "ACTIVE" } {}, .em {},
    .request .reschedule 0, .dm {}]

/-- A running job migrates to the second host. -/
theorem migration_whole_committed : MigrationWhole ⟨4, 4, 4, 4⟩ (runningOne ++
    [.scheduleJob 0 1 "default" 0 {}, .dm {}, .em {},
      .emMsg 0 { verb := .callback, result := "SUCCESS", info := "DONE" } {}, .em {}, .dm {},
      .dm {}]) := by
  apply migration_whole
  · decide
  · decide

lemma not_onWay (st : s.state j = some .wrapper) (idle : .migrCancel ∉ s.moves j) :
    ¬ OnWay ps j s := by
  rintro ⟨job, here, -, waits | canceling⟩
  · exact idle waits
  · simp [state, here, canceling] at st

lemma not_finished (st : s.state j = some .wrapper) : ¬ Finished ps j s := by
  rintro (gone | ⟨job, here, -, arrived⟩)
  · simp [state, gone] at st
  · simp [state, here, arrived] at st

lemma not_rolledBack {h : HostId} (more : s'.records j ≠ s.records j) : ¬ RolledBack s s' j h := by
  rintro ⟨job, job', here, after, places, -, -⟩
  refine more ?_
  have length := congrArg List.length places
  simpa [records, here, after, Job.places] using length

/-- The execution on the old host ends when the job is already dispatched to the new one. -/
def lateEnd : List Event :=
  [.emMsg 0 { verb := .callback, result := "SUCCESS", info := "DONE" } {}, .em {}, .dm {}]

/-- An execution that ends before `MIGR_CANCEL` is processed: the migration is off, and the record
of the new host stays the newest one. -/
theorem migration_torn : ¬ ∀ (conf : Conf) (evs : List Event),
    (Machine.run step (Gwd.start conf) evs).crashed = false → MigrationWhole conf evs := by
  intro whole
  have before : ((Machine.run step (Gwd.start ⟨4, 4, 4, 4⟩) runningOne).jobs 0).map
      (fun job => (job.jobState, Dm.dispatches {} job)) = some (.wrapper, true) := by
    decide
  have host : ((Machine.run step (Gwd.start ⟨4, 4, 4, 4⟩) runningOne).hosts 1).isSome := by
    decide
  obtain ⟨job, here, same⟩ := Option.map_eq_some_iff.1 before
  obtain ⟨running, made⟩ := Prod.mk.inj same
  obtain ⟨host, there⟩ := Option.isSome_iff_exists.1 host
  rcases (whole ⟨4, 4, 4, 4⟩ (runningOne ++ .scheduleJob 0 1 "default" 0 {} :: lateEnd)
    (by decide)).whole runningOne lateEnd [] 0 1 "default" 0 {} host job
    (by rw [List.append_nil]) there here running made rfl with
    way | ⟨evs₄, evs₅, split, finished⟩ | back
  · exact not_onWay (by decide) (by decide) way
  · have still : ∀ evs ∈ lateEnd.inits, (Machine.run step (Gwd.start ⟨4, 4, 4, 4⟩)
        (runningOne ++ .scheduleJob 0 1 "default" 0 {} :: evs)).state 0 = some .wrapper := by
      decide
    exact not_finished (still evs₄ ((List.mem_inits _ _).2 ⟨evs₅, split.symm⟩)) finished
  · exact not_rolledBack (by decide) back

end Gwd

end GridWay
