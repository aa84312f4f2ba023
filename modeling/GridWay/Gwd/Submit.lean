import GridWay.Gwd.Frame

/-!
# Submissions

What `gw_dm_jalloc` and `gw_dm_aalloc` do to the pools: they add jobs that were never dispatched,
and charge them to the user.

* `Gwd.Grown`: a change that only adds new jobs.
* `Gwd.allocate_spec`: a submission.
-/

namespace GridWay.Gwd

variable {w : World} {s s' : Gwd} {i j : JobId}

/-- A new job before its first dispatch. -/
structure NewJob (i : JobId) (job : Job) : Prop where
  id : job.id = i
  history : job.history = []
  resting : Lifecycle.resting job.jobState = true

/-- A change that only adds the new jobs `js`. -/
structure Grown (js : List JobId) (s s' : Gwd) : Prop where
  conf : s'.conf = s.conf
  hosts : s'.hosts = s.hosts
  dmQueue : s'.dmQueue = s.dmQueue
  emQueue : s'.emQueue = s.emQueue
  tmQueue : s'.tmQueue = s.tmQueue
  nextJobId : s.nextJobId ≤ s'.nextJobId
  nodup : js.Nodup
  fresh : ∀ j ∈ js, s.nextJobId ≤ j ∧ j < s'.nextJobId ∧ j < s.conf.numberOfJobs
  old : ∀ i ∉ js, s'.jobs i = s.jobs i
  new : ∀ j ∈ js, ∃ job, s'.jobs j = some job ∧ NewJob j job

namespace Grown

variable {js : List JobId} {s₁ s₂ : Gwd}

lemma rfl (s : Gwd) : Grown [] s s where
  conf := Eq.refl _
  hosts := Eq.refl _
  dmQueue := Eq.refl _
  emQueue := Eq.refl _
  tmQueue := Eq.refl _
  nextJobId := Nat.le_refl _
  nodup := List.nodup_nil
  fresh _ mem := by cases mem
  old _ _ := Eq.refl _
  new _ mem := by cases mem

/-- Other fields may change on the way. -/
lemma congr (h : Grown js s s₁) (conf : s₂.conf = s₁.conf) (hosts : s₂.hosts = s₁.hosts)
    (dm : s₂.dmQueue = s₁.dmQueue) (em : s₂.emQueue = s₁.emQueue) (tm : s₂.tmQueue = s₁.tmQueue)
    (next : s₂.nextJobId = s₁.nextJobId) (jobs : s₂.jobs = s₁.jobs) : Grown js s s₂ where
  conf := conf.trans h.conf
  hosts := hosts.trans h.hosts
  dmQueue := dm.trans h.dmQueue
  emQueue := em.trans h.emQueue
  tmQueue := tm.trans h.tmQueue
  nextJobId := next ▸ h.nextJobId
  nodup := h.nodup
  fresh := next ▸ h.fresh
  old := jobs ▸ h.old
  new := jobs ▸ h.new

/-- A job that the change added is written. -/
lemma put (h : Grown js s s₁) {job : Job} (mem : j ∈ js) (new : NewJob j job) :
    Grown js s { s₁ with jobs := Function.update s₁.jobs j (some job) } where
  conf := h.conf
  hosts := h.hosts
  dmQueue := h.dmQueue
  emQueue := h.emQueue
  tmQueue := h.tmQueue
  nextJobId := h.nextJobId
  nodup := h.nodup
  fresh := h.fresh
  old i other := by
    have ne : i ≠ j := fun same => other (same ▸ mem)
    simp [ne, h.old i other]
  new i here := by
    by_cases same : i = j
    · subst same
      exact ⟨job, by simp, new⟩
    · simpa [same] using h.new i here

/-- A slot of the pool is taken. -/
lemma allocated (h : Grown js s s₁) {job : Job} (above : s₁.nextJobId ≤ j)
    (below : j < s₁.conf.numberOfJobs) (new : NewJob j job) :
    Grown (j :: js) s
      { s₁ with
        jobs := Function.update s₁.jobs j (some job)
        nextJobId := j + 1
        jobCount := s₁.jobCount + 1 } where
  conf := h.conf
  hosts := h.hosts
  dmQueue := h.dmQueue
  emQueue := h.emQueue
  tmQueue := h.tmQueue
  nextJobId := Nat.le_succ_of_le (Nat.le_trans h.nextJobId above)
  nodup := List.nodup_cons.2
    ⟨fun mem => Nat.not_lt.2 above (h.fresh j mem).2.1, h.nodup⟩
  fresh i mem := by
    rcases List.mem_cons.1 mem with rfl | mem
    · exact ⟨Nat.le_trans h.nextJobId above, Nat.lt_succ_self _, h.conf ▸ below⟩
    · obtain ⟨up, down, bound⟩ := h.fresh i mem
      exact ⟨up, Nat.lt_succ_of_le (Nat.le_of_lt (Nat.lt_of_lt_of_le down above)), bound⟩
  old i other := by
    obtain ⟨ne, other⟩ := not_or.1 (List.mem_cons.not.1 other)
    simp [ne, h.old i other]
  new i mem := by
    by_cases same : i = j
    · subst same
      exact ⟨job, by simp, new⟩
    · rcases List.mem_cons.1 mem with rfl | mem
      · exact absurd (Eq.refl _) same
      · simpa [same] using h.new i mem

/-- The last job that was added is freed again. -/
lemma freed (h : Grown [j] s s₁) (empty : s.jobs j = none)
    (conf : s₂.conf = s₁.conf) (hosts : s₂.hosts = s₁.hosts)
    (dm : s₂.dmQueue = s₁.dmQueue) (em : s₂.emQueue = s₁.emQueue) (tm : s₂.tmQueue = s₁.tmQueue)
    (next : s₂.nextJobId = s₁.nextJobId) (jobs : s₂.jobs = Function.update s₁.jobs j none) :
    Grown [] s s₂ where
  conf := conf.trans h.conf
  hosts := hosts.trans h.hosts
  dmQueue := dm.trans h.dmQueue
  emQueue := em.trans h.emQueue
  tmQueue := tm.trans h.tmQueue
  nextJobId := next ▸ h.nextJobId
  nodup := List.nodup_nil
  fresh _ mem := by cases mem
  old i _ := by
    by_cases same : i = j
    · subst same
      simp [jobs, empty]
    · rw [jobs, Function.update_of_ne same]
      exact h.old i (by simpa using same)
  new _ mem := by cases mem

end Grown

lemma freeJob_spec {n : Nat} {next : JobId} (found : s.freeJob n next = some j) :
    next ≤ j ∧ s.jobs j = none := by
  induction n generalizing next with
  | zero => cases found
  | succ n ih =>
    rw [freeJob] at found
    split at found
    · rename_i empty
      cases found
      exact ⟨Nat.le_refl _, by simpa using empty⟩
    · obtain ⟨above, empty⟩ := ih found
      exact ⟨Nat.le_of_succ_le above, empty⟩

lemma jobInit_new (w : World) (j : JobId) : NewJob j (jobInit w j) := ⟨rfl, rfl, rfl⟩

/-- An allocation takes a slot from the next id on, or nothing happens, or the search runs out of
the pool. -/
lemma jobPoolAllocate_cases (w : World) (s : Gwd) :
    (s.freeJob s.conf.numberOfJobs s.nextJobId = none ∧ s.jobPoolAllocate w = (s, none)) ∨
    s.jobPoolAllocate w = ({ s with crashed := true }, none) ∨
    ∃ j, s.freeJob s.conf.numberOfJobs s.nextJobId = some j ∧
      s.nextJobId ≤ j ∧ j < s.conf.numberOfJobs ∧ s.jobs j = none ∧
      s.jobPoolAllocate w =
        ({ s with
            jobs := Function.update s.jobs j (some (jobInit w j))
            nextJobId := j + 1
            jobCount := s.jobCount + 1 }, some j) := by
  unfold jobPoolAllocate
  cases found : s.freeJob s.conf.numberOfJobs s.nextJobId with
  | none => exact .inl ⟨rfl, rfl⟩
  | some j =>
    obtain ⟨above, empty⟩ := freeJob_spec found
    by_cases outside : s.conf.numberOfJobs ≤ j
    · exact .inr (.inl (by simp only [outside, if_true]))
    · exact .inr (.inr ⟨j, rfl, above, Nat.lt_of_not_le outside, empty,
        by simp only [outside, if_false]⟩)

/-- A submission fills the job, in memory and on disk. -/
lemma jobFill_spec {wS : SubmitWorld} {msg : SubmitMsg} {job job' : Job} {ok : Bool}
    (filled : s.jobFill wS msg job = (s', job', ok)) :
    (∃ dirs, s' = { s with dirs }) ∧ job'.id = job.id ∧ job'.history = job.history ∧
      job'.jobState = job.jobState ∧ job'.userId = job.userId := by
  unfold jobFill at filled
  split at filled <;> cases filled
  · exact ⟨⟨_, rfl⟩, rfl, rfl, rfl, rfl⟩
  · exact ⟨⟨_, rfl⟩, rfl, rfl, rfl, rfl⟩
  · exact ⟨⟨_, rfl⟩, rfl, rfl, rfl, rfl⟩

lemma initialise_new (msg : SubmitMsg) (uid : UserId) {job : Job} (id : job.id = j)
    (history : job.history = []) : NewJob j (initialise msg uid job) := by
  refine ⟨id, history, ?_⟩
  cases held : msg.held <;> simp [initialise, held, Lifecycle.resting]

@[simp] lemma depSet_frame (msg : SubmitMsg) (j : JobId) (s : Gwd) :
    (s.depSet msg j).conf = s.conf ∧ (s.depSet msg j).hosts = s.hosts ∧
    (s.depSet msg j).dmQueue = s.dmQueue ∧ (s.depSet msg j).emQueue = s.emQueue ∧
    (s.depSet msg j).tmQueue = s.tmQueue ∧ (s.depSet msg j).nextJobId = s.nextJobId ∧
    (s.depSet msg j).jobs = s.jobs ∧ (s.depSet msg j).users = s.users ∧
    (s.depSet msg j).crashed = s.crashed := by
  unfold depSet
  split <;> simp

/-- The jobs of the pool at the ids `js` belong to a user. -/
def Owned (uid : UserId) (js : List JobId) (s : Gwd) : Prop :=
  ∀ j ∈ js, ∃ job, s.jobs j = some job ∧ job.userId = some uid

/-- The active jobs of a user, `0` for a slot without user. -/
def active (s : Gwd) (u : UserId) : Int := ((s.users u).map (·.activeJobs)).getD 0

/-- The running jobs of a user, `0` for a slot without user. -/
def running (s : Gwd) (u : UserId) : Int := ((s.users u).map (·.runningJobs)).getD 0

/-- What a submission makes of the users: `n` new active jobs for `uid`. -/
structure Charged (uid : UserId) (n : Int) (s s' : Gwd) : Prop where
  active : ∀ u, s'.active u = s.active u + if u = uid then n else 0
  running : ∀ u, s'.running u = s.running u
  present : (s'.users uid).isSome
  others : ∀ u ≠ uid, s'.users u = s.users u

lemma incJobs_charged {uid : UserId} {n : Int} (here : (s.users uid).isSome) :
    Charged uid n s (s.incJobs (some uid) n) := by
  obtain ⟨user, present⟩ := Option.isSome_iff_exists.1 here
  refine ⟨fun u => ?_, fun u => ?_, ?_, fun u other => ?_⟩
  · by_cases same : u = uid
    · subst same
      simp [incJobs, userOp, present, active]
    · simp [incJobs, userOp, present, active, same]
  · by_cases same : u = uid
    · subst same
      simp [incJobs, userOp, present, running]
    · simp [incJobs, userOp, present, running, same]
  · simp [incJobs, userOp, present]
  · simp [incJobs, userOp, present, other]

/-- Only the user pool matters for a charge. -/
lemma Charged.of_users {uid : UserId} {n : Int} {s₁ s₂ : Gwd} (h : Charged uid n s₁ s₂)
    (before : s₁.users = s.users) (after : s'.users = s₂.users) : Charged uid n s s' where
  active u := by simpa only [Gwd.active, before, after] using h.active u
  running u := by simpa only [Gwd.running, before, after] using h.running u
  present := by rw [after]; exact h.present
  others u other := by rw [after, ← before]; exact h.others u other

lemma charged_zero {uid : UserId} (here : (s.users uid).isSome) (same : s'.users = s.users) :
    Charged uid 0 s s' where
  active u := by simp [Gwd.active, same]
  running u := by simp [Gwd.running, same]
  present := by rw [same]; exact here
  others u _ := by rw [same]

/-- A single job fits: there is a free slot in the pool, and the job can be filled. -/
def jobFits (w : SubmitWorld) (s : Gwd) : Bool :=
  match s.freeJob s.conf.numberOfJobs s.nextJobId with
  | none => false
  | some j => w.fill j == .ok

/-- An array fits: there is room for its tasks, and a free slot in the array pool. -/
def arrayFits (w : SubmitWorld) (tasks : Nat) (s : Gwd) : Bool :=
  tasks + s.jobCount ≤ s.conf.numberOfJobs &&
    (s.freeArray s.conf.numberOfArrays s.nextArrayId).isSome && w.arrayInit

/-- A submission finds room for its jobs. -/
def submitFits (w : SubmitWorld) (msg : SubmitMsg) (s : Gwd) : Bool :=
  match msg.tasks with
  | none => s.jobFits w
  | some tasks => s.arrayFits w tasks

/-- A submission registers a new user. -/
def registers (w : SubmitWorld) (msg : SubmitMsg) (s : Gwd) : Bool :=
  (s.userExists msg.owner msg.proxyPath).isNone && s.userCount ≠ s.conf.numberOfUsers && w.userInit

/-- A single job: it is added and charged, or nothing is left of it. -/
lemma allocateJob_spec {wS : SubmitWorld} {msg : SubmitMsg} {uid : UserId} {useradd : Bool}
    (user : (s.users uid).isSome)
    (live : (s.allocateJob wS msg uid useradd).crashed = false) :
    (Grown [] s (s.allocateJob wS msg uid useradd) ∧
      (s.allocateJob wS msg uid useradd).users = s.users ∧ s.jobFits wS = false) ∨
    ∃ j, Grown [j] s (s.allocateJob wS msg uid useradd) ∧
      Owned uid [j] (s.allocateJob wS msg uid useradd) ∧
      Charged uid (if useradd then 0 else 1) s (s.allocateJob wS msg uid useradd) := by
  unfold allocateJob at live ⊢
  rcases jobPoolAllocate_cases wS.world s with ⟨full, eq⟩ | eq | ⟨j, found, above, below, empty, eq⟩
  · rw [eq]
    exact .inl ⟨.rfl s, rfl, by simp [jobFits, full]⟩
  · rw [eq] at live
    cases live
  · rw [eq] at live ⊢
    simp only [Function.update_self] at live ⊢
    have grown := (Grown.rfl s).allocated above below (jobInit_new wS.world j)
    rcases filled : jobFill wS msg _ _ with ⟨s₁, job, ok⟩
    obtain ⟨⟨dirs, same⟩, id, history, -, owner⟩ := jobFill_spec filled
    subst same
    have fits : s.jobFits wS = ok := by
      simp only [jobFits, found]
      unfold jobFill at filled
      split at filled <;> cases filled <;> simp_all [jobInit]
    cases ok
    · left
      simp only [filled] at live ⊢
      refine ⟨?_, ?_, fits⟩
      · exact grown.freed empty (by simp) (by simp) (by simp) (by simp) (by simp) (by simp)
          (by simp)
      · simp [jobPoolFree, owner, jobInit, decJobs, userOp]
    · right
      have new := initialise_new msg uid (id.trans (Eq.refl j)) history
      refine ⟨j, (grown.put List.mem_cons_self new).congr ?_ ?_ ?_ ?_ ?_ ?_ ?_, ?_, ?_⟩
      case refine_8 =>
        intro i mem
        obtain rfl := List.mem_singleton.1 mem
        refine ⟨initialise msg uid job, ?_, rfl⟩
        cases msg.held <;> cases useradd <;> simp [incJobs]
      case refine_9 =>
        cases useradd
        · cases msg.held <;>
            exact (incJobs_charged (by simpa using user)).of_users (by simp) rfl
        · exact charged_zero user (by cases msg.held <;> simp)
      all_goals cases msg.held <;> cases useradd <;> simp [incJobs]

/-- The tasks of an array are allocated in order. -/
lemma allocateTasks_spec {s₁ : Gwd} {js : List JobId} {aid total n task : Nat}
    (grown : Grown js s s₁) (users : s₁.users = s.users)
    (live : (allocateTasks w aid total n task s₁).1.crashed = false) :
    Grown ((allocateTasks w aid total n task s₁).2.reverse ++ js) s
      (allocateTasks w aid total n task s₁).1 ∧
    (allocateTasks w aid total n task s₁).1.users = s.users ∧
    (allocateTasks w aid total n task s₁).2.length = n := by
  induction n generalizing s₁ js task with
  | zero => exact ⟨grown, users, rfl⟩
  | succ n ih =>
    rw [allocateTasks] at live ⊢
    rcases jobPoolAllocate_cases w s₁ with ⟨-, eq⟩ | eq | ⟨j, -, above, below, empty, eq⟩
    · rw [eq] at live
      cases live
    · rw [eq] at live
      cases live
    · rw [eq] at live ⊢
      simp only [Function.update_self, Option.map_some] at live ⊢
      have new : NewJob j { jobInit w j with taskId := task, arrayId := some aid, totalTasks := total } :=
        ⟨rfl, rfl, rfl⟩
      have next := (grown.allocated above below (jobInit_new w j)).put List.mem_cons_self new
      obtain ⟨grown', users', length⟩ := ih next (by simpa using users) live
      refine ⟨?_, users', congrArg (· + 1) length⟩
      simpa using grown'

/-- One task of an array is filled. -/
lemma fillTask_spec (wS : SubmitWorld) (msg : SubmitMsg) (aid : Nat) (uid : UserId) {s₁ : Gwd}
    {js : List JobId} (grown : Grown js s s₁) (mem : j ∈ js) :
    Grown js s (fillTask wS msg aid uid s₁ j) ∧
    (fillTask wS msg aid uid s₁ j).users = s₁.users ∧
    Owned uid [j] (fillTask wS msg aid uid s₁ j) ∧
    ∀ i, Owned uid [i] s₁ → Owned uid [i] (fillTask wS msg aid uid s₁ j) := by
  obtain ⟨job, here, new⟩ := grown.new j mem
  unfold fillTask
  simp only [here]
  rcases filled : jobFill wS msg s₁ job with ⟨s₂, job', ok⟩
  obtain ⟨⟨dirs, same⟩, id, history, -, -⟩ := jobFill_spec filled
  subst same
  have new' : NewJob j { initialise msg uid job' with pstart := msg.pstart, pinc := msg.pinc } := by
    have plain := initialise_new msg uid (id.trans new.id) (history.trans new.history)
    exact ⟨plain.id, plain.history, plain.resting⟩
  refine ⟨(grown.put mem new').congr ?_ ?_ ?_ ?_ ?_ ?_ ?_, ?_, ?_, ?_⟩
  case refine_9 =>
    intro i same
    obtain rfl := List.mem_singleton.1 same
    exact ⟨{ initialise msg uid job' with pstart := msg.pstart, pinc := msg.pinc },
      by cases msg.held <;> simp, rfl⟩
  case refine_10 =>
    intro i owned i' same
    obtain rfl := List.mem_singleton.1 same
    by_cases self : i' = j
    · subst self
      exact ⟨{ initialise msg uid job' with pstart := msg.pstart, pinc := msg.pinc },
        by cases msg.held <;> simp, rfl⟩
    · obtain ⟨job'', here', owner⟩ := owned i' List.mem_cons_self
      exact ⟨job'', by cases msg.held <;> simpa [self] using here', owner⟩
  all_goals cases msg.held <;> simp

/-- All tasks of an array are filled. -/
lemma fillTasks_spec (wS : SubmitWorld) (msg : SubmitMsg) (aid : Nat) (uid : UserId) {s₁ : Gwd}
    {js ks : List JobId} (grown : Grown js s s₁) (sub : ∀ k ∈ ks, k ∈ js) :
    Grown js s (ks.foldl (fillTask wS msg aid uid) s₁) ∧
    (ks.foldl (fillTask wS msg aid uid) s₁).users = s₁.users ∧
    (∀ i, Owned uid [i] s₁ → Owned uid [i] (ks.foldl (fillTask wS msg aid uid) s₁)) ∧
    Owned uid ks (ks.foldl (fillTask wS msg aid uid) s₁) := by
  induction ks generalizing s₁ with
  | nil => exact ⟨grown, rfl, fun i owned => owned, by simp [Owned]⟩
  | cons k ks ih =>
    obtain ⟨grown', users, owned, keeps⟩ :=
      fillTask_spec wS msg aid uid grown (sub k List.mem_cons_self)
    obtain ⟨grown'', users', keeps', owned'⟩ :=
      ih grown' fun i mem => sub i (List.mem_cons_of_mem _ mem)
    refine ⟨grown'', users'.trans users, fun i h => keeps' i (keeps i h), fun i mem => ?_⟩
    rcases List.mem_cons.1 mem with rfl | mem
    · exact keeps' i owned i List.mem_cons_self
    · exact owned' i mem

lemma incJobs_frame (s : Gwd) (u : Option UserId) (n : Int) :
    (s.incJobs u n).conf = s.conf ∧ (s.incJobs u n).hosts = s.hosts ∧
    (s.incJobs u n).dmQueue = s.dmQueue ∧ (s.incJobs u n).emQueue = s.emQueue ∧
    (s.incJobs u n).tmQueue = s.tmQueue ∧ (s.incJobs u n).nextJobId = s.nextJobId ∧
    (s.incJobs u n).jobs = s.jobs ∧ (s.incJobs u n).crashed = s.crashed := by
  simp [incJobs]

/-- The loop over the tasks leaves a crashed daemon crashed. -/
lemma fillTasks_crashed {js : List JobId} {wS : SubmitWorld} {msg : SubmitMsg} {aid : Nat}
    {uid : UserId} (crashed : s.crashed) : (js.foldl (fillTask wS msg aid uid) s).crashed := by
  induction js generalizing s with
  | nil => exact crashed
  | cons k ks ih =>
    refine ih ?_
    unfold fillTask
    cases s.jobs k with
    | none => rfl
    | some job =>
      rcases filled : jobFill wS msg s job with ⟨s₂, job', ok⟩
      obtain ⟨⟨dirs, same⟩, -, -, -, -⟩ := jobFill_spec filled
      subst same
      cases msg.held <;> simpa [filled] using crashed

lemma arrayAllocate_spec {wS : SubmitWorld} {tasks : Nat}
    (live : (s.arrayAllocate wS tasks).1.crashed = false) :
    ((s.arrayAllocate wS tasks).2 = none ∧ Grown [] s (s.arrayAllocate wS tasks).1 ∧
      (s.arrayAllocate wS tasks).1.users = s.users ∧ s.arrayFits wS tasks = false) ∨
    ∃ aid js, (s.arrayAllocate wS tasks).2 = some (aid, js) ∧ js.length = tasks ∧
      Grown js.reverse s (s.arrayAllocate wS tasks).1 ∧
      (s.arrayAllocate wS tasks).1.users = s.users := by
  unfold arrayAllocate at live ⊢
  by_cases full : tasks + s.jobCount > s.conf.numberOfJobs
  · rw [if_pos full]
    exact .inl ⟨rfl, .rfl s, rfl, by simp [arrayFits, Nat.not_le.2 full]⟩
  · rw [if_neg full] at live ⊢
    cases found : s.freeArray s.conf.numberOfArrays s.nextArrayId with
    | none => exact .inl ⟨rfl, .rfl s, rfl, by simp [arrayFits, found]⟩
    | some aid =>
      simp only [found] at live ⊢
      by_cases outside : s.conf.numberOfArrays ≤ aid
      · simp [outside] at live
      · rw [if_neg outside] at live ⊢
        cases init : wS.arrayInit
        · left
          simp only [Bool.false_eq_true, if_false]
          exact ⟨trivial, (Grown.rfl s).congr rfl rfl rfl rfl rfl rfl rfl, trivial,
            by simp [arrayFits, init]⟩
        · right
          simp only [init, if_true] at live ⊢
          have start : Grown [] s { s with nextArrayId := aid + 1 } :=
            (Grown.rfl s).congr rfl rfl rfl rfl rfl rfl rfl
          obtain ⟨grown, users, length⟩ := allocateTasks_spec start rfl live
          rw [List.append_nil] at grown
          exact ⟨aid, _, rfl, length, grown.congr rfl rfl rfl rfl rfl rfl rfl, users⟩

/-- An array: its tasks are added and charged, or nothing is left of it. -/
lemma allocateArray_spec {wS : SubmitWorld} {msg : SubmitMsg} {tasks : Nat} {uid : UserId}
    {useradd : Bool} (user : (s.users uid).isSome)
    (live : (s.allocateArray wS msg tasks uid useradd).crashed = false) :
    (Grown [] s (s.allocateArray wS msg tasks uid useradd) ∧
      (s.allocateArray wS msg tasks uid useradd).users = s.users ∧
      s.arrayFits wS tasks = false) ∨
    ∃ js, Grown js s (s.allocateArray wS msg tasks uid useradd) ∧
      Owned uid js (s.allocateArray wS msg tasks uid useradd) ∧
      Charged uid (js.length - if useradd then 1 else 0) s
        (s.allocateArray wS msg tasks uid useradd) := by
  unfold allocateArray at live ⊢
  rcases run : s.arrayAllocate wS tasks with ⟨s₁, out⟩
  simp only [run] at live ⊢
  have alive : s₁.crashed = false := by
    by_contra crashed
    cases out with
    | none => exact crashed live
    | some out =>
      rw [(incJobs_frame _ _ _).2.2.2.2.2.2.2, fillTasks_crashed (by simpa using crashed)] at live
      cases live
  rcases arrayAllocate_spec (show (s.arrayAllocate wS tasks).1.crashed = false by rw [run]; exact alive) with
    ⟨none, grown, users, fits⟩ | ⟨aid, js, some, length, grown, users⟩
  · rw [run] at none grown users
    cases none
    exact .inl ⟨grown, users, fits⟩
  · rw [run] at some grown users
    cases some
    obtain ⟨grown', users', -, owned⟩ :=
      fillTasks_spec wS msg aid uid grown fun k mem => List.mem_reverse.2 mem
    obtain ⟨conf, hosts, dm, em, tm, next, jobs, -⟩ :=
      incJobs_frame (js.foldl (fillTask wS msg aid uid) s₁) (Option.some uid)
        (tasks - if useradd then 1 else 0)
    have present : ((js.foldl (fillTask wS msg aid uid) s₁).users uid).isSome := by
      rw [users', users]
      exact user
    refine .inr ⟨js.reverse, grown'.congr conf hosts dm em tm next jobs, fun j mem => ?_, ?_⟩
    · obtain ⟨job, here, owner⟩ := owned j (List.mem_reverse.1 mem)
      exact ⟨job, by rw [jobs]; exact here, owner⟩
    · rw [List.length_reverse, length]
      exact (incJobs_charged present).of_users (users'.trans users) rfl

/-- The user of a submission, who may be new. -/
lemma submitUser_spec (wS : SubmitWorld) (msg : SubmitMsg) (s : Gwd) :
    (s.submitUser wS msg = (s, none) ∧ s.registers wS msg = false) ∨
    (∃ s₁, s.submitUser wS msg = (s₁, none) ∧ s₁.crashed = true) ∨
    (∃ uid, s.submitUser wS msg = (s, some (uid, false)) ∧ (s.users uid).isSome ∧
      s.registers wS msg = false) ∨
    ∃ uid user toSched, s.users uid = none ∧ user.activeJobs = 1 ∧ user.runningJobs = 0 ∧
      s.registers wS msg = true ∧
      s.submitUser wS msg =
        ({ s with users := Function.update s.users uid (some user), toSched },
          some (uid, true)) := by
  unfold submitUser
  cases found : s.userExists msg.owner msg.proxyPath with
  | some uid =>
    have here : (s.users uid).isSome := by
      have pred := List.find?_some found
      cases present : s.users uid with
      | none => simp [present] at pred
      | some user => rfl
    exact .inr (.inr (.inl ⟨uid, rfl, here, by simp [registers, found]⟩))
  | none =>
    dsimp only
    unfold userAllocate
    by_cases full : s.userCount = s.conf.numberOfUsers
    · rw [if_pos full]
      exact .inl ⟨rfl, by simp [registers, full]⟩
    · rw [if_neg full]
      by_cases outside : s.freeUser = s.conf.numberOfUsers
      · rw [if_pos outside]
        exact .inr (.inl ⟨_, rfl, rfl⟩)
      · rw [if_neg outside]
        cases init : wS.userInit
        · exact .inl ⟨rfl, by simp [registers, init]⟩
        · have empty : s.users s.freeUser = none := by
            unfold freeUser at outside ⊢
            cases free : (List.range s.conf.numberOfUsers).find? fun u => (s.users u).isNone with
            | none => simp [free] at outside
            | some u => simpa using List.find?_some free
          refine .inr (.inr (.inr ⟨s.freeUser, _, _, empty, ?_, ?_, ?_, rfl⟩))
          · rfl
          · rfl
          · simp [registers, found, full, init]

lemma freeJob_congr (jobs : s'.jobs = s.jobs) (n : Nat) (next : JobId) :
    s'.freeJob n next = s.freeJob n next := by
  induction n generalizing next with
  | zero => rfl
  | succ n ih => rw [freeJob, freeJob, jobs, ih]

lemma freeArray_congr (arrays : s'.arrays = s.arrays) (n next : Nat) :
    s'.freeArray n next = s.freeArray n next := by
  induction n generalizing next with
  | zero => rfl
  | succ n ih => rw [freeArray, freeArray, arrays, ih]

/-- The room for a submission does not depend on the users. -/
lemma submitFits_congr (wS : SubmitWorld) (msg : SubmitMsg) (conf : s'.conf = s.conf)
    (jobs : s'.jobs = s.jobs) (next : s'.nextJobId = s.nextJobId) (count : s'.jobCount = s.jobCount)
    (arrays : s'.arrays = s.arrays) (nextArray : s'.nextArrayId = s.nextArrayId) :
    s'.submitFits wS msg = s.submitFits wS msg := by
  unfold submitFits jobFits arrayFits
  rw [conf, next, count, nextArray, freeJob_congr jobs]
  simp only [freeArray_congr arrays]

/-- A new user starts with one active job. -/
lemma Charged.of_new {uid : UserId} {n : Int} {user : User} {s₁ : Gwd}
    (h : Charged uid n s₁ s') (users : s₁.users = Function.update s.users uid (some user))
    (empty : s.users uid = none) (one : user.activeJobs = 1) (zero : user.runningJobs = 0) :
    Charged uid (n + 1) s s' where
  active u := by
    rw [h.active u]
    by_cases self : u = uid
    · subst self
      simp [Gwd.active, users, empty, one, Int.add_comm]
    · simp [Gwd.active, users, self]
  running u := by
    rw [h.running u]
    by_cases self : u = uid
    · subst self
      simp [Gwd.running, users, empty, zero]
    · simp [Gwd.running, users, self]
  present := h.present
  others u other := by rw [h.others u other, users, Function.update_of_ne other]

/-- The allocation of a job or of an array for a user of the pool. -/
lemma allocateFor_spec {wS : SubmitWorld} {msg : SubmitMsg} {uid : UserId} {useradd : Bool}
    {s' : Gwd}
    (def_s' : s' = match msg.tasks with
      | none => s.allocateJob wS msg uid useradd
      | some tasks => s.allocateArray wS msg tasks uid useradd)
    (user : (s.users uid).isSome) (live : s'.crashed = false) :
    (Grown [] s s' ∧ s'.users = s.users ∧ s.submitFits wS msg = false) ∨
    ∃ js, Grown js s s' ∧ Owned uid js s' ∧
      Charged uid (js.length - if useradd then 1 else 0) s s' := by
  unfold submitFits
  cases tasks : msg.tasks with
  | none =>
    rw [tasks] at def_s'
    subst def_s'
    dsimp only
    rcases allocateJob_spec user live with out | ⟨j, grown, owned, charged⟩
    · exact .inl out
    · refine .inr ⟨[j], grown, owned, ?_⟩
      cases useradd <;> simpa using charged
  | some n =>
    rw [tasks] at def_s'
    subst def_s'
    exact allocateArray_spec user live

/-- What a submission does: nothing for a user who is known, a new user who is charged for a job
that does not exist, or new jobs charged to their user. -/
theorem allocate_spec {wS : SubmitWorld} {msg : SubmitMsg}
    (live : (s.allocate wS msg).crashed = false) :
    ∃ js, Grown js s (s.allocate wS msg) ∧
      ((js = [] ∧ (s.allocate wS msg).users = s.users) ∨
        (js = [] ∧ s.registers wS msg = true ∧ s.submitFits wS msg = false) ∨
        ∃ uid, Owned uid js (s.allocate wS msg) ∧
          Charged uid js.length s (s.allocate wS msg)) := by
  unfold allocate at live ⊢
  rcases submitUser_spec wS msg s with ⟨eq, -⟩ | ⟨s₁, eq, crashed⟩ | ⟨uid, eq, here, known⟩ |
    ⟨uid, user, toSched, empty, one, zero, registers, eq⟩
  · rw [eq]
    exact ⟨[], .rfl s, .inl ⟨rfl, rfl⟩⟩
  · rw [eq] at live
    simp [crashed] at live
  · rw [eq] at live ⊢
    rcases allocateFor_spec rfl here live with ⟨grown, users, -⟩ | ⟨js, grown, owned, charged⟩
    · exact ⟨[], grown, .inl ⟨rfl, users⟩⟩
    · simp only [Bool.false_eq_true, if_false, Int.sub_zero] at charged
      exact ⟨js, grown, .inr (.inr ⟨uid, owned, charged⟩)⟩
  · rw [eq] at live ⊢
    have same {js : List JobId} {s' : Gwd}
        (grown : Grown js { s with users := Function.update s.users uid (some user), toSched } s') :
        Grown js s s' :=
      ⟨grown.conf, grown.hosts, grown.dmQueue, grown.emQueue, grown.tmQueue, grown.nextJobId,
        grown.nodup, grown.fresh, grown.old, grown.new⟩
    rcases allocateFor_spec rfl (by simp) live with ⟨grown, users, full⟩ |
      ⟨js, grown, owned, charged⟩
    · refine ⟨[], same grown, .inr (.inl ⟨rfl, registers, ?_⟩)⟩
      refine Eq.trans ?_ full
      exact submitFits_congr wS msg rfl rfl rfl rfl rfl rfl
    · refine ⟨js, same grown, .inr (.inr ⟨uid, owned, ?_⟩)⟩
      have charged' := charged.of_new (s := s) rfl empty one zero
      rw [if_pos rfl, Int.sub_add_cancel] at charged'
      exact charged'

end GridWay.Gwd
