import GridWay.Em.Frame
import GridWay.Gwd.One
import GridWay.Gwd.Replay
import GridWay.Gwd.Turn
import GridWay.Lib.Machine

/-!
# Restarts of a job

The running daemon counts a restart when a job enters `PENDING` again and when a running job is
dispatched to another host. The directory shows a dispatch when `PROLOG` or `MIGR_CANCEL` is
entered, and that is what a recovery counts.

* `Gwd.courses`: the observer that counts both along a run.
* `Gwd.RestartsKept`: the recovered job has the restarts and the file names of the running one.
* `Gwd.restarts_recovered`: it has them if and only if the two counts agree.
-/

namespace GridWay

open Lifecycle

/-- What the observer has counted for a job. -/
structure Course where
  restarts : Nat := 0
  dispatches : Nat := 0

/-- The lines of `job.state` among the marks of a handler. -/
def linesIn (ms : List Mark) : List JobState :=
  ms.filterMap fun
    | .line st => some st
    | _ => none

/-- The dispatches that marks show in `job.state`. -/
def dispatchMarks (ms : List Mark) : Nat := (linesIn ms).countP JobState.dispatched

@[simp] lemma dispatchMarks_nil : dispatchMarks [] = 0 := rfl

@[simp] lemma dispatchMarks_append (ms ms' : List Mark) :
    dispatchMarks (ms ++ ms') = dispatchMarks ms + dispatchMarks ms' := by
  simp only [dispatchMarks, linesIn, List.filterMap_append, List.countP_append]

/-- The action enters `PROLOG` or `MIGR_CANCEL` with a line of `job.state`. -/
def Dm.entersDispatch (a : DmAction) (job : Job) : Bool :=
  match a with
  | .prolog => job.jobState != .prolog
  | .migrCancel => job.jobState == .wrapper && job.emState != .done
  | _ => false

/-- The marks of a handler show its dispatch. -/
lemma Dm.marks_dispatch (a : DmAction) (job : Job) (staged : Bool) :
    dispatchMarks (Dm.marks a job.jobState (job.emState == .done) staged) =
      (Dm.entersDispatch a job).toNat := by
  cases a
  case prolog =>
    cases st : job.jobState <;> cases staged <;> simp [st, marks, lineUnless, entersDispatch] <;> rfl
  case migrCancel =>
    simp only [marks, entersDispatch, bne]
    cases job.jobState <;> cases job.emState == EmState.done <;> rfl
  all_goals
    cases job.jobState <;> cases staged <;> rfl

namespace Gwd

variable {w : World} {s s' : Gwd} {i j : JobId} {job : Job} {e : Event}

/-- The dispatches that the directory of a job shows. -/
def shown (s : Gwd) (j : JobId) : Nat := ((s.dirs j).map JobDir.shown).getD 0

/-- The event counts a restart of the job. -/
def countsRestart (s : Gwd) (e : Event) (j : JobId) : Bool :=
  match e, s.jobs j with
  | .dm _, some job =>
    match s.dmQueue with
    | .job a i :: _ => i == j && Dm.countsRestart a job.jobState
    | _ => false
  | .scheduleJob i hid _ _ w, some job => i == j && (s.hosts hid).isSome && Dm.migrates w job
  | _, _ => false

/-- The event writes a dispatch of the job to its directory. -/
def logsDispatch (s : Gwd) (e : Event) (j : JobId) : Bool :=
  match e, s.jobs j with
  | .dm w, some job =>
    match s.dmQueue with
    | .job a i :: _ =>
      i == j && Dm.entersDispatch a job && w.world.stateFile && (s.dirs j).isSome
    | _ => false
  | _, _ => false

/-- The counts after an event. -/
def courses (s : Gwd) (c : JobId → Course) (e : Event) (j : JobId) : Course where
  restarts := (c j).restarts + (s.countsRestart e j).toNat
  dispatches := (c j).dispatches + (s.logsDispatch e j).toNat

/-- The run with the observer of the restarts. -/
abbrev courseStep : Gwd × (JobId → Course) → Event → Gwd × (JobId → Course) :=
  Machine.observe step courses

/-- The daemon and the counts, as a run begins. -/
def noCourse (conf : Conf) : Gwd × (JobId → Course) := (Gwd.start conf, fun _ => {})

/-- The recovered job counts the restarts of the running one, and its files have the same names. -/
def RestartsKept (job job' : Job) : Prop :=
  job'.restarted = job.restarted ∧ ∀ name, Dm.restartFile job' name = Dm.restartFile job name

section Shown

lemma onDir_shown (s : Gwd) (j i : JobId) (f : JobDir → JobDir)
    (same : ∀ dir, (f dir).shown = dir.shown) : (s.onDir j f).shown i = s.shown i := by
  unfold onDir
  cases there : s.dirs j with
  | none => rfl
  | some dir =>
    by_cases eq : i = j
    · subst eq
      simp [shown, there, same]
    · simp [shown, eq]

lemma onDir_isSome (s : Gwd) (j i : JobId) (f : JobDir → JobDir) :
    ((s.onDir j f).dirs i).isSome = (s.dirs i).isSome := by
  unfold onDir
  cases there : s.dirs j with
  | none => rfl
  | some dir =>
    by_cases eq : i = j
    · subst eq
      simp [there]
    · simp [eq]

/-- A line of `job.state`. -/
lemma stateLine_shown (w : World) (s : Gwd) (j i : JobId) (st : JobState) :
    (stateLine w s j st).shown i =
      s.shown i + if i = j ∧ w.stateFile ∧ (s.dirs j).isSome then st.dispatched.toNat else 0 := by
  unfold stateLine
  by_cases file : w.stateFile
  · rw [if_pos file]
    unfold onDir
    cases there : s.dirs j with
    | none => simp
    | some dir =>
      by_cases eq : i = j
      · subst eq
        cases dispatched : st.dispatched <;>
          simp [shown, there, file, JobDir.shown, dispatchLines, dispatched]
      · simp [shown, eq]
  · simp [file]

lemma stateLine_isSome (w : World) (s : Gwd) (j i : JobId) (st : JobState) :
    ((stateLine w s j st).dirs i).isSome = (s.dirs i).isSome := by
  unfold stateLine
  split
  · rw [onDir_isSome]
  · rfl

/-- The end of a job shows no dispatch of the jobs that wait for it. -/
lemma depCheckOne_shown (w : World) (j : JobId) (code : Int) (s : Gwd) (d i : JobId) :
    (depCheckOne w j code s d).shown i = s.shown i ∧
      ((depCheckOne w j code s d).dirs i).isSome = (s.dirs i).isSome := by
  have released (s₁ : Gwd) (same : s₁.dirs = s.dirs) :
      (stateLine w s₁ d .pending).shown i = s.shown i ∧
        ((stateLine w s₁ d .pending).dirs i).isSome = (s.dirs i).isSome := by
    rw [stateLine_shown, stateLine_isSome]
    simp [shown, same, JobState.dispatched]
  unfold depCheckOne
  split
  · exact ⟨rfl, rfl⟩
  · split
    · exact ⟨rfl, rfl⟩
    · split
      · dsimp only
        split
        · exact released _ rfl
        · exact ⟨rfl, rfl⟩
      · exact ⟨rfl, rfl⟩

lemma depCheck_shown (w : World) (s : Gwd) (j : JobId) (code : Int) (i : JobId) :
    (s.depCheck w j code).shown i = s.shown i ∧
      ((s.depCheck w j code).dirs i).isSome = (s.dirs i).isSome := by
  unfold depCheck
  generalize List.range s.conf.numberOfJobs = ds
  induction ds generalizing s with
  | nil => exact ⟨rfl, rfl⟩
  | cons d ds ih =>
    obtain ⟨shown, isSome⟩ := depCheckOne_shown w j code s d i
    obtain ⟨shown', isSome'⟩ := ih (depCheckOne w j code s d)
    exact ⟨shown'.trans shown, isSome'.trans isSome⟩

/-- A call shows the dispatch that its mark is about. -/
lemma call_shown (w : World) (j : JobId) (s : Gwd) (c : Call) (i : JobId) :
    (call w j s c).shown i = s.shown i +
        (if i = j ∧ w.stateFile ∧ (s.dirs j).isSome then dispatchMarks c.mark?.toList else 0) ∧
      ((call w j s c).dirs i).isSome = (s.dirs i).isSome := by
  cases c
  case stateLine st =>
    constructor
    · rw [call, stateLine_shown]
      cases st <;> rfl
    · exact stateLine_isSome w s j i st
  case rm a =>
    refine ⟨?_, rfl⟩
    cases h : a.grants <;> simp [call, shown, h, dispatchMarks, linesIn]
  case depCheck code =>
    obtain ⟨same, isSome⟩ := depCheck_shown w s j code i
    exact ⟨by simpa [call] using same, isSome⟩
  case historyLine | contact | unlinkConf =>
    refine ⟨?_, onDir_isSome s j i _⟩
    rw [call, onDir_shown]
    · simp [dispatchMarks, linesIn]
    · intro dir
      rfl
  all_goals simp [call, shown, incRunningJobs, decRunningJobs, dispatchMarks, linesIn]

/-- A reply shows the dispatches among its marks. -/
lemma reply_shown (w : World) (j : JobId) (r : Reply) (s : Gwd) (i : JobId) :
    (reply w j r s).shown i = s.shown i +
      if i = j ∧ w.stateFile ∧ (s.dirs j).isSome then dispatchMarks (trace r.calls) else 0 := by
  have all (cs : List Call) (s : Gwd) : (cs.foldl (call w j) s).shown i = s.shown i +
      if i = j ∧ w.stateFile ∧ (s.dirs j).isSome then dispatchMarks (trace cs) else 0 := by
    induction cs generalizing s with
    | nil => simp
    | cons c cs ih =>
      obtain ⟨same, -⟩ := call_shown w j s c i
      obtain ⟨-, isSome⟩ := call_shown w j s c j
      rw [List.foldl_cons, ih, same, isSome, trace_cons, dispatchMarks_append]
      split
      · omega
      · rfl
  exact all r.calls _

end Shown

section Submitted

/-- The jobs from an id on were not dispatched yet: no restarts, and no dispatch in their
directories. -/
structure Unstarted (n : Nat) (s : Gwd) : Prop where
  id : ∀ i job, n ≤ i → s.jobs i = some job → job.id = i
  label : ∀ i job, n ≤ i → s.jobs i = some job → job.label = ⟨directoryOf i, 0⟩
  shown : ∀ i, n ≤ i → s.shown i = 0

namespace Unstarted

variable {n : Nat} {s₁ s₂ : Gwd} {wS : SubmitWorld} {msg : SubmitMsg}

/-- Only the jobs and the directories count. -/
lemma congr (h : Unstarted n s₁) (jobs : s₂.jobs = s₁.jobs) (dirs : s₂.dirs = s₁.dirs) :
    Unstarted n s₂ where
  id := jobs ▸ h.id
  label := jobs ▸ h.label
  shown i above := by
    rw [Gwd.shown, dirs]
    exact h.shown i above

lemma put (h : Unstarted n s₁) (id : job.id = j) (label : job.label = ⟨directoryOf j, 0⟩) :
    Unstarted n { s₁ with jobs := Function.update s₁.jobs j (some job) } where
  id i job' above here := by
    by_cases same : i = j
    · subst same
      have self : job = job' := by simpa using here
      exact self ▸ id
    · exact h.id i job' above (by simpa [same] using here)
  label i job' above here := by
    by_cases same : i = j
    · subst same
      have self : job = job' := by simpa using here
      exact self ▸ label
    · exact h.label i job' above (by simpa [same] using here)
  shown := h.shown

lemma stateLine (h : Unstarted n s₁) {st : JobState} (still : st.dispatched = false) :
    Unstarted n (stateLine w s₁ j st) where
  id := by simpa using h.id
  label := by simpa using h.label
  shown i above := by
    rw [stateLine_shown, h.shown i above, still]
    simp

lemma depSet (h : Unstarted n s₁) (msg : SubmitMsg) (j : JobId) :
    Unstarted n (s₁.depSet msg j) := by
  unfold Gwd.depSet
  split
  · exact h
  · exact h.congr rfl rfl

lemma jobPoolFree (h : Unstarted n s₁) : Unstarted n (s₁.jobPoolFree j) where
  id i job above here := by
    rw [(jobPoolFree_frame s₁ j).2.1] at here
    by_cases same : i = j
    · simp [same] at here
    · exact h.id i job above (by simpa [same] using here)
  label i job above here := by
    rw [(jobPoolFree_frame s₁ j).2.1] at here
    by_cases same : i = j
    · simp [same] at here
    · exact h.label i job above (by simpa [same] using here)
  shown i above := by
    rw [Gwd.shown, (jobPoolFree_frame s₁ j).2.2.2.2.2.2.2.2.2.2.2.2.1]
    exact h.shown i above

/-- The directory of a job that is filled is made anew. -/
lemma jobFill (h : Unstarted n s₁) {job' : Job} {ok : Bool}
    (filled : s₁.jobFill wS msg job = (s₂, job', ok)) :
    Unstarted n s₂ ∧ job'.label = job.label := by
  have anew (dir : JobDir) (blank : dir.shown = 0) :
      Unstarted n { s₁ with dirs := Function.update s₁.dirs job.id (some dir) } := by
    refine ⟨h.id, h.label, fun i above => ?_⟩
    by_cases same : i = job.id
    · simp [Gwd.shown, same, blank]
    · have old := h.shown i above
      simpa [Gwd.shown, same] using old
  unfold Gwd.jobFill at filled
  split at filled <;> cases filled
  · exact ⟨h, rfl⟩
  · exact ⟨anew _ rfl, rfl⟩
  · exact ⟨anew _ rfl, rfl⟩

lemma jobPoolAllocate (h : Unstarted n s₁) {j? : Option JobId}
    (eq : s₁.jobPoolAllocate w = (s₂, j?)) : Unstarted n s₂ := by
  rcases jobPoolAllocate_cases w s₁ with ⟨-, same⟩ | same | ⟨j, -, -, -, -, same⟩ <;>
    rw [eq] at same <;> cases same
  · exact h
  · exact h.congr rfl rfl
  · have new : Unstarted n { s₁ with jobs := Function.update s₁.jobs j (some (jobInit w j)) } :=
      h.put rfl rfl
    exact new.congr rfl rfl

lemma initialise_resting (msg : SubmitMsg) (uid : UserId) (job : Job) :
    (initialise msg uid job).jobState.dispatched = false := by
  show (if msg.held then JobState.hold else JobState.pending).dispatched = false
  split <;> rfl

lemma allocateJob (h : Unstarted n s₁) (uid : UserId) (useradd : Bool) (fresh : n ≤ s₁.nextJobId) :
    Unstarted n (s₁.allocateJob wS msg uid useradd) := by
  unfold Gwd.allocateJob
  rcases eq : s₁.jobPoolAllocate wS.world with ⟨s₂, j?⟩
  have h₂ := h.jobPoolAllocate eq
  cases j? with
  | none => exact h₂
  | some j =>
    have above : n ≤ j := by
      rcases jobPoolAllocate_cases wS.world s₁ with ⟨-, same⟩ | same | ⟨j', -, up, -, -, same⟩ <;>
        rw [eq] at same <;> cases same
      exact Nat.le_trans fresh up
    dsimp only
    cases here : s₂.jobs j with
    | none => exact h₂
    | some job =>
      dsimp only
      rcases filled : s₂.jobFill wS msg job with ⟨s₃, job', ok⟩
      obtain ⟨h₃, label⟩ := h₂.jobFill filled
      have id : job'.id = j := (jobFill_spec filled).2.1.trans (h₂.id j job above here)
      have label : job'.label = ⟨directoryOf j, 0⟩ := label.trans (h₂.label j job above here)
      cases ok with
      | false => exact (h₃.put id label).jobPoolFree
      | true =>
        have put : Unstarted n
            { s₃ with jobs := Function.update s₃.jobs j (some (initialise msg uid job')) } :=
          h₃.put id label
        have lined : Unstarted n _ := put.stateLine (w := wS.world) (j := j)
          (initialise_resting msg uid job')
        have done : Unstarted n _ := lined.depSet msg j
        dsimp only
        split <;> split
        all_goals exact done.congr (by simp [incJobs]) (by simp [incJobs])

lemma allocateTasks (h : Unstarted n s₁) (fresh : n ≤ s₁.nextJobId) (aid total m task : Nat)
    {js : List JobId} (eq : Gwd.allocateTasks w aid total m task s₁ = (s₂, js)) :
    Unstarted n s₂ ∧ ∀ j ∈ js, n ≤ j := by
  induction m generalizing s₁ s₂ task js with
  | zero =>
    cases eq
    exact ⟨h, by simp⟩
  | succ m ih =>
    rw [Gwd.allocateTasks] at eq
    rcases jobPoolAllocate_cases w s₁ with ⟨-, same⟩ | same | ⟨j, -, up, -, -, same⟩ <;>
      rw [same] at eq <;> dsimp only at eq
    · cases eq
      exact ⟨h.congr rfl rfl, by simp⟩
    · cases eq
      exact ⟨h.congr rfl rfl, by simp⟩
    · simp only [Function.update_self, Option.map_some, Function.update_idem] at eq
      have put : Unstarted n { s₁ with jobs := Function.update s₁.jobs j (some
          { jobInit w j with taskId := task, arrayId := some aid, totalTasks := total }) } :=
        h.put rfl rfl
      have new : Unstarted n { s₁ with
          jobs := Function.update s₁.jobs j (some
            { jobInit w j with taskId := task, arrayId := some aid, totalTasks := total })
          nextJobId := j + 1
          jobCount := s₁.jobCount + 1 } := put.congr rfl rfl
      rcases more : Gwd.allocateTasks w aid total m (task + 1) _ with ⟨s₃, js'⟩
      rw [more] at eq
      cases eq
      have next : n ≤ j + 1 := Nat.le_succ_of_le (Nat.le_trans fresh up)
      obtain ⟨h₃, above⟩ := ih new next (task + 1) more
      refine ⟨h₃, fun i mem => ?_⟩
      rcases List.mem_cons.1 mem with rfl | mem
      · exact Nat.le_trans fresh up
      · exact above i mem

lemma fillTask (h : Unstarted n s₁) (aid : Nat) (uid : UserId) (above : n ≤ j) :
    Unstarted n (Gwd.fillTask wS msg aid uid s₁ j) := by
  unfold Gwd.fillTask
  cases here : s₁.jobs j with
  | none => exact h.congr rfl rfl
  | some job =>
    dsimp only
    rcases filled : s₁.jobFill wS msg job with ⟨s₂, job', ok⟩
    obtain ⟨h₂, label⟩ := h.jobFill filled
    have id : job'.id = j := (jobFill_spec filled).2.1.trans (h.id j job above here)
    have label : job'.label = ⟨directoryOf j, 0⟩ := label.trans (h.label j job above here)
    have put : Unstarted n { s₂ with jobs := Function.update s₂.jobs j (some
        { (initialise msg uid job') with pstart := msg.pstart, pinc := msg.pinc }) } :=
      h₂.put id label
    have lined : Unstarted n _ := put.stateLine (w := wS.world) (j := j)
      (initialise_resting msg uid job')
    dsimp only
    apply Unstarted.depSet
    split
    · exact lined
    · exact lined.congr rfl rfl

lemma arrayAllocate (h : Unstarted n s₁) (fresh : n ≤ s₁.nextJobId) (tasks : Nat)
    {a? : Option (Nat × List JobId)} (eq : s₁.arrayAllocate wS tasks = (s₂, a?)) :
    Unstarted n s₂ ∧ ∀ a ∈ a?, ∀ j ∈ a.2, n ≤ j := by
  unfold Gwd.arrayAllocate at eq
  split at eq
  · cases eq
    exact ⟨h, by simp⟩
  · split at eq
    · cases eq
      exact ⟨h, by simp⟩
    · split at eq
      · cases eq
        exact ⟨h.congr rfl rfl, by simp⟩
      · split at eq
        · rename_i aid _ _ _
          dsimp only at eq
          rcases more : Gwd.allocateTasks wS.world aid tasks tasks 0
            { s₁ with nextArrayId := aid + 1 } with ⟨s₃, js⟩
          have h' : Unstarted n { s₁ with nextArrayId := aid + 1 } := h.congr rfl rfl
          obtain ⟨h₃, above⟩ := h'.allocateTasks fresh aid tasks tasks 0 more
          rw [more] at eq
          cases eq
          exact ⟨h₃.congr rfl rfl, by simpa using above⟩
        · cases eq
          exact ⟨h.congr rfl rfl, by simp⟩

lemma allocateArray (h : Unstarted n s₁) (fresh : n ≤ s₁.nextJobId) (tasks : Nat) (uid : UserId)
    (useradd : Bool) : Unstarted n (s₁.allocateArray wS msg tasks uid useradd) := by
  unfold Gwd.allocateArray
  rcases eq : s₁.arrayAllocate wS tasks with ⟨s₂, a?⟩
  obtain ⟨h₂, above⟩ := h.arrayAllocate fresh tasks eq
  match a? with
  | none => exact h₂
  | some (aid, js) =>
    have filled (ks : List JobId) (s₃ : Gwd) (h₃ : Unstarted n s₃) (sub : ∀ k ∈ ks, k ∈ js) :
        Unstarted n (ks.foldl (Gwd.fillTask wS msg aid uid) s₃) := by
      induction ks generalizing s₃ with
      | nil => exact h₃
      | cons k ks ih =>
        have up : n ≤ k := above (aid, js) rfl k (sub k List.mem_cons_self)
        exact ih _ (h₃.fillTask aid uid up) fun i mem => sub i (List.mem_cons_of_mem _ mem)
    exact (filled js s₂ h₂ fun _ mem => mem).congr (by simp [incJobs]) (by simp [incJobs])

/-- The jobs of a submission were not dispatched yet. -/
theorem allocate (h : Unstarted n s) (fresh : n ≤ s.nextJobId) :
    Unstarted n (s.allocate wS msg) := by
  have user : Unstarted n (s.submitUser wS msg).1 ∧
      (s.submitUser wS msg).1.nextJobId = s.nextJobId := by
    unfold submitUser
    split
    · exact ⟨h, rfl⟩
    · unfold userAllocate
      dsimp only
      repeat' split
      all_goals exact ⟨h.congr rfl rfl, rfl⟩
  unfold Gwd.allocate
  rcases eq : s.submitUser wS msg with ⟨s₁, u?⟩
  rw [eq] at user
  obtain ⟨h₁, next⟩ := user
  have fresh : n ≤ s₁.nextJobId := next.symm ▸ fresh
  match u? with
  | none => exact h₁
  | some (uid, useradd) =>
    dsimp only
    cases msg.tasks with
    | none => exact h₁.allocateJob uid useradd fresh
    | some tasks => exact h₁.allocateArray fresh tasks uid useradd

end Unstarted

/-- What a submission adds to a pool in order was not dispatched yet. -/
lemma allocate_unstarted (wS : SubmitWorld) (msg : SubmitMsg) (rest : List DmItem) (pool : Pool s)
    (unborn : ∀ j, s.nextJobId ≤ j → s.shown j = 0) :
    Unstarted s.nextJobId (({ s with dmQueue := rest } : Gwd).allocate wS msg) := by
  have start : Unstarted s.nextJobId { s with dmQueue := rest } := by
    refine ⟨fun i job above here => ?_, fun i job above here => ?_, unborn⟩
    · rw [show s.jobs i = none from pool.fresh i above] at here
      cases here
    · rw [show s.jobs i = none from pool.fresh i above] at here
      cases here
  exact start.allocate (Nat.le_refl _)

end Submitted

/-- The invariant of the observed run: the jobs have the restarts that were counted, and the
directories show the dispatches. -/
structure CourseInv (p : Gwd × (JobId → Course)) : Prop where
  pool : Pool p.1
  label : ∀ j job, p.1.jobs j = some job → job.label = ⟨directoryOf j, (p.2 j).restarts⟩
  shown : ∀ j, p.1.shown j = (p.2 j).dispatches
  unborn : ∀ j, p.1.nextJobId ≤ j → (p.2 j).restarts = 0 ∧ (p.2 j).dispatches = 0

lemma courseInv_start (conf : Conf) : CourseInv (noCourse conf) where
  pool := .start conf
  label j job here := by cases here
  shown _ := rfl
  unborn _ _ := ⟨rfl, rfl⟩

variable {p : Gwd × (JobId → Course)}

/-- Nothing is counted for a job that is not there. -/
lemma courses_absent (absent : s.jobs j = none) (c : JobId → Course) :
    s.courses c e j = c j := by
  have restart : s.countsRestart e j = false := by
    cases e <;> simp [countsRestart, absent]
  have dispatch : s.logsDispatch e j = false := by
    cases e <;> simp [logsDispatch, absent]
  simp [courses, restart, dispatch]

/-- A released job has its label still. -/
lemma Released.label {old new : Option Job} (h : Released old new) :
    new.map Job.label = old.map Job.label := by
  rcases h with rfl | ⟨job, rfl, -, rfl⟩
  · rfl
  · rfl

/-- Outside the Dispatch Manager a handler keeps the label of its job, unless it is a migration. -/
lemma turn_label {t : Turn} (w : World) (job : Job) (dm : ∀ a, t ≠ .dm a)
    (dispatch : ∀ hid host queue rank, t ≠ .dispatch hid host queue rank) :
    (t.handler w job).job.label = job.label := by
  cases t
  case dm a => exact absurd rfl (dm a)
  case dispatch hid host queue rank => exact absurd rfl (dispatch hid host queue rank)
  case em a => exact (congrArg Job.label (Em.handle_own a w job) :)
  case tm a => exact (congrArg Job.label (Tm.handle_own a w job).rest :)
  case emMsg msg => exact (congrArg Job.label (Em.listener_own msg w job) :)
  case tmMsg msg => exact (congrArg Job.label (Tm.listener_own msg w job).rest :)
  case uncheck => exact Dm.uncheckJob_label (w := w)
  case check => exact Dm.checkJob_label
  case emTimer =>
    have own : Em.Own job (Em.timer w job) := Em.timer_own
    exact (congrArg Job.label own :)
  case tmTimer => exact (congrArg Job.label (Tm.timer_own w job).rest :)
  case tmReload =>
    rcases recover_cases w job with eq | ⟨a, -, -, -, -, eq⟩
    · exact congrArg (fun r => r.job.label) eq
    · exact congrArg (fun r => r.job.label) eq

section Step

variable {a : DmAction} {rest : List DmItem} {wS : SubmitWorld}

/-- What is counted when the Dispatch Manager takes an action of the job. -/
lemma counts_dm (queue : s.dmQueue = .job a j :: rest) (here : s.jobs j = some job) :
    s.countsRestart (.dm wS) j = Dm.countsRestart a job.jobState ∧
      s.logsDispatch (.dm wS) j =
        (Dm.entersDispatch a job && wS.world.stateFile && (s.dirs j).isSome) := by
  simp [countsRestart, logsDispatch, here, queue]

/-- Other jobs count nothing then. -/
lemma counts_dm_other (queue : s.dmQueue = .job a j :: rest) (other : i ≠ j) :
    s.countsRestart (.dm wS) i = false ∧ s.logsDispatch (.dm wS) i = false := by
  have ne : (j == i) = false := by simpa using Ne.symm other
  cases here : s.jobs i <;> simp [countsRestart, logsDispatch, here, queue, ne]

/-- A handler shows the dispatch that it logs. -/
lemma shown_dm (queue : s.dmQueue = .job a j :: rest) (here : s.jobs j = some job)
    (live : (reply wS.world j (Dm.handle a (s.world wS.world) job)
      { s with dmQueue := rest }).crashed = false) (i : JobId) :
    (reply wS.world j (Dm.handle a (s.world wS.world) job) { s with dmQueue := rest }).shown i =
      s.shown i + (s.logsDispatch (.dm wS) i).toNat := by
  rw [reply_shown]
  show s.shown i + _ = _
  congr 1
  by_cases same : i = j
  · subst same
    rw [(counts_dm queue here).2, Dm.handle_trace (reply_live live).2, Dm.marks_dispatch]
    show (if i = i ∧ wS.world.stateFile = true ∧ (s.dirs i).isSome = true then _ else 0) = _
    cases wS.world.stateFile <;> cases (s.dirs i).isSome <;> simp
  · rw [(counts_dm_other queue same).2, if_neg fun h => same h.1]
    rfl

/-- A dispatch shows nothing yet. -/
lemma shown_dispatch (hid : HostId) (host : Host) (rank : Int) (queue : String) (i : JobId) :
    (reply w j (Dm.dispatchJob hid host rank queue (s.world w) job) s).shown i = s.shown i := by
  have calm : dispatchMarks (trace (Dm.dispatchJob hid host rank queue (s.world w) job).calls) = 0 := by
    unfold Dm.dispatchJob Dm.uncheckJob
    repeat' split
    all_goals rfl
  rw [reply_shown, calm]
  simp

lemma shown_reload (i : JobId) :
    (reply w j (Tm.recover (s.world w) job) s).shown i = s.shown i := by
  have calm : dispatchMarks (trace (Tm.recover (s.world w) job).calls) = 0 := by
    rcases recover_cases (s.world w) job with eq | ⟨a, -, -, -, -, eq⟩
    · rw [eq]
      rfl
    · rw [eq]
      rfl
  rw [reply_shown, calm]
  simp

/-- A quiet change shows nothing. -/
lemma Quiet.shown (quiet : Quiet s s') (i : JobId) : s'.shown i = s.shown i := by
  have logs := quiet.logs i
  have shown (dir? : Option JobDir) :
      (dir?.map JobDir.shown).getD 0 = ((dir?.map JobDir.log).map JobDir.shown).getD 0 := by
    cases dir? <;> rfl
  rw [Gwd.shown, Gwd.shown, shown (s'.dirs i), shown (s.dirs i), logs]

/-- An event that gives no job a turn at the Dispatch Manager logs no dispatch. -/
lemma logsDispatch_of (dm : ∀ wS a rest, e = .dm wS → s.dmQueue = .job a i :: rest →
    s.jobs i = none) : s.logsDispatch e i = false := by
  cases e
  case dm wS =>
    rcases queue : s.dmQueue with _ | ⟨⟨a, k⟩ | msg, rest⟩
    · cases here : s.jobs i <;> simp [logsDispatch, here, queue]
    · by_cases same : k = i
      · subst same
        simp [logsDispatch, dm wS a rest rfl queue]
      · exact (counts_dm_other queue (Ne.symm same)).2
    · cases here : s.jobs i <;> simp [logsDispatch, here, queue]
  all_goals rfl

/-- The Dispatch Manager runs the handler of the action that it takes. -/
lemma step_dm (alive : s.crashed = false) (queue : s.dmQueue = .job a j :: rest)
    (here : s.jobs j = some job) : s.step (.dm wS) =
      reply wS.world j (Dm.handle a (s.world wS.world) job) { s with dmQueue := rest } := by
  simp [step, alive, live, dmNext, queue, here, onJob, world]

/-- The directories show the dispatches that are counted. -/
lemma shown_step (pool : Pool s) (unborn : ∀ j, s.nextJobId ≤ j → s.shown j = 0)
    (live : (s.step e).crashed = false) (j : JobId) :
    (s.step e).shown j = s.shown j + (s.logsDispatch e j).toNat := by
  have alive := step_alive live
  by_cases dm : ∃ wS a i rest job, e = .dm wS ∧ s.dmQueue = .job a i :: rest ∧ s.jobs i = some job
  · obtain ⟨wS, a, i, rest, job, rfl, queue, here⟩ := dm
    rw [step_dm alive queue here] at live ⊢
    exact shown_dm queue here live j
  · have idle : s.logsDispatch e j = false := by
      apply logsDispatch_of
      intro wS a rest is queue
      cases here : s.jobs j with
      | none => rfl
      | some job => exact absurd ⟨wS, a, j, rest, job, is, queue, here⟩ dm
    rw [idle]
    show (s.step e).shown j = s.shown j
    rcases step_cases alive live with ⟨quiet, -⟩ |
      ⟨wS, a, i, rest, job, is, queue, here, -⟩ | ⟨wS, msg, rest, -, queue, eq⟩ |
      ⟨i, hid, queue, rank, w, host, job, -, -, -, eq⟩ | ⟨i, w, job, -, -, eq⟩
    · exact quiet.shown j
    · exact absurd ⟨wS, a, i, rest, job, is, queue, here⟩ dm
    · rw [eq]
      by_cases old : j < s.nextJobId
      · have above := allocate_above (s := { s with dmQueue := rest }) wS msg pool.fresh
        simp only [Gwd.shown, above.dirs j old]
      · have new := allocate_unstarted wS msg rest pool unborn
        rw [new.shown j (Nat.le_of_not_lt old), unborn j (Nat.le_of_not_lt old)]
    · rw [eq]
      exact shown_dispatch hid host rank queue j
    · rw [eq]
      exact shown_reload j

/-- What is counted when a job is dispatched. -/
lemma counts_dispatch {hid : HostId} {host : Host} {queue : String} {rank : Int}
    (there : s.hosts hid = some host) (here : s.jobs j = some job) :
    s.countsRestart (.scheduleJob j hid queue rank w) j = Dm.migrates w job := by
  simp [countsRestart, here, there]

/-- An event that gives the job no such turn counts no restart. -/
lemma countsRestart_of (dm : ∀ wS a rest, e = .dm wS → s.dmQueue ≠ .job a j :: rest)
    (dispatch : ∀ hid host queue rank w, e = .scheduleJob j hid queue rank w →
      s.hosts hid ≠ some host) : s.countsRestart e j = false := by
  cases e
  case dm wS =>
    rcases queue : s.dmQueue with _ | ⟨⟨a, k⟩ | msg, rest⟩
    · cases here : s.jobs j <;> simp [countsRestart, here, queue]
    · by_cases same : k = j
      · subst same
        exact absurd queue (dm wS a rest rfl)
      · exact (counts_dm_other queue (Ne.symm same)).1
    · cases here : s.jobs j <;> simp [countsRestart, here, queue]
  case scheduleJob k hid queue rank w =>
    by_cases same : k = j
    · subst same
      cases there : s.hosts hid with
      | none => cases here : s.jobs k <;> simp [countsRestart, here, there]
      | some host => exact absurd there (dispatch hid host queue rank w rfl)
    · have ne : (k == j) = false := by simpa using same
      cases here : s.jobs j <;> simp [countsRestart, here, ne]
  all_goals rfl

/-- The label after one more restart, or after none. -/
lemma again_of (directory : String) (n : Nat) (b : Bool) :
    (if b then Label.again ⟨directory, n⟩ else ⟨directory, n⟩) = (⟨directory, n + b.toNat⟩ : Label) := by
  cases b <;> rfl

/-- A job keeps its directory, and has the restarts that are counted. -/
lemma label_step {directory : String} {n : Nat} (here : s.jobs j = some job)
    (label : job.label = ⟨directory, n⟩) (pool : Pool s) (live : (s.step e).crashed = false)
    {job' : Job} (after : (s.step e).jobs j = some job') :
    job'.label = ⟨directory, n + (s.countsRestart e j).toNat⟩ := by
  have alive := step_alive live
  by_cases dm : ∃ wS a rest, e = .dm wS ∧ s.dmQueue = .job a j :: rest
  · obtain ⟨wS, a, rest, rfl, queue⟩ := dm
    have eq : s.step (.dm wS) = _ := step_dm alive queue here
    rw [eq] at live after
    obtain ⟨eff, act⟩ := acted queue live
    have jobs := act.jobs
    rw [after] at jobs
    split at jobs
    · cases jobs
    · cases jobs
      rw [(counts_dm queue here).1, Dm.handle_label a _ job (reply_live live).2, label, again_of]
  · by_cases dispatch : ∃ hid host queue rank w, e = .scheduleJob j hid queue rank w ∧
        s.hosts hid = some host
    · obtain ⟨hid, host, queue, rank, w, rfl, there⟩ := dispatch
      have eq : s.step (.scheduleJob j hid queue rank w) =
          reply w j (Dm.dispatchJob hid host rank queue (s.world w) job) s := by
        simp [step, alive, Gwd.live, scheduleJob, there, onJob, here]
      obtain ⟨stored, -⟩ := turn_keeps w s s j job
        (t := .dispatch hid host queue rank) (by rintro a ⟨⟩)
      rw [eq] at after
      have self : (Dm.dispatchJob hid host rank queue (s.world w) job).job = job' :=
        Option.some.inj (stored.symm.trans after)
      rw [counts_dispatch there here, ← self, Dm.dispatchJob_label, label, again_of]
      rfl
    · have none : s.countsRestart e j = false := by
        apply countsRestart_of
        · intro wS a rest is queue
          exact dm ⟨wS, a, rest, is, queue⟩
        · intro hid host queue rank w is there
          exact dispatch ⟨hid, host, queue, rank, w, is, there⟩
      rw [none]
      show job'.label = ⟨directory, n⟩
      rw [← label]
      rcases turn_cases here live pool with aside | ⟨-, reloaded⟩ | ⟨t, w, s₁, takes, eq⟩
      · have same := Released.label aside.jobs
        rw [after, here] at same
        exact Option.some.inj same
      · rw [reloaded.jobs] at after
        cases after
        rfl
      · have other : ∀ a, t ≠ .dm a := by
          rintro a rfl
          cases takes
          case dm wS rest queue => exact dm ⟨wS, a, rest, rfl, queue⟩
        have still : ∀ hid host queue rank, t ≠ .dispatch hid host queue rank := by
          rintro hid host queue rank rfl
          cases takes
          case dispatch there => exact dispatch ⟨hid, host, queue, rank, w, rfl, there⟩
        obtain ⟨stored, -⟩ := turn_keeps w s s₁ j job other
        rw [eq, stored] at after
        cases after
        exact turn_label _ job other still

/-- A job that appears has no restarts. -/
lemma label_born (absent : s.jobs j = none) (pool : Pool s)
    (unborn : ∀ j, s.nextJobId ≤ j → s.shown j = 0) (live : (s.step e).crashed = false)
    (after : (s.step e).jobs j = some job) : job.label = ⟨directoryOf j, 0⟩ := by
  obtain ⟨-, -, above⟩ := born_step absent pool live after
  have not_reply {w : World} {r : Reply} {i : JobId} {q : List DmItem} {job' : Job}
      (there : s.jobs i = some job') (eq : s.step e = reply w i r { s with dmQueue := q }) : False := by
    have ne : j ≠ i := by rintro rfl; rw [absent] at there; cases there
    have released : Released (s.jobs j) ((s.step e).jobs j) := eq ▸ reply_other ne
    rw [absent] at released
    rw [released.none] at after
    cases after
  rcases step_cases (step_alive live) live with ⟨quiet, -⟩ |
    ⟨wS, a, i, rest, job', -, -, there, eq⟩ | ⟨wS, msg, rest, -, queue, eq⟩ |
    ⟨i, hid, queue, rank, w, host, job', -, -, there, eq⟩ | ⟨i, w, job', -, there, eq⟩
  · have same := quiet.isSome j
    rw [absent, after] at same
    cases same
  · exact (not_reply there eq).elim
  · rw [eq] at after
    exact (allocate_unstarted wS msg _ pool unborn).label j job above after
  · exact (not_reply (q := s.dmQueue) there eq).elim
  · exact (not_reply (q := s.dmQueue) there eq).elim

end Step

/-- The counts stay exact at every event. -/
lemma CourseInv.step (inv : CourseInv p) (live : (p.1.step e).crashed = false) :
    CourseInv (courseStep p e) := by
  have unborn : ∀ j, p.1.nextJobId ≤ j → p.1.shown j = 0 := fun j above =>
    (inv.shown j).trans (inv.unborn j above).2
  refine ⟨pool_step inv.pool (step_alive live) live, fun j job after => ?_, fun j => ?_,
    fun j above => ?_⟩
  · cases here : p.1.jobs j with
    | none =>
      obtain ⟨-, -, above⟩ := born_step here inv.pool live after
      have same : (courseStep p e).2 j = p.2 j := courses_absent here p.2
      rw [same, (inv.unborn j above).1]
      exact label_born here inv.pool unborn live after
    | some old => exact label_step here (inv.label j old here) inv.pool live after
  · show (p.1.step e).shown j = (p.2 j).dispatches + _
    rw [shown_step inv.pool unborn live j, inv.shown j]
  · have old : p.1.nextJobId ≤ j := Nat.le_trans (nextJobId_step live) above
    have same : (courseStep p e).2 j = p.2 j := courses_absent (inv.pool.fresh j old) p.2
    rw [same]
    exact inv.unborn j old

lemma courseInv_run {evs : List Event} (inv : CourseInv p)
    (live : (Machine.run step p.1 evs).crashed = false) :
    CourseInv (Machine.run courseStep p evs) := by
  induction evs generalizing p with
  | nil => exact inv
  | cons e evs ih => exact ih (inv.step (run_alive live)) live

/-- A recovered job has the restarts of the running one, and the names of its files, if and only if
the directory shows a dispatch more than there were restarts, or none without a dispatch. -/
theorem restarts_recovered (conf : Conf) (evs : List Event) (wR : RecoverWorld) (j : JobId)
    (job job' : Job) (live : (Machine.run step (Gwd.start conf) evs).crashed = false)
    (up : ((Machine.run step (Gwd.start conf) evs).restart wR).crashed = false)
    (here : (Machine.run step (Gwd.start conf) evs).jobs j = some job)
    (back : ((Machine.run step (Gwd.start conf) evs).restart wR).jobs j = some job') :
    RestartsKept job job' ↔
      ((Machine.run courseStep (noCourse conf) evs).2 j).dispatches - 1 =
        ((Machine.run courseStep (noCourse conf) evs).2 j).restarts := by
  have inv := courseInv_run (courseInv_start conf) live
  have daemon : (Machine.run courseStep (noCourse conf) evs).1 =
      Machine.run step (Gwd.start conf) evs := Machine.run_observe_fst step courses _ evs
  generalize Machine.run courseStep (noCourse conf) evs = p at inv daemon ⊢
  rw [← daemon] at here back up
  obtain ⟨dir, there, label'⟩ := restart_label up back
  have label := inv.label j job here
  have shown : dir.shown = (p.2 j).dispatches := by
    rw [← inv.shown j, Gwd.shown, there]
    rfl
  rw [shown] at label'
  have restarted : job.restarted = (p.2 j).restarts := congrArg Label.restarted label
  have restarted' : job'.restarted = (p.2 j).dispatches - 1 := congrArg Label.restarted label'
  rw [RestartsKept, restarted, restarted']
  constructor
  · rintro ⟨same, -⟩
    exact same
  · intro same
    refine ⟨same, Dm.restartFile_congr ?_⟩
    rw [label, label', same]

/-- A job without files for its stage-in fails on its first host and waits for the next one. -/
def rescheduledRun : List Event :=
  [.hostAllocate 0 { hostname := "host", emMad := "em", tmMad := "tm", imMad := "im" },
    .submit { owner := "user", template := { rescheduleOnFailure := true } }, .dm {},
    .scheduleJob 0 0 "default" 0 {}, .dm { world := { environment := false } }, .dm {}, .dm {}]

/-- The daemon crashes after the second dispatch of the job. -/
theorem restarts_recovered_dispatched : ∃ job job',
    (Machine.run step (Gwd.start ⟨4, 4, 4, 4⟩)
      (rescheduledRun ++ [.scheduleJob 0 0 "default" 0 {}, .dm {}])).jobs 0 = some job ∧
    ((Machine.run step (Gwd.start ⟨4, 4, 4, 4⟩)
      (rescheduledRun ++ [.scheduleJob 0 0 "default" 0 {}, .dm {}])).restart
        { order := [0] }).jobs 0 = some job' ∧
    RestartsKept job job' := by
  obtain ⟨job, here⟩ : ∃ job, (Machine.run step (Gwd.start ⟨4, 4, 4, 4⟩)
      (rescheduledRun ++ [.scheduleJob 0 0 "default" 0 {}, .dm {}])).jobs 0 = some job :=
    Option.isSome_iff_exists.1 (by decide)
  obtain ⟨job', back⟩ : ∃ job, ((Machine.run step (Gwd.start ⟨4, 4, 4, 4⟩)
      (rescheduledRun ++ [.scheduleJob 0 0 "default" 0 {}, .dm {}])).restart
        { order := [0] }).jobs 0 = some job :=
    Option.isSome_iff_exists.1 (by decide)
  refine ⟨job, job', here, back, ?_⟩
  apply (restarts_recovered ⟨4, 4, 4, 4⟩ _ { order := [0] } 0 job job' _ _ here back).2
  · decide
  · decide
  · decide

/-- It crashes while the job waits for its second dispatch: the restart is forgotten. -/
theorem restart_forgotten : ¬ ∀ (conf : Conf) (evs : List Event) (wR : RecoverWorld) (j : JobId)
    (job job' : Job), (Machine.run step (Gwd.start conf) evs).crashed = false →
    ((Machine.run step (Gwd.start conf) evs).restart wR).crashed = false →
    (Machine.run step (Gwd.start conf) evs).jobs j = some job →
    ((Machine.run step (Gwd.start conf) evs).restart wR).jobs j = some job' →
    RestartsKept job job' := by
  intro kept
  obtain ⟨job, here⟩ : ∃ job,
      (Machine.run step (Gwd.start ⟨4, 4, 4, 4⟩) rescheduledRun).jobs 0 = some job :=
    Option.isSome_iff_exists.1 (by decide)
  obtain ⟨job', back⟩ : ∃ job, ((Machine.run step (Gwd.start ⟨4, 4, 4, 4⟩) rescheduledRun).restart
        { order := [0] }).jobs 0 = some job :=
    Option.isSome_iff_exists.1 (by decide)
  obtain ⟨same, -⟩ := kept ⟨4, 4, 4, 4⟩ rescheduledRun { order := [0] } 0 job job'
    (by decide) (by decide) here back
  have before : ((Machine.run step (Gwd.start ⟨4, 4, 4, 4⟩) rescheduledRun).jobs 0).map
      (·.restarted) = some 1 := by decide
  have after : (((Machine.run step (Gwd.start ⟨4, 4, 4, 4⟩) rescheduledRun).restart
        { order := [0] }).jobs 0).map (·.restarted) = some 0 := by decide
  rw [here, Option.map_some, Option.some.injEq] at before
  rw [back, Option.map_some, Option.some.injEq] at after
  rw [before, after] at same
  cases same

end Gwd

end GridWay
