import GridWay.Gwd.Blind
import GridWay.Lib.Blind

/-!
# Late answers of the scheduler

The scheduler answers that it cannot place a job when the job may have gone on already.
`gw_dm_uncheck_job` then writes into the newest record of the job, in whatever state the job is.

* `Gwd.hush`: the daemon without the reschedule flags and without what it told the scheduler.
* `Gwd.step_blind`: no step looks at these.
* `Gwd.late_failure_iff`: the late answers that change nothing.
-/

namespace GridWay

@[simp] lemma Job.flag_flag (b b' : Bool) (job : Job) : (job.flag b).flag b' = job.flag b' := rfl

namespace Gwd

/-- The jobs without their flags. -/
def hushJobs (jobs : JobId → Option Job) : JobId → Option Job :=
  fun i => (jobs i).map (Job.flag false)

@[simp] lemma hushJobs_hushJobs (jobs : JobId → Option Job) :
    hushJobs (hushJobs jobs) = hushJobs jobs := by
  funext i
  unfold hushJobs
  cases jobs i <;> rfl

@[simp] lemma hushJobs_update (jobs : JobId → Option Job) (j : JobId) (job : Option Job) :
    hushJobs (Function.update jobs j job) =
      Function.update (hushJobs jobs) j (job.map (Job.flag false)) := by
  funext i
  unfold hushJobs
  by_cases here : i = j
  · subst here
    rw [Function.update_self, Function.update_self]
  · rw [Function.update_of_ne here, Function.update_of_ne here]

/-- The daemon without the reschedule flags and without what it told the scheduler. -/
def hush (s : Gwd) : Gwd := { s with jobs := hushJobs s.jobs, toSched := [] }

lemma hush_idem (s : Gwd) : s.hush.hush = s.hush := by
  simp [hush]

section Calls

variable {w : World} {j : JobId}

/-- A change of the other fields, with messages to the scheduler. -/
lemma hostOp_blind (h : HostId) (op : HostOp) : Blind hush fun s => s.hostOp h op := by
  intro s
  have hosts : s.hush.hosts = s.hosts := rfl
  dsimp only
  unfold hostOp
  rw [hosts]
  cases s.hosts h with
  | none => simp [hush]
  | some host => simp [hush]

lemma userOp_blind (u : Option UserId) (f : User → User) : Blind hush fun s => s.userOp u f := by
  intro s
  cases u with
  | none => exact (hush_idem s).symm
  | some uid =>
    have users : s.hush.users = s.users := rfl
    dsimp only
    unfold userOp
    dsimp only
    rw [users]
    cases s.users uid with
    | none => exact (hush_idem s).symm
    | some user => simp [hush]

lemma onDir_blind (i : JobId) (f : JobDir → JobDir) : Blind hush fun s => s.onDir i f := by
  intro s
  have dirs : s.hush.dirs = s.dirs := rfl
  dsimp only
  unfold onDir
  rw [dirs]
  cases s.dirs i with
  | none => exact (hush_idem s).symm
  | some d => simp [hush]

lemma stateLine_blind (i : JobId) (st : JobState) : Blind hush fun s => s.stateLine w i st := by
  unfold stateLine
  split
  · exact onDir_blind i _
  · exact Blind.id hush_idem

lemma put_blind (i : JobId) (job : Option Job) :
    Blind hush fun s => { s with jobs := Function.update s.jobs i job } := by
  intro s
  simp [hush]

/-- The jobs that are stored differ in the flag. -/
lemma hush_put {s s' : Gwd} (alike : s.hush = s'.hush) {job job' : Option Job}
    (same : job.map (Job.flag false) = job'.map (Job.flag false)) (i : JobId) :
    ({ s with jobs := Function.update s.jobs i job } : Gwd).hush =
      ({ s' with jobs := Function.update s'.jobs i job' } : Gwd).hush := by
  refine ((put_blind i job).congr alike).trans ?_
  simp [hush, same]

lemma crash_blind : Blind hush fun s => { s with crashed := true } := by
  intro s
  simp [hush]

/-- What is told to the scheduler is not seen. -/
lemma hush_told (s : Gwd) (ms : List SchedMsg) :
    ({ s with toSched := ms } : Gwd).hush = s.hush := rfl

lemma jobPoolFree_blind (i : JobId) : Blind hush fun s => s.jobPoolFree i := by
  intro s
  have jobs : s.hush.jobs i = (s.jobs i).map (Job.flag false) := rfl
  dsimp only
  unfold jobPoolFree
  rw [jobs]
  cases s.jobs i with
  | none => simp [hush]
  | some job =>
    have rest : Blind hush fun s =>
        { s with
          jobs := Function.update s.jobs i none
          deps := Function.update s.deps i none } := by
      intro s
      simp [hush]
    have counted : Blind hush fun s => s.decJobs job.userId := userOp_blind _ _
    refine rest.congr (counted.congr ?_)
    simp [hush]

lemma depCheckOne_blind (code : Int) (i : JobId) :
    Blind hush fun s => depCheckOne w j code s i := by
  intro s
  have deps : s.hush.deps = s.deps := rfl
  have jobs : s.hush.jobs i = (s.jobs i).map (Job.flag false) := rfl
  dsimp only
  unfold depCheckOne
  rw [deps, jobs]
  cases s.deps i with
  | none => exact (hush_idem s).symm
  | some ds =>
    cases s.jobs i with
    | none => simp [hush]
    | some job =>
      have state : (job.flag false).jobState = job.jobState := rfl
      have type : (job.flag false).typeDep = job.typeDep := rfl
      dsimp only [Option.map_some]
      rw [state, type]
      split
      · split
        · rw [hush_told, hush_told]
          apply (stateLine_blind i .pending).congr
          simp [hush]
          rfl
        · simp [hush]
      · exact (hush_idem s).symm

lemma depCheck_blind (code : Int) : Blind hush fun s => s.depCheck w j code := by
  intro s
  exact Blind.foldl hush_idem (depCheckOne_blind (w := w) (j := j) code)
    (List.range s.conf.numberOfJobs) s

lemma delTask_blind (array : Option Nat) (task : Nat) :
    Blind hush fun s => s.delTask array task := by
  intro s
  cases array with
  | none => exact (hush_idem s).symm
  | some aid =>
    have arrays : s.hush.arrays = s.arrays := rfl
    dsimp only
    unfold delTask
    dsimp only
    rw [arrays]
    cases s.arrays aid with
    | none => exact (hush_idem s).symm
    | some a => simp [hush]

lemma call_blind (c : Call) : Blind hush fun s => s.call w j c := by
  cases c
  case host h op => exact hostOp_blind h op
  case incRunning u jobs => exact userOp_blind u _
  case decRunning u => exact userOp_blind u _
  case stateLine st => exact stateLine_blind j st
  case historyLine line => exact onDir_blind j _
  case contact text => exact onDir_blind j _
  case unlinkConf => exact onDir_blind j _
  case free => exact jobPoolFree_blind j
  case delTask array task => exact delTask_blind array task
  case depCheck code => exact depCheck_blind code
  all_goals
    intro s
    simp [call, hush]

/-- The calls of a reply, without those to the scheduler. -/
lemma calls_hush (cs : List Call) {s s' : Gwd} (alike : s.hush = s'.hush) :
    (cs.foldl (call w j) s).hush = ((cs.filter fun c => !c.told).foldl (call w j) s').hush := by
  induction cs generalizing s s' with
  | nil => exact alike
  | cons c cs ih =>
    rw [List.foldl_cons]
    cases c
    case sched m => exact ih alike
    all_goals exact ih ((call_blind _).congr alike)

/-- Replies that differ in the flag and in the messages to the scheduler. -/
lemma reply_hush {r r' : Reply} (same : r.hush = r'.hush) {s s' : Gwd} (alike : s.hush = s'.hush) :
    (reply w j r s).hush = (reply w j r' s').hush := by
  obtain ⟨job, calls⟩ := Reply.mk.inj same
  unfold reply
  have same : (some r.job).map (Job.flag false) = (some r'.job).map (Job.flag false) :=
    congrArg some job
  have stored := hush_put alike same j
  rw [calls_hush r.calls stored, calls, ← calls_hush r'.calls rfl]

/-- A turn of a job. -/
lemma onJob_blind (t : Turn) : Blind hush fun s => s.onJob w j t.handler := by
  intro s
  have jobs : s.hush.jobs j = (s.jobs j).map (Job.flag false) := rfl
  have world : s.hush.world w = s.world w := rfl
  dsimp only
  unfold onJob
  rw [jobs, world]
  cases s.jobs j with
  | none => exact (hush_idem s).symm
  | some job =>
    exact reply_hush (t.handler_hushes false (s.world w) job).symm (hush_idem s).symm

end Calls

section Submit

variable {w : SubmitWorld} (msg : SubmitMsg)

lemma userAllocate_with (name proxyPath : String) :
    Blind.With hush fun s => s.userAllocate w name proxyPath := by
  intro s
  have count : s.hush.userCount = s.userCount := rfl
  have conf : s.hush.conf = s.conf := rfl
  have free : s.hush.freeUser = s.freeUser := rfl
  dsimp only
  unfold userAllocate
  dsimp only
  rw [count, conf, free]
  split
  · exact ⟨(hush_idem s).symm, rfl⟩
  · split
    · exact ⟨by simp [hush], rfl⟩
    · split
      · exact ⟨by simp [hush], rfl⟩
      · exact ⟨(hush_idem s).symm, rfl⟩

lemma submitUser_with : Blind.With hush fun s => s.submitUser w msg := by
  intro s
  have exist : s.hush.userExists msg.owner msg.proxyPath =
      s.userExists msg.owner msg.proxyPath := rfl
  obtain ⟨left, result⟩ := userAllocate_with (w := w) msg.owner msg.proxyPath s
  dsimp only at left result ⊢
  unfold submitUser
  rw [exist]
  split
  · exact ⟨(hush_idem s).symm, rfl⟩
  · exact ⟨left, congrArg (Option.map (·, true)) result⟩

lemma freeJob_hush (s : Gwd) (tries : Nat) (next : JobId) :
    s.hush.freeJob tries next = s.freeJob tries next := by
  induction tries generalizing next with
  | zero => rfl
  | succ tries ih =>
    have here : (s.hush.jobs next).isNone = (s.jobs next).isNone := Option.isNone_map
    rw [freeJob, freeJob, here, ih]

lemma jobPoolAllocate_with (w : World) : Blind.With hush fun s => s.jobPoolAllocate w := by
  intro s
  have conf : s.hush.conf = s.conf := rfl
  have next : s.hush.nextJobId = s.nextJobId := rfl
  dsimp only
  unfold jobPoolAllocate
  rw [conf, next, freeJob_hush]
  split
  · exact ⟨(hush_idem s).symm, rfl⟩
  · split
    · exact ⟨by simp [hush], rfl⟩
    · exact ⟨by simp [hush], rfl⟩

/-- The flag is handed on when a job is filled in. -/
lemma jobFill_flag (s : Gwd) (b : Bool) (job : Job) : s.jobFill w msg (job.flag b) =
    ((s.jobFill w msg job).1, (s.jobFill w msg job).2.1.flag b, (s.jobFill w msg job).2.2) := by
  have id : (job.flag b).id = job.id := rfl
  unfold jobFill
  rw [id]
  split
  all_goals rfl

lemma jobFill_with (job : Job) : Blind.With hush fun s => s.jobFill w msg job := by
  intro s
  dsimp only
  unfold jobFill
  split
  · exact ⟨(hush_idem s).symm, rfl⟩
  · exact ⟨by simp [hush], rfl⟩
  · exact ⟨by simp [hush], rfl⟩

lemma depSet_blind (j : JobId) : Blind hush fun s => s.depSet msg j := by
  intro s
  dsimp only
  unfold depSet
  split
  · exact (hush_idem s).symm
  · simp [hush]

/-- The jobs of daemons that look alike differ in the flag. -/
lemma jobs_alike {s s' : Gwd} (alike : s.hush = s'.hush) (j : JobId) :
    (s.jobs j = none ∧ s'.jobs j = none) ∨
      ∃ job b, s.jobs j = some job ∧ s'.jobs j = some (job.flag b) := by
  have same : (s.jobs j).map (Job.flag false) = (s'.jobs j).map (Job.flag false) :=
    congrFun (congrArg Gwd.jobs alike) j
  cases here : s.jobs j with
  | none =>
    rw [here, Option.map_none, eq_comm, Option.map_eq_none_iff] at same
    exact .inl ⟨rfl, same⟩
  | some job =>
    rw [here, Option.map_some, eq_comm, Option.map_eq_some_iff] at same
    obtain ⟨job', there, flags⟩ := same
    have restored : (job'.flag false).flag job'.reschedule =
        (job.flag false).flag job'.reschedule := by rw [flags]
    exact .inr ⟨job, job'.reschedule, rfl, there.trans (congrArg some restored)⟩

/-- A job that was filled in is stored and announced. -/
def announce (w : SubmitWorld) (msg : SubmitMsg) (uid : UserId) (useradd : Bool) (j : JobId)
    (job : Job) (s : Gwd) : Gwd :=
  let s := { s with jobs := Function.update s.jobs j (some job) }
  let s := s.stateLine w.world j job.jobState
  let s := s.depSet msg j
  if useradd then s else s.incJobs (some uid) 1

lemma announce_blind (uid : UserId) (useradd : Bool) (j : JobId) (job : Job) :
    Blind hush (announce w msg uid useradd j job) := by
  have stored := ((put_blind j (some job)).comp
    (stateLine_blind (w := w.world) j job.jobState)).comp (depSet_blind msg j)
  intro s
  unfold announce
  split
  · exact stored s
  · exact stored.comp (userOp_blind _ _) s

lemma announce_flag (uid : UserId) (useradd : Bool) (j : JobId) (job : Job) (b : Bool) (s : Gwd) :
    (announce w msg uid useradd j (job.flag b) s).hush =
      (announce w msg uid useradd j job s).hush := by
  have stored := hush_put (s := s) rfl (show (some (job.flag b)).map (Job.flag false) =
    (some job).map (Job.flag false) from rfl) j
  have rest := (stateLine_blind (w := w.world) j job.jobState).comp (depSet_blind msg j)
  unfold announce
  split
  · exact rest.congr stored
  · exact (rest.comp (userOp_blind _ _)).congr stored

lemma allocateJob_blind (uid : UserId) (useradd : Bool) :
    Blind hush fun s => s.allocateJob w msg uid useradd := by
  intro s
  obtain ⟨left, result⟩ := jobPoolAllocate_with w.world s
  dsimp only at left result ⊢
  unfold allocateJob
  generalize s.jobPoolAllocate w.world = p at *
  generalize s.hush.jobPoolAllocate w.world = p' at *
  obtain ⟨s₁, o⟩ := p
  obtain ⟨s₂, o'⟩ := p'
  dsimp only at left result
  subst result
  cases o with
  | none => exact left
  | some j =>
    dsimp only
    rcases jobs_alike left j with ⟨none₁, none₂⟩ | ⟨job, b, some₁, some₂⟩
    · rw [none₁, none₂]
      exact left
    · rw [some₁, some₂]
      dsimp only
      rw [jobFill_flag]
      obtain ⟨filled, same⟩ := (jobFill_with (w := w) msg job).congr left
      generalize s₁.jobFill w msg job = q at *
      generalize s₂.jobFill w msg job = q' at *
      obtain ⟨t₁, job₁, ok⟩ := q
      obtain ⟨t₂, job₂, ok'⟩ := q'
      dsimp only at filled same ⊢
      cases same
      cases ok with
      | false =>
        have stored : (some job₁).map (Job.flag false) =
          (some (job₁.flag b)).map (Job.flag false) := rfl
        exact (jobPoolFree_blind j).congr (hush_put filled stored j)
      | true =>
        have announced := ((announce_blind (w := w) msg uid useradd j
          (initialise msg uid job₁)).congr filled).trans
            (announce_flag msg uid useradd j (initialise msg uid job₁) b t₂).symm
        dsimp only
        split
        · exact announced
        · rw [hush_told, hush_told]
          exact announced

lemma freeArray_hush (s : Gwd) (tries next : Nat) :
    s.hush.freeArray tries next = s.freeArray tries next := by
  induction tries generalizing next with
  | zero => rfl
  | succ tries ih =>
    have here : s.hush.arrays = s.arrays := rfl
    rw [freeArray, freeArray, here, ih]

lemma allocateTasks_alike (w : World) (aid total n task : Nat) {s s' : Gwd}
    (alike : s.hush = s'.hush) :
    (allocateTasks w aid total n task s).1.hush = (allocateTasks w aid total n task s').1.hush ∧
      (allocateTasks w aid total n task s).2 = (allocateTasks w aid total n task s').2 := by
  induction n generalizing task s s' with
  | zero => exact ⟨alike, rfl⟩
  | succ n ih =>
    obtain ⟨left, result⟩ := (jobPoolAllocate_with w).congr alike
    unfold allocateTasks
    generalize s.jobPoolAllocate w = p at *
    generalize s'.jobPoolAllocate w = p' at *
    obtain ⟨s₁, o⟩ := p
    obtain ⟨s₂, o'⟩ := p'
    dsimp only at left result
    subst result
    cases o with
    | none => exact ⟨crash_blind.congr left, rfl⟩
    | some j =>
      have tagged : ((s₁.jobs j).map fun job =>
            { job with taskId := task, arrayId := some aid, totalTasks := total }).map
              (Job.flag false) =
          ((s₂.jobs j).map fun job =>
            { job with taskId := task, arrayId := some aid, totalTasks := total }).map
              (Job.flag false) := by
        rcases jobs_alike left j with ⟨none₁, none₂⟩ | ⟨job, b, some₁, some₂⟩
        · rw [none₁, none₂]
        · rw [some₁, some₂]
          rfl
      obtain ⟨after, ids⟩ := ih (task + 1) (hush_put left tagged j)
      exact ⟨after, congrArg (j :: ·) ids⟩

lemma arrayAllocate_with (tasks : Nat) : Blind.With hush fun s => s.arrayAllocate w tasks := by
  intro s
  have conf : s.hush.conf = s.conf := rfl
  have count : s.hush.jobCount = s.jobCount := rfl
  have next : s.hush.nextArrayId = s.nextArrayId := rfl
  dsimp only
  unfold arrayAllocate
  rw [conf, count, next, freeArray_hush]
  split
  · exact ⟨(hush_idem s).symm, rfl⟩
  · split
    · exact ⟨(hush_idem s).symm, rfl⟩
    · split
      · exact ⟨crash_blind s, rfl⟩
      · rename_i aid _ _
        split
        · have started : ({ s with nextArrayId := aid + 1 } : Gwd).hush =
              ({ s.hush with nextArrayId := aid + 1 } : Gwd).hush := by simp [hush]
          obtain ⟨left, ids⟩ := allocateTasks_alike w.world aid tasks tasks 0 started
          dsimp only
          rw [ids]
          have entered (a : JobArray) : Blind hush fun s =>
              { s with arrays := Function.update s.arrays aid (some a) } := by
            intro s
            simp [hush]
          exact ⟨(entered _).congr left, rfl⟩
        · exact ⟨by simp [hush], rfl⟩

lemma fillTask_blind (aid : Nat) (uid : UserId) (j : JobId) :
    Blind hush fun s => fillTask w msg aid uid s j := by
  intro s
  dsimp only
  unfold fillTask
  rcases jobs_alike (hush_idem s).symm j with ⟨none₁, none₂⟩ | ⟨job, b, some₁, some₂⟩
  · rw [none₁, none₂]
    exact crash_blind s
  · rw [some₁, some₂]
    dsimp only
    rw [jobFill_flag]
    obtain ⟨filled, same⟩ := (jobFill_with (w := w) msg job).congr (hush_idem s).symm
    generalize s.jobFill w msg job = q at *
    generalize s.hush.jobFill w msg job = q' at *
    obtain ⟨t₁, job₁, ok⟩ := q
    obtain ⟨t₂, job₂, ok'⟩ := q'
    dsimp only at filled same ⊢
    cases same
    have stored : (some { initialise msg uid job₁ with pstart := msg.pstart, pinc := msg.pinc }).map
          (Job.flag false) =
        (some { initialise msg uid (job₁.flag b) with pstart := msg.pstart, pinc := msg.pinc }).map
          (Job.flag false) := rfl
    apply (depSet_blind msg j).congr
    split
    · exact (stateLine_blind j _).congr (hush_put filled stored j)
    · rw [hush_told, hush_told]
      exact (stateLine_blind j _).congr (hush_put filled stored j)

lemma allocateArray_blind (tasks : Nat) (uid : UserId) (useradd : Bool) :
    Blind hush fun s => s.allocateArray w msg tasks uid useradd := by
  intro s
  obtain ⟨left, result⟩ := arrayAllocate_with (w := w) tasks s
  dsimp only at left result ⊢
  unfold allocateArray
  generalize s.arrayAllocate w tasks = p at *
  generalize s.hush.arrayAllocate w tasks = p' at *
  obtain ⟨s₁, o⟩ := p
  obtain ⟨s₂, o'⟩ := p'
  dsimp only at left result
  subst result
  cases o with
  | none => exact left
  | some entry =>
    obtain ⟨aid, js⟩ := entry
    have filled := Blind.foldl hush_idem (fillTask_blind (w := w) msg aid uid) js
    exact (filled.comp (userOp_blind _ _)).congr left

lemma allocate_blind : Blind hush fun s => s.allocate w msg := by
  intro s
  obtain ⟨left, result⟩ := submitUser_with (w := w) msg s
  dsimp only at left result ⊢
  unfold allocate
  generalize s.submitUser w msg = p at *
  generalize s.hush.submitUser w msg = p' at *
  obtain ⟨s₁, o⟩ := p
  obtain ⟨s₂, o'⟩ := p'
  dsimp only at left result
  subst result
  cases o with
  | none => exact left
  | some entry =>
    obtain ⟨uid, useradd⟩ := entry
    dsimp only
    split
    · exact (allocateJob_blind msg uid useradd).congr left
    · exact (allocateArray_blind msg _ uid useradd).congr left

end Submit

section Step

/-- Changes of the other fields. -/
lemma queues_blind (f : List DmItem → List DmItem)
    (g : List (EmAction × JobId) → List (EmAction × JobId))
    (h : List (TmAction × JobId) → List (TmAction × JobId)) :
    Blind hush fun s =>
      { s with dmQueue := f s.dmQueue, emQueue := g s.emQueue, tmQueue := h s.tmQueue } := by
  intro s
  simp [hush]

lemma dmNext_blind (w : SubmitWorld) : Blind hush fun s => s.dmNext w := by
  intro s
  have queue : s.hush.dmQueue = s.dmQueue := rfl
  dsimp only
  unfold dmNext
  rw [queue]
  split
  · exact (hush_idem s).symm
  · rename_i msg rest _
    exact (allocate_blind msg).congr (queues_blind (fun _ => rest) id id s)
  · rename_i a j rest _
    rcases jobs_alike (hush_idem s).symm j with ⟨none₁, none₂⟩ | ⟨job, b, some₁, some₂⟩
    · rw [none₁, none₂]
      simp [hush]
    · rw [some₁, some₂]
      exact (onJob_blind (.dm a)).congr (queues_blind (fun _ => rest) id id s)

lemma emNext_blind (w : World) : Blind hush fun s => s.emNext w := by
  intro s
  have queue : s.hush.emQueue = s.emQueue := rfl
  dsimp only
  unfold emNext
  rw [queue]
  split
  · exact (hush_idem s).symm
  · rename_i a j rest _
    exact (onJob_blind (.em a)).congr (queues_blind id (fun _ => rest) id s)

lemma tmNext_blind (w : World) : Blind hush fun s => s.tmNext w := by
  intro s
  have queue : s.hush.tmQueue = s.tmQueue := rfl
  dsimp only
  unfold tmNext
  rw [queue]
  split
  · exact (hush_idem s).symm
  · rename_i a j rest _
    exact (onJob_blind (.tm a)).congr (queues_blind id id (fun _ => rest) s)

lemma scheduleJob_blind (w : World) (j : JobId) (hid : HostId) (queue : String) (rank : Int) :
    Blind hush fun s => s.scheduleJob w j hid queue rank := by
  intro s
  have hosts : s.hush.hosts = s.hosts := rfl
  dsimp only
  unfold scheduleJob
  rw [hosts]
  split
  · exact (hush_idem s).symm
  · rename_i host _
    exact onJob_blind (.dispatch hid host queue rank) s

lemma emRecover_blind (mad : String) (j : JobId) : Blind hush fun s => s.emRecover mad j := by
  intro s
  have dirs : s.hush.dirs = s.dirs := rfl
  dsimp only
  unfold emRecover
  rw [dirs]
  rcases jobs_alike (hush_idem s).symm j with ⟨none₁, none₂⟩ | ⟨job, b, some₁, some₂⟩
  · rw [none₁, none₂]
    exact (hush_idem s).symm
  · have history : (job.flag b).history = job.history := rfl
    have state : (job.flag b).jobState = job.jobState := rfl
    rw [some₁, some₂]
    dsimp only
    rw [history, state]
    split
    · exact (hush_idem s).symm
    · split
      · split
        · simp [hush]
        · simp [hush]
      · exact (hush_idem s).symm

lemma dmRecover_blind (j : JobId) : Blind hush fun s => s.dmRecover j := by
  have same (s : Gwd) : (s.dmRecover j).hush = s.hush := by
    unfold dmRecover
    split
    · rfl
    · split
      all_goals rfl
  intro s
  dsimp only
  rw [same, same, hush_idem]

lemma checkUser_blind (u : UserId) (period : Int) : Blind hush fun s => s.checkUser period u := by
  intro s
  have users : s.hush.users = s.users := rfl
  dsimp only
  unfold checkUser
  rw [users]
  split
  · exact (hush_idem s).symm
  · split
    · split
      · simp [hush]
      · simp [hush]
    · exact (hush_idem s).symm

lemma hostAllocate_blind (hid : HostId) (host : Host) :
    Blind hush fun s => s.hostAllocate hid host := by
  intro s
  have hosts : s.hush.hosts = s.hosts := rfl
  dsimp only
  unfold hostAllocate
  rw [hosts]
  split
  · exact (hush_idem s).symm
  · simp [hush]

lemma hostUpdate_blind (hid : HostId) (info : Host) :
    Blind hush fun s => s.hostUpdate hid info := by
  intro s
  have hosts : s.hush.hosts = s.hosts := rfl
  dsimp only
  unfold hostUpdate
  rw [hosts]
  split
  · exact (hush_idem s).symm
  · simp [hush]

/-- No event makes the daemon look at the flags or at what it told the scheduler. -/
theorem step_blind (e : Event) : Blind hush fun s => s.step e := by
  have live : Blind hush fun s => s.live e := by
    cases e with
    | dm w => exact dmNext_blind w
    | em w => exact emNext_blind w
    | tm w => exact tmNext_blind w
    | request r j => exact queues_blind (· ++ [.job r.action j]) id id
    | submit msg => exact queues_blind (· ++ [.allocate msg]) id id
    | emMsg j msg w => exact onJob_blind (.emMsg msg)
    | tmMsg j msg w => exact onJob_blind (.tmMsg msg)
    | scheduleJob j hid queue rank w => exact scheduleJob_blind w j hid queue rank
    | scheduleFailed j w => exact onJob_blind .uncheck
    | checkJob j w => exact onJob_blind .check
    | emTimer j w => exact onJob_blind .emTimer
    | tmTimer j w => exact onJob_blind .tmTimer
    | tmReload j w => exact onJob_blind .tmReload
    | emReload mad j => exact emRecover_blind mad j
    | dmReload j => exact dmRecover_blind j
    | checkUser u period => exact checkUser_blind u period
    | hostAllocate hid host => exact hostAllocate_blind hid host
    | hostUpdate hid info => exact hostUpdate_blind hid info
    | scheduleEnd | schedule =>
      intro s
      simp [Gwd.live, hush]
  intro s
  have crashed : s.hush.crashed = s.crashed := rfl
  dsimp only
  unfold step
  rw [crashed]
  split
  · exact (hush_idem s).symm
  · exact live s

end Step

/-- What the transitions of a job come to: its state and its history. -/
def outcome (s : Gwd) (j : JobId) : Option (JobState × List HistoryRecord) :=
  (s.jobs j).map fun job => (job.jobState, job.history)

/-- Daemons that look alike have the same jobs. -/
lemma outcome_alike {s s' : Gwd} (alike : s.hush = s'.hush) (j : JobId) :
    s.outcome j = s'.outcome j := by
  unfold outcome
  rcases jobs_alike alike j with ⟨none₁, none₂⟩ | ⟨job, b, some₁, some₂⟩
  · rw [none₁, none₂]
  · rw [some₁, some₂]
    rfl

/-- A late answer to a job whose newest record has no reason is not seen. -/
lemma uncheck_alike {s : Gwd} {j : JobId} {w : World} {job : Job} (live : s.crashed = false)
    (here : s.jobs j = some job) (none : job.reason = .none) :
    (s.step (.scheduleFailed j w)).hush = s.hush := by
  have hushed : (Dm.uncheckJob (s.world w) job).hush = Reply.hush ⟨job, []⟩ := by
    unfold Dm.uncheckJob
    split
    · rfl
    · rename_i head past history
      split
      · have same : { head with reason := Reason.none } = head := by
          rw [Job.reason, history] at none
          rw [← none]
        rw [same, ← history]
        rfl
      · rfl
  have stored : (reply w j (Dm.uncheckJob (s.world w) job) s).hush = (reply w j ⟨job, []⟩ s).hush :=
    reply_hush hushed rfl
  have before : reply w j ⟨job, []⟩ s = s := by
    unfold reply
    rw [List.foldl_nil, ← here, Function.update_eq_self]
  rw [before] at stored
  rw [step, live]
  simp only [Gwd.live, onJob, here]
  exact stored

/-- **Late answers.** A job that the scheduler does not know any more gets the answer that it cannot
be placed. Its state and history are the same ever after as without the answer, whatever happens,
if and only if there is no reason in its newest record. -/
theorem late_failure_iff (s : Gwd) (j : JobId) (w : World) (job : Job) (live : s.crashed = false)
    (here : s.jobs j = some job) (left : known job = false) :
    (∀ evs, (Machine.run step (s.step (.scheduleFailed j w)) evs).outcome j =
        (Machine.run step s evs).outcome j) ↔ job.reason = .none := by
  constructor
  · intro same
    have now : (s.step (.scheduleFailed j w)).outcome j = s.outcome j := same []
    have away : job.jobState ≠ .pending := by
      intro pending
      rw [known, pending] at left
      cases left
    cases history : job.history with
    | nil => rw [Job.reason, history]
    | cons head past =>
      have answer : Dm.uncheckJob (s.world w) job =
          ⟨{ job with reschedule := false, history := { head with reason := .none } :: past },
            [.sched (.jobDel job.id)]⟩ := by
        rw [Dm.uncheckJob, history]
        exact if_pos away
      have after : (s.step (.scheduleFailed j w)).outcome j =
          some (job.jobState, { head with reason := .none } :: past) := by
        rw [step, live]
        simp [Gwd.live, onJob, here, answer, reply, call, outcome]
      have before : s.outcome j = some (job.jobState, head :: past) := by
        rw [outcome, here, ← history]
        rfl
      rw [after, before, Option.some.injEq, Prod.mk.injEq, List.cons.injEq] at now
      rw [Job.reason, history, ← now.2.1]
  · intro none evs
    exact outcome_alike (Blind.run step_blind (uncheck_alike live here none) evs) j

/-- A job with a wrapper script, offered to the scheduler at the user's request while it runs. -/
def offeredOne : List Event :=
  [.hostAllocate 0 { hostname := "host", emMad := "em", tmMad := "tm", imMad := "im" },
    .submit { owner := "user", template := { executable := some "exe", wrapper := some "w" } },
    .dm {}, .scheduleJob 0 0 "default" 0 {}, .dm {}, .tm {},
    .tmMsg 0 { verb := .start } {}, .tmMsg 0 { verb := .rmdir } {},
    .tmMsg 0 { verb := .mkdir } {}, .tmMsg 0 { verb := .cp 0 } {}, .tmMsg 0 { verb := .cp 1 } {},
    .tmMsg 0 { verb := .cp 2 } {}, .tmMsg 0 { verb := .finish } {}, .dm {}, .dm {}, .em {},
    .emMsg 0 { verb := .callback, result := "SUCCESS", info := "ACTIVE" } {}, .em {},
    .request .reschedule 0, .dm {}]

/-- Its execution ends and the standard output asks for another host: the job is in
`EPILOG_RESTART`. -/
def selfMigrating : List Event :=
  [.emMsg 0 { verb := .callback, result := "SUCCESS", info := "DONE" } {}, .em {}, .dm {}, .dm {},
    .tm {}, .tmMsg 0 { verb := .start } {}, .tmMsg 0 { verb := .cp 0 } {},
    .tmMsg 0 { verb := .cp 1 } {}, .tmMsg 0 { verb := .finish } {},
    .dm { world := { stdoutWrapper := .selfMigration none none } }, .dm {}]

/-- The restart ends. -/
def restarted : List Event :=
  [.tm {}, .tmMsg 0 { verb := .start } {}, .tmMsg 0 { verb := .rmdir } {},
    .tmMsg 0 { verb := .finish } {}, .dm {}, .dm {}]

/-- The answer to a job that is in no queue of the scheduler and has no reason. -/
theorem late_failure_running :
    ∃ job, (Machine.run step (Gwd.start ⟨4, 4, 4, 4⟩) (offeredOne.take 18)).jobs 0 = some job ∧
      ((∀ evs,
        (Machine.run step
          ((Machine.run step (Gwd.start ⟨4, 4, 4, 4⟩) (offeredOne.take 18)).step
            (.scheduleFailed 0 {})) evs).outcome 0 =
        (Machine.run step
          (Machine.run step (Gwd.start ⟨4, 4, 4, 4⟩) (offeredOne.take 18)) evs).outcome 0) ↔
        job.reason = .none) := by
  have left : ((Machine.run step (Gwd.start ⟨4, 4, 4, 4⟩) (offeredOne.take 18)).jobs 0).map known =
      some false := by
    decide
  obtain ⟨job, here, left⟩ := Option.map_eq_some_iff.1 left
  exact ⟨job, here, late_failure_iff _ 0 {} job (by decide) here left⟩

/-- The answer to a job that is in `EPILOG_RESTART` because it asked for another host: it ends in
`FAILED`, not in `PENDING`. -/
theorem late_failure_seen : ¬ ∀ (conf : Conf) (before after : List Event) (j : JobId) (w : World)
    (job : Job), (Machine.run step (Gwd.start conf) before).crashed = false →
      (Machine.run step (Gwd.start conf) before).jobs j = some job → known job = false →
      (Machine.run step (Gwd.start conf) (before ++ .scheduleFailed j w :: after)).outcome j =
        (Machine.run step (Gwd.start conf) (before ++ after)).outcome j := by
  intro harmless
  have left : ((Machine.run step (Gwd.start ⟨4, 4, 4, 4⟩) (offeredOne ++ selfMigrating)).jobs 0).map
      known = some false := by
    decide
  obtain ⟨job, here, left⟩ := Option.map_eq_some_iff.1 left
  have same := harmless ⟨4, 4, 4, 4⟩ (offeredOne ++ selfMigrating) restarted 0 {} job
    (by decide) here left
  have failed : ((Machine.run step (Gwd.start ⟨4, 4, 4, 4⟩) (offeredOne ++ selfMigrating ++
      .scheduleFailed 0 {} :: restarted)).outcome 0).map Prod.fst = some .failed := by
    decide
  have pending : ((Machine.run step (Gwd.start ⟨4, 4, 4, 4⟩)
      (offeredOne ++ selfMigrating ++ restarted)).outcome 0).map Prod.fst = some .pending := by
    decide
  rw [same, pending] at failed
  cases failed

end Gwd

end GridWay
