import GridWay.Gwd.Submit

/-!
# Arrays of jobs (`gw_array_pool.c` and `gw_dm_aalloc`)

The allocation of an array takes a slot of the array pool and then one job after the other. Both
searches go up from the last id and do not come back, nothing that was done is undone when a later
step fails, and `gw_dm_aalloc` does not look at what `gw_job_fill` returns.

* `Gwd.Added`, `Gwd.Submitted`: an array with all of its tasks is there.
* `Gwd.arrays_atomic_iff`: when an allocation, and a submission, leaves all or nothing.
-/

namespace GridWay.Gwd

variable {w : World} {s s' : Gwd} {n next tries : Nat} {i j : Nat}

/-- The free slots of the job pool that the searches find, in their order. -/
def freeIds (s : Gwd) : List JobId :=
  (List.range s.conf.numberOfJobs).filter fun j => decide (s.nextJobId ≤ j) && (s.jobs j).isNone

/-- The pools have no slots behind their arrays. -/
structure Within (s : Gwd) : Prop where
  jobs : ∀ j, s.conf.numberOfJobs ≤ j → s.jobs j = none
  arrays : ∀ a, s.conf.numberOfArrays ≤ a → s.arrays a = none

/-- A task of an array is written over the job that was allocated for it. -/
lemma freeIds_put {job job' : Job} {next count : Nat} :
    freeIds { s with
      jobs := Function.update s.jobs j (some job), nextJobId := next, jobCount := count } =
    freeIds { s with
      jobs := Function.update s.jobs j (some job'), nextJobId := next, jobCount := count } := by
  rw [freeIds, freeIds]
  apply List.filter_congr
  intro i _
  by_cases same : i = j
  · simp [same]
  · simp [same]

/-- The first free id, and the ones after it. -/
lemma range_filter_first {p : Nat → Bool} (inside : j < n) (here : p j = true)
    (before : ∀ k < j, p k = false) :
    (List.range n).filter p = j :: (List.range n).filter fun k => decide (j + 1 ≤ k) && p k := by
  obtain ⟨m, rfl⟩ := Nat.exists_eq_add_of_le (Nat.succ_le_of_lt inside)
  have low : (List.range j).filter p = [] :=
    List.filter_eq_nil_iff.2 fun k mem => by simp [before k (List.mem_range.1 mem)]
  have below : (List.range (j + 1)).filter (fun k => decide (j + 1 ≤ k) && p k) = [] := by
    apply List.filter_eq_nil_iff.2
    intro k mem
    have := List.mem_range.1 mem
    simp
    omega
  rw [Nat.succ_eq_add_one, List.range_add, List.filter_append, List.filter_append, below,
    List.nil_append, List.range_succ, List.filter_append, low, List.nil_append]
  have one : [j].filter p = [j] := by simp [here]
  rw [one, List.singleton_append]
  congr 1
  apply List.filter_congr
  intro k mem
  obtain ⟨d, -, rfl⟩ := List.mem_map.1 mem
  simp

/-- A search finds the first free slot. -/
lemma freeJob_first (tries : Nat)
    (free : ∃ k : Nat, next ≤ k ∧ k < next + tries ∧ s.jobs k = none) :
    ∃ k : Nat, s.freeJob tries next = some k ∧ next ≤ k ∧ s.jobs k = none ∧
      ∀ i : Nat, next ≤ i → s.jobs i = none → k ≤ i := by
  induction tries generalizing next with
  | zero =>
    obtain ⟨k, low, high, -⟩ := free
    omega
  | succ tries ih =>
    rw [freeJob]
    cases here : s.jobs next with
    | none => exact ⟨next, rfl, Nat.le_refl _, here, fun i low _ => low⟩
    | some job =>
      rw [Option.isNone_some, if_neg Bool.false_ne_true]
      obtain ⟨k, low, high, empty⟩ := free
      have later : next ≠ k := by
        rintro rfl
        rw [here] at empty
        cases empty
      obtain ⟨k', found, above, empty', first⟩ := @ih (next + 1) ⟨k, by omega, by omega, empty⟩
      refine ⟨k', found, by omega, empty', fun i low none_i => first i ?_ none_i⟩
      have : next ≠ i := by
        rintro rfl
        rw [here] at none_i
        cases none_i
      omega

/-- A job is allocated at the first of the free ids. -/
lemma jobPoolAllocate_first {js : List JobId} (ids : s.freeIds = j :: js) :
    s.jobPoolAllocate w =
      ({ s with
          jobs := Function.update s.jobs j (some (jobInit w j))
          nextJobId := j + 1
          jobCount := s.jobCount + 1 }, some j) ∧
    j < s.conf.numberOfJobs ∧ s.jobs j = none ∧
    freeIds { s with
      jobs := Function.update s.jobs j (some (jobInit w j))
      nextJobId := j + 1
      jobCount := s.jobCount + 1 } = js := by
  have mem : j ∈ s.freeIds := ids ▸ List.mem_cons_self
  obtain ⟨inside, here⟩ := List.mem_filter.1 mem
  obtain ⟨low, empty⟩ := Bool.and_eq_true_iff.1 here
  have low : s.nextJobId ≤ j := of_decide_eq_true low
  have empty : s.jobs j = none := Option.isNone_iff_eq_none.1 empty
  have inside : j < s.conf.numberOfJobs := List.mem_range.1 inside
  obtain ⟨k, found, above, empty', first⟩ :=
    freeJob_first (s := s) s.conf.numberOfJobs ⟨j, low, by omega, empty⟩
  have below := first j low empty
  have split := range_filter_first (n := s.conf.numberOfJobs) (j := k)
    (p := fun j => decide (s.nextJobId ≤ j) && (s.jobs j).isNone) (by omega)
    (by simp [above, empty']) (by
      intro i before
      by_contra there
      obtain ⟨low', none_i⟩ := Bool.and_eq_true_iff.1 (eq_true_of_ne_false there)
      have := first i (of_decide_eq_true low') (Option.isNone_iff_eq_none.1 none_i)
      omega)
  rw [freeIds, split] at ids
  obtain ⟨rfl, rest⟩ := List.cons.inj ids
  refine ⟨?_, inside, empty, ?_⟩
  · rw [jobPoolAllocate, found]
    simp only [Nat.not_le.2 inside, if_false]
  · rw [← rest, freeIds]
    apply List.filter_congr
    intro i _
    by_cases later : k + 1 ≤ i
    · have other : i ≠ k := (Nat.ne_of_lt (Nat.lt_of_succ_le later)).symm
      have low' : s.nextJobId ≤ i := Nat.le_trans above (Nat.le_of_succ_le later)
      simp [later, other, low']
    · simp [later]

/-- Without a free id the daemon allocates no job. -/
lemma jobPoolAllocate_full (ids : s.freeIds = []) :
    (s.jobPoolAllocate w).2 = none := by
  obtain ⟨-, eq⟩ | eq | ⟨j, -, above, below, empty, -⟩ := jobPoolAllocate_cases w s
  · rw [eq]
  · rw [eq]
  · have mem : j ∈ s.freeIds := List.mem_filter.2 ⟨List.mem_range.2 below, by simp [above, empty]⟩
    rw [ids] at mem
    cases mem

/-- The tasks `js` of an array, from number `task` on, are added to the jobs. -/
structure Tasks (w : World) (aid total task : Nat) (js : List JobId) (s s' : Gwd) : Prop where
  jobs : ∀ i j, js[i]? = some j → j < s.conf.numberOfJobs ∧ s.jobs j = none ∧ s'.jobs j =
    some { jobInit w j with taskId := task + i, arrayId := some aid, totalTasks := total }
  others : ∀ j ∉ js, s'.jobs j = s.jobs j
  distinct : js.Nodup
  rest : ∃ jobs nextJobId jobCount, s' = { s with jobs, nextJobId, jobCount }

/-- A task is added, and then the rest of them. -/
lemma Tasks.cons {aid total task : Nat} {js : List JobId} {s₁ : Gwd}
    (first : s₁ = { s with
      jobs := Function.update s.jobs j
        (some { jobInit w j with taskId := task, arrayId := some aid, totalTasks := total })
      nextJobId := s₁.nextJobId
      jobCount := s₁.jobCount })
    (inside : j < s.conf.numberOfJobs) (empty : s.jobs j = none) (fresh : j ∉ js)
    (tasks : Tasks w aid total (task + 1) js s₁ s') : Tasks w aid total task (j :: js) s s' := by
  have conf : s₁.conf = s.conf := by rw [first]
  have jobs : s₁.jobs = Function.update s.jobs j
      (some { jobInit w j with taskId := task, arrayId := some aid, totalTasks := total }) := by
    rw [first]
  refine ⟨?_, ?_, List.nodup_cons.2 ⟨fresh, tasks.distinct⟩, ?_⟩
  · intro i k here
    cases i with
    | zero =>
      obtain rfl := Option.some.inj here
      refine ⟨inside, empty, ?_⟩
      rw [tasks.others j fresh, jobs, Function.update_self]
      rfl
    | succ i =>
      obtain ⟨below, none, task'⟩ := tasks.jobs i k here
      have other : k ≠ j := by
        rintro rfl
        exact fresh (List.mem_of_getElem? here)
      rw [jobs, Function.update_of_ne other] at none
      refine ⟨conf ▸ below, none, ?_⟩
      rw [task', Nat.add_right_comm]
      rfl
  · intro k out
    obtain ⟨other, out⟩ := not_or.1 (List.mem_cons.not.1 out)
    rw [tasks.others k out, jobs, Function.update_of_ne other]
  · obtain ⟨jobs', nextJobId, jobCount, rest⟩ := tasks.rest
    exact ⟨jobs', nextJobId, jobCount, by rw [rest, first]⟩

/-- The free ids are distinct. -/
lemma freeIds_nodup (s : Gwd) : s.freeIds.Nodup := List.nodup_range.filter _

/-- The tasks take the first free ids. -/
lemma allocateTasks_ids (w : World) (aid total task : Nat) (room : n ≤ s.freeIds.length) :
    (allocateTasks w aid total n task s).2 = s.freeIds.take n ∧
      Tasks w aid total task (s.freeIds.take n) s (allocateTasks w aid total n task s).1 := by
  induction n generalizing s task with
  | zero =>
    exact ⟨rfl, by simp, fun _ _ => rfl, List.nodup_nil, _, _, _, rfl⟩
  | succ n ih =>
    obtain ⟨j, js, ids⟩ := List.exists_cons_of_length_pos (Nat.lt_of_lt_of_le (Nat.succ_pos n) room)
    obtain ⟨eq, inside, empty, rest⟩ := jobPoolAllocate_first (w := w) ids
    have nodup := ids ▸ s.freeIds_nodup
    rw [ids] at room
    rw [allocateTasks, eq, ids, List.take_succ_cons]
    simp only [Function.update_self, Option.map_some, Function.update_idem]
    generalize next : { s with
      jobs := Function.update s.jobs j
        (some { jobInit w j with taskId := task, arrayId := some aid, totalTasks := total })
      nextJobId := j + 1
      jobCount := s.jobCount + 1 } = s₁
    have ids' : s₁.freeIds = js := by rw [← rest, ← next, freeIds_put]
    obtain ⟨taken, tasks⟩ :=
      ih (s := s₁) (task + 1) (by rw [ids']; exact Nat.le_of_succ_le_succ room)
    rw [ids'] at taken tasks
    have fresh : j ∉ js.take n := fun mem =>
      (List.nodup_cons.1 nodup).1 (List.mem_of_mem_take mem)
    exact ⟨by rw [taken], tasks.cons (by rw [← next]) inside empty fresh⟩

/-- When the free ids do not suffice, a `-1` is used as an index. -/
lemma allocateTasks_short (w : World) (aid total task : Nat) (within : Within s)
    (short : s.freeIds.length < n) : (allocateTasks w aid total n task s).1.crashed = true := by
  induction n generalizing s task with
  | zero => exact absurd short (Nat.not_lt_zero _)
  | succ n ih =>
    rw [allocateTasks]
    cases ids : s.freeIds with
    | nil =>
      have failed := jobPoolAllocate_full (w := w) ids
      rcases eq : s.jobPoolAllocate w with ⟨s₁, j?⟩
      rw [eq] at failed
      obtain rfl : j? = none := failed
      rfl
    | cons j js =>
      obtain ⟨eq, inside, empty, rest⟩ := jobPoolAllocate_first (w := w) ids
      rw [eq]
      simp only [Function.update_self, Option.map_some, Function.update_idem]
      apply ih
      · refine ⟨fun i out => ?_, within.arrays⟩
        have other : i ≠ j := (Nat.ne_of_lt (Nat.lt_of_lt_of_le inside out)).symm
        simpa [other] using within.jobs i out
      · refine Nat.lt_of_le_of_lt (Nat.le_of_eq ?_)
          (Nat.lt_of_succ_lt_succ (show js.length + 1 < n + 1 by simpa [ids] using short))
        rw [← rest, freeIds_put]

/-- The search for an array fails when the slots that it reads are taken. -/
lemma freeArray_none :
    s.freeArray tries next = none ↔ ∀ a, next ≤ a → a < next + tries → s.arrays a ≠ none := by
  induction tries generalizing next with
  | zero => exact ⟨fun _ a low high => absurd high (Nat.not_lt.2 low), fun _ => rfl⟩
  | succ tries ih =>
    rw [freeArray]
    cases here : s.arrays next with
    | none =>
      simp only [Option.isNone_none, if_true, reduceCtorEq, false_iff]
      intro taken
      exact taken next (Nat.le_refl _) (Nat.lt_add_of_pos_right (Nat.succ_pos _)) here
    | some array =>
      rw [Option.isNone_some, if_neg Bool.false_ne_true, ih]
      refine ⟨fun taken a low high empty => ?_, fun taken a low high => taken a ?_ ?_⟩
      · have later : next ≠ a := by
          rintro rfl
          rw [here] at empty
          cases empty
        exact taken a (by omega) (by omega) empty
      · omega
      · omega

/-- The search for an array finds the first free slot. -/
lemma freeArray_some {aid : Nat} (found : s.freeArray tries next = some aid) :
    next ≤ aid ∧ s.arrays aid = none ∧ ∀ a, next ≤ a → a < aid → s.arrays a ≠ none := by
  induction tries generalizing next with
  | zero => cases found
  | succ tries ih =>
    rw [freeArray] at found
    cases here : s.arrays next with
    | none =>
      rw [here, Option.isNone_none, if_pos rfl] at found
      cases found
      exact ⟨Nat.le_refl _, here, fun a low high => absurd high (Nat.not_lt.2 low)⟩
    | some array =>
      rw [here, Option.isNone_some, if_neg Bool.false_ne_true] at found
      obtain ⟨above, empty, first⟩ := ih found
      refine ⟨Nat.le_of_succ_le above, empty, fun a low high => ?_⟩
      rcases Nat.eq_or_lt_of_le low with rfl | later
      · rw [here]
        exact Option.some_ne_none _
      · exact first a later high

/-- An array with all of its tasks is there. -/
structure Added (w : World) (tasks aid : Nat) (js : List JobId) (s s' : Gwd) : Prop where
  inside : aid < s.conf.numberOfArrays
  empty : s.arrays aid = none
  arrays : s'.arrays = Function.update s.arrays aid (some { jobIds := js.map some })
  length : js.length = tasks
  distinct : js.Nodup
  jobs : ∀ i j, js[i]? = some j → j < s.conf.numberOfJobs ∧ s.jobs j = none ∧ s'.jobs j =
    some { jobInit w j with taskId := i, arrayId := some aid, totalTasks := tasks }
  others : ∀ j ∉ js, s'.jobs j = s.jobs j
  users : s'.users = s.users
  live : s'.crashed = false

/-- The tasks of a new array are jobs of the pool. -/
lemma Added.present {tasks aid : Nat} {js : List JobId} (h : Added w tasks aid js s s') :
    ∀ j ∈ js, ∃ job, s'.jobs j = some job ∧ job.id = j := by
  intro j mem
  obtain ⟨i, here⟩ := List.mem_iff_getElem?.1 mem
  exact ⟨_, (h.jobs i j here).2.2, rfl⟩

/-- `gw_array_pool_array_allocate` leaves all or nothing. -/
def ArrayAtomic (w : SubmitWorld) (tasks : Nat) (s : Gwd) : Prop :=
  match s.arrayAllocate w tasks with
  | (s', some (aid, js)) => Added w.world tasks aid js s s'
  | (s', none) => s' = s

/-- An array is refused before anything is done. -/
def ArrayRefused (tasks : Nat) (s : Gwd) : Prop :=
  s.conf.numberOfJobs < tasks + s.jobCount ∨
    ∀ a, s.nextArrayId ≤ a → a < s.nextArrayId + s.conf.numberOfArrays → s.arrays a ≠ none

/-- There is a free slot for an array after the last one, the memory for it, and free ids after
the last one for its tasks. -/
def ArrayRoom (w : SubmitWorld) (tasks : Nat) (s : Gwd) : Prop :=
  (∃ a, s.nextArrayId ≤ a ∧ a < s.conf.numberOfArrays ∧ s.arrays a = none) ∧
    w.arrayInit = true ∧ tasks ≤ s.freeIds.length

/-- An array that is refused changes nothing. -/
lemma arrayAllocate_refused {w : SubmitWorld} {tasks : Nat} (refused : s.ArrayRefused tasks) :
    s.arrayAllocate w tasks = (s, none) := by
  unfold arrayAllocate
  by_cases full : tasks + s.jobCount > s.conf.numberOfJobs
  · rw [if_pos full]
  · rw [if_neg full, freeArray_none.2 (refused.resolve_left full)]

/-- An array for which there is room is added. -/
lemma arrayAllocate_room {w : SubmitWorld} {tasks : Nat} (live : s.crashed = false)
    (go : ¬ s.ArrayRefused tasks) (room : s.ArrayRoom w tasks) :
    ∃ s' aid, s.arrayAllocate w tasks = (s', some (aid, s.freeIds.take tasks)) ∧
      Added w.world tasks aid (s.freeIds.take tasks) s s' := by
  obtain ⟨full, taken⟩ := not_or.1 go
  obtain ⟨⟨a, low, high, empty⟩, init, ids⟩ := room
  cases found : s.freeArray s.conf.numberOfArrays s.nextArrayId with
  | none => exact absurd (freeArray_none.1 found) taken
  | some aid =>
    obtain ⟨above, free, first⟩ := freeArray_some found
    have inside : aid < s.conf.numberOfArrays := by
      by_contra outside
      exact first a low (Nat.lt_of_lt_of_le high (Nat.not_lt.1 outside)) empty
    obtain ⟨taken', added⟩ := allocateTasks_ids (s := { s with nextArrayId := aid + 1 }) w.world aid
      tasks 0 ids
    rcases run : allocateTasks w.world aid tasks tasks 0 { s with nextArrayId := aid + 1 }
      with ⟨s₁, js⟩
    rw [run] at taken' added
    obtain rfl : js = s.freeIds.take tasks := taken'
    obtain ⟨jobs, nextJobId, jobCount, rest⟩ := added.rest
    have rest : s₁ = { s with jobs, nextJobId, jobCount, nextArrayId := aid + 1 } := rest
    have others : ∀ j ∉ s.freeIds.take tasks, s₁.jobs j = s.jobs j := added.others
    refine ⟨{ s₁ with
      arrays := Function.update s₁.arrays aid
        (some { jobIds := (s.freeIds.take tasks).map some }) }, aid, ?_, inside, free, ?_, ?_,
      added.distinct, ?_, others, ?_, ?_⟩
    · rw [arrayAllocate, if_neg full, found]
      simp only [Nat.not_le.2 inside, if_false, init, if_true, run]
    · rw [rest]
    · rw [List.length_take, Nat.min_eq_left ids]
    · intro i j here
      simpa using added.jobs i j here
    · rw [rest]
    · rw [rest]
      exact live

/-- An array for which there is no room leaves a trace. -/
lemma arrayAllocate_trace {w : SubmitWorld} {tasks : Nat} (within : Within s)
    (go : ¬ s.ArrayRefused tasks) (full : ¬ s.ArrayRoom w tasks) :
    (∃ s', s.arrayAllocate w tasks = (s', none) ∧ (s'.crashed = true ∨ s'.arrays ≠ s.arrays)) ∨
    ∃ s' out, s.arrayAllocate w tasks = (s', some out) ∧ s'.crashed = true := by
  obtain ⟨many, taken⟩ := not_or.1 go
  rw [arrayAllocate, if_neg many]
  cases found : s.freeArray s.conf.numberOfArrays s.nextArrayId with
  | none => exact absurd (freeArray_none.1 found) taken
  | some aid =>
    obtain ⟨above, free, -⟩ := freeArray_some found
    by_cases outside : s.conf.numberOfArrays ≤ aid
    · simp only [outside, if_true]
      exact .inl ⟨_, rfl, .inl rfl⟩
    · cases init : w.arrayInit with
      | false =>
        simp only [outside, if_false, Bool.false_eq_true]
        refine .inl ⟨_, rfl, .inr fun same => ?_⟩
        have stored : Function.update s.arrays aid (some { jobIds := [] }) aid = s.arrays aid :=
          congrFun same aid
        rw [Function.update_self, free] at stored
        cases stored
      | true =>
        have short : s.freeIds.length < tasks := by
          by_contra enough
          exact full ⟨⟨aid, above, Nat.not_le.1 outside, free⟩, init, Nat.not_lt.1 enough⟩
        have crashed := allocateTasks_short (s := { s with nextArrayId := aid + 1 }) w.world aid
          tasks 0 ⟨within.jobs, within.arrays⟩ short
        rcases run : allocateTasks w.world aid tasks tasks 0 { s with nextArrayId := aid + 1 }
          with ⟨s₁, js⟩
        rw [run] at crashed
        simp only [outside, if_false, if_true, run]
        exact .inr ⟨_, _, rfl, crashed⟩

/-- `gw_array_pool_array_allocate` leaves all or nothing when it is refused at once, or when there
is room for all of the array. -/
lemma arrayAtomic_iff {w : SubmitWorld} {tasks : Nat} (within : Within s)
    (live : s.crashed = false) :
    s.ArrayAtomic w tasks ↔ s.ArrayRefused tasks ∨ s.ArrayRoom w tasks := by
  by_cases refused : s.ArrayRefused tasks
  · simp [ArrayAtomic, arrayAllocate_refused, refused]
  · by_cases room : s.ArrayRoom w tasks
    · obtain ⟨s', aid, eq, added⟩ := arrayAllocate_room live refused room
      rw [ArrayAtomic, eq]
      exact ⟨fun _ => .inr room, fun _ => added⟩
    · refine ⟨fun atomic => ?_, fun either => (either.elim refused room).elim⟩
      rcases arrayAllocate_trace within refused room with ⟨s', eq, trace⟩ | ⟨s', out, eq, dead⟩
      · rw [ArrayAtomic, eq] at atomic
        obtain rfl : s' = s := atomic
        rcases trace with dead | other
        · rw [live] at dead
          cases dead
        · exact absurd rfl other
      · rw [ArrayAtomic, eq] at atomic
        have alive : s'.crashed = false := Added.live atomic
        rw [dead] at alive
        cases alive

/-- What `gw_job_fill` and the lines after it make of a task when nothing fails. -/
def taskOf (msg : SubmitMsg) (uid : UserId) (job : Job) : Job :=
  { (initialise msg uid
      { job with owner := msg.owner, template := msg.template, typeDep := msg.typeDep }) with
    pstart := msg.pstart, pinc := msg.pinc }

/-- The parts of the daemon that the loop over the tasks leaves alone. -/
structure Kept (s s' : Gwd) : Prop where
  arrays : s'.arrays = s.arrays
  users : s'.users = s.users
  crashed : s'.crashed = s.crashed

lemma Kept.trans {s₁ s₂ s₃ : Gwd} (h : Kept s₁ s₂) (h' : Kept s₂ s₃) : Kept s₁ s₃ where
  arrays := h'.arrays.trans h.arrays
  users := h'.users.trans h.users
  crashed := h'.crashed.trans h.crashed

/-- One round of the loop. -/
lemma fillTask_jobs (wS : SubmitWorld) (msg : SubmitMsg) (aid : Nat) (uid : UserId) {job : Job}
    (here : s.jobs j = some job) :
    Kept s (fillTask wS msg aid uid s j) ∧
    ∃ job', (fillTask wS msg aid uid s j).jobs = Function.update s.jobs j (some job') ∧
      (wS.fill job.id = .ok → job' = taskOf msg uid job) := by
  unfold fillTask
  simp only [here]
  rcases filled : jobFill wS msg s job with ⟨s₂, job', ok⟩
  obtain ⟨⟨dirs, same⟩, -, -, -, -⟩ := jobFill_spec filled
  subst same
  have task : wS.fill job.id = .ok →
      { initialise msg uid job' with pstart := msg.pstart, pinc := msg.pinc } =
        taskOf msg uid job := by
    intro fine
    rw [jobFill, fine] at filled
    cases filled
    rfl
  obtain ⟨dirs', line⟩ := stateLine_eq wS.world
    { s with
      dirs
      jobs := Function.update s.jobs j
        (some { initialise msg uid job' with pstart := msg.pstart, pinc := msg.pinc }) } j
    (initialise msg uid job').jobState
  dsimp only
  rw [line]
  refine ⟨⟨?_, ?_, ?_⟩, _, ?_, task⟩
  all_goals
    unfold depSet
    cases msg.held <;> split <;> rfl

/-- The loop over distinct tasks. -/
lemma fillTasks_jobs (wS : SubmitWorld) (msg : SubmitMsg) (aid : Nat) (uid : UserId)
    {js : List JobId} (distinct : js.Nodup)
    (here : ∀ j ∈ js, ∃ job, s.jobs j = some job ∧ job.id = j) :
    Kept s (js.foldl (fillTask wS msg aid uid) s) ∧
    (∀ j ∉ js, (js.foldl (fillTask wS msg aid uid) s).jobs j = s.jobs j) ∧
    ∀ j ∈ js, ∀ job, s.jobs j = some job → wS.fill j = .ok →
      (js.foldl (fillTask wS msg aid uid) s).jobs j = some (taskOf msg uid job) := by
  induction js generalizing s with
  | nil => exact ⟨⟨rfl, rfl, rfl⟩, fun _ _ => rfl, fun _ mem => by cases mem⟩
  | cons k ks ih =>
    obtain ⟨fresh, distinct⟩ := List.nodup_cons.1 distinct
    obtain ⟨job, present, id⟩ := here k List.mem_cons_self
    obtain ⟨kept, job', jobs, task⟩ := fillTask_jobs wS msg aid uid present
    have other : ∀ j ∈ ks, (fillTask wS msg aid uid s k).jobs j = s.jobs j := by
      intro j mem
      have ne : j ≠ k := by
        rintro rfl
        exact fresh mem
      rw [jobs, Function.update_of_ne ne]
    obtain ⟨kept', out, inside⟩ := ih distinct fun j mem => by
      rw [other j mem]
      exact here j (List.mem_cons_of_mem _ mem)
    rw [List.foldl_cons]
    refine ⟨kept.trans kept', ?_, ?_⟩
    · intro j absent
      obtain ⟨ne, absent⟩ := not_or.1 (List.mem_cons.not.1 absent)
      rw [out j absent, jobs, Function.update_of_ne ne]
    · intro j mem job₁ present₁ fine
      rcases List.mem_cons.1 mem with rfl | mem
      · obtain rfl := Option.some.inj (present.symm.trans present₁)
        rw [out j fresh, jobs, Function.update_self, task (id.symm ▸ fine)]
      · exact inside j mem job₁ (by rw [other j mem]; exact present₁) fine

/-- An array of a user is there, with all of its tasks filled and charged to the user. -/
structure Submitted (w : SubmitWorld) (msg : SubmitMsg) (tasks aid : Nat) (js : List JobId)
    (uid : UserId) (charge : Int) (s s' : Gwd) : Prop where
  inside : aid < s.conf.numberOfArrays
  empty : s.arrays aid = none
  arrays : s'.arrays = Function.update s.arrays aid (some { jobIds := js.map some })
  length : js.length = tasks
  distinct : js.Nodup
  jobs : ∀ i j, js[i]? = some j → j < s.conf.numberOfJobs ∧ s.jobs j = none ∧ s'.jobs j =
    some (taskOf msg uid
      { jobInit w.world j with taskId := i, arrayId := some aid, totalTasks := tasks })
  filled : ∀ j ∈ js, w.fill j = .ok
  others : ∀ j ∉ js, s'.jobs j = s.jobs j
  charged : Charged uid charge s s'
  live : s'.crashed = false

/-- The return codes of `gw_dm_aalloc`. -/
inductive SubmitRc where
  | failedUser | failedNoMemory
  | success (aid : Nat)
deriving DecidableEq, Repr

/-- What `gw_dm_aalloc` answers. -/
def aallocRc (w : SubmitWorld) (msg : SubmitMsg) (tasks : Nat) (s : Gwd) : SubmitRc :=
  match s.submitUser w msg with
  | (_, none) => .failedUser
  | (s, some _) =>
    match s.arrayAllocate w tasks with
    | (_, none) => .failedNoMemory
    | (_, some (aid, _)) => .success aid

/-- `gw_dm_aalloc`. -/
def aalloc (w : SubmitWorld) (msg : SubmitMsg) (tasks : Nat) (s : Gwd) : Gwd :=
  s.allocate w { msg with tasks := some tasks }

/-- `gw_dm_aalloc` leaves all or nothing. -/
def SubmitAtomic (w : SubmitWorld) (msg : SubmitMsg) (tasks : Nat) (s : Gwd) : Prop :=
  match s.aallocRc w msg tasks with
  | .success aid => ∃ js uid, Submitted w msg tasks aid js uid tasks s (s.aalloc w msg tasks)
  | _ => s.aalloc w msg tasks = s

/-- There is room for an array, and its tasks can be filled. -/
def SubmitRoom (w : SubmitWorld) (tasks : Nat) (s : Gwd) : Prop :=
  s.ArrayRoom w tasks ∧ ∀ j ∈ s.freeIds.take tasks, w.fill j = .ok

/-- A slot of the user pool is free. -/
def UserRoom (s : Gwd) : Prop := ∃ u, u < s.conf.numberOfUsers ∧ s.users u = none

/-- A submission is refused before anything is done, or nothing of it fails. -/
def SubmitSound (w : SubmitWorld) (msg : SubmitMsg) (tasks : Nat) (s : Gwd) : Prop :=
  match s.userExists msg.owner msg.proxyPath with
  | some _ => s.ArrayRefused tasks ∨ s.SubmitRoom w tasks
  | none =>
    s.userCount = s.conf.numberOfUsers ∨
      (s.UserRoom ∧ (w.userInit = false ∨ (¬ s.ArrayRefused tasks ∧ s.SubmitRoom w tasks)))

lemma incJobs_arrays (s : Gwd) (u : Option UserId) (n : Int) :
    (s.incJobs u n).arrays = s.arrays := by
  cases u with
  | none => rfl
  | some uid =>
    rw [incJobs, userOp]
    cases s.users uid with
    | none => rfl
    | some user => rfl

/-- The array of a known user, when nothing fails. -/
lemma allocateArray_submitted {w : SubmitWorld} (msg : SubmitMsg) {tasks : Nat} {uid : UserId}
    (useradd : Bool) (live : s.crashed = false) (user : (s.users uid).isSome)
    (go : ¬ s.ArrayRefused tasks) (room : s.SubmitRoom w tasks) :
    ∃ s₁ aid, s.arrayAllocate w tasks = (s₁, some (aid, s.freeIds.take tasks)) ∧
      Submitted w msg tasks aid (s.freeIds.take tasks) uid (tasks - if useradd then 1 else 0) s
        (s.allocateArray w msg tasks uid useradd) := by
  obtain ⟨room, fine⟩ := room
  obtain ⟨s₁, aid, eq, added⟩ := arrayAllocate_room live go room
  obtain ⟨kept, out, inside⟩ := fillTasks_jobs w msg aid uid added.distinct added.present
  rw [allocateArray, eq]
  dsimp only
  generalize loop : (s.freeIds.take tasks).foldl (fillTask w msg aid uid) s₁ = s₂
    at kept out inside ⊢
  obtain ⟨-, -, -, -, -, -, jobs, crashed⟩ :=
    incJobs_frame s₂ (some uid) (tasks - if useradd then 1 else 0)
  have users := kept.users.trans added.users
  refine ⟨s₁, aid, rfl, added.inside, added.empty, ?_, added.length, added.distinct, ?_, fine, ?_,
    ?_, ?_⟩
  · rw [← added.arrays, ← kept.arrays, incJobs_arrays]
  · intro i j here
    obtain ⟨below, empty, task⟩ := added.jobs i j here
    have mem := List.mem_of_getElem? here
    exact ⟨below, empty, by rw [jobs]; exact inside j mem _ task (fine j mem)⟩
  · intro j absent
    rw [jobs, out j absent, added.others j absent]
  · exact (incJobs_charged (by rw [users]; exact user)).of_users users rfl
  · rw [crashed, kept.crashed, added.live]

/-- The array of a known user, when something fails. -/
lemma allocateArray_trace {w : SubmitWorld} (msg : SubmitMsg) {tasks : Nat} (uid : UserId)
    (useradd : Bool) (within : Within s) (live : s.crashed = false)
    (go : ¬ s.ArrayRefused tasks) (full : ¬ s.SubmitRoom w tasks) :
    (∃ s₁, s.arrayAllocate w tasks = (s₁, none) ∧
      s.allocateArray w msg tasks uid useradd = s₁ ∧
      (s₁.crashed = true ∨ s₁.arrays ≠ s.arrays)) ∨
    ∃ s₁ aid js, s.arrayAllocate w tasks = (s₁, some (aid, js)) ∧
      ((s.allocateArray w msg tasks uid useradd).crashed = true ∨
        ((s.allocateArray w msg tasks uid useradd).arrays =
          Function.update s.arrays aid (some { jobIds := js.map some }) ∧
        ∃ j ∈ js, w.fill j ≠ .ok)) := by
  by_cases room : s.ArrayRoom w tasks
  · obtain ⟨s₁, aid, eq, added⟩ := arrayAllocate_room live go room
    have failed : ∃ j ∈ s.freeIds.take tasks, w.fill j ≠ .ok := by
      by_contra fine
      push Not at fine
      exact full ⟨room, fine⟩
    refine .inr ⟨s₁, aid, _, eq, .inr ⟨?_, failed⟩⟩
    obtain ⟨kept, -⟩ := fillTasks_jobs w msg aid uid added.distinct added.present
    rw [allocateArray, eq]
    dsimp only
    rw [incJobs_arrays, kept.arrays, added.arrays]
  · rcases arrayAllocate_trace within go room with ⟨s₁, eq, trace⟩ | ⟨s₁, out, eq, dead⟩
    · exact .inl ⟨s₁, eq, by rw [allocateArray, eq], trace⟩
    · obtain ⟨aid, js⟩ := out
      refine .inr ⟨s₁, aid, js, eq, .inl ?_⟩
      rw [allocateArray, eq]
      dsimp only
      obtain ⟨-, -, -, -, -, -, -, crashed⟩ := incJobs_frame
        (js.foldl (fillTask w msg aid uid) s₁) (some uid) (tasks - if useradd then 1 else 0)
      rw [crashed]
      exact fillTasks_crashed dead

/-- The search for a slot in the user pool. -/
lemma freeUser_cases (s : Gwd) :
    (¬ s.UserRoom ∧ s.freeUser = s.conf.numberOfUsers) ∨
    (s.UserRoom ∧ s.freeUser < s.conf.numberOfUsers ∧ s.users s.freeUser = none) := by
  unfold freeUser
  cases found : (List.range s.conf.numberOfUsers).find? fun u => (s.users u).isNone with
  | none =>
    refine .inl ⟨?_, rfl⟩
    rintro ⟨u, below, empty⟩
    have taken := List.find?_eq_none.1 found u (List.mem_range.2 below)
    simp [empty] at taken
  | some u =>
    have below := List.mem_range.1 (List.mem_of_find?_eq_some found)
    have empty : s.users u = none := by simpa using List.find?_some found
    exact .inr ⟨⟨u, below, empty⟩, below, empty⟩

/-- The array of a user who is in the pool after `gw_dm_aalloc` looked for one. -/
lemma aalloc_user {w : SubmitWorld} {msg : SubmitMsg} (tasks : Nat) {s₁ : Gwd} {uid : UserId}
    {useradd : Bool} (user : s.submitUser w msg = (s₁, some (uid, useradd))) :
    s.aalloc w msg tasks = s₁.allocateArray w msg tasks uid useradd ∧
    s.aallocRc w msg tasks =
      match s₁.arrayAllocate w tasks with
      | (_, none) => .failedNoMemory
      | (_, some (aid, _)) => .success aid := by
  constructor
  · have user' : s.submitUser w { msg with tasks := some tasks } = (s₁, some (uid, useradd)) := user
    rw [aalloc, allocate, user']
    rfl
  · rw [aallocRc, user]

/-- Without a user nothing is answered but the failure. -/
lemma aalloc_noUser {w : SubmitWorld} {msg : SubmitMsg} (tasks : Nat) {s₁ : Gwd}
    (user : s.submitUser w msg = (s₁, none)) :
    s.aalloc w msg tasks = s₁ ∧ s.aallocRc w msg tasks = .failedUser := by
  constructor
  · have user' : s.submitUser w { msg with tasks := some tasks } = (s₁, none) := user
    rw [aalloc, allocate, user']
  · rw [aallocRc, user]

/-- A known user. -/
lemma submitUser_known {w : SubmitWorld} {msg : SubmitMsg} {uid : UserId}
    (known : s.userExists msg.owner msg.proxyPath = some uid) :
    s.submitUser w msg = (s, some (uid, false)) ∧ (s.users uid).isSome := by
  refine ⟨by rw [submitUser, known], ?_⟩
  have here := List.find?_some known
  cases present : s.users uid with
  | none => simp [present] at here
  | some user => rfl

/-- When something fails after the first check, it is neither all nor nothing. -/
lemma not_submitAtomic {w : SubmitWorld} {msg : SubmitMsg} {tasks : Nat} {s₁ : Gwd} {uid : UserId}
    {useradd : Bool} (found : s.submitUser w msg = (s₁, some (uid, useradd)))
    (arrays : s₁.arrays = s.arrays) (live : s.crashed = false) (within : Within s₁)
    (live₁ : s₁.crashed = false) (go : ¬ s₁.ArrayRefused tasks) (full : ¬ s₁.SubmitRoom w tasks) :
    ¬ s.SubmitAtomic w msg tasks := by
  obtain ⟨eq, rc⟩ := aalloc_user tasks found
  intro atomic
  rw [SubmitAtomic, eq, rc] at atomic
  rcases allocateArray_trace msg uid useradd within live₁ go full
    with ⟨s₂, run, out, trace⟩ | ⟨s₂, aid, js, run, trace⟩
  · rw [run] at atomic
    have same : s₂ = s := out.symm.trans atomic
    rcases trace with dead | other
    · rw [same, live] at dead
      cases dead
    · exact other ((congrArg Gwd.arrays same).trans arrays.symm)
  · rw [run] at atomic
    obtain ⟨js', uid', submitted⟩ := atomic
    rcases trace with dead | ⟨arrays', j, mem, failed⟩
    · rw [submitted.live] at dead
      cases dead
    · rw [arrays] at arrays'
      have both := congrFun (submitted.arrays.symm.trans arrays') aid
      simp only [Function.update_self, Option.some.injEq, JobArray.mk.injEq] at both
      have same : js' = js := List.map_injective_iff.2 (Option.some_injective _) both.1
      exact failed (submitted.filled j (same ▸ mem))

/-- The array of a known user. -/
lemma submitAtomic_known {w : SubmitWorld} {msg : SubmitMsg} {tasks : Nat} {uid : UserId}
    (within : Within s) (live : s.crashed = false)
    (known : s.userExists msg.owner msg.proxyPath = some uid) :
    s.SubmitAtomic w msg tasks ↔ s.ArrayRefused tasks ∨ s.SubmitRoom w tasks := by
  obtain ⟨found, user⟩ := submitUser_known (w := w) known
  by_cases refused : s.ArrayRefused tasks
  · obtain ⟨eq, rc⟩ := aalloc_user tasks found
    rw [SubmitAtomic, eq, rc, allocateArray, arrayAllocate_refused refused]
    exact ⟨fun _ => .inl refused, fun _ => rfl⟩
  by_cases room : s.SubmitRoom w tasks
  · obtain ⟨s₁, aid, run, submitted⟩ := allocateArray_submitted msg false live
      user refused room
    obtain ⟨eq, rc⟩ := aalloc_user tasks found
    rw [SubmitAtomic, eq, rc, run]
    refine ⟨fun _ => .inr room, fun _ => ⟨s.freeIds.take tasks, uid, ?_⟩⟩
    simpa using submitted
  · exact ⟨fun atomic => (not_submitAtomic found rfl live within live refused room atomic).elim,
      fun either => (either.elim refused room).elim⟩

/-- The user of a submission who is not known. -/
lemma submitUser_unknown {w : SubmitWorld} {msg : SubmitMsg}
    (unknown : s.userExists msg.owner msg.proxyPath = none) :
    s.submitUser w msg =
      if s.userCount = s.conf.numberOfUsers then (s, none)
      else if s.freeUser = s.conf.numberOfUsers then ({ s with crashed := true }, none)
      else if w.userInit then
        ({ s with
            users := Function.update s.users s.freeUser
              (some { name := msg.owner, proxyPath := msg.proxyPath, activeJobs := 1 })
            toSched := s.toSched ++ [.userAdd s.freeUser 1 0 msg.owner] },
          some (s.freeUser, true))
      else (s, none) := by
  rw [submitUser, unknown]
  dsimp only
  unfold userAllocate
  by_cases many : s.userCount = s.conf.numberOfUsers
  · simp only [many, if_true, Option.map_none]
  · by_cases outside : s.freeUser = s.conf.numberOfUsers
    · simp only [many, outside, if_true, if_false, Option.map_none]
    · cases w.userInit with
      | true => simp only [many, outside, if_true, if_false, Option.map_some]
      | false =>
        simp only [many, outside, if_false, Bool.false_eq_true, Option.map_none]

/-- The array of a new user. -/
lemma submitAtomic_new {w : SubmitWorld} {msg : SubmitMsg} {tasks : Nat}
    (within : Within s) (live : s.crashed = false)
    (unknown : s.userExists msg.owner msg.proxyPath = none) :
    s.SubmitAtomic w msg tasks ↔
      s.userCount = s.conf.numberOfUsers ∨
        (s.UserRoom ∧ (w.userInit = false ∨ (¬ s.ArrayRefused tasks ∧ s.SubmitRoom w tasks))) := by
  have user := submitUser_unknown (w := w) unknown
  by_cases many : s.userCount = s.conf.numberOfUsers
  · rw [if_pos many] at user
    obtain ⟨eq, rc⟩ := aalloc_noUser tasks user
    rw [SubmitAtomic, eq, rc]
    exact ⟨fun _ => .inl many, fun _ => rfl⟩
  rw [if_neg many] at user
  rcases freeUser_cases s with ⟨full, free⟩ | ⟨space, free, empty⟩
  · rw [if_pos free] at user
    obtain ⟨eq, rc⟩ := aalloc_noUser tasks user
    rw [SubmitAtomic, eq, rc]
    refine ⟨fun same => ?_, fun either => (either.elim many fun more => full more.1).elim⟩
    have dead : true = s.crashed := congrArg Gwd.crashed same
    rw [live] at dead
    cases dead
  · rw [if_neg (Nat.ne_of_lt free)] at user
    cases init : w.userInit with
    | false =>
      rw [init, if_neg Bool.false_ne_true] at user
      obtain ⟨eq, rc⟩ := aalloc_noUser tasks user
      rw [SubmitAtomic, eq, rc]
      exact ⟨fun _ => .inr ⟨space, .inl rfl⟩, fun _ => rfl⟩
    | true =>
      rw [init, if_pos rfl] at user
      generalize record :
        ({ name := msg.owner, proxyPath := msg.proxyPath, activeJobs := 1 } : User) = one at user
      generalize next : { s with
        users := Function.update s.users s.freeUser (some one)
        toSched := s.toSched ++ [SchedMsg.userAdd s.freeUser 1 0 msg.owner] } = s₁ at user
      have refusal : s₁.ArrayRefused tasks ↔ s.ArrayRefused tasks := by rw [← next]; rfl
      have fits : s₁.SubmitRoom w tasks ↔ s.SubmitRoom w tasks := by rw [← next]; rfl
      obtain ⟨eq, rc⟩ := aalloc_user tasks user
      have within₁ : Within s₁ := by
        rw [← next]
        exact ⟨within.jobs, within.arrays⟩
      have live₁ : s₁.crashed = false := by
        rw [← next]
        exact live
      have users : s₁.users = Function.update s.users s.freeUser (some one) := by rw [← next]
      by_cases refused : s.ArrayRefused tasks
      · rw [SubmitAtomic, eq, rc, allocateArray, arrayAllocate_refused (refusal.2 refused)]
        refine ⟨fun same => ?_, fun either => (either.elim many fun more => ?_).elim⟩
        · have there := congrFun (users.symm.trans (congrArg Gwd.users same)) s.freeUser
          rw [Function.update_self, empty] at there
          cases there
        · rcases more.2 with failed | go
          · cases failed
          · exact go.1 refused
      by_cases room : s.SubmitRoom w tasks
      · have present : (s₁.users s.freeUser).isSome := by rw [users, Function.update_self]; rfl
        obtain ⟨s₂, aid, run, submitted⟩ := allocateArray_submitted msg true
          live₁ present (refusal.not.2 refused) (fits.2 room)
        rw [SubmitAtomic, eq, rc, run]
        refine ⟨fun _ => .inr ⟨space, .inr ⟨refused, room⟩⟩,
          fun _ => ⟨s₁.freeIds.take tasks, s.freeUser, ?_⟩⟩
        have charged := submitted.charged.of_new (s := s) users empty (by rw [← record])
          (by rw [← record])
        rw [if_pos rfl, Int.sub_add_cancel] at charged
        rw [← next] at submitted ⊢
        exact ⟨submitted.inside, submitted.empty, submitted.arrays, submitted.length,
          submitted.distinct, submitted.jobs, submitted.filled, submitted.others, next ▸ charged,
          submitted.live⟩
      · refine ⟨fun atomic => ?_, fun either => (either.elim many fun more => ?_).elim⟩
        · exact (not_submitAtomic user (by rw [← next]) live within₁ live₁ (refusal.not.2 refused)
            (fits.not.2 room) atomic).elim
        · rcases more.2 with failed | go
          · cases failed
          · exact room go.2

/-- An allocation of an array, and a submission of one, leaves all or nothing exactly when it is
refused at once or nothing fails after the first check. -/
theorem arrays_atomic_iff (w : SubmitWorld) (msg : SubmitMsg) (tasks : Nat) (s : Gwd)
    (within : Within s) (live : s.crashed = false) :
    (s.ArrayAtomic w tasks ↔ s.ArrayRefused tasks ∨ s.ArrayRoom w tasks) ∧
    (s.SubmitAtomic w msg tasks ↔ s.SubmitSound w msg tasks) := by
  refine ⟨arrayAtomic_iff within live, ?_⟩
  unfold SubmitSound
  cases known : s.userExists msg.owner msg.proxyPath with
  | some uid => exact submitAtomic_known within live known
  | none => exact submitAtomic_new within live known

/-- A pool of four jobs and of one array. -/
def oneArray : Gwd := .start
  { numberOfJobs := 4, numberOfUsers := 1, numberOfArrays := 1, numberOfHosts := 1 }

theorem arrays_atomic_start :
    (Within oneArray ∧ oneArray.crashed = false) ∧
    (oneArray.ArrayAtomic {} 2 ↔ oneArray.ArrayRefused 2 ∨ oneArray.ArrayRoom {} 2) ∧
    (oneArray.SubmitAtomic {} { owner := "ana" } 2 ↔
      oneArray.SubmitSound {} { owner := "ana" } 2) := by
  have within : Within oneArray := ⟨fun _ _ => rfl, fun _ _ => rfl⟩
  exact ⟨⟨within, rfl⟩, arrays_atomic_iff {} { owner := "ana" } 2 oneArray within rfl⟩

/-- The search for the second array goes on behind the pool, and a task whose directory cannot be
made stays in the pool as if it were there. -/
theorem arrays_not_atomic :
    ¬ (oneArray.aalloc {} { owner := "ana" } 1).ArrayAtomic {} 1 ∧
    ¬ oneArray.SubmitAtomic { fill := fun _ => .early } { owner := "ana" } 1 := by
  constructor
  · intro atomic
    have dead : true = false := congrArg Gwd.crashed atomic
    cases dead
  · intro atomic
    obtain ⟨js, uid, submitted⟩ := atomic
    have arrays : some (JobArray.mk [some 0] 0) = some (JobArray.mk (js.map some) 0) :=
      congrFun submitted.arrays 0
    have first : js.map some = [some 0] := (congrArg (·.elim [] JobArray.jobIds) arrays).symm
    have mem : some 0 ∈ js.map some := by rw [first]; exact List.mem_singleton_self _
    obtain ⟨j, mem, -⟩ := List.mem_map.1 mem
    cases submitted.filled j mem

end GridWay.Gwd
