import GridWay.Gwd.Submit

/-!
# What a submission leaves alone

A submission writes to the job slots from the next id on only: the dependencies and directories of
the jobs that were submitted before stay as they are, and the drivers hear nothing of it.

* `Gwd.Above`: a change above the next id.
* `Gwd.allocate_above`: a submission is such a change.
-/

namespace GridWay.Gwd

variable {w : World} {s s₁ : Gwd} {j : JobId}

/-- A change that writes to the slots from the next id on only, and keeps the ids of the jobs. -/
structure Above (s s₁ : Gwd) : Prop where
  /-- Nothing is answered, and nothing is written to the drivers. -/
  out : s₁.answers = s.answers ∧ s₁.toEm = s.toEm ∧ s₁.toTm = s.toTm
  nextJobId : s.nextJobId ≤ s₁.nextJobId
  deps : ∀ i < s.nextJobId, s₁.deps i = s.deps i
  dirs : ∀ i < s.nextJobId, s₁.dirs i = s.dirs i
  ids : ∀ i job, s.nextJobId ≤ i → s₁.jobs i = some job → job.id = i

namespace Above

lemma rfl (fresh : ∀ i, s.nextJobId ≤ i → s.jobs i = none) : Above s s where
  out := ⟨Eq.refl _, Eq.refl _, Eq.refl _⟩
  nextJobId := Nat.le_refl _
  deps _ _ := Eq.refl _
  dirs _ _ := Eq.refl _
  ids i job above here := by rw [fresh i above] at here; cases here

/-- A slot from the next id on is not one of the old ones. -/
lemma ne_old {i : JobId} (above : s.nextJobId ≤ j) (old : i < s.nextJobId) : i ≠ j :=
  Nat.ne_of_lt (Nat.lt_of_lt_of_le old above)

lemma put (h : Above s s₁) (j : JobId) (job : Job) (id : job.id = j) :
    Above s { s₁ with jobs := Function.update s₁.jobs j (some job) } where
  out := h.out
  nextJobId := h.nextJobId
  deps := h.deps
  dirs := h.dirs
  ids i job' above here := by
    by_cases same : i = j
    · subst same
      simp only [Function.update_self, Option.some.injEq] at here
      exact here ▸ id
    · exact h.ids i job' above (by simpa [same] using here)

lemma onDir (h : Above s s₁) (above : s.nextJobId ≤ j) (f : JobDir → JobDir) :
    Above s (s₁.onDir j f) where
  out := by simpa using h.out
  nextJobId := by simpa using h.nextJobId
  deps := by simpa using h.deps
  dirs i old := by
    rw [← h.dirs i old]
    unfold Gwd.onDir
    cases s₁.dirs j with
    | none => exact Eq.refl _
    | some dir => simp [ne_old above old]
  ids := by simpa using h.ids

lemma stateLine (h : Above s s₁) (above : s.nextJobId ≤ j) (st : JobState) :
    Above s (stateLine w s₁ j st) := by
  unfold Gwd.stateLine
  split
  · exact h.onDir above _
  · exact h

lemma depSet (h : Above s s₁) (above : s.nextJobId ≤ j) (msg : SubmitMsg) :
    Above s (s₁.depSet msg j) := by
  unfold Gwd.depSet
  split
  · exact h
  · exact ⟨h.out, h.nextJobId, fun i old => by simpa [ne_old above old] using h.deps i old,
      h.dirs, h.ids⟩

lemma incJobs (h : Above s s₁) (u : Option UserId) (n : Int) : Above s (s₁.incJobs u n) := by
  obtain ⟨users, toSched, eq⟩ :=
    userOp_eq s₁ u fun user => { user with idle := 0, activeJobs := user.activeJobs + n }
  rw [Gwd.incJobs, eq]
  exact ⟨h.out, h.nextJobId, h.deps, h.dirs, h.ids⟩

lemma jobPoolFree (h : Above s s₁) (above : s.nextJobId ≤ j) : Above s (s₁.jobPoolFree j) where
  out := by simpa using h.out
  nextJobId := by simpa using h.nextJobId
  deps i old := by
    rw [← h.deps i old]
    unfold Gwd.jobPoolFree
    cases s₁.jobs j with
    | none => simp [ne_old above old]
    | some job => simp [ne_old above old, decJobs]
  dirs := by simpa using h.dirs
  ids i job above' here := by
    rw [(jobPoolFree_frame s₁ j).2.1] at here
    by_cases same : i = j
    · simp [same] at here
    · exact h.ids i job above' (by simpa [same] using here)

lemma jobFill (h : Above s s₁) {wS : SubmitWorld} {msg : SubmitMsg} {job job' : Job} {ok : Bool}
    {s₂ : Gwd} (above : s.nextJobId ≤ job.id) (filled : s₁.jobFill wS msg job = (s₂, job', ok)) :
    Above s s₂ := by
  unfold Gwd.jobFill at filled
  split at filled <;> cases filled
  · exact h
  all_goals
    exact ⟨h.out, h.nextJobId, h.deps,
      fun i old => by simpa [ne_old above old] using h.dirs i old, h.ids⟩

/-- An allocation takes a slot from the next id on. -/
lemma jobPoolAllocate (h : Above s s₁) {j? : Option JobId} {s₂ : Gwd}
    (eq : s₁.jobPoolAllocate w = (s₂, j?)) :
    Above s s₂ ∧ ∀ j ∈ j?, s.nextJobId ≤ j := by
  rcases jobPoolAllocate_cases w s₁ with ⟨-, same⟩ | same | ⟨j, -, above, -, -, same⟩ <;>
    rw [eq] at same <;> cases same
  · exact ⟨h, by simp⟩
  · exact ⟨⟨h.out, h.nextJobId, h.deps, h.dirs, h.ids⟩, by simp⟩
  · have put := h.put j (jobInit w j) (Eq.refl _)
    exact ⟨⟨put.out, Nat.le_succ_of_le (Nat.le_trans h.nextJobId above), put.deps, put.dirs,
      put.ids⟩, by simpa using Nat.le_trans h.nextJobId above⟩

lemma allocateJob (h : Above s s₁) (wS : SubmitWorld) (msg : SubmitMsg) (uid : UserId)
    (useradd : Bool) : Above s (s₁.allocateJob wS msg uid useradd) := by
  unfold Gwd.allocateJob
  rcases eq : s₁.jobPoolAllocate wS.world with ⟨s₂, j?⟩
  obtain ⟨h₂, above⟩ := h.jobPoolAllocate eq
  cases j? with
  | none => exact h₂
  | some j =>
    have above : s.nextJobId ≤ j := above j (Eq.refl _)
    dsimp only
    cases here : s₂.jobs j with
    | none => exact h₂
    | some job =>
      have id : job.id = j := h₂.ids j job above here
      dsimp only
      rcases filled : s₂.jobFill wS msg job with ⟨s₃, job', ok⟩
      have h₃ := h₂.jobFill (by rw [id]; exact above) filled
      have id' : job'.id = j := (jobFill_spec filled).2.1.trans id
      cases ok with
      | false => exact (h₃.put j job' id').jobPoolFree above
      | true =>
        have done := ((h₃.put j (initialise msg uid job') id').stateLine (w := wS.world)
          above (initialise msg uid job').jobState).depSet above msg
        have counted := done.incJobs (some uid) 1
        dsimp only
        split <;> split
        · exact done
        · exact counted
        · exact ⟨done.out, done.nextJobId, done.deps, done.dirs, done.ids⟩
        · exact ⟨counted.out, counted.nextJobId, counted.deps, counted.dirs, counted.ids⟩

lemma allocateTasks (h : Above s s₁) (aid total n task : Nat) {s₂ : Gwd} {js : List JobId}
    (eq : allocateTasks w aid total n task s₁ = (s₂, js)) :
    Above s s₂ ∧ ∀ j ∈ js, s.nextJobId ≤ j := by
  induction n generalizing s₁ s₂ task js with
  | zero =>
    cases eq
    exact ⟨h, by simp⟩
  | succ n ih =>
    rw [Gwd.allocateTasks] at eq
    rcases one : s₁.jobPoolAllocate w with ⟨s₃, j?⟩
    obtain ⟨h₃, above⟩ := h.jobPoolAllocate one
    rw [one] at eq
    cases j? with
    | none =>
      cases eq
      exact ⟨⟨h₃.out, h₃.nextJobId, h₃.deps, h₃.dirs, h₃.ids⟩, by simp⟩
    | some j =>
      have above : s.nextJobId ≤ j := above j (Eq.refl _)
      dsimp only at eq
      have put : Above s { s₃ with jobs := Function.update s₃.jobs j ((s₃.jobs j).map fun job =>
          { job with taskId := task, arrayId := some aid, totalTasks := total }) } := by
        cases here : s₃.jobs j with
        | none =>
          refine ⟨h₃.out, h₃.nextJobId, h₃.deps, h₃.dirs, fun i job above there => ?_⟩
          by_cases same : i = j
          · simp [same] at there
          · exact h₃.ids i job above (by simpa [same] using there)
        | some job => exact h₃.put j _ (h₃.ids j job above here)
      rcases more : Gwd.allocateTasks w aid total n (task + 1) _ with ⟨s₄, js'⟩
      obtain ⟨h₄, all⟩ := ih put (task + 1) more
      rw [more] at eq
      cases eq
      exact ⟨h₄, by simpa [above] using all⟩

lemma arrayAllocate (h : Above s s₁) (wS : SubmitWorld) (tasks : Nat) {s₂ : Gwd}
    {a? : Option (Nat × List JobId)} (eq : s₁.arrayAllocate wS tasks = (s₂, a?)) :
    Above s s₂ ∧ ∀ a ∈ a?, ∀ j ∈ a.2, s.nextJobId ≤ j := by
  unfold Gwd.arrayAllocate at eq
  split at eq
  · cases eq
    exact ⟨h, by simp⟩
  · split at eq
    · cases eq
      exact ⟨h, by simp⟩
    · split at eq
      · cases eq
        exact ⟨⟨h.out, h.nextJobId, h.deps, h.dirs, h.ids⟩, by simp⟩
      · split at eq
        · rename_i aid _ _ _
          dsimp only at eq
          rcases more : Gwd.allocateTasks wS.world aid tasks tasks 0
            { s₁ with nextArrayId := aid + 1 } with ⟨s₃, js⟩
          have h' : Above s { s₁ with nextArrayId := aid + 1 } :=
            ⟨h.out, h.nextJobId, h.deps, h.dirs, h.ids⟩
          obtain ⟨h₃, all⟩ := h'.allocateTasks aid tasks tasks 0 more
          rw [more] at eq
          cases eq
          exact ⟨⟨h₃.out, h₃.nextJobId, h₃.deps, h₃.dirs, h₃.ids⟩, by simpa using all⟩
        · cases eq
          exact ⟨⟨h.out, h.nextJobId, h.deps, h.dirs, h.ids⟩, by simp⟩

lemma fillTask (h : Above s s₁) (wS : SubmitWorld) (msg : SubmitMsg) (aid : Nat) (uid : UserId)
    (above : s.nextJobId ≤ j) : Above s (fillTask wS msg aid uid s₁ j) := by
  unfold Gwd.fillTask
  cases here : s₁.jobs j with
  | none => exact ⟨h.out, h.nextJobId, h.deps, h.dirs, h.ids⟩
  | some job =>
    have id : job.id = j := h.ids j job above here
    dsimp only
    rcases filled : s₁.jobFill wS msg job with ⟨s₂, job', ok⟩
    have h₂ := h.jobFill (by rw [id]; exact above) filled
    have id' : job'.id = j := (jobFill_spec filled).2.1.trans id
    have lined := (h₂.put j
      { (initialise msg uid job') with pstart := msg.pstart, pinc := msg.pinc } id').stateLine (w := wS.world) above (initialise msg uid job').jobState
    dsimp only
    refine Above.depSet ?_ above msg
    split
    · exact lined
    · exact ⟨lined.out, lined.nextJobId, lined.deps, lined.dirs, lined.ids⟩

lemma allocateArray (h : Above s s₁) (wS : SubmitWorld) (msg : SubmitMsg) (tasks : Nat)
    (uid : UserId) (useradd : Bool) : Above s (s₁.allocateArray wS msg tasks uid useradd) := by
  unfold Gwd.allocateArray
  rcases eq : s₁.arrayAllocate wS tasks with ⟨s₂, a?⟩
  obtain ⟨h₂, all⟩ := h.arrayAllocate wS tasks eq
  match a? with
  | none => exact h₂
  | some (aid, js) =>
    have filled (ks : List JobId) (s₃ : Gwd) (h₃ : Above s s₃) (sub : ∀ k ∈ ks, k ∈ js) :
        Above s (ks.foldl (Gwd.fillTask wS msg aid uid) s₃) := by
      induction ks generalizing s₃ with
      | nil => exact h₃
      | cons k ks ih =>
        have above : s.nextJobId ≤ k := all _ (Eq.refl _) k (sub k List.mem_cons_self)
        exact ih _ (h₃.fillTask wS msg aid uid above) fun i mem => sub i (List.mem_cons_of_mem _ mem)
    exact (filled js s₂ h₂ fun _ => id).incJobs _ _

end Above

/-- A submission writes to the slots from the next id on only. -/
theorem allocate_above (wS : SubmitWorld) (msg : SubmitMsg)
    (fresh : ∀ i, s.nextJobId ≤ i → s.jobs i = none) : Above s (s.allocate wS msg) := by
  unfold allocate
  have same := Above.rfl fresh
  have user : Above s (s.submitUser wS msg).1 := by
    unfold submitUser
    split
    · exact same
    · unfold userAllocate
      dsimp only
      repeat' split
      all_goals exact ⟨same.out, same.nextJobId, same.deps, same.dirs, same.ids⟩
  rcases eq : s.submitUser wS msg with ⟨s₁, u?⟩
  rw [eq] at user
  match u? with
  | none => exact user
  | some (uid, useradd) =>
    dsimp only
    cases msg.tasks with
    | none => exact user.allocateJob wS msg uid useradd
    | some tasks => exact user.allocateArray wS msg tasks uid useradd

end GridWay.Gwd
