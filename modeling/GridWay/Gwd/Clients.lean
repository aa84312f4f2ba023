import GridWay.Gwd.Pool
import GridWay.Gwd.Replay

/-!
# The clients behind the users

A user of the pool stands for a client: a name with a proxy path. No step renames a user, a
submission gives its jobs to the user of its client, and a recovered job goes to the client that
`job.conf` names.

* `Gwd.reply_client`: handlers leave the users to their clients.
* `Gwd.allocate_clients`: the owner of the jobs of a submission.
* `Gwd.restart_clients`: the owner of a recovered job.
-/

namespace GridWay

/-- A client as it names itself: its name and the path of its proxy. -/
abbrev Client := String × String

/-- The client of a submission. -/
def SubmitMsg.client (msg : SubmitMsg) : Client := (msg.owner, msg.proxyPath)

/-- The client that `job.conf` names. -/
def JobConf.client (conf : JobConf) : Client := (conf.owner, conf.proxyPath)

namespace Gwd

variable {w : World} {s s' s₁ : Gwd} {i j : JobId} {u uid : UserId} {c : Client} {msg : SubmitMsg}
  {wS : SubmitWorld}

/-- The client of a user of the pool. -/
def client (s : Gwd) (u : UserId) : Option Client :=
  (s.users u).map fun user => (user.name, user.proxyPath)

/-- The client that a job of the pool belongs to. -/
def holder (s : Gwd) (j : JobId) : Option Client := ((s.jobs j).bind Job.userId).bind s.client

lemma client_congr (users : s'.users = s.users) : s'.client = s.client := by
  funext u
  simp only [client, users]

lemma holder_eq {job : Job} (here : s.jobs j = some job) :
    s.holder j = job.userId.bind s.client := by
  rw [holder, here, Option.bind_some]

lemma holder_congr (owner : (s'.jobs j).bind Job.userId = (s.jobs j).bind Job.userId)
    (users : s'.users = s.users) : s'.holder j = s.holder j := by
  rw [holder, holder, owner, client_congr users]

section Frame

/-- A counter update renames nobody. -/
lemma userOp_client {v : Option UserId} {f : User → User}
    (keeps : ∀ user, ((f user).name, (f user).proxyPath) = (user.name, user.proxyPath)) :
    (s.userOp v f).client = s.client := by
  unfold userOp
  cases v with
  | none => rfl
  | some uid =>
    dsimp only
    cases here : s.users uid with
    | none => rfl
    | some user =>
      funext u
      by_cases same : u = uid
      · subst same
        simp only [client, Function.update_self, Option.map_some, keeps, here]
      · simp only [client, Function.update_of_ne same]

lemma incJobs_client (v : Option UserId) (n : Int) : (s.incJobs v n).client = s.client :=
  userOp_client fun _ => rfl

lemma jobPoolFree_client : (s.jobPoolFree j).client = s.client := by
  unfold jobPoolFree
  cases s.jobs j with
  | none => rfl
  | some job => exact userOp_client (s := { s with toSched := _ }) fun _ => rfl

lemma call_client (w : World) (j : JobId) (s : Gwd) (c : Call) :
    (call w j s c).client = s.client := by
  cases c
  case incRunning v n => exact userOp_client fun _ => rfl
  case decRunning v => exact userOp_client fun _ => rfl
  case free => exact jobPoolFree_client
  all_goals exact client_congr (by simp [call])

/-- A handler renames nobody. -/
lemma reply_client (w : World) (j : JobId) (r : Reply) (s : Gwd) :
    (reply w j r s).client = s.client :=
  foldl_frame (π := Gwd.client) (call_client w j) _ _

end Frame

section Submission

lemma jobPoolAllocate_users {j? : Option JobId} (eq : s.jobPoolAllocate w = (s', j?)) :
    s'.users = s.users := by
  rcases jobPoolAllocate_cases w s with ⟨-, eq'⟩ | eq' | ⟨j, -, -, -, -, eq'⟩ <;>
    rw [eq'] at eq <;> cases eq <;> rfl

lemma jobFill_users {job job' : Job} {ok : Bool} (eq : s.jobFill wS msg job = (s', job', ok)) :
    s'.users = s.users := by
  obtain ⟨⟨dirs, rfl⟩, -⟩ := jobFill_spec eq
  rfl

lemma allocateJob_client (useradd : Bool) :
    (s.allocateJob wS msg uid useradd).client = s.client := by
  unfold allocateJob
  rcases allocated : s.jobPoolAllocate wS.world with ⟨s₁, _ | j⟩
  · exact client_congr (jobPoolAllocate_users allocated)
  · have first := client_congr (jobPoolAllocate_users allocated)
    dsimp only
    cases s₁.jobs j with
    | none => exact first
    | some job =>
      dsimp only
      rcases filled : jobFill wS msg s₁ job with ⟨s₂, job', ok⟩
      have second := (client_congr (jobFill_users filled)).trans first
      cases ok
      · exact jobPoolFree_client.trans second
      · have third : (depSet msg j (stateLine wS.world
            { s₂ with jobs := Function.update s₂.jobs j (some (initialise msg uid job')) }
            j (initialise msg uid job').jobState)).client = s.client :=
          (client_congr (by simp)).trans second
        refine Eq.trans ?_ third
        cases useradd <;> cases msg.held <;>
          simp only [Bool.false_eq_true, if_false, if_true] <;>
          first
          | rfl
          | exact (client_congr rfl).trans (incJobs_client (some uid) 1)

lemma allocateTasks_users {aid total n task : Nat} :
    (allocateTasks w aid total n task s).1.users = s.users := by
  induction n generalizing s task with
  | zero => rfl
  | succ n ih =>
    rw [allocateTasks]
    rcases allocated : s.jobPoolAllocate w with ⟨s₁, _ | j⟩
    all_goals have same : s₁.users = s.users := jobPoolAllocate_users allocated
    · exact same
    · exact ih.trans same

lemma arrayAllocate_users {tasks : Nat} : (s.arrayAllocate wS tasks).1.users = s.users := by
  unfold arrayAllocate
  repeat' split
  all_goals first
    | rfl
    | exact allocateTasks_users

lemma fillTask_users {aid : Nat} : (fillTask wS msg aid uid s j).users = s.users := by
  unfold fillTask
  cases s.jobs j with
  | none => rfl
  | some job =>
    rcases filled : jobFill wS msg s job with ⟨s₁, job', ok⟩
    have same := jobFill_users filled
    cases msg.held <;> simpa [filled] using same

lemma allocateArray_client {tasks : Nat} (useradd : Bool) :
    (s.allocateArray wS msg tasks uid useradd).client = s.client := by
  have allocated : (s.arrayAllocate wS tasks).1.users = s.users := arrayAllocate_users
  unfold allocateArray
  rcases out : s.arrayAllocate wS tasks with ⟨s₁, _ | ⟨aid, js⟩⟩
  · rw [out] at allocated
    exact client_congr allocated
  · rw [out] at allocated
    refine (incJobs_client _ _).trans (client_congr ?_)
    exact (foldl_frame (π := Gwd.users) (fun _ _ => fillTask_users) _ _).trans allocated

lemma userExists_client {name proxyPath : String} (found : s.userExists name proxyPath = some uid) :
    s.client uid = some (name, proxyPath) := by
  have pred := List.find?_some found
  cases here : s.users uid with
  | none => simp [here] at pred
  | some user =>
    simp only [here, Bool.and_eq_true, beq_iff_eq] at pred
    simp only [client, here, Option.map_some, pred]

/-- A new user stands for the client that is registered, and the others stay who they are. -/
lemma userAllocate_client {name proxyPath : String} {uid? : Option UserId}
    (eq : s.userAllocate wS name proxyPath = (s', uid?)) :
    (∀ u c, s.client u = some c → s'.client u = some c) ∧
      ∀ uid ∈ uid?, s'.client uid = some (name, proxyPath) := by
  unfold userAllocate at eq
  split at eq
  · cases eq
    exact ⟨fun _ _ => id, by simp⟩
  · dsimp only at eq
    split at eq
    · cases eq
      exact ⟨fun _ _ => id, by simp⟩
    · split at eq
      · rename_i inside _
        cases eq
        have empty : s.users s.freeUser = none := by
          unfold freeUser at inside ⊢
          cases free : (List.range s.conf.numberOfUsers).find? fun u => (s.users u).isNone with
          | none => simp [free] at inside
          | some u => simpa using List.find?_some free
        refine ⟨fun u c known => ?_, by simp [client]⟩
        have other : u ≠ s.freeUser := by
          rintro rfl
          simp [client, empty] at known
        simpa only [client, Function.update_of_ne other] using known
      · cases eq
        exact ⟨fun _ _ => id, by simp⟩

lemma userAllocate_conf {name proxyPath : String} {uid? : Option UserId}
    (eq : s.userAllocate wS name proxyPath = (s', uid?)) : s'.conf = s.conf := by
  unfold userAllocate at eq
  dsimp only at eq
  repeat' split at eq
  all_goals cases eq; rfl

/-- The user of a submission stands for its client. -/
lemma submitUser_client {user? : Option (UserId × Bool)}
    (eq : s.submitUser wS msg = (s', user?)) :
    (∀ u c, s.client u = some c → s'.client u = some c) ∧
      ∀ user ∈ user?, s'.client user.1 = some msg.client := by
  unfold submitUser at eq
  cases found : s.userExists msg.owner msg.proxyPath with
  | some uid =>
    simp only [found] at eq
    cases eq
    refine ⟨fun _ _ => id, fun user mem => ?_⟩
    cases mem
    exact userExists_client found
  | none =>
    simp only [found] at eq
    rcases added : s.userAllocate wS msg.owner msg.proxyPath with ⟨s₁, uid?⟩
    rw [added] at eq
    cases eq
    obtain ⟨kept, new⟩ := userAllocate_client added
    refine ⟨kept, fun user mem => ?_⟩
    obtain ⟨uid, here, rfl⟩ := Option.map_eq_some_iff.1 mem
    exact new uid here

lemma submitUser_jobs {user? : Option (UserId × Bool)}
    (eq : s.submitUser wS msg = (s', user?)) : s'.jobs = s.jobs := by
  unfold submitUser userAllocate at eq
  dsimp only at eq
  repeat' split at eq
  all_goals cases eq; rfl

/-- The allocation of a job or of an array, for a user who stands for the client. -/
lemma allocateFor_clients {useradd : Bool}
    (def_s' : s' = match msg.tasks with
      | none => s.allocateJob wS msg uid useradd
      | some tasks => s.allocateArray wS msg tasks uid useradd)
    (known : s.client uid = some msg.client) (live : s'.crashed = false) :
    ∃ js, Grown js s s' ∧ s'.client = s.client ∧ ∀ j ∈ js, s'.holder j = some msg.client := by
  have clients : s'.client = s.client := by
    rw [def_s']
    cases msg.tasks with
    | none => exact allocateJob_client useradd
    | some tasks => exact allocateArray_client useradd
  have user : (s.users uid).isSome := by
    obtain ⟨user, here, -⟩ := Option.map_eq_some_iff.1 known
    rw [here]
    rfl
  rcases allocateFor_spec def_s' user live with ⟨grown, -, -⟩ | ⟨js, grown, owned, -⟩
  · exact ⟨[], grown, clients, by simp⟩
  · refine ⟨js, grown, clients, fun j mem => ?_⟩
    obtain ⟨job, here, owner⟩ := owned j mem
    rw [holder_eq here, owner, clients, Option.bind_some, known]

/-- A submission adds jobs of its client only, and renames no user. -/
theorem allocate_clients (live : (s.allocate wS msg).crashed = false) :
    ∃ js, Grown js s (s.allocate wS msg) ∧
      (∀ u c, s.client u = some c → (s.allocate wS msg).client u = some c) ∧
      ∀ j ∈ js, (s.allocate wS msg).holder j = some msg.client := by
  unfold allocate at live ⊢
  rcases submitUser_spec wS msg s with ⟨eq, -⟩ | ⟨s₁, eq, crashed⟩ | ⟨uid, eq, -, -⟩ |
    ⟨uid, user, toSched, -, -, -, -, eq⟩
  · rw [eq]
    exact ⟨[], .rfl s, fun _ _ => id, by simp⟩
  · rw [eq] at live
    simp [crashed] at live
  all_goals
    obtain ⟨kept, new⟩ := submitUser_client eq
    rw [eq] at live ⊢
    obtain ⟨js, grown, clients, owners⟩ := allocateFor_clients rfl (new _ rfl) live
  · exact ⟨js, grown, fun u c known => (congrFun clients u).trans (kept u c known), owners⟩
  · refine ⟨js, ?_, fun u c known => (congrFun clients u).trans (kept u c known), owners⟩
    exact ⟨grown.conf, grown.hosts, grown.dmQueue, grown.emQueue, grown.tmQueue, grown.nextJobId,
      grown.nodup, grown.fresh, grown.old, grown.new⟩

/-- A single job takes a free slot. -/
lemma allocateJob_old (useradd : Bool) (here : (s.jobs i).isSome) :
    (s.allocateJob wS msg uid useradd).jobs i = s.jobs i := by
  unfold allocateJob
  rcases jobPoolAllocate_cases wS.world s with ⟨-, eq⟩ | eq | ⟨j, -, -, -, empty, eq⟩
  · rw [eq]
  · rw [eq]
  · have other : i ≠ j := by
      rintro rfl
      rw [empty] at here
      cases here
    rw [eq]
    simp only [Function.update_self]
    rcases filled : jobFill wS msg _ _ with ⟨s₁, job, ok⟩
    obtain ⟨⟨dirs, rfl⟩, -⟩ := jobFill_spec filled
    cases ok
    · simp [other]
    · cases useradd <;> cases msg.held <;> simp [incJobs, other]

/-- The tasks of an array take free slots. -/
lemma allocateTasks_old {aid total n task : Nat} :
    (∀ k ∈ (allocateTasks w aid total n task s).2, s.jobs k = none) ∧
      ∀ i, (s.jobs i).isSome → (allocateTasks w aid total n task s).1.jobs i = s.jobs i := by
  induction n generalizing s task with
  | zero => exact ⟨by simp [allocateTasks], fun _ _ => rfl⟩
  | succ n ih =>
    rw [allocateTasks]
    rcases jobPoolAllocate_cases w s with ⟨-, eq⟩ | eq | ⟨j, -, -, -, empty, eq⟩
    · rw [eq]
      exact ⟨by simp, fun _ _ => rfl⟩
    · rw [eq]
      exact ⟨by simp, fun _ _ => rfl⟩
    · rw [eq]
      simp only [Function.update_self, Option.map_some]
      let next : Gwd := { s with
        jobs := Function.update (Function.update s.jobs j (some (jobInit w j))) j
          (some { jobInit w j with taskId := task, arrayId := some aid, totalTasks := total })
        nextJobId := j + 1
        jobCount := s.jobCount + 1 }
      obtain ⟨taken, old⟩ := @ih next (task + 1)
      constructor
      · intro k mem
        rcases List.mem_cons.1 mem with rfl | mem
        · exact empty
        · have none : next.jobs k = none := taken k mem
          by_cases same : k = j
          · rw [same]
            exact empty
          · simpa [next, same] using none
      · intro i here
        have other : i ≠ j := by
          rintro rfl
          rw [empty] at here
          cases here
        exact (old i (by simpa [next, other] using here)).trans (by simp [next, other])

lemma fillTask_old {aid : Nat} (other : i ≠ j) : (fillTask wS msg aid uid s j).jobs i = s.jobs i := by
  unfold fillTask
  cases s.jobs j with
  | none => rfl
  | some job =>
    rcases filled : jobFill wS msg s job with ⟨s₁, job', ok⟩
    obtain ⟨⟨dirs, rfl⟩, -⟩ := jobFill_spec filled
    cases msg.held <;> simp [filled, other]

lemma allocateArray_old {tasks : Nat} (useradd : Bool) (here : (s.jobs i).isSome) :
    (s.allocateArray wS msg tasks uid useradd).jobs i = s.jobs i := by
  have filled (js : List JobId) (s : Gwd) (aid : Nat) (others : i ∉ js) :
      (js.foldl (fillTask wS msg aid uid) s).jobs i = s.jobs i := by
    induction js generalizing s with
    | nil => rfl
    | cons j js ih =>
      rw [List.foldl_cons, ih _ fun mem => others (List.mem_cons_of_mem _ mem)]
      exact fillTask_old fun same => others (same ▸ List.mem_cons_self)
  have allocated : ∀ s₁ out, s.arrayAllocate wS tasks = (s₁, out) →
      s₁.jobs i = s.jobs i ∧ ∀ aid js, out = some (aid, js) → i ∉ js := by
    intro s₁ out eq
    unfold arrayAllocate at eq
    split at eq
    · cases eq
      exact ⟨rfl, by simp⟩
    · split at eq
      · cases eq
        exact ⟨rfl, by simp⟩
      · rename_i aid _
        split at eq
        · cases eq
          exact ⟨rfl, by simp⟩
        · split at eq
          · cases eq
            obtain ⟨taken, old⟩ :=
              @allocateTasks_old wS.world { s with nextArrayId := aid + 1 } aid tasks tasks 0
            refine ⟨old i here, ?_⟩
            rintro _ _ ⟨⟩ mem
            have empty : s.jobs i = none := taken i mem
            rw [empty] at here
            cases here
          · cases eq
            exact ⟨rfl, by simp⟩
  unfold allocateArray
  rcases out : s.arrayAllocate wS tasks with ⟨s₁, _ | ⟨aid, js⟩⟩
  · exact (allocated _ _ out).1
  · obtain ⟨same, others⟩ := allocated _ _ out
    dsimp only
    rw [(incJobs_frame ..).2.2.2.2.2.2.1, filled js s₁ aid (others aid js rfl), same]

/-- A submission leaves the jobs of the pool alone. -/
theorem allocate_old (here : (s.jobs i).isSome) : (s.allocate wS msg).jobs i = s.jobs i := by
  unfold allocate
  rcases registered : s.submitUser wS msg with ⟨s₁, _ | ⟨uid, useradd⟩⟩
  all_goals have same : s₁.jobs = s.jobs := submitUser_jobs registered
  · rw [same]
  · cases msg.tasks with
    | none => exact (allocateJob_old useradd (same ▸ here)).trans (by rw [same])
    | some tasks => exact (allocateArray_old useradd (same ▸ here)).trans (by rw [same])

end Submission

section Recovery

lemma replayJob_client {wR : RecoverWorld} {dir : JobDir} {job job' : Job} {ok : Bool}
    (eq : replayJob wR uid dir s job = some (s', job', ok)) :
    s'.client = s.client ∧ s'.conf = s.conf := by
  unfold replayJob at eq
  split at eq
  · cases eq
    exact ⟨rfl, rfl⟩
  · cases eq
  · split at eq
    · cases eq
    · rename_i first
      cases eq
      obtain ⟨hosts, same⟩ := recoverTransition_same first
      exact ⟨client_congr (by rw [same]), by rw [same]⟩
    · rename_i first
      split at eq
      · cases eq
      · rename_i rest
        cases eq
        obtain ⟨hosts, same⟩ := (recoverTransition_same first).trans (recoverStates_same rest)
        exact ⟨client_congr (by rw [same]), by rw [same]⟩
      · rename_i r₂ before last rest
        cases eq
        obtain ⟨hosts, same⟩ := (recoverTransition_same first).trans (recoverStates_same rest)
        constructor
        · refine (incJobs_client _ _).trans <| (reply_client ..).trans ?_
          exact client_congr (by rw [same])
        · rw [(incJobs_frame ..).1, (reply_frame ..).1, same]

/-- The user of a recovered job stands for the client of its `job.conf`. -/
lemma recoverUser_client {wR : RecoverWorld} {conf : JobConf} {uid? : Option UserId}
    (eq : s.recoverUser wR conf = (s', uid?)) :
    (∀ u c, s.client u = some c → s'.client u = some c) ∧ s'.conf = s.conf ∧
      ∀ uid ∈ uid?, s'.client uid = some conf.client := by
  unfold recoverUser at eq
  cases found : s.userExists conf.owner conf.proxyPath with
  | some uid =>
    simp only [found] at eq
    cases eq
    refine ⟨fun _ _ => id, rfl, fun u mem => ?_⟩
    cases mem
    exact userExists_client found
  | none =>
    simp only [found] at eq
    obtain ⟨kept, new⟩ := userAllocate_client eq
    exact ⟨kept, userAllocate_conf eq, new⟩

/-- Reading a directory renames no user, and a job that is recovered goes to the client of its
`job.conf`. -/
lemma jobRecover_client {wR : RecoverWorld} {dir : JobDir} {job job' : Job} {ok : Bool}
    (first : job.history = []) (zero : job.restarted = 0)
    (eq : s.jobRecover wR dir job = some (s', job', ok)) :
    (∀ u c, s.client u = some c → s'.client u = some c) ∧ s'.conf = s.conf ∧
      (ok = true → ∃ conf, dir.conf = some conf ∧
        job'.userId.bind s'.client = some conf.client) := by
  unfold jobRecover at eq
  split at eq
  · dsimp only at eq
    split at eq
    · cases eq
      exact ⟨fun _ _ => id, rfl, by simp⟩
    · rename_i conf there
      split at eq
      · rename_i user
        cases eq
        obtain ⟨kept, same, -⟩ := recoverUser_client user
        exact ⟨kept, same, by simp⟩
      · rename_i s₁ uid user
        obtain ⟨kept, same, new⟩ := recoverUser_client user
        split at eq
        · obtain ⟨clients, same'⟩ := replayJob_client eq
          refine ⟨fun u c known => (congrFun clients u).trans (kept u c known), same'.trans same,
            fun done => ?_⟩
          subst done
          have start {job : Job} (first : job.history = []) (zero : job.restarted = 0) :
              Replayed job job 0 :=
            ⟨rfl, rfl, rfl, by simp only [Job.label, zero], by rw [first]; rfl⟩
          obtain ⟨-, -, replayed⟩ := replayJob_spec (start (by exact first) (by exact zero)) eq
          have owner : job'.userId = some uid := replayed.user
          exact ⟨conf, there, by rw [owner, clients, Option.bind_some, new uid rfl]⟩
        · cases eq
          exact ⟨kept, same, by simp⟩
  · cases eq
    exact ⟨fun _ _ => id, rfl, by simp⟩

/-- Every job that is read back belongs to the client of its directory. -/
structure ReadBack (old s : Gwd) : Prop where
  dirs : s.dirs = old.dirs
  conf : s.conf = old.conf
  owner : s.crashed = false → ∀ j, (s.jobs j).isSome →
    j < old.conf.numberOfJobs ∧
      ∃ dir conf, old.dirs j = some dir ∧ dir.conf = some conf ∧ s.holder j = some conf.client

/-- The jobs of the pool keep their clients when users are added. -/
lemma holder_kept (jobs : s'.jobs j = s.jobs j)
    (kept : ∀ u c, s.client u = some c → s'.client u = some c) (known : s.holder j = some c) :
    s'.holder j = some c := by
  rw [holder, Option.bind_eq_some_iff] at known ⊢
  obtain ⟨u, owner, client⟩ := known
  exact ⟨u, by rw [jobs]; exact owner, kept u c client⟩

/-- One directory is read. -/
lemma ReadBack.recoverDir {old : Gwd} (h : ReadBack old s) (wR : RecoverWorld) (j : JobId) :
    ReadBack old (recoverDir wR s j) := by
  unfold Gwd.recoverDir
  split
  · exact h
  · rename_i alive
    have alive : s.crashed = false := by simpa using alive
    split
    · exact h
    · rename_i dir there
      split
      · exact h
      · rename_i room
        have inside : j < old.conf.numberOfJobs := by
          rw [← h.conf]
          exact Nat.lt_of_not_le fun outside => room (.inl outside)
        dsimp only
        split
        · exact ⟨h.dirs, h.conf, fun up => by cases up⟩
        · -- the job is freed again
          rename_i s₁ job failed
          obtain ⟨dirs, jobs⟩ := jobRecover_spec rfl rfl failed
          obtain ⟨kept, conf, -⟩ := jobRecover_client rfl rfl failed
          refine ⟨by simpa using dirs.trans h.dirs, by simpa using conf.trans h.conf,
            fun _ i here => ?_⟩
          have other : i ≠ j := by
            rintro rfl
            simp at here
          have same : (jobPoolFree { s₁ with jobs := Function.update s₁.jobs j (some job) } j).jobs i =
              s.jobs i := by
            have jobs' : s₁.jobs i = s.jobs i := by
              rw [jobs]
              exact Function.update_of_ne other ..
            simpa [other] using jobs'
          rw [same] at here
          obtain ⟨below, dir', conf', read, names, known⟩ := h.owner alive i here
          refine ⟨below, dir', conf', read, names, holder_kept same (fun u c client => ?_) known⟩
          rw [jobPoolFree_client]
          exact kept u c client
        · rename_i s₁ job recovered
          obtain ⟨dirs, jobs, -⟩ := jobRecover_spec rfl rfl recovered
          obtain ⟨kept, conf, owner⟩ := jobRecover_client rfl rfl recovered
          obtain ⟨conf', names, client⟩ := owner rfl
          have back : ReadBack old s₁ := by
            refine ⟨dirs.trans h.dirs, conf.trans h.conf, fun _ i here => ?_⟩
            by_cases same : i = j
            · subst same
              refine ⟨inside, dir, conf', h.dirs ▸ there, names, ?_⟩
              have here' : s₁.jobs i = some job := by
                rw [jobs]
                exact Function.update_self ..
              rw [holder_eq here', client]
            · have jobs' : s₁.jobs i = s.jobs i := by
                rw [jobs, Function.update_of_ne (by exact same)]
                exact Function.update_of_ne same ..
              rw [jobs'] at here
              obtain ⟨below, dir', conf'', read, names', known⟩ := h.owner alive i here
              exact ⟨below, dir', conf'', read, names', holder_kept jobs' kept known⟩
          split
          · exact back
          · exact ⟨back.dirs, back.conf, back.owner⟩

/-- The check of the dependencies leaves the jobs to their users. -/
lemma depConsistency_holder (w : World) (s : Gwd) (j : JobId) :
    (s.depConsistency w).holder j = s.holder j ∧
      ((s.depConsistency w).jobs j).isSome = (s.jobs j).isSome ∧
      (s.depConsistency w).crashed = s.crashed ∧ (s.depConsistency w).conf = s.conf := by
  have one (s : Gwd) (i : JobId) :
      ((s.depConsistencyOne w i).holder j, ((s.depConsistencyOne w i).jobs j).isSome,
        (s.depConsistencyOne w i).crashed, (s.depConsistencyOne w i).conf) =
      (s.holder j, (s.jobs j).isSome, s.crashed, s.conf) := by
    unfold depConsistencyOne
    split
    · rename_i ds job deps here
      split
      · dsimp only
        split
        · by_cases same : j = i
          · subst same
            rw [holder_congr (s := s) (by simp [here]) (by simp)]
            simp [here]
          · rw [holder_congr (s := s) (by simp [same]) (by simp)]
            simp [same]
        · rfl
      · rfl
    · rfl
  have all := foldl_frame (π := fun s : Gwd => (s.holder j, (s.jobs j).isSome, s.crashed, s.conf))
    one s (List.range s.conf.numberOfJobs)
  simp only [Prod.mk.injEq] at all
  exact all

/-- All directories are read. -/
lemma readBack (wR : RecoverWorld) (s : Gwd) :
    ReadBack s (wR.order.foldl (recoverDir wR) { Gwd.start s.conf with dirs := s.dirs }) := by
  have start : ReadBack s { Gwd.start s.conf with dirs := s.dirs } :=
    ⟨rfl, rfl, fun _ i there => by cases there⟩
  have read (js : List JobId) (s₁ : Gwd) (h : ReadBack s s₁) :
      ReadBack s (js.foldl (recoverDir wR) s₁) := by
    induction js generalizing s₁ with
    | nil => exact h
    | cons i js ih => exact ih _ (h.recoverDir wR i)
  exact read wR.order _ start

/-- A job that is there after a restart belongs to the client that its `job.conf` names. -/
theorem restart_clients {wR : RecoverWorld} (up : (s.restart wR).crashed = false)
    (here : ((s.restart wR).jobs j).isSome) :
    j < s.conf.numberOfJobs ∧ ∃ dir conf, s.dirs j = some dir ∧ dir.conf = some conf ∧
      (s.restart wR).holder j = some conf.client := by
  have back := readBack wR s
  unfold restart recoverState at up here ⊢
  dsimp only at up here ⊢
  split at up
  · rename_i crashed
    rw [crashed] at up
    cases up
  · rename_i alive
    rw [if_neg alive] at here ⊢
    obtain ⟨holders, present, crashes, -⟩ := depConsistency_holder wR.world
      (wR.order.foldl (recoverDir wR) { Gwd.start s.conf with dirs := s.dirs }) j
    rw [holders]
    exact back.owner (crashes.symm.trans up) j (present ▸ here)

lemma restart_conf {wR : RecoverWorld} : (s.restart wR).conf = s.conf := by
  have back := readBack wR s
  unfold restart recoverState
  dsimp only
  split
  · exact back.conf
  · exact (depConsistency_holder wR.world _ 0).2.2.2.trans back.conf

end Recovery

section Steps

variable {e : Event} {r : Reply}

/-- The job of a handler afterwards: gone, or as the handler leaves it, perhaps released. -/
lemma reply_released : (reply w j r s).jobs j = none ∨
    Released (some r.job) ((reply w j r s).jobs j) := by
  have all (cs : List Call) (s : Gwd) (h : Released (some r.job) (s.jobs j)) :
      (cs.foldl (call w j) s).jobs j = none ∨
        Released (some r.job) ((cs.foldl (call w j) s).jobs j) := by
    induction cs generalizing s with
    | nil => exact .inr h
    | cons c cs ih =>
      rw [List.foldl_cons]
      by_cases free : c = .free
      · subst free
        exact .inl (calls_gone (by simp [call]))
      · exact ih _ (h.trans (call_self c free))
  exact all r.calls _ (.inl (Function.update_self ..))

/-- A handler that keeps the owner of its job keeps the owners of all jobs. -/
lemma reply_holder {job : Job} (here : s.jobs j = some job) (owner : r.job.userId = job.userId)
    (there : ((reply w j r s).jobs i).isSome) :
    (s.jobs i).isSome ∧ (reply w j r s).holder i = s.holder i := by
  have released {old : Option Job} (h : Released old ((reply w j r s).jobs i)) :
      old.isSome ∧ ((reply w j r s).jobs i).bind Job.userId = old.bind Job.userId := by
    rcases h with same | ⟨job', rfl, -, same⟩
    · rw [same] at there
      exact ⟨there, by rw [same]⟩
    · exact ⟨rfl, by rw [same]; rfl⟩
  unfold holder
  rw [reply_client]
  by_cases same : i = j
  · subst same
    rcases reply_released (w := w) (j := i) (r := r) (s := s) with gone | kept
    · simp [gone] at there
    · rw [(released kept).2, here, Option.bind_some, Option.bind_some, owner]
      exact ⟨rfl, rfl⟩
  · obtain ⟨present, owner'⟩ := released (reply_other same)
    exact ⟨present, by rw [owner']⟩

/-- A user is freed although it has jobs. -/
def freesOwner (s : Gwd) : Event → Bool
  | .checkUser u period =>
    ((s.users u).any fun user => user.activeJobs == 0 && maxIdleTime ≤ user.idle + period) &&
      (List.range s.conf.numberOfJobs).any fun i => (s.jobs i).any fun job => job.userId == some u
  | _ => false

/-- A user that is freed without jobs is nobody's client. -/
lemma checkUser_holder {period : Int} (inside : ∀ i, (s.jobs i).isSome → i < s.conf.numberOfJobs)
    (keeps : s.freesOwner (.checkUser u period) = false) :
    (s.checkUser period u).holder i = s.holder i := by
  unfold checkUser
  cases here : s.users u with
  | none => rfl
  | some user =>
    dsimp only
    split
    · rename_i idle
      split
      · rename_i long
        have gone : ((List.range s.conf.numberOfJobs).any fun i =>
            (s.jobs i).any fun job => job.userId == some u) = false := by
          simpa [freesOwner, here, idle, long] using keeps
        unfold holder
        cases there : s.jobs i with
        | none => rfl
        | some job =>
          have below := inside i (by rw [there]; rfl)
          have stranger := List.any_eq_false.1 gone i (List.mem_range.2 below)
          rw [there, Option.any_some, beq_iff_eq] at stranger
          rw [Option.bind_some]
          cases owner : job.userId with
          | none => rfl
          | some v =>
            have other : v ≠ u := by rintro rfl; exact stranger owner
            simp [client, other]
      · -- the idle time grows
        unfold holder
        congr 1
        funext v
        by_cases same : v = u
        · subst same
          simp [client, here]
        · simp [client, same]
    · rfl

/-- What a step does to the owners: a job that is there afterwards belongs to the client of the
submission that adds it, or it was there before and stays with its client. -/
theorem step_holder (live : (s.step e).crashed = false)
    (inside : ∀ i, (s.jobs i).isSome → i < s.conf.numberOfJobs) (keeps : s.freesOwner e = false)
    (there : ((s.step e).jobs i).isSome) :
    (∃ wS msg rest, e = .dm wS ∧ s.dmQueue = .allocate msg :: rest ∧ s.jobs i = none ∧
      s.nextJobId ≤ i ∧ i < s.conf.numberOfJobs ∧ (s.step e).holder i = some msg.client) ∨
    ((s.jobs i).isSome ∧ ∀ c, s.holder i = some c → (s.step e).holder i = some c) := by
  rcases step_cases (step_alive live) live with ⟨quiet, users⟩ |
    ⟨wS, a, j, rest, job, he, queue, here, eq⟩ | ⟨wS, msg, rest, he, queue, eq⟩ |
    ⟨j, hid, queue, rank, w, host, job, he, -, here, eq⟩ | ⟨j, w, job, he, here, eq⟩
  · right
    refine ⟨by rw [← quiet.isSome]; exact there, fun c known => ?_⟩
    rw [← known]
    rcases users with same | ⟨u, period, rfl⟩
    · refine holder_congr ?_ same
      obtain ⟨job', here'⟩ := Option.isSome_iff_exists.1 there
      obtain ⟨job, here, face⟩ := quiet.job_before here'
      have owner : job'.userId = job.userId := congrArg (·.core.userId) face
      rw [here, here', Option.bind_some, Option.bind_some, owner]
    · rw [show s.step (.checkUser u period) = s.checkUser period u by
        simp [step, step_alive live, Gwd.live]]
      exact checkUser_holder inside keeps
  · rw [eq] at there ⊢
    have owner := congrArg Job.Core.userId (Dm.handle_core a (s.world wS.world) job)
    obtain ⟨present, same⟩ := reply_holder (s := { s with dmQueue := rest }) here owner there
    exact .inr ⟨present, fun c known => same.trans known⟩
  · rw [eq] at live there ⊢
    obtain ⟨js, grown, kept, owners⟩ := allocate_clients live
    cases before : s.jobs i with
    | some job =>
      have same : (allocate wS msg { s with dmQueue := rest }).jobs i = s.jobs i :=
        allocate_old (by rw [before]; rfl)
      exact .inr ⟨rfl, fun c known => holder_kept same kept known⟩
    | none =>
      have mem : i ∈ js := by
        by_contra other
        rw [grown.old i other, before] at there
        cases there
      obtain ⟨above, -, below⟩ := grown.fresh i mem
      exact .inl ⟨wS, msg, rest, he, queue, rfl, above, below, owners i mem⟩
  · rw [eq] at there ⊢
    have owner : (Dm.dispatchJob hid host rank queue (s.world w) job).job.userId = job.userId := by
      rcases Dm.dispatchJob_cases hid host rank queue (s.world w) job with
        ⟨neutral, -⟩ | ⟨-, ⟨-, eq⟩ | ⟨-, -, eq⟩ | ⟨-, -, eq⟩⟩
      · exact congrArg Job.Core.userId neutral.core
      all_goals rw [eq]; rfl
    obtain ⟨present, same⟩ := reply_holder here owner there
    exact .inr ⟨present, fun c known => same.trans known⟩
  · rw [eq] at there ⊢
    have owner : (Tm.recover (s.world w) job).job.userId = job.userId := by
      rcases recover_cases (s.world w) job with eq | ⟨a, -, -, -, -, eq⟩ <;> rw [eq]
    obtain ⟨present, same⟩ := reply_holder here owner there
    exact .inr ⟨present, fun c known => same.trans known⟩

/-- The limits stay. -/
lemma step_conf (live : (s.step e).crashed = false) : (s.step e).conf = s.conf := by
  rcases step_cases (step_alive live) live with ⟨quiet, -⟩ | ⟨wS, a, j, rest, job, -, -, -, eq⟩ |
    ⟨wS, msg, rest, -, -, eq⟩ | ⟨j, hid, queue, rank, w, host, job, -, -, -, eq⟩ |
    ⟨j, w, job, -, -, eq⟩
  · exact quiet.conf
  · rw [eq, (reply_frame ..).1]
  · rw [eq] at live ⊢
    obtain ⟨js, grown, -⟩ := allocate_spec live
    exact grown.conf
  · rw [eq, (reply_frame ..).1]
  · rw [eq, (reply_frame ..).1]

/-- The handler of a request calls for no dependency check. -/
lemma request_calm (q : Request) (w : World) (job : Job) (code : Int) :
    Call.depCheck code ∉ (Dm.handle q.action w job).calls := by
  cases q
  case hold =>
    show _ ∉ (Dm.hold w job).calls
    unfold Dm.hold
    split <;> simp
  case release =>
    show _ ∉ (Dm.release w job).calls
    unfold Dm.release
    split <;> simp [Dm.askSchedule]
  case stop =>
    show _ ∉ (Dm.stop w job).calls
    unfold Dm.stop
    split <;> simp [Dm.cancelExecution]
  case resume =>
    show _ ∉ (Dm.resume w job).calls
    unfold Dm.resume
    split <;> simp [Dm.askSchedule]
  case kill =>
    show _ ∉ (Dm.kill w job).calls
    unfold Dm.kill
    split <;> simp [Dm.cancelExecution, Dm.dispose]
  case killHard =>
    show _ ∉ (Dm.killHard w job).calls
    unfold Dm.killHard
    dsimp only
    repeat' split
    all_goals simp [Dm.killTransfer, Dm.dispose]
  case wait =>
    show _ ∉ (Dm.wait w job).calls
    unfold Dm.wait
    split <;> simp
  case reschedule =>
    show _ ∉ (Dm.reschedule w job).calls
    unfold Dm.reschedule
    dsimp only
    repeat' split
    all_goals simp [Dm.askSchedule]

/-- A request changes its own job only. -/
lemma request_other {q : Request} {rest : List DmItem} (queue : s.dmQueue = .job q.action j :: rest)
    (other : i ≠ j) : (s.step (.dm wS)).jobs i = s.jobs i := by
  cases crashed : s.crashed
  · have eq : s.step (.dm wS) = s.dmNext wS := by simp [step, crashed, Gwd.live]
    rw [eq, dmNext, queue]
    dsimp only
    cases here : s.jobs j with
    | none => rfl
    | some job =>
      simp only [onJob, here]
      exact reply_other_calm (s := { s with dmQueue := rest }) other
        fun code => request_calm q _ job code
  · rw [step, if_pos crashed]

/-- What a step leaves of the queue of the Dispatch Manager. -/
def dmRest (s : Gwd) : Event → List DmItem
  | .dm _ => s.dmQueue.tail
  | _ => s.dmQueue

lemma onJob_dmQueue (w : World) (j : JobId) (f : World → Job → Reply) (s : Gwd) :
    ∃ added, (onJob w j f s).dmQueue = s.dmQueue ++ added := by
  unfold onJob
  cases s.jobs j with
  | none => exact ⟨[], (List.append_nil _).symm⟩
  | some job => exact ⟨_, reply_dmQueue ..⟩

/-- Entries are taken at the head of the queue by the Dispatch Manager, and added at its end. -/
theorem step_dmQueue (live : (s.step e).crashed = false) :
    ∃ added, (s.step e).dmQueue = s.dmRest e ++ added := by
  have alive := step_alive live
  have eq : s.step e = s.live e := by simp [step, alive]
  have same {s' : Gwd} (eq : s'.dmQueue = s.dmQueue) : ∃ added, s'.dmQueue = s.dmQueue ++ added :=
    ⟨[], by rw [eq, List.append_nil]⟩
  rw [eq] at live ⊢
  cases e
  case dm wS =>
    simp only [Gwd.live, dmNext, dmRest] at live ⊢
    rcases queue : s.dmQueue with _ | ⟨⟨a, j⟩ | msg, rest⟩
    · exact ⟨[], queue⟩
    · dsimp only
      cases s.jobs j with
      | none => exact ⟨[], (List.append_nil _).symm⟩
      | some job => exact onJob_dmQueue ..
    · rw [queue] at live
      obtain ⟨js, grown, -⟩ := allocate_clients live
      exact ⟨[], by simpa using grown.dmQueue⟩
  case em w =>
    simp only [Gwd.live, emNext, dmRest]
    cases s.emQueue with
    | nil => exact same rfl
    | cons x rest => exact onJob_dmQueue ..
  case tm w =>
    simp only [Gwd.live, tmNext, dmRest]
    cases s.tmQueue with
    | nil => exact same rfl
    | cons x rest => exact onJob_dmQueue ..
  case request q j => exact ⟨_, rfl⟩
  case submit msg => exact ⟨_, rfl⟩
  case scheduleJob j hid queue rank w =>
    simp only [Gwd.live, scheduleJob, dmRest]
    cases s.hosts hid with
    | none => exact same rfl
    | some host => exact onJob_dmQueue ..
  case emReload mad j =>
    simp only [Gwd.live, emRecover, dmRest]
    repeat' split
    all_goals exact same rfl
  case dmReload j =>
    simp only [Gwd.live, dmRecover, dmRest]
    repeat' split
    all_goals exact same rfl
  case checkUser u period =>
    simp only [Gwd.live, checkUser, dmRest]
    repeat' split
    all_goals exact same rfl
  case hostAllocate hid host =>
    simp only [Gwd.live, hostAllocate, dmRest]
    split <;> exact same rfl
  case hostUpdate hid info =>
    simp only [Gwd.live, hostUpdate, dmRest]
    split <;> exact same rfl
  all_goals first
    | exact onJob_dmQueue ..
    | exact same rfl

end Steps

end Gwd

end GridWay
