import GridWay.Gwd.Frame
import GridWay.Gwd.Neutral
import GridWay.Dm.Marks

/-!
# What a step of the daemon changes

Every invariant about the lifecycle of the jobs looks at few events: a handler of the Dispatch
Manager, a dispatch, a submission and a reloaded transfer driver. All other events are quiet.

* `Gwd.moves`: the transitions of a job that wait in the queue of the Dispatch Manager.
* `Gwd.Quiet`: a change that leaves the lifecycle of all jobs alone.
* `Gwd.step_cases`: the change made by an event.
-/

namespace GridWay

/-- What the lifecycle sees of a job. -/
structure Face where
  core : Job.Core
  state : JobState
  restarted : Nat

/-- The face of a job. -/
def Job.face (job : Job) : Face := ⟨job.core, job.jobState, job.restarted⟩

/-- The persistent files of a job without its contact. -/
def JobDir.log (dir : JobDir) : JobDir := { dir with contact := none }

/-- The transition of job `j` in an entry of the queue. -/
def DmItem.move? (j : JobId) : DmItem → Option DmAction
  | .job a i => if i = j ∧ a.isTransition then some a else none
  | .allocate _ => none

namespace Gwd

variable {w : World} {s s' : Gwd} {i j : JobId}

/-- The transitions of a job that wait, oldest first. -/
def moves (s : Gwd) (j : JobId) : List DmAction := s.dmQueue.filterMap (DmItem.move? j)

/-- The requests that were granted, oldest first. -/
def granted (s : Gwd) : List (RmAction × JobId) := s.answers.filter fun x => x.1.grants

@[simp] lemma filterMap_move_self (j : JobId) (as : List DmAction) :
    (as.map (DmItem.job · j)).filterMap (DmItem.move? j) = as.filter DmAction.isTransition := by
  induction as with
  | nil => rfl
  | cons a as ih => cases h : a.isTransition <;> simp_all [DmItem.move?]

lemma filterMap_move_other {i j : JobId} (other : i ≠ j) (as : List DmAction) :
    (as.map (DmItem.job · j)).filterMap (DmItem.move? i) = [] := by
  induction as with
  | nil => rfl
  | cons a as ih => simp_all [DmItem.move?, Ne.symm other]

/-- A reply queues the transitions of its own job only. -/
lemma reply_moves_self (w : World) (j : JobId) (r : Reply) (s : Gwd) :
    (reply w j r s).moves j = s.moves j ++ (dmCalls r.calls).filter DmAction.isTransition := by
  rw [moves, reply_dmQueue, List.filterMap_append, filterMap_move_self]
  rfl

lemma reply_moves_other (w : World) (r : Reply) (s : Gwd) (other : i ≠ j) :
    (reply w j r s).moves i = s.moves i := by
  simp only [moves, reply_dmQueue, List.filterMap_append, filterMap_move_other other,
    List.append_nil]

/-- A change that leaves the lifecycle of all jobs alone. -/
structure Quiet (s s' : Gwd) : Prop where
  conf : s'.conf = s.conf
  nextJobId : s'.nextJobId = s.nextJobId
  jobs : ∀ i, (s'.jobs i).map Job.face = (s.jobs i).map Job.face
  moves : ∀ i, (s.jobs i).isSome → s'.moves i = s.moves i
  still : ∀ i, s.moves i = [] → s'.moves i = []
  used : ∀ h, s'.used h = s.used h
  hosts : ∀ h, (s.hosts h).isSome → (s'.hosts h).isSome
  granted : s'.granted = s.granted
  deps : s'.deps = s.deps
  logs : ∀ i, (s'.dirs i).map JobDir.log = (s.dirs i).map JobDir.log
  alive : s'.crashed = false → s.crashed = false

namespace Quiet

lemma rfl {s : Gwd} : Quiet s s :=
  ⟨Eq.refl _, Eq.refl _, fun _ => Eq.refl _, fun _ _ => Eq.refl _, fun _ => id, fun _ => Eq.refl _,
    fun _ => id, Eq.refl _, Eq.refl _, fun _ => Eq.refl _, id⟩

/-- A quiet change keeps the jobs that there are. -/
lemma isSome (h : Quiet s s') (i : JobId) : (s'.jobs i).isSome = (s.jobs i).isSome := by
  have same := congrArg Option.isSome (h.jobs i)
  simpa using same

lemma trans {s₁ s₂ s₃ : Gwd} (h : Quiet s₁ s₂) (h' : Quiet s₂ s₃) : Quiet s₁ s₃ where
  conf := h'.conf.trans h.conf
  nextJobId := h'.nextJobId.trans h.nextJobId
  jobs i := (h'.jobs i).trans (h.jobs i)
  moves i here := (h'.moves i (by rw [h.isSome]; exact here)).trans (h.moves i here)
  still i := h'.still i ∘ h.still i
  used i := (h'.used i).trans (h.used i)
  hosts i := h'.hosts i ∘ h.hosts i
  granted := h'.granted.trans h.granted
  deps := h'.deps.trans h.deps
  logs i := (h'.logs i).trans (h.logs i)
  alive := h.alive ∘ h'.alive

/-- A job after a quiet change was there before, with the same face. -/
lemma job_before (h : Quiet s s') {job' : Job} (here : s'.jobs i = some job') :
    ∃ job, s.jobs i = some job ∧ job'.face = job.face := by
  have same := h.jobs i
  rw [here, Option.map_some] at same
  obtain ⟨job, before, face⟩ := Option.map_eq_some_iff.1 same.symm
  exact ⟨job, before, face.symm⟩

lemma job_after (h : Quiet s s') {job : Job} (here : s.jobs i = some job) :
    ∃ job', s'.jobs i = some job' ∧ job'.face = job.face := by
  have same := h.jobs i
  rw [here, Option.map_some] at same
  exact Option.map_eq_some_iff.1 same

end Quiet

lemma Neutral.face {cbs : List DmAction} {job : Job} {r : Reply} (h : Neutral cbs job r) :
    r.job.face = job.face := by
  simp only [Job.face, h.core, h.state, h.restarted]

/-- The callbacks are not transitions. -/
lemma filter_callbacks {cbs as : List DmAction} (sub : ∀ a ∈ as, a ∈ cbs)
    (callbacks : ∀ a ∈ cbs, a.isTransition = false) : as.filter DmAction.isTransition = [] :=
  List.filter_eq_nil_iff.2 fun a mem => by simp [callbacks a (sub a mem)]

section Neutral

variable {cbs : List DmAction} {c : Call}

/-- What quiet calls keep, a neutral reply keeps. -/
lemma neutral_keeps {γ : Type*} {π : Gwd → γ} {job : Job} {r : Reply}
    (h : ∀ s c, c.quiet cbs = true → π (call w j s c) = π s) (neutral : Neutral cbs job r)
    (start : π { s with jobs := Function.update s.jobs j (some r.job) } = π s) :
    π (reply w j r s) = π s := by
  have all (cs : List Call) (s : Gwd) (quiet : ∀ c ∈ cs, c.quiet cbs = true) :
      π (cs.foldl (call w j) s) = π s := by
    induction cs generalizing s with
    | nil => rfl
    | cons c cs ih =>
      rw [List.foldl_cons, ih _ fun c mem => quiet c (List.mem_cons_of_mem _ mem)]
      exact h s c (quiet c List.mem_cons_self)
  exact (all r.calls _ fun c mem => neutral.of_mem mem).trans start

lemma neutral_users {job : Job} {r : Reply} (neutral : Neutral cbs job r) :
    (reply w j r s).users = s.users :=
  neutral_keeps (π := Gwd.users) (fun s c quiet => by cases c <;> simp [call] at quiet ⊢) neutral rfl

lemma neutral_answers {job : Job} {r : Reply} (neutral : Neutral cbs job r) :
    (reply w j r s).answers = s.answers :=
  neutral_keeps (π := Gwd.answers) (fun s c quiet => by cases c <;> simp [call] at quiet ⊢) neutral
    rfl

lemma neutral_deps {job : Job} {r : Reply} (neutral : Neutral cbs job r) :
    (reply w j r s).deps = s.deps :=
  neutral_keeps (π := Gwd.deps) (fun s c quiet => by cases c <;> simp [call] at quiet ⊢) neutral rfl

/-- Storing a contact is no entry of the log. -/
lemma contact_logs (s : Gwd) (j i : JobId) (text : String) :
    ((s.onDir j fun dir => { dir with contact := some text }).dirs i).map JobDir.log =
      (s.dirs i).map JobDir.log := by
  unfold onDir
  cases here : s.dirs j with
  | none => rfl
  | some dir =>
    by_cases same : i = j
    · subst same
      simp [here, JobDir.log]
    · simp [same]

lemma neutral_logs {job : Job} {r : Reply} (neutral : Neutral cbs job r) (i : JobId) :
    ((reply w j r s).dirs i).map JobDir.log = (s.dirs i).map JobDir.log := by
  refine neutral_keeps (π := fun s => (s.dirs i).map JobDir.log) (fun s c quiet => ?_) neutral rfl
  cases c
  case contact text => exact contact_logs s j i text
  all_goals simp [call] at quiet ⊢

end Neutral

/-- A neutral reply is a quiet change. -/
lemma quiet_reply {cbs : List DmAction} {job : Job} {r : Reply} (here : s.jobs j = some job)
    (neutral : Neutral cbs job r) (callbacks : ∀ a ∈ cbs, a.isTransition = false)
    (live : (reply w j r s).crashed = false) : Quiet s (reply w j r s) := by
  have moves (i : JobId) : (reply w j r s).moves i = s.moves i := by
    by_cases same : i = j
    · subst same
      rw [reply_moves_self, filter_callbacks (fun _ => neutral.mem_dmCalls) callbacks,
        List.append_nil]
    · exact reply_moves_other w r s same
  exact
  { conf := by simp
    nextJobId := by simp
    jobs := fun i => by
      by_cases same : i = j
      · subst same
        rw [reply_self (.inr neutral.calm), if_neg neutral.free, here]
        simp [Neutral.face neutral]
      · rw [reply_other_calm same neutral.calm]
    moves := fun i _ => moves i
    still := fun i none => (moves i).trans none
    used := fun h => by rw [reply_used live, neutral.slots]; simp
    hosts := fun h => by rw [reply_hosts_isSome]; exact id
    granted := by rw [Gwd.granted, neutral_answers neutral, Gwd.granted]
    deps := neutral_deps neutral
    logs := neutral_logs neutral
    alive := fun _ => (reply_live live).1 }

/-- A neutral handler is a quiet change, also when there is no job. -/
lemma quiet_onJob {cbs : List DmAction} {f : World → Job → Reply}
    (neutral : ∀ w job, Neutral cbs job (f w job)) (callbacks : ∀ a ∈ cbs, a.isTransition = false)
    (live : (onJob w j f s).crashed = false) : Quiet s (onJob w j f s) := by
  unfold onJob at live ⊢
  cases here : s.jobs j with
  | none => exact .rfl
  | some job =>
    simp only [here] at live ⊢
    exact quiet_reply here (neutral _ _) callbacks live

/-- Fields that the lifecycle does not look at may change. -/
lemma quiet_of_eq (conf : s'.conf = s.conf) (next : s'.nextJobId = s.nextJobId)
    (jobs : s'.jobs = s.jobs) (moves : ∀ i, s'.moves i = s.moves i) (hosts : s'.hosts = s.hosts)
    (crashed : s'.crashed = s.crashed) (answers : s'.answers = s.answers) (deps : s'.deps = s.deps)
    (dirs : s'.dirs = s.dirs) : Quiet s s' where
  conf := conf
  nextJobId := next
  jobs i := by rw [jobs]
  moves i _ := moves i
  still i none := (moves i).trans none
  used h := by simp only [used, hosts]
  hosts h := by rw [hosts]; exact id
  granted := by simp only [Gwd.granted, answers]
  deps := deps
  logs i := by rw [dirs]
  alive := by rw [crashed]; exact id

lemma emCallbacks_not_moves : ∀ a ∈ emCallbacks, a.isTransition = false := by decide

lemma tmCallbacks_not_moves : ∀ a ∈ tmCallbacks, a.isTransition = false := by decide

/-- Taking an entry without a transition from the queue. -/
lemma moves_pop {item : DmItem} {rest : List DmItem} (queue : s.dmQueue = item :: rest)
    (still : item.move? i = none) : ({ s with dmQueue := rest } : Gwd).moves i = s.moves i := by
  simp [moves, queue, still]

lemma neutral_onJob_users {cbs : List DmAction} {f : World → Job → Reply}
    (neutral : ∀ w job, Neutral cbs job (f w job)) : (onJob w j f s).users = s.users := by
  unfold onJob
  cases s.jobs j with
  | none => rfl
  | some job => exact neutral_users (neutral _ _)

/-- A quiet change that leaves the users alone. -/
def Silent (s s' : Gwd) : Prop := Quiet s s' ∧ s'.users = s.users

lemma silent_onJob {cbs : List DmAction} {f : World → Job → Reply}
    (neutral : ∀ w job, Neutral cbs job (f w job)) (callbacks : ∀ a ∈ cbs, a.isTransition = false)
    (live : (onJob w j f s).crashed = false) : Silent s (onJob w j f s) :=
  ⟨quiet_onJob neutral callbacks live, neutral_onJob_users neutral⟩

lemma silent_of_eq (conf : s'.conf = s.conf) (next : s'.nextJobId = s.nextJobId)
    (jobs : s'.jobs = s.jobs) (moves : ∀ i, s'.moves i = s.moves i) (hosts : s'.hosts = s.hosts)
    (crashed : s'.crashed = s.crashed) (answers : s'.answers = s.answers) (deps : s'.deps = s.deps)
    (dirs : s'.dirs = s.dirs) (users : s'.users = s.users) : Silent s s' :=
  ⟨quiet_of_eq conf next jobs moves hosts crashed answers deps dirs, users⟩

lemma Silent.trans {s₁ s₂ s₃ : Gwd} (h : Silent s₁ s₂) (h' : Silent s₂ s₃) : Silent s₁ s₃ :=
  ⟨h.1.trans h'.1, h'.2.trans h.2⟩

lemma moves_append (item : DmItem) (still : item.move? i = none) :
    ({ s with dmQueue := s.dmQueue ++ [item] } : Gwd).moves i = s.moves i := by
  simp [moves, still]

lemma request_not_move (r : Request) : r.action.isTransition = false := by cases r <;> rfl

lemma silent_emNext (live : (s.emNext w).crashed = false) : Silent s (s.emNext w) := by
  unfold emNext at live ⊢
  rcases queue : s.emQueue with _ | ⟨⟨a, j⟩, rest⟩
  · exact ⟨.rfl, rfl⟩
  · simp only [queue] at live ⊢
    have popped : Silent s { s with emQueue := rest } :=
      silent_of_eq rfl rfl rfl (fun _ => rfl) rfl rfl rfl rfl rfl rfl
    exact popped.trans (silent_onJob (Em.handle_neutral a) emCallbacks_not_moves live)

lemma silent_tmNext (live : (s.tmNext w).crashed = false) : Silent s (s.tmNext w) := by
  unfold tmNext at live ⊢
  rcases queue : s.tmQueue with _ | ⟨⟨a, j⟩, rest⟩
  · exact ⟨.rfl, rfl⟩
  · simp only [queue] at live ⊢
    have popped : Silent s { s with tmQueue := rest } :=
      silent_of_eq rfl rfl rfl (fun _ => rfl) rfl rfl rfl rfl rfl rfl
    exact popped.trans (silent_onJob (Tm.handle_neutral a) tmCallbacks_not_moves live)

lemma silent_emRecover (mad : String) : Silent s (s.emRecover mad j) := by
  unfold emRecover
  repeat' split
  all_goals exact silent_of_eq rfl rfl rfl (fun _ => rfl) rfl rfl rfl rfl rfl rfl

lemma silent_dmRecover : Silent s (s.dmRecover j) := by
  unfold dmRecover
  repeat' split
  all_goals exact silent_of_eq rfl rfl rfl (fun _ => rfl) rfl rfl rfl rfl rfl rfl

lemma quiet_checkUser (period : Int) (u : UserId) : Quiet s (s.checkUser period u) := by
  unfold checkUser
  repeat' split
  all_goals exact quiet_of_eq rfl rfl rfl (fun _ => rfl) rfl rfl rfl rfl rfl

/-- A host that changes without its slots. -/
lemma silent_hosts {hid : HostId} {host : Host} (slots : host.usedSlots = s.used hid) :
    Silent s { s with hosts := Function.update s.hosts hid (some host) } where
  left :=
    { conf := rfl
      nextJobId := rfl
      jobs := fun _ => rfl
      moves := fun _ _ => rfl
      still := fun _ => id
      used := fun h => by
        by_cases same : h = hid
        · subst same
          simpa [used] using slots
        · simp [used, same]
      hosts := fun h here => by
        by_cases same : h = hid
        · simp [same]
        · simpa [same] using here
      granted := rfl
      deps := rfl
      logs := fun _ => rfl
      alive := id }
  right := rfl

lemma silent_hostAllocate (hid : HostId) (host : Host) : Silent s (s.hostAllocate hid host) := by
  unfold hostAllocate
  cases here : s.hosts hid with
  | none => exact silent_hosts (by simp [used, here])
  | some _ => exact ⟨.rfl, rfl⟩

lemma silent_hostUpdate (hid : HostId) (info : Host) : Silent s (s.hostUpdate hid info) := by
  unfold hostUpdate
  cases here : s.hosts hid with
  | none => exact ⟨.rfl, rfl⟩
  | some host => exact silent_hosts (by simp [used, here])

/-- The lifecycle of the jobs changes in four ways only: a handler of the Dispatch Manager runs, a
submission is served, a job is dispatched, or a transfer driver is reloaded. -/
theorem step_cases {e : Event} (alive : s.crashed = false) (live : (s.step e).crashed = false) :
    (Quiet s (s.step e) ∧ ((s.step e).users = s.users ∨ ∃ u period, e = .checkUser u period)) ∨
    (∃ wS a j rest job, e = .dm wS ∧ s.dmQueue = .job a j :: rest ∧ s.jobs j = some job ∧
      s.step e =
        reply wS.world j (Dm.handle a (s.world wS.world) job) { s with dmQueue := rest }) ∨
    (∃ wS msg rest, e = .dm wS ∧ s.dmQueue = .allocate msg :: rest ∧
      s.step e = ({ s with dmQueue := rest } : Gwd).allocate wS msg) ∨
    (∃ j hid queue rank w host job, e = .scheduleJob j hid queue rank w ∧
      s.hosts hid = some host ∧ s.jobs j = some job ∧
      s.step e = reply w j (Dm.dispatchJob hid host rank queue (s.world w) job) s) ∨
    ∃ j w job, e = .tmReload j w ∧ s.jobs j = some job ∧
      s.step e = reply w j (Tm.recover (s.world w) job) s := by
  have quiet (h : Silent s (s.step e)) :
      Quiet s (s.step e) ∧
        ((s.step e).users = s.users ∨ ∃ u period, e = .checkUser u period) := ⟨h.1, .inl h.2⟩
  have step_eq : s.step e = s.live e := by simp [step, alive]
  rw [step_eq] at live quiet ⊢
  cases e
  case dm wS =>
    simp only [Gwd.live] at live quiet ⊢
    unfold dmNext at live quiet ⊢
    rcases queue : s.dmQueue with _ | ⟨⟨a, j⟩ | msg, rest⟩
    · exact .inl ⟨.rfl, .inl rfl⟩
    · simp only [queue] at live quiet ⊢
      cases here : s.jobs j with
      | none =>
        refine .inl ⟨?_, .inl rfl⟩
        exact
        { conf := rfl
          nextJobId := rfl
          jobs := fun _ => rfl
          moves := fun i there => by
            have other : j ≠ i := by rintro rfl; simp [here] at there
            simp [moves, queue, DmItem.move?, other]
          still := fun i none => by
            simp only [moves, queue, List.filterMap_cons] at none ⊢
            split at none
            · exact none
            · cases none
          used := fun _ => rfl
          hosts := fun _ => id
          granted := by
            have none : (Dm.noJob a).filter RmAction.grants = [] := by cases a <;> rfl
            simp only [granted, List.filter_append, List.filter_map, Function.comp_def, none,
              List.map_nil, List.append_nil]
          deps := rfl
          logs := fun _ => rfl
          alive := id }
      | some job =>
        right; left
        exact ⟨wS, a, j, rest, job, rfl, rfl, here, by simp [onJob, here, world]⟩
    · right; right; left
      exact ⟨wS, msg, rest, rfl, rfl, by simp only⟩
  case em w => exact .inl (quiet (silent_emNext live))
  case tm w => exact .inl (quiet (silent_tmNext live))
  case request r j =>
    exact .inl (quiet (silent_of_eq rfl rfl rfl (fun _ => moves_append _ (by
      simp [DmItem.move?, request_not_move])) rfl rfl rfl rfl rfl rfl))
  case submit msg =>
    exact .inl (quiet (silent_of_eq rfl rfl rfl (fun _ => moves_append _ rfl) rfl rfl rfl rfl rfl rfl))
  case emMsg j msg w =>
    exact .inl (quiet (silent_onJob (Em.listener_neutral msg) emCallbacks_not_moves live))
  case tmMsg j msg w =>
    exact .inl (quiet (silent_onJob (Tm.listener_neutral msg) tmCallbacks_not_moves live))
  case scheduleJob j hid queue rank w =>
    simp only [Gwd.live] at live quiet ⊢
    unfold scheduleJob onJob at live quiet ⊢
    cases host : s.hosts hid with
    | none => exact .inl ⟨.rfl, .inl rfl⟩
    | some host' =>
      cases here : s.jobs j with
      | none => exact .inl ⟨.rfl, .inl rfl⟩
      | some job =>
        right; right; right; left
        exact ⟨j, hid, queue, rank, w, host', job, rfl, host, here, rfl⟩
  case scheduleFailed j w =>
    exact .inl (quiet (silent_onJob (fun _ _ => Dm.uncheckJob_neutral) (by simp) live))
  case scheduleEnd => exact .inl (quiet (silent_of_eq rfl rfl rfl (fun _ => rfl) rfl rfl rfl rfl rfl rfl))
  case schedule => exact .inl (quiet (silent_of_eq rfl rfl rfl (fun _ => rfl) rfl rfl rfl rfl rfl rfl))
  case checkJob j w =>
    exact .inl (quiet (silent_onJob (fun _ _ => Dm.checkJob_neutral) (by simp) live))
  case emTimer j w =>
    exact .inl (quiet (silent_onJob (fun _ _ => Em.timer_neutral) emCallbacks_not_moves live))
  case tmTimer j w =>
    exact .inl (quiet (silent_onJob Tm.timer_neutral tmCallbacks_not_moves live))
  case emReload mad j => exact .inl (quiet (silent_emRecover mad))
  case tmReload j w =>
    simp only [Gwd.live] at live quiet ⊢
    unfold onJob at live quiet ⊢
    cases here : s.jobs j with
    | none => exact .inl ⟨.rfl, .inl rfl⟩
    | some job =>
      right; right; right; right
      exact ⟨j, w, job, rfl, here, rfl⟩
  case dmReload j => exact .inl (quiet silent_dmRecover)
  case checkUser u period => exact .inl ⟨quiet_checkUser period u, .inr ⟨u, period, rfl⟩⟩
  case hostAllocate hid host => exact .inl (quiet (silent_hostAllocate hid host))
  case hostUpdate hid info => exact .inl (quiet (silent_hostUpdate hid info))

end Gwd

end GridWay
