import GridWay.Dm.Rows
import GridWay.Gwd.Turn

/-!
# Rows of the hosts

The rows of a host move by the changes that the calls of a handler name. Active jobs are moved by
the Execution Manager; the timers, the messages and the Transfer Manager move nothing.

* `Gwd.reply_credited`: the rows of a host after a reply.
* `Em.handle_rows`: what an action of the Execution Manager moves.
* `Gwd.happens_step`: the events, for the jobs and the hosts.
-/

namespace GridWay

/-- A reply that moves no row and leaves the execution as it is. -/
def Still (job : Job) (r : Reply) : Prop :=
  rowCalls r.calls = [] ∧ r.job.emState = job.emState

namespace Em

variable {w : World} {job : Job}

/-- The actions after which the execution has become active or has stopped being so. -/
def flips (a : EmAction) (st : EmState) : Bool :=
  match a with
  | .submit | .pending | .suspended | .done | .failed => st == .active
  | .active => st != .active
  | .cancel => false

@[simp] lemma retryCancel_rows : rowCalls (retryCancel job) = [] := by
  unfold retryCancel
  split <;> simp

@[simp] lemma leaveActive_rows {head : HistoryRecord} : rowCalls (leaveActive job head) =
    if job.emState = .active then [((.active, head.host, head.queue), -1)] else [] := by
  unfold leaveActive
  split <;> simp

/-- The row of the newest record, moved when the execution starts or stops being active. -/
def headRow (job : Job) (n : Int) : List (RowKey × Int) :=
  (job.places.take 1).map fun p => (p.row .active, n)

/-- A submission forgets that an execution was active. -/
lemma submit_rows (job : Job) : rowCalls (submit w job).calls = [] ∧
    (job.places = [] ∨ (submit w job).job.emState ≠ .active) := by
  unfold submit
  cases hist : job.history with
  | nil => simp [Job.places, hist]
  | cons head past =>
    dsimp only
    split <;> simp

lemma cancel_still : Still job (cancel w job) := by
  unfold cancel
  split
  · simp [Still]
  · dsimp only
    repeat' split
    all_goals simp [Still]

/-- The reports that end the activity of an execution, when there was one. -/
def Leaves (job : Job) (r : Reply) : Prop :=
  r.job.emState ≠ .active ∧
    rowCalls r.calls = if job.emState = .active then headRow job (-1) else []

lemma pending_leaves (live : .fault ∉ (pending w job).calls) : Leaves job (pending w job) := by
  unfold pending at live ⊢
  split at live
  · rename_i em
    cases hist : job.history with
    | nil => simp [hist] at live
    | cons head past => simp [Leaves, em, headRow, Job.places, hist, Placement.row]
  · rename_i em
    simp [Leaves, em]

lemma suspended_leaves (live : .fault ∉ (suspended w job).calls) :
    Leaves job (suspended w job) := by
  unfold suspended at live ⊢
  split at live
  · rename_i em
    simp [Leaves, em]
  · split at live
    · rename_i em
      simp [Leaves, em]
    · rename_i new old
      cases hist : job.history with
      | nil => simp [hist] at live
      | cons head past => simp [Leaves, new, old, headRow, Job.places, hist, Placement.row]

lemma done_leaves (live : .fault ∉ (done w job).calls) : Leaves job (done w job) := by
  unfold done at live ⊢
  split at live
  · rename_i em
    simp [Leaves, em]
  · rename_i em
    rcases hist : job.history with _ | ⟨head, past⟩
    · simp [hist] at live
    · simp only [hist, em, if_false] at live ⊢
      split at live
      · rename_i st
        cases past with
        | nil => simp at live
        | cons prev older => simp [Leaves, st, headRow, Job.places, hist, Placement.row]
      · rename_i st
        simp [Leaves, st, headRow, Job.places, hist, Placement.row]

lemma failed_leaves (live : .fault ∉ (failed w job).calls) : Leaves job (failed w job) := by
  unfold failed at live ⊢
  cases hist : job.history with
  | nil => simp [hist] at live
  | cons head past =>
    dsimp only
    split <;> simp [Leaves, headRow, Job.places, hist, Placement.row]

lemma active_rows (live : .fault ∉ (active w job).calls) :
    (active w job).job.emState = .active ∧
      rowCalls (active w job).calls = if job.emState = .active then [] else headRow job 1 := by
  unfold active at live ⊢
  split at live
  · rename_i em
    simp [em]
  · rename_i em
    cases hist : job.history with
    | nil => simp [hist] at live
    | cons head past => simp [em, headRow, Job.places, hist, Placement.row]

/-- An action other than a submission moves the row of the newest record exactly when the execution
starts or stops being active. -/
theorem handle_rows {a : EmAction} (other : a ≠ .submit) (live : .fault ∉ (handle a w job).calls) :
    if flips a job.emState then
      ((handle a w job).job.emState = .active ↔ job.emState ≠ .active) ∧
        rowCalls (handle a w job).calls = headRow job (if job.emState = .active then -1 else 1)
    else
      ((handle a w job).job.emState = .active ↔ job.emState = .active) ∧
        rowCalls (handle a w job).calls = [] := by
  have leaves {r : Reply} (left : Leaves job r) :
      if job.emState == .active then
        (r.job.emState = .active ↔ job.emState ≠ .active) ∧
          rowCalls r.calls = headRow job (if job.emState = .active then -1 else 1)
      else (r.job.emState = .active ↔ job.emState = .active) ∧ rowCalls r.calls = [] := by
    by_cases em : job.emState = .active <;> simp [left.1, left.2, em]
  cases a with
  | submit => exact absurd rfl other
  | cancel =>
    have still : Still job (cancel w job) := cancel_still
    exact ⟨by rw [show (handle .cancel w job).job.emState = job.emState from still.2], still.1⟩
  | pending => exact leaves (pending_leaves (w := w) live)
  | suspended => exact leaves (suspended_leaves live)
  | done => exact leaves (done_leaves live)
  | failed => exact leaves (failed_leaves live)
  | active =>
    obtain ⟨now, rows⟩ := active_rows live
    simp only [handle, now, rows, flips]
    by_cases em : job.emState = .active <;> simp [em]

lemma timer_still : Still job (timer w job) := by
  unfold timer
  repeat' split
  all_goals simp [Still]

lemma report_still {job' : Job} {info : String} {onFailed : Job → Reply}
    (same : job'.emState = job.emState) (failed : ∀ job', job'.emState = job.emState →
      Still job (onFailed job')) : Still job (report info onFailed job') := by
  unfold report
  repeat' split
  all_goals first
    | exact failed job' same
    | exact ⟨rfl, same⟩

lemma listener_still (msg : Msg) : Still job (listener msg w job) := by
  have report {job' : Job} {info : String} {a : EmAction} (same : job'.emState = job.emState) :
      Still job (report info (fun job => ⟨job, [.em a]⟩) job') :=
    report_still same fun _ same => ⟨rfl, same⟩
  unfold listener
  split
  · exact ⟨rfl, rfl⟩
  · split
    · exact ⟨rfl, rfl⟩
    · unfold receive
      split
      · split <;> exact ⟨rfl, rfl⟩
      · exact ⟨rfl, rfl⟩
      · split
        · exact report rfl
        · unfold pollFailed
          split
          · exact ⟨rfl, rfl⟩
          · dsimp only
            split <;> exact ⟨rfl, rfl⟩
      · split
        · refine report_still rfl fun job' same => ?_
          unfold recoverFailed
          split <;> exact ⟨rfl, same⟩
        · exact ⟨rfl, rfl⟩
      · repeat' split
        · exact report rfl
        · exact ⟨rfl, rfl⟩
        · exact ⟨rfl, rfl⟩

end Em

namespace Tm

variable {w : World} {job : Job} {r : Reply}

lemma Own.still (own : Own job r) : Still job r := by
  refine ⟨List.filterMap_eq_nil_iff.2 fun c mem => ?_, own.emState⟩
  have transfer := own.of_mem mem
  cases c <;> first | rfl | simp at transfer

end Tm

namespace Dm

variable {w : World} {job : Job}

lemma uncheckJob_still : Still job (uncheckJob w job) := by
  unfold uncheckJob
  repeat' split
  all_goals exact ⟨rfl, rfl⟩

lemma checkJob_still : Still job (checkJob w job) := by
  refine ⟨?_, congrArg Side.emState checkJob_side⟩
  unfold checkJob
  split
  · have first : rowCalls (checkJobSuspension w job).calls = [] := by
      unfold checkJobSuspension
      repeat' split
      all_goals rfl
    have second (job : Job) : rowCalls (checkJobRescheduling w job).calls = [] := by
      unfold checkJobRescheduling
      repeat' split
      all_goals rfl
    simp [first, second]
  · rfl

end Dm

namespace Gwd

variable {w : World} {s s' : Gwd} {j : JobId} {r : Reply} {h : HostId} {xs ys : List (RowKey × Int)}

/-- A row after some changes. -/
def credit (xs : List (RowKey × Int)) (h : HostId) (row : QueueRow) : QueueRow :=
  { row with
    runningJobs := row.runningJobs + Tally.moved (· == (.running, h, row.name)) xs
    activeJobs := row.activeJobs + Tally.moved (· == (.active, h, row.name)) xs }

/-- The counters of running jobs of a host. -/
def runsOn (h : HostId) (k : RowKey) : Bool := k.1 == .running && k.2.1 == h

/-- A host after some changes. -/
structure Credited (xs : List (RowKey × Int)) (h : HostId) (host host' : Host) : Prop where
  queues : host'.queues = host.queues.map (credit xs h)
  runningJobs : host'.runningJobs = host.runningJobs + Tally.moved (runsOn h) xs

/-- Every queue of a host has a name of its own. -/
def Named (host : Host) : Prop := (host.queues.map (·.name)).Nodup

lemma credit_nil : credit [] h = id := by
  funext row
  simp [credit]

lemma credit_append : credit ys h ∘ credit xs h = credit (xs ++ ys) h := by
  funext row
  simp [credit, Int.add_assoc]

lemma Credited.rfl {host : Host} : Credited [] h host host where
  queues := by rw [credit_nil, List.map_id]
  runningJobs := by simp

lemma Credited.trans {host₁ host₂ host₃ : Host} (first : Credited xs h host₁ host₂)
    (second : Credited ys h host₂ host₃) : Credited (xs ++ ys) h host₁ host₃ where
  queues := by rw [second.queues, first.queues, List.map_map, credit_append]
  runningJobs := by rw [second.runningJobs, first.runningJobs, Tally.moved_append, Int.add_assoc]

lemma Credited.named {host host' : Host} (credited : Credited xs h host host')
    (named : Named host) : Named host' := by
  have names : host'.queues.map (·.name) = host.queues.map (·.name) := by
    rw [credited.queues, List.map_map]
    rfl
  rw [Named, names]
  exact named

/-- With names of their own, the first row of a name is the only one. -/
lemma onQueue_eq_map {f : QueueRow → QueueRow} {name : String} {rows : List QueueRow}
    (named : (rows.map (·.name)).Nodup) :
    onQueue f name rows = rows.map fun row => if row.name = name then f row else row := by
  induction rows with
  | nil => rfl
  | cons row rows ih =>
    obtain ⟨new, named⟩ := List.nodup_cons.1 named
    rw [onQueue, List.map_cons]
    split
    · rename_i same
      congr 1
      refine (List.map_id' rows).symm.trans (List.map_congr_left fun row' mem => (if_neg ?_).symm)
      intro same'
      exact new (List.mem_map.2 ⟨row', mem, same'.trans same.symm⟩)
    · rw [ih named]

/-- One change leaves the rows of the other queues. -/
lemma credit_other {c : Counter} {queue : String} {n : Int} {row : QueueRow}
    (other : row.name ≠ queue) : credit [((c, h, queue), n)] h row = row := by
  have away (c' : Counter) : ((c, h, queue) == (c', h, row.name)) = false := by
    simpa using fun _ same => other (Eq.symm same)
  simp [credit, away]

lemma onQueue_running {queue : String} {n : Int} {rows : List QueueRow}
    (named : (rows.map (·.name)).Nodup) :
    onQueue (fun r => { r with runningJobs := r.runningJobs + n }) queue rows =
      rows.map (credit [((.running, h, queue), n)] h) := by
  refine (onQueue_eq_map named).trans (List.map_congr_left fun row _ => ?_)
  by_cases same : row.name = queue
  · simp [credit, same]
  · rw [if_neg same, credit_other same]

lemma onQueue_active {queue : String} {n : Int} {rows : List QueueRow}
    (named : (rows.map (·.name)).Nodup) :
    onQueue (fun r => { r with activeJobs := r.activeJobs + n }) queue rows =
      rows.map (credit [((.active, h, queue), n)] h) := by
  refine (onQueue_eq_map named).trans (List.map_congr_left fun row _ => ?_)
  by_cases same : row.name = queue
  · simp [credit, same]
  · rw [if_neg same, credit_other same]

/-- An update of a host moves its rows by what the call says. -/
lemma apply_credited {host : Host} (named : Named host) (op : HostOp) :
    Credited (Call.host h op).row?.toList h host (host.apply op) := by
  cases op with
  | incSlots np queue => exact ⟨onQueue_running named, by simp [Host.apply, runsOn]⟩
  | decSlots np queue =>
    exact ⟨onQueue_running named, by simp [Host.apply, runsOn, Int.sub_eq_add_neg]⟩
  | decUslots np => exact ⟨by simp [Host.apply, credit_nil], by simp [Host.apply]⟩
  | incRjobs queue => exact ⟨onQueue_running named, by simp [Host.apply, runsOn]⟩
  | decRjobs queue =>
    exact ⟨onQueue_running named, by simp [Host.apply, runsOn, Int.sub_eq_add_neg]⟩
  | incAjobs queue => exact ⟨onQueue_active named, by simp [Host.apply, runsOn]⟩
  | decAjobs queue => exact ⟨onQueue_active named, by simp [Host.apply, runsOn]⟩

/-- The calls for another host leave a host alone. -/
lemma credited_other {host : Host} {i : HostId} {op : HostOp} (other : h ≠ i) :
    Credited (Call.host i op).row?.toList h host host := by
  have all : ∀ x ∈ (Call.host i op).row?.toList, x.1.2.1 ≠ h := by
    cases op <;> simp [Ne.symm other]
  have none {P : RowKey → Bool} (host : ∀ k, P k → k.2.1 = h) :
      Tally.moved P (Call.host i op).row?.toList = 0 := by
    cases change : (Call.host i op).row? with
    | none => rfl
    | some x =>
      have away : x.1.2.1 ≠ h := all x (by rw [change]; exact List.mem_singleton_self x)
      have out : P x.1 = false := by
        by_contra counted
        exact away (host _ (by simpa using counted))
      simp [out]
  refine ⟨?_, by rw [none fun k => by simp [runsOn]]; simp⟩
  have same : credit (Call.host i op).row?.toList h = id := by
    funext row
    simp only [credit]
    rw [none fun k eq => by rw [eq_of_beq eq], none fun k eq => by rw [eq_of_beq eq]]
    simp
  rw [same, List.map_id]

/-- A call moves the rows of a host by what it says. -/
lemma call_credited {host : Host} (here : s.hosts h = some host) (named : Named host) (c : Call) :
    ∃ host', (call w j s c).hosts h = some host' ∧ Credited c.row?.toList h host host' := by
  cases c
  case host i op =>
    simp only [call, hostOp]
    by_cases same : h = i
    · subst same
      simp only [here, Function.update_self]
      exact ⟨_, rfl, apply_credited named op⟩
    · refine ⟨host, ?_, credited_other same⟩
      split
      · exact here
      · simpa [same] using here
  all_goals exact ⟨host, by simpa [call, incRunningJobs, decRunningJobs] using here, .rfl⟩

/-- A reply moves the rows of a host by what its calls add up to. -/
lemma reply_credited {host : Host} (here : s.hosts h = some host) (named : Named host) :
    ∃ host', (reply w j r s).hosts h = some host' ∧ Credited (rowCalls r.calls) h host host' := by
  have all (cs : List Call) (s : Gwd) (host : Host) (here : s.hosts h = some host)
      (named : Named host) : ∃ host', (cs.foldl (call w j) s).hosts h = some host' ∧
        Credited (rowCalls cs) h host host' := by
    induction cs generalizing s host with
    | nil => exact ⟨host, here, .rfl⟩
    | cons c cs ih =>
      obtain ⟨host₁, here₁, first⟩ := call_credited (w := w) (j := j) here named c
      obtain ⟨host₂, here₂, rest⟩ := ih _ host₁ here₁ (first.named named)
      rw [rowCalls_cons]
      exact ⟨host₂, here₂, first.trans rest⟩
  exact all r.calls { s with jobs := Function.update s.jobs j (some r.job) } host here named

section Events

variable {e : Event}

/-- A change that leaves the jobs and the hosts alone. -/
structure Calm (s s' : Gwd) : Prop where
  conf : s'.conf = s.conf
  jobs : s'.jobs = s.jobs
  hosts : s'.hosts = s.hosts
  moves : ∀ i, (s.jobs i).isSome → s'.moves i = s.moves i

lemma Calm.of_eq (conf : s'.conf = s.conf) (jobs : s'.jobs = s.jobs) (hosts : s'.hosts = s.hosts)
    (queue : s'.dmQueue = s.dmQueue) : Calm s s' where
  conf := conf
  jobs := jobs
  hosts := hosts
  moves i _ := by simp only [Gwd.moves, queue]

/-- An entry that is no transition of a job in the pool comes or goes. -/
lemma Calm.of_moves {queue : List DmItem}
    (moves : ∀ i, (s.jobs i).isSome → ({ s with dmQueue := queue } : Gwd).moves i = s.moves i) :
    Calm s { s with dmQueue := queue } := ⟨rfl, rfl, rfl, moves⟩

/-- The daemon after the entry of a turn was taken has the same jobs and hosts. -/
lemma Takes.same {t : Turn} {s₁ : Gwd} (takes : Takes s j e t w s₁) :
    s₁.conf = s.conf ∧ s₁.jobs = s.jobs ∧ s₁.hosts = s.hosts := by
  cases takes <;> exact ⟨rfl, rfl, rfl⟩

/-- The other jobs keep their transitions when the entry of a turn is taken. -/
lemma Takes.moves_other {t : Turn} {s₁ : Gwd} {i : JobId} (takes : Takes s j e t w s₁)
    (other : i ≠ j) : s₁.moves i = s.moves i := by
  cases takes with
  | dm queue => exact moves_taken_other queue other
  | _ => rfl

/-- What an event is for the jobs and the hosts. -/
inductive Happens (s : Gwd) (e : Event) : Gwd → Prop
  | turn {j : JobId} {job : Job} {t : Turn} {w : World} {s₁ : Gwd} (here : s.jobs j = some job)
      (takes : Takes s j e t w s₁) :
      Happens s e (reply w j (t.handler (s.world w) job) s₁)
  | submit {wS : SubmitWorld} {msg rest} (same : e = .dm wS)
      (queue : s.dmQueue = .allocate msg :: rest) :
      Happens s e (({ s with dmQueue := rest } : Gwd).allocate wS msg)
  | host {hid host} (same : e = .hostAllocate hid host) : Happens s e (s.hostAllocate hid host)
  | report {hid info} (same : e = .hostUpdate hid info) : Happens s e (s.hostUpdate hid info)
  | calm {s' : Gwd} (calm : Calm s s') : Happens s e s'

lemma Happens.nothing : Happens s e s := .calm (.of_eq rfl rfl rfl rfl)

/-- A visit of a job is a turn of it, when there is one. -/
lemma Happens.visit {f : World → Job → Reply} {t : Turn} (takes : Takes s j e t w s)
    (handler : t.handler = f) : Happens s e (onJob w j f s) := by
  subst handler
  unfold onJob
  cases here : s.jobs j with
  | none => exact .nothing
  | some job => exact .turn here takes

lemma happens_dm (wS : SubmitWorld) : Happens s (.dm wS) (s.dmNext wS) := by
  unfold dmNext
  rcases queue : s.dmQueue with _ | ⟨⟨a, j⟩ | msg, rest⟩
  · exact .nothing
  · cases here : s.jobs j with
    | none =>
      simp only [here]
      refine .calm ⟨rfl, rfl, rfl, fun i there => ?_⟩
      have other : i ≠ j := by
        rintro rfl
        rw [here] at there
        cases there
      exact moves_taken_other queue other
    | some job =>
      have takes : Takes s j (.dm wS) (.dm a) wS.world { s with dmQueue := rest } := .dm queue
      have turn := Happens.turn here takes
      simpa [onJob, here, Turn.handler, world] using turn
  · exact .submit rfl queue

lemma happens_em (w : World) : Happens s (.em w) (s.emNext w) := by
  unfold emNext
  rcases queue : s.emQueue with _ | ⟨⟨a, j⟩, rest⟩
  · exact .nothing
  · cases here : s.jobs j with
    | none =>
      simp only [onJob, here]
      exact .calm (.of_eq rfl rfl rfl rfl)
    | some job =>
      have turn := Happens.turn here (Takes.em (w := w) queue)
      simpa [onJob, here, Turn.handler, world] using turn

lemma happens_tm (w : World) : Happens s (.tm w) (s.tmNext w) := by
  unfold tmNext
  rcases queue : s.tmQueue with _ | ⟨⟨a, j⟩, rest⟩
  · exact .nothing
  · cases here : s.jobs j with
    | none =>
      simp only [onJob, here]
      exact .calm (.of_eq rfl rfl rfl rfl)
    | some job =>
      have turn := Happens.turn here (Takes.tm (w := w) queue)
      simpa [onJob, here, Turn.handler, world] using turn

/-- A step is a turn of a job, a submission, a new host, a report of a host, or leaves the jobs and
the hosts alone. -/
theorem happens_step (s : Gwd) (e : Event) : Happens s e (s.step e) := by
  unfold step
  split
  · exact .nothing
  · cases e with
    | dm wS => exact happens_dm wS
    | em w => exact happens_em w
    | tm w => exact happens_tm w
    | request r j =>
      exact .calm (.of_moves fun i _ => moves_append _ (by simp [DmItem.move?, request_not_move]))
    | submit msg => exact .calm (.of_moves fun i _ => moves_append _ rfl)
    | emMsg j msg w => exact .visit .emMsg rfl
    | tmMsg j msg w => exact .visit .tmMsg rfl
    | scheduleJob j hid queue rank w =>
      simp only [Gwd.live, scheduleJob]
      cases there : s.hosts hid with
      | none => exact .nothing
      | some host => exact .visit (.dispatch there) rfl
    | scheduleFailed j w => exact .visit .uncheck rfl
    | scheduleEnd => exact .calm (.of_eq rfl rfl rfl rfl)
    | schedule => exact .calm (.of_eq rfl rfl rfl rfl)
    | checkJob j w => exact .visit .check rfl
    | emTimer j w => exact .visit .emTimer rfl
    | tmTimer j w => exact .visit .tmTimer rfl
    | emReload mad j =>
      simp only [Gwd.live, emRecover]
      repeat' split
      all_goals exact .calm (.of_eq rfl rfl rfl rfl)
    | tmReload j w => exact .visit .tmReload rfl
    | dmReload j =>
      simp only [Gwd.live, dmRecover]
      repeat' split
      all_goals exact .calm (.of_eq rfl rfl rfl rfl)
    | checkUser u period =>
      simp only [Gwd.live, checkUser]
      repeat' split
      all_goals exact .calm (.of_eq rfl rfl rfl rfl)
    | hostAllocate hid host => exact .host rfl
    | hostUpdate hid info => exact .report rfl

end Events

end Gwd

end GridWay
