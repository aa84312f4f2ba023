import GridWay.Gwd.Above
import GridWay.Gwd.Pool
import GridWay.Lib.Inbox

/-!
# Turns

A handler that runs for a job is a turn of that job. Seen from one job, a step is a turn of the
job, an entry that a reload of its execution driver makes for it, or something that leaves the
job, its entries in the queues and its messages to the drivers alone.

* `Gwd.Takes`: the events that give a job a turn.
* `Gwd.turn_cases`: the three cases.
* `Gwd.absent_step`: a job that is not there gets requests only.
-/

namespace GridWay

/-- A handler that runs for a job. -/
inductive Turn where
  | dm (a : DmAction)
  | em (a : EmAction)
  | tm (a : TmAction)
  | emMsg (msg : Em.Msg)
  | tmMsg (msg : Tm.Msg)
  | dispatch (hid : HostId) (host : Host) (queue : String) (rank : Int)
  | uncheck
  | check
  | emTimer
  | tmTimer
  | tmReload

/-- The handler of a turn. -/
def Turn.handler : Turn → World → Job → Reply
  | .dm a => Dm.handle a
  | .em a => Em.handle a
  | .tm a => Tm.handle a
  | .emMsg msg => Em.listener msg
  | .tmMsg msg => Tm.listener msg
  | .dispatch hid host queue rank => Dm.dispatchJob hid host rank queue
  | .uncheck => Dm.uncheckJob
  | .check => Dm.checkJob
  | .emTimer => Em.timer
  | .tmTimer => Tm.timer
  | .tmReload => Tm.recover

/-- The job and the action of an entry of the queue of the Dispatch Manager. -/
def DmItem.job? : DmItem → Option (JobId × DmAction)
  | .job a j => some (j, a)
  | .allocate _ => none

/-- The request that a call writes to an execution driver. -/
@[simp] def Call.emReq? : Call → Option EmReq
  | .emMad _ r => some r
  | _ => none

/-- The request that a call writes to a transfer driver. -/
@[simp] def Call.tmReq? : Call → Option TmReq
  | .tmMad _ r => some r
  | _ => none

/-- The requests that a reply writes to the execution drivers. -/
def emReqs (cs : List Call) : List EmReq := cs.filterMap Call.emReq?

/-- The requests that a reply writes to the transfer drivers. -/
def tmReqs (cs : List Call) : List TmReq := cs.filterMap Call.tmReq?

/-- The job and the action of an entry of the other queues. -/
def ofPair {α : Type*} (x : α × JobId) : Option (JobId × α) := some (x.2, x.1)

/-- The job and the request of a line written to a driver. -/
def ofLine {α : Type*} (x : JobId × String × α) : Option (JobId × α) := some (x.1, x.2.2)

section Entries

variable {α : Type*} {j : JobId}

lemma entries_job (a : DmAction) (rest : List DmItem) :
    Inbox.entries DmItem.job? j (.job a j :: rest) = a :: Inbox.entries DmItem.job? j rest :=
  Inbox.entries_cons_self (f := DmItem.job?) rfl rest

lemma entries_ofPair (a : α) (rest : List (α × JobId)) :
    Inbox.entries ofPair j ((a, j) :: rest) = a :: Inbox.entries ofPair j rest :=
  Inbox.entries_cons_self (f := ofPair (α := α)) rfl rest

lemma entries_ofLine (mad : String) (a : α) (rest : List (JobId × String × α)) :
    Inbox.entries ofLine j ((j, mad, a) :: rest) = a :: Inbox.entries ofLine j rest :=
  Inbox.entries_cons_self (f := ofLine (α := α)) rfl rest

end Entries

section Calls

variable {c : Call} {cs cs' : List Call}

@[simp] lemma emReqs_nil : emReqs [] = [] := rfl
@[simp] lemma emReqs_append : emReqs (cs ++ cs') = emReqs cs ++ emReqs cs' := List.filterMap_append
@[simp] lemma emReqs_cons : emReqs (c :: cs) = c.emReq?.toList ++ emReqs cs := by
  cases h : c.emReq? <;> simp only [emReqs, List.filterMap_cons, h] <;> rfl

@[simp] lemma tmReqs_nil : tmReqs [] = [] := rfl
@[simp] lemma tmReqs_append : tmReqs (cs ++ cs') = tmReqs cs ++ tmReqs cs' := List.filterMap_append
@[simp] lemma tmReqs_cons : tmReqs (c :: cs) = c.tmReq?.toList ++ tmReqs cs := by
  cases h : c.tmReq? <;> simp only [tmReqs, List.filterMap_cons, h] <;> rfl

end Calls

namespace Gwd

variable {w : World} {s s' : Gwd} {i j : JobId} {job : Job} {e : Event}

/-- The actions of a job that wait at the Dispatch Manager. -/
def dmWaiting (s : Gwd) (j : JobId) : List DmAction := Inbox.entries DmItem.job? j s.dmQueue

/-- The actions of a job that wait at the Execution Manager. -/
def emWaiting (s : Gwd) (j : JobId) : List EmAction :=
  Inbox.entries ofPair j s.emQueue

/-- The actions of a job that wait at the Transfer Manager. -/
def tmWaiting (s : Gwd) (j : JobId) : List TmAction :=
  Inbox.entries ofPair j s.tmQueue

/-- What was written to the execution drivers for a job. -/
def emSent (s : Gwd) (j : JobId) : List EmReq :=
  Inbox.entries ofLine j s.toEm

/-- What was written to the transfer drivers for a job. -/
def tmSent (s : Gwd) (j : JobId) : List TmReq :=
  Inbox.entries ofLine j s.toTm

section Reply

variable (w : World) (j : JobId) (r : Reply) (s : Gwd)

lemma reply_dmWaiting : (reply w j r s).dmWaiting j = s.dmWaiting j ++ dmCalls r.calls := by
  rw [dmWaiting, reply_dmQueue, Inbox.entries_append, Inbox.entries_map_self (f := DmItem.job?) fun _ => rfl]
  rfl

lemma reply_dmWaiting_other (other : i ≠ j) : (reply w j r s).dmWaiting i = s.dmWaiting i := by
  rw [dmWaiting, reply_dmQueue, Inbox.entries_append,
    Inbox.entries_map_other (f := DmItem.job?) (fun _ => rfl) other, List.append_nil]
  rfl

lemma reply_emWaiting : (reply w j r s).emWaiting j = s.emWaiting j ++ emCalls r.calls := by
  rw [emWaiting, reply_emQueue, Inbox.entries_append, Inbox.entries_map_self (f := ofPair) fun _ => rfl]
  rfl

lemma reply_emWaiting_other (other : i ≠ j) : (reply w j r s).emWaiting i = s.emWaiting i := by
  rw [emWaiting, reply_emQueue, Inbox.entries_append,
    Inbox.entries_map_other (f := ofPair) (fun _ => rfl) other, List.append_nil]
  rfl

lemma reply_tmWaiting : (reply w j r s).tmWaiting j = s.tmWaiting j ++ tmCalls r.calls := by
  rw [tmWaiting, reply_tmQueue, Inbox.entries_append, Inbox.entries_map_self (f := ofPair) fun _ => rfl]
  rfl

lemma reply_tmWaiting_other (other : i ≠ j) : (reply w j r s).tmWaiting i = s.tmWaiting i := by
  rw [tmWaiting, reply_tmQueue, Inbox.entries_append,
    Inbox.entries_map_other (f := ofPair) (fun _ => rfl) other, List.append_nil]
  rfl

lemma call_emSent (c : Call) : (call w j s c).emSent j = s.emSent j ++ c.emReq?.toList := by
  cases c
  case emMad mad q =>
    rw [emSent, show (call w j s (.emMad mad q)).toEm = s.toEm ++ [(j, mad, q)] from rfl,
      Inbox.entries_append, entries_ofLine]
    rfl
  all_goals simp [call, emSent, incRunningJobs, decRunningJobs]

lemma call_emSent_other (c : Call) (other : i ≠ j) : (call w j s c).emSent i = s.emSent i := by
  cases c
  case emMad mad q =>
    rw [emSent, show (call w j s (.emMad mad q)).toEm = s.toEm ++ [(j, mad, q)] from rfl,
      Inbox.entries_append, Inbox.entries_cons_other (f := ofLine) (by rintro b ⟨⟩; exact other rfl)]
    simp [emSent]
  all_goals simp [call, emSent, incRunningJobs, decRunningJobs]

lemma call_tmSent (c : Call) : (call w j s c).tmSent j = s.tmSent j ++ c.tmReq?.toList := by
  cases c
  case tmMad mad q =>
    rw [tmSent, show (call w j s (.tmMad mad q)).toTm = s.toTm ++ [(j, mad, q)] from rfl,
      Inbox.entries_append, entries_ofLine]
    rfl
  all_goals simp [call, tmSent, incRunningJobs, decRunningJobs]

lemma call_tmSent_other (c : Call) (other : i ≠ j) : (call w j s c).tmSent i = s.tmSent i := by
  cases c
  case tmMad mad q =>
    rw [tmSent, show (call w j s (.tmMad mad q)).toTm = s.toTm ++ [(j, mad, q)] from rfl,
      Inbox.entries_append, Inbox.entries_cons_other (f := ofLine) (by rintro b ⟨⟩; exact other rfl)]
    simp [tmSent]
  all_goals simp [call, tmSent, incRunningJobs, decRunningJobs]

lemma reply_emSent : (reply w j r s).emSent j = s.emSent j ++ emReqs r.calls := by
  rw [reply, foldl_append (π := (emSent · j)) (call_emSent w j)]
  simp [emReqs, emSent, List.filterMap_eq_flatMap_toList]

lemma reply_emSent_other (other : i ≠ j) : (reply w j r s).emSent i = s.emSent i := by
  rw [reply, foldl_frame (π := (emSent · i)) fun s c => call_emSent_other w j s c other]
  rfl

lemma reply_tmSent : (reply w j r s).tmSent j = s.tmSent j ++ tmReqs r.calls := by
  rw [reply, foldl_append (π := (tmSent · j)) (call_tmSent w j)]
  simp [tmReqs, tmSent, List.filterMap_eq_flatMap_toList]

lemma reply_tmSent_other (other : i ≠ j) : (reply w j r s).tmSent i = s.tmSent i := by
  rw [reply, foldl_frame (π := (tmSent · i)) fun s c => call_tmSent_other w j s c other]
  rfl

end Reply

/-- An event gives a job a turn: the handler, the world it runs in, and the daemon after the entry
was taken from its queue. -/
inductive Takes (s : Gwd) (j : JobId) : Event → Turn → World → Gwd → Prop
  | dm {wS : SubmitWorld} {a rest} (queue : s.dmQueue = .job a j :: rest) :
      Takes s j (.dm wS) (.dm a) wS.world { s with dmQueue := rest }
  | em {w : World} {a rest} (queue : s.emQueue = (a, j) :: rest) :
      Takes s j (.em w) (.em a) w { s with emQueue := rest }
  | tm {w : World} {a rest} (queue : s.tmQueue = (a, j) :: rest) :
      Takes s j (.tm w) (.tm a) w { s with tmQueue := rest }
  | emMsg {msg} {w : World} : Takes s j (.emMsg j msg w) (.emMsg msg) w s
  | tmMsg {msg} {w : World} : Takes s j (.tmMsg j msg w) (.tmMsg msg) w s
  | dispatch {hid host queue rank} {w : World} (there : s.hosts hid = some host) :
      Takes s j (.scheduleJob j hid queue rank w) (.dispatch hid host queue rank) w s
  | uncheck {w : World} : Takes s j (.scheduleFailed j w) .uncheck w s
  | check {w : World} : Takes s j (.checkJob j w) .check w s
  | emTimer {w : World} : Takes s j (.emTimer j w) .emTimer w s
  | tmTimer {w : World} : Takes s j (.tmTimer j w) .tmTimer w s
  | tmReload {w : World} : Takes s j (.tmReload j w) .tmReload w s

/-- What a step leaves alone that gives the job no turn. -/
structure Aside (s s' : Gwd) (j : JobId) : Prop where
  jobs : Released (s.jobs j) (s'.jobs j)
  dm : ∃ rs : List Request, s'.dmWaiting j = s.dmWaiting j ++ rs.map Request.action
  em : s'.emWaiting j = s.emWaiting j
  tm : s'.tmWaiting j = s.tmWaiting j
  emSent : s'.emSent j = s.emSent j
  tmSent : s'.tmSent j = s.tmSent j

/-- A reload of the execution driver: the job is recovered by its contact, or taken as failed. -/
structure Reloaded (s s' : Gwd) (j : JobId) (job : Job) : Prop where
  jobs : s'.jobs j = some job
  running : job.jobState = .wrapper
  dm : s'.dmWaiting j = s.dmWaiting j
  tm : s'.tmWaiting j = s.tmWaiting j
  tmSent : s'.tmSent j = s.tmSent j
  em : (s'.emWaiting j = s.emWaiting j ∧ ∃ text, s'.emSent j = s.emSent j ++ [.recover text]) ∨
    (((s.dirs j).bind (·.contact)) = none ∧ s'.emWaiting j = s.emWaiting j ++ [.failed] ∧
      s'.emSent j = s.emSent j)

namespace Aside

/-- Nothing of the job pool, of the queues or of the pipes to the drivers changes. -/
lemma of_eq (jobs : s'.jobs = s.jobs) (dm : s'.dmQueue = s.dmQueue) (em : s'.emQueue = s.emQueue)
    (tm : s'.tmQueue = s.tmQueue) (toEm : s'.toEm = s.toEm) (toTm : s'.toTm = s.toTm) :
    Aside s s' j where
  jobs := .inl (by rw [jobs])
  dm := ⟨[], by simp only [dmWaiting, dm, List.map_nil, List.append_nil]⟩
  em := by simp only [emWaiting, em]
  tm := by simp only [tmWaiting, tm]
  emSent := by simp only [Gwd.emSent, toEm]
  tmSent := by simp only [Gwd.tmSent, toTm]

/-- A turn of another job. -/
lemma of_reply {s₁ : Gwd} {r : Reply} (other : j ≠ i) (jobs : s₁.jobs j = s.jobs j)
    (dm : s₁.dmWaiting j = s.dmWaiting j) (em : s₁.emWaiting j = s.emWaiting j)
    (tm : s₁.tmWaiting j = s.tmWaiting j) (toEm : s₁.toEm = s.toEm) (toTm : s₁.toTm = s.toTm) :
    Aside s (reply w i r s₁) j where
  jobs := jobs ▸ reply_other other
  dm := ⟨[], by rw [reply_dmWaiting_other w i r s₁ other, dm, List.map_nil, List.append_nil]⟩
  em := by rw [reply_emWaiting_other w i r s₁ other, em]
  tm := by rw [reply_tmWaiting_other w i r s₁ other, tm]
  emSent := by rw [reply_emSent_other w i r s₁ other]; simp only [Gwd.emSent, toEm]
  tmSent := by rw [reply_tmSent_other w i r s₁ other]; simp only [Gwd.tmSent, toTm]

end Aside

section Taken

lemma dmWaiting_taken {a : DmAction} {rest : List DmItem} (queue : s.dmQueue = .job a j :: rest) :
    s.dmWaiting j = a :: ({ s with dmQueue := rest } : Gwd).dmWaiting j := by
  rw [dmWaiting, queue, entries_job]
  rfl

lemma dmWaiting_taken_other {item : DmItem} {rest : List DmItem} (queue : s.dmQueue = item :: rest)
    (other : ∀ a, item ≠ .job a j) :
    ({ s with dmQueue := rest } : Gwd).dmWaiting j = s.dmWaiting j := by
  rw [dmWaiting, dmWaiting, queue, Inbox.entries_cons_other]
  intro b own
  cases item with
  | job a i =>
    cases own
    exact other _ rfl
  | allocate msg => cases own

lemma emWaiting_taken {a : EmAction} {rest : List (EmAction × JobId)}
    (queue : s.emQueue = (a, j) :: rest) :
    s.emWaiting j = a :: ({ s with emQueue := rest } : Gwd).emWaiting j := by
  rw [emWaiting, queue, entries_ofPair]
  rfl

lemma emWaiting_taken_other {a : EmAction} {rest : List (EmAction × JobId)}
    (queue : s.emQueue = (a, i) :: rest) (other : j ≠ i) :
    ({ s with emQueue := rest } : Gwd).emWaiting j = s.emWaiting j := by
  rw [emWaiting, emWaiting, queue, Inbox.entries_cons_other (f := ofPair) (by rintro b ⟨⟩; exact other rfl)]

lemma tmWaiting_taken {a : TmAction} {rest : List (TmAction × JobId)}
    (queue : s.tmQueue = (a, j) :: rest) :
    s.tmWaiting j = a :: ({ s with tmQueue := rest } : Gwd).tmWaiting j := by
  rw [tmWaiting, queue, entries_ofPair]
  rfl

lemma tmWaiting_taken_other {a : TmAction} {rest : List (TmAction × JobId)}
    (queue : s.tmQueue = (a, i) :: rest) (other : j ≠ i) :
    ({ s with tmQueue := rest } : Gwd).tmWaiting j = s.tmWaiting j := by
  rw [tmWaiting, tmWaiting, queue, Inbox.entries_cons_other (f := ofPair) (by rintro b ⟨⟩; exact other rfl)]

end Taken

/-- A turn outside the Dispatch Manager keeps the job and its state. -/
lemma turn_keeps (w : World) (s s' : Gwd) (j : JobId) (job : Job) {t : Turn}
    (other : ∀ a, t ≠ .dm a) :
    (reply w j (t.handler (s.world w) job) s').jobs j = some (t.handler (s.world w) job).job ∧
      (t.handler (s.world w) job).job.jobState = job.jobState := by
  have neutral {cbs : List DmAction} {r : Reply} (h : Neutral cbs job r) :
      (reply w j r s').jobs j = some r.job ∧ r.job.jobState = job.jobState :=
    ⟨reply_write h.free h.calm, h.state⟩
  cases t
  case dm a => exact absurd rfl (other a)
  case em a => exact neutral (Em.handle_neutral a _ job)
  case tm a => exact neutral (Tm.handle_neutral a _ job)
  case emMsg msg => exact neutral (Em.listener_neutral msg _ job)
  case tmMsg msg => exact neutral (Tm.listener_neutral msg _ job)
  case dispatch hid host queue rank =>
    simp only [Turn.handler]
    rcases Dm.dispatchJob_cases hid host rank queue (s.world w) job with
      ⟨h, -⟩ | ⟨-, ⟨-, eq⟩ | ⟨-, -, eq⟩ | ⟨-, -, eq⟩⟩
    · exact neutral h
    all_goals
      rw [eq]
      exact ⟨reply_write (by simp) (by simp), rfl⟩
  case uncheck => exact neutral (Dm.uncheckJob_neutral (w := s.world w))
  case check => exact neutral Dm.checkJob_neutral
  case emTimer => exact neutral Em.timer_neutral
  case tmTimer => exact neutral (Tm.timer_neutral _ job)
  case tmReload =>
    simp only [Turn.handler]
    rcases recover_cases (s.world w) job with eq | ⟨a, -, -, -, -, eq⟩
    all_goals
      rw [eq]
      exact ⟨reply_write (by simp) (by simp), rfl⟩

/-- A visit of a job, by a message or by a timer: a turn of the job, or aside for it. -/
lemma visit_cases {f : World → Job → Reply} (here : s.jobs j = some job) :
    Aside s (onJob w i f s) j ∨
      (i = j ∧ onJob w i f s = reply w j (f (s.world w) job) s) := by
  unfold onJob
  by_cases same : i = j
  · subst same
    exact .inr ⟨rfl, by simp [here]⟩
  · left
    cases there : s.jobs i with
    | none => exact .of_eq rfl rfl rfl rfl rfl rfl
    | some job' => exact .of_reply (Ne.symm same) rfl rfl rfl rfl rfl rfl

lemma emRecover_cases {mad : String} (here : s.jobs j = some job) :
    Aside s (s.emRecover mad i) j ∨ (i = j ∧ Reloaded s (s.emRecover mad i) j job) := by
  have nothing : Aside s s j := .of_eq rfl rfl rfl rfl rfl rfl
  unfold emRecover
  cases there : s.jobs i with
  | none => exact .inl nothing
  | some job' =>
    dsimp only
    split
    · exact .inl nothing
    · rename_i head past hist
      split
      · rename_i asked
        by_cases same : i = j
        · subst same
          rw [here] at there
          cases there
          refine .inr ⟨rfl, ?_⟩
          split
          · refine ⟨here, asked.2, rfl, rfl, rfl, .inl ⟨rfl, ?_⟩⟩
            rename_i text _
            refine ⟨text, ?_⟩
            simp only [Gwd.emSent, Inbox.entries_append]
            rw [entries_ofLine]
            rfl
          · rename_i none
            refine ⟨here, asked.2, rfl, rfl, rfl, .inr ⟨none, ?_, rfl⟩⟩
            simp only [emWaiting, Inbox.entries_append]
            rw [entries_ofPair]
            rfl
        · left
          have ne : j ≠ i := Ne.symm same
          split
          · refine ⟨.inl rfl, ⟨[], by simp [dmWaiting]⟩, rfl, rfl, ?_, rfl⟩
            simp only [Gwd.emSent, Inbox.entries_append]
            rw [Inbox.entries_cons_other (f := ofLine) (by rintro b ⟨⟩; exact same rfl), Inbox.entries_nil,
              List.append_nil]
          · refine ⟨.inl rfl, ⟨[], by simp [dmWaiting]⟩, ?_, rfl, rfl, rfl⟩
            simp only [emWaiting, Inbox.entries_append]
            rw [Inbox.entries_cons_other (f := ofPair) (by rintro b ⟨⟩; exact same rfl), Inbox.entries_nil,
              List.append_nil]
      · exact .inl nothing

/-- Seen from a job, a step is a turn of the job, an entry made for it by a reload, or aside. -/
theorem turn_cases (here : s.jobs j = some job) (live : (s.step e).crashed = false) (pool : Pool s) :
    Aside s (s.step e) j ∨ ((∃ mad, e = .emReload mad j) ∧ Reloaded s (s.step e) j job) ∨
      ∃ t w s₁, Takes s j e t w s₁ ∧ s.step e = reply w j (t.handler (s.world w) job) s₁ := by
  have alive := step_alive live
  have step_eq : s.step e = s.live e := by simp [step, alive]
  rw [step_eq] at live ⊢
  have nothing : Aside s s j := .of_eq rfl rfl rfl rfl rfl rfl
  cases e
  case dm wS =>
    simp only [Gwd.live] at live ⊢
    unfold dmNext at live ⊢
    rcases queue : s.dmQueue with _ | ⟨⟨a, i⟩ | msg, rest⟩
    · exact .inl nothing
    · simp only [queue] at live ⊢
      by_cases same : i = j
      · subst same
        right; right
        exact ⟨.dm a, wS.world, _, .dm queue, by simp [onJob, here, Turn.handler, world]⟩
      · left
        have kept := dmWaiting_taken_other (j := j) queue (by rintro b ⟨⟩; exact same rfl)
        cases there : s.jobs i with
        | none =>
          exact ⟨.inl rfl, ⟨[], by rw [List.map_nil, List.append_nil]; exact kept⟩, rfl, rfl, rfl, rfl⟩
        | some job' =>
          simp only [onJob, there]
          exact .of_reply (Ne.symm same) rfl kept rfl rfl rfl rfl
    · simp only [queue] at live ⊢
      left
      obtain ⟨js, grown, -⟩ := allocate_spec live
      have above := allocate_above (s := { s with dmQueue := rest }) wS msg pool.fresh
      have old : j ∉ js := fun mem => Nat.not_lt.2 (grown.fresh j mem).1 (pool.below here)
      have kept := dmWaiting_taken_other (j := j) queue (by rintro b ⟨⟩)
      refine ⟨.inl (grown.old j old), ⟨[], ?_⟩, ?_, ?_, ?_, ?_⟩
      · rw [List.map_nil, List.append_nil, ← kept]
        simp only [dmWaiting, grown.dmQueue]
      · simp only [emWaiting, grown.emQueue]
      · simp only [tmWaiting, grown.tmQueue]
      · simp only [Gwd.emSent, above.out]
      · simp only [Gwd.tmSent, above.out]
  case em w =>
    simp only [Gwd.live] at live ⊢
    unfold emNext at live ⊢
    rcases queue : s.emQueue with _ | ⟨⟨a, i⟩, rest⟩
    · exact .inl nothing
    · simp only
      by_cases same : i = j
      · subst same
        right; right
        exact ⟨.em a, w, _, .em queue, by simp [onJob, here, Turn.handler, world]⟩
      · left
        have kept := emWaiting_taken_other (j := j) queue (Ne.symm same)
        unfold onJob
        cases there : s.jobs i with
        | none => exact ⟨.inl rfl, ⟨[], by simp [dmWaiting]⟩, kept, rfl, rfl, rfl⟩
        | some job' => exact .of_reply (Ne.symm same) rfl rfl kept rfl rfl rfl
  case tm w =>
    simp only [Gwd.live] at live ⊢
    unfold tmNext at live ⊢
    rcases queue : s.tmQueue with _ | ⟨⟨a, i⟩, rest⟩
    · exact .inl nothing
    · simp only
      by_cases same : i = j
      · subst same
        right; right
        exact ⟨.tm a, w, _, .tm queue, by simp [onJob, here, Turn.handler, world]⟩
      · left
        have kept := tmWaiting_taken_other (j := j) queue (Ne.symm same)
        unfold onJob
        cases there : s.jobs i with
        | none => exact ⟨.inl rfl, ⟨[], by simp [dmWaiting]⟩, rfl, kept, rfl, rfl⟩
        | some job' => exact .of_reply (Ne.symm same) rfl rfl rfl kept rfl rfl
  case request r i =>
    left
    refine ⟨.inl rfl, ?_, rfl, rfl, rfl, rfl⟩
    by_cases same : i = j
    · subst same
      refine ⟨[r], ?_⟩
      simp only [Gwd.live, dmWaiting, Inbox.entries_append]
      rw [entries_job]
      rfl
    · refine ⟨[], ?_⟩
      simp only [Gwd.live, dmWaiting, Inbox.entries_append]
      rw [Inbox.entries_cons_other (f := DmItem.job?) (by rintro b ⟨⟩; exact same rfl)]
      rfl
  case submit msg =>
    left
    refine ⟨.inl rfl, ⟨[], ?_⟩, rfl, rfl, rfl, rfl⟩
    simp only [Gwd.live, dmWaiting, Inbox.entries_append]
    rw [Inbox.entries_cons_other (f := DmItem.job?) (by rintro b ⟨⟩)]
    rfl
  case emMsg i msg w =>
    refine (visit_cases here).imp_right ?_
    rintro ⟨rfl, eq⟩
    exact .inr ⟨_, w, s, .emMsg, eq⟩
  case tmMsg i msg w =>
    refine (visit_cases here).imp_right ?_
    rintro ⟨rfl, eq⟩
    exact .inr ⟨_, w, s, .tmMsg, eq⟩
  case scheduleJob i hid queue rank w =>
    simp only [Gwd.live]
    unfold scheduleJob
    cases there : s.hosts hid with
    | none => exact .inl nothing
    | some host =>
      refine (visit_cases here).imp_right ?_
      rintro ⟨rfl, eq⟩
      exact .inr ⟨_, w, s, .dispatch there, eq⟩
  case scheduleFailed i w =>
    refine (visit_cases here).imp_right ?_
    rintro ⟨rfl, eq⟩
    exact .inr ⟨_, w, s, .uncheck, eq⟩
  case scheduleEnd => exact .inl (.of_eq rfl rfl rfl rfl rfl rfl)
  case schedule => exact .inl (.of_eq rfl rfl rfl rfl rfl rfl)
  case checkJob i w =>
    refine (visit_cases here).imp_right ?_
    rintro ⟨rfl, eq⟩
    exact .inr ⟨_, w, s, .check, eq⟩
  case emTimer i w =>
    refine (visit_cases here).imp_right ?_
    rintro ⟨rfl, eq⟩
    exact .inr ⟨_, w, s, .emTimer, eq⟩
  case tmTimer i w =>
    refine (visit_cases here).imp_right ?_
    rintro ⟨rfl, eq⟩
    exact .inr ⟨_, w, s, .tmTimer, eq⟩
  case emReload mad i =>
    refine (emRecover_cases here).imp_right ?_
    rintro ⟨rfl, reloaded⟩
    exact .inl ⟨⟨mad, rfl⟩, reloaded⟩
  case tmReload i w =>
    refine (visit_cases here).imp_right ?_
    rintro ⟨rfl, eq⟩
    exact .inr ⟨_, w, s, .tmReload, eq⟩
  case dmReload i =>
    left
    simp only [Gwd.live]
    unfold dmRecover
    repeat' split
    all_goals exact .of_eq rfl rfl rfl rfl rfl rfl
  case checkUser u period =>
    left
    simp only [Gwd.live]
    unfold checkUser
    repeat' split
    all_goals exact .of_eq rfl rfl rfl rfl rfl rfl
  case hostAllocate hid host =>
    left
    simp only [Gwd.live]
    unfold hostAllocate
    repeat' split
    all_goals exact .of_eq rfl rfl rfl rfl rfl rfl
  case hostUpdate hid info =>
    left
    simp only [Gwd.live]
    unfold hostUpdate
    repeat' split
    all_goals exact .of_eq rfl rfl rfl rfl rfl rfl

section Absent

/-- What waits for a job that is not there: requests, and what waited before. -/
structure Idling (s s' : Gwd) (j : JobId) : Prop where
  dm : ∀ a ∈ s'.dmWaiting j, a ∈ s.dmWaiting j ∨ ∃ r : Request, a = r.action
  em : ∀ a ∈ s'.emWaiting j, a ∈ s.emWaiting j
  tm : ∀ a ∈ s'.tmWaiting j, a ∈ s.tmWaiting j
  emSent : s'.emSent j = s.emSent j
  tmSent : s'.tmSent j = s.tmSent j

lemma Aside.idling (aside : Aside s s' j) : Idling s s' j where
  dm a mem := by
    obtain ⟨rs, eq⟩ := aside.dm
    rw [eq] at mem
    rcases List.mem_append.1 mem with mem | mem
    · exact .inl mem
    · obtain ⟨r, -, rfl⟩ := List.mem_map.1 mem
      exact .inr ⟨r, rfl⟩
  em a mem := aside.em ▸ mem
  tm a mem := aside.tm ▸ mem
  emSent := aside.emSent
  tmSent := aside.tmSent

lemma visit_absent {f : World → Job → Reply} (absent : s.jobs j = none) :
    Aside s (onJob w i f s) j := by
  unfold onJob
  cases there : s.jobs i with
  | none => exact .of_eq rfl rfl rfl rfl rfl rfl
  | some job =>
    have other : j ≠ i := by rintro rfl; rw [absent] at there; cases there
    exact .of_reply other rfl rfl rfl rfl rfl rfl

/-- A job that is not there gets no entries but requests. -/
lemma absent_step (absent : s.jobs j = none) (pool : Pool s) (live : (s.step e).crashed = false) :
    Idling s (s.step e) j := by
  have alive := step_alive live
  have step_eq : s.step e = s.live e := by simp [step, alive]
  rw [step_eq] at live ⊢
  have nothing : Idling s s j := ⟨fun _ => .inl, fun _ => id, fun _ => id, rfl, rfl⟩
  cases e
  case dm wS =>
    simp only [Gwd.live] at live ⊢
    unfold dmNext at live ⊢
    rcases queue : s.dmQueue with _ | ⟨⟨a, i⟩ | msg, rest⟩
    · exact nothing
    · simp only [queue] at live ⊢
      have kept : ∀ b ∈ ({ s with dmQueue := rest } : Gwd).dmWaiting j, b ∈ s.dmWaiting j := by
        intro b mem
        by_cases same : i = j
        · subst same
          rw [dmWaiting_taken queue]
          exact List.mem_cons_of_mem _ mem
        · rwa [← dmWaiting_taken_other (j := j) queue (by rintro b ⟨⟩; exact same rfl)]
      cases there : s.jobs i with
      | none => exact ⟨fun b mem => .inl (kept b mem), fun _ => id, fun _ => id, rfl, rfl⟩
      | some job =>
        have other : j ≠ i := by rintro rfl; rw [absent] at there; cases there
        simp only [onJob, there]
        have aside : Aside { s with dmQueue := rest } _ j :=
          .of_reply (w := wS.world) (r := Dm.handle a (world { s with dmQueue := rest } wS.world) job)
            other rfl rfl rfl rfl rfl rfl
        exact ⟨fun b mem => (aside.idling.dm b mem).imp_left (kept b), aside.idling.em,
          aside.idling.tm, aside.emSent, aside.tmSent⟩
    · simp only [queue] at live ⊢
      obtain ⟨js, grown, -⟩ := allocate_spec live
      have kept := dmWaiting_taken_other (j := j) queue (by rintro b ⟨⟩)
      have above := allocate_above (s := { s with dmQueue := rest }) wS msg pool.fresh
      refine ⟨fun b mem => .inl ?_, fun b mem => ?_, fun b mem => ?_, ?_, ?_⟩
      · rw [← kept]
        simpa only [dmWaiting, grown.dmQueue] using mem
      · simpa only [emWaiting, grown.emQueue] using mem
      · simpa only [tmWaiting, grown.tmQueue] using mem
      · simp only [Gwd.emSent, above.out]
      · simp only [Gwd.tmSent, above.out]
  case em w =>
    simp only [Gwd.live] at live ⊢
    unfold emNext at live ⊢
    rcases queue : s.emQueue with _ | ⟨⟨a, i⟩, rest⟩
    · exact nothing
    · simp only
      have aside : Aside { s with emQueue := rest } _ j :=
        visit_absent (w := w) (i := i) (f := Em.handle a) absent
      refine ⟨aside.idling.dm, fun b mem => ?_, aside.idling.tm, aside.emSent, aside.tmSent⟩
      have mem := aside.idling.em b mem
      by_cases same : i = j
      · subst same
        rw [emWaiting_taken queue]
        exact List.mem_cons_of_mem _ mem
      · rwa [← emWaiting_taken_other queue (Ne.symm same)]
  case tm w =>
    simp only [Gwd.live] at live ⊢
    unfold tmNext at live ⊢
    rcases queue : s.tmQueue with _ | ⟨⟨a, i⟩, rest⟩
    · exact nothing
    · simp only
      have aside : Aside { s with tmQueue := rest } _ j :=
        visit_absent (w := w) (i := i) (f := Tm.handle a) absent
      refine ⟨aside.idling.dm, aside.idling.em, fun b mem => ?_, aside.emSent, aside.tmSent⟩
      have mem := aside.idling.tm b mem
      by_cases same : i = j
      · subst same
        rw [tmWaiting_taken queue]
        exact List.mem_cons_of_mem _ mem
      · rwa [← tmWaiting_taken_other queue (Ne.symm same)]
  case request r i =>
    refine ⟨fun a mem => ?_, fun _ => id, fun _ => id, rfl, rfl⟩
    simp only [Gwd.live, dmWaiting, Inbox.entries_append] at mem
    rcases List.mem_append.1 mem with mem | mem
    · exact .inl mem
    · by_cases same : i = j
      · subst same
        rw [entries_job] at mem
        exact .inr ⟨r, List.mem_singleton.1 mem⟩
      · rw [Inbox.entries_cons_other (by rintro b ⟨⟩; exact same rfl)] at mem
        cases mem
  case submit msg =>
    refine ⟨fun a mem => .inl ?_, fun _ => id, fun _ => id, rfl, rfl⟩
    simp only [Gwd.live, dmWaiting, Inbox.entries_append] at mem
    rw [Inbox.entries_cons_other (by rintro b ⟨⟩)] at mem
    simpa [dmWaiting] using mem
  case scheduleJob i hid queue rank w =>
    simp only [Gwd.live]
    unfold scheduleJob
    cases s.hosts hid with
    | none => exact nothing
    | some host => exact (visit_absent absent).idling
  case emReload mad i =>
    simp only [Gwd.live]
    unfold emRecover
    cases there : s.jobs i with
    | none => exact nothing
    | some job =>
      have other : i ≠ j := by rintro rfl; rw [absent] at there; cases there
      dsimp only
      split
      · exact nothing
      · split
        · split
          · refine ⟨fun _ => .inl, fun _ => id, fun _ => id, ?_, rfl⟩
            simp only [Gwd.emSent, Inbox.entries_append]
            rw [Inbox.entries_cons_other (f := ofLine) (by rintro b ⟨⟩; exact other rfl),
              Inbox.entries_nil, List.append_nil]
          · refine ⟨fun _ => .inl, fun a mem => ?_, fun _ => id, rfl, rfl⟩
            simp only [emWaiting, Inbox.entries_append] at mem
            rw [Inbox.entries_cons_other (f := ofPair) (by rintro b ⟨⟩; exact other rfl)] at mem
            simpa [emWaiting] using mem
        · exact nothing
  case emMsg | tmMsg | scheduleFailed | checkJob | emTimer | tmTimer | tmReload =>
    exact (visit_absent absent).idling
  case scheduleEnd => exact ⟨fun _ => .inl, fun _ => id, fun _ => id, rfl, rfl⟩
  case schedule => exact ⟨fun _ => .inl, fun _ => id, fun _ => id, rfl, rfl⟩
  case dmReload i =>
    simp only [Gwd.live]
    unfold dmRecover
    repeat' split
    all_goals exact ⟨fun _ => .inl, fun _ => id, fun _ => id, rfl, rfl⟩
  case checkUser u period =>
    simp only [Gwd.live]
    unfold checkUser
    repeat' split
    all_goals exact ⟨fun _ => .inl, fun _ => id, fun _ => id, rfl, rfl⟩
  case hostAllocate hid host =>
    simp only [Gwd.live]
    unfold hostAllocate
    repeat' split
    all_goals exact ⟨fun _ => .inl, fun _ => id, fun _ => id, rfl, rfl⟩
  case hostUpdate hid info =>
    simp only [Gwd.live]
    unfold hostUpdate
    repeat' split
    all_goals exact ⟨fun _ => .inl, fun _ => id, fun _ => id, rfl, rfl⟩

/-- Nothing but requests waits for the jobs that were not submitted yet. -/
def Unborn (s : Gwd) (j : JobId) : Prop :=
  s.nextJobId ≤ j →
    s.emWaiting j = [] ∧ s.tmWaiting j = [] ∧ ∀ a ∈ s.dmWaiting j, ∃ r : Request, a = r.action

lemma unborn_start (conf : Conf) (j : JobId) : Unborn (Gwd.start conf) j :=
  fun _ => ⟨rfl, rfl, fun _ mem => by cases mem⟩

/-- What waits for a job after the step in which it may be submitted. -/
lemma unborn_after (unborn : Unborn s j) (above : s.nextJobId ≤ j) (pool : Pool s)
    (live : (s.step e).crashed = false) :
    (s.step e).emWaiting j = [] ∧ (s.step e).tmWaiting j = [] ∧
      ∀ a ∈ (s.step e).dmWaiting j, ∃ r : Request, a = r.action := by
  obtain ⟨em, tm, dm⟩ := unborn above
  have idling := absent_step (pool.fresh j above) pool live
  refine ⟨List.eq_nil_iff_forall_not_mem.2 fun a mem => ?_,
    List.eq_nil_iff_forall_not_mem.2 fun a mem => ?_, fun a mem => ?_⟩
  · have old := idling.em a mem
    rw [em] at old
    cases old
  · have old := idling.tm a mem
    rw [tm] at old
    cases old
  · exact (idling.dm a mem).elim (dm a) id

lemma unborn_step (unborn : Unborn s j) (pool : Pool s) (live : (s.step e).crashed = false) :
    Unborn (s.step e) j := fun above =>
  unborn_after unborn (Nat.le_trans (nextJobId_step live) above) pool live

end Absent

end Gwd

end GridWay
