import GridWay.Rm.Action

/-!
# What the answers leave alone

The handlers of the answers take entries out of the connection list and send messages. Of the
daemon they only change how many clients wait for a job.

* `Rm.Tells`: the changes that a handler may make.
* `Rm.handle_tells`: no handler makes others.
-/

namespace GridWay

/-- A job without the number of its waiting clients. -/
def Job.uncounted (job : Job) : Job := { job with clientWaiting := 0 }

namespace Rm

variable {s s' s₁ s₂ : Rm} {j : JobId} {n : Nat} {answer : Answer}

/-- Clients are answered and counted off: of the daemon only the waiting clients change. -/
structure Tells (s s' : Rm) : Prop where
  conf : s'.conf = s.conf
  threads : s'.threads = s.threads
  received : s'.received = s.received
  handled : s'.handled = s.handled
  gwd : ∃ jobs crashed, s'.gwd = { s.gwd with jobs, crashed } ∧
    ∀ i, (jobs i).map Job.uncounted = (s.gwd.jobs i).map Job.uncounted

namespace Tells

lemma refl (s : Rm) : Tells s s := ⟨rfl, rfl, rfl, rfl, _, _, rfl, fun _ => rfl⟩

lemma trans (h : Tells s s₁) (h' : Tells s₁ s₂) : Tells s s₂ where
  conf := h'.conf.trans h.conf
  threads := h'.threads.trans h.threads
  received := h'.received.trans h.received
  handled := h'.handled.trans h.handled
  gwd := by
    obtain ⟨jobs, crashed, eq, same⟩ := h.gwd
    obtain ⟨jobs', crashed', eq', same'⟩ := h'.gwd
    rw [eq] at eq' same'
    exact ⟨jobs', crashed', eq', fun i => (same' i).trans (same i)⟩

/-- The connections and the messages are free to change. -/
lemma of_gwd (conf : s'.conf = s.conf) (threads : s'.threads = s.threads)
    (received : s'.received = s.received) (handled : s'.handled = s.handled)
    (gwd : s'.gwd = s.gwd) : Tells s s' :=
  ⟨conf, threads, received, handled, s.gwd.jobs, s.gwd.crashed, gwd, fun _ => rfl⟩

end Tells

lemma send_tells (socket : Socket) (request : Nat) (answer : Answer) :
    Tells s (s.send socket request answer) :=
  .of_gwd rfl rfl rfl rfl rfl

lemma crash_tells : Tells s s.crash := ⟨rfl, rfl, rfl, rfl, _, _, rfl, fun _ => rfl⟩

lemma decWaiting_tells : Tells s (s.decWaiting j) := by
  unfold decWaiting
  cases here : s.gwd.jobs j with
  | none => exact .refl s
  | some job =>
    refine ⟨rfl, rfl, rfl, rfl, _, s.gwd.crashed, rfl, fun i => ?_⟩
    by_cases same : i = j
    · subst same
      rw [Function.update_self, here]
      rfl
    · rw [Function.update_of_ne same]

lemma removeAnys_tells {locked : Option JobId} {socket : Socket} :
    Tells s (removeAnys locked socket n s) := by
  induction n generalizing s with
  | zero => exact .refl s
  | succ n ih =>
    unfold removeAnys
    split
    · exact .refl s
    · rename_i c rest found
      have taken : Tells s { s with connections := rest } := .of_gwd rfl rfl rfl rfl rfl
      dsimp only
      split
      · exact taken.trans crash_tells
      · exact (taken.trans decWaiting_tells).trans ih

lemma notifyWaiting_tells {counted : Bool} : Tells s (notifyWaiting counted j answer n s) := by
  induction n generalizing s with
  | zero => exact .refl s
  | succ n ih =>
    unfold notifyWaiting
    split
    · exact .refl s
    · rename_i c rest found
      have taken : Tells s { s with connections := rest } := .of_gwd rfl rfl rfl rfl rfl
      refine Tells.trans ?_ ih
      have counts (s : Rm) : Tells s (if counted then s.decWaiting j else s) := by
        split
        · exact decWaiting_tells
        · exact .refl s
      have sent := (taken.trans (counts _)).trans (send_tells c.socketFs c.request answer)
      split
      · exact sent.trans removeAnys_tells
      · exact sent

lemma notify_tells (msgId : MsgType) : Tells s (s.notify msgId j answer) := by
  have all (cs : List Connection) (s : Rm) :
      Tells s (cs.foldl (fun s c => s.send c.socketFs c.request answer) s) := by
    induction cs generalizing s with
    | nil => exact .refl s
    | cons c cs ih => exact (send_tells c.socketFs c.request _).trans (ih _)
  have taken : Tells s { s with connections := (Connections.getAll msgId j s.connections).2 } :=
    .of_gwd rfl rfl rfl rfl rfl
  exact taken.trans (all _ _)

lemma resumeFailed_tells : Tells s (s.resumeFailed j) := by
  unfold resumeFailed
  dsimp only
  split
  · exact .refl s
  · rename_i c rest found
    have taken : Tells s { s with connections := rest } := .of_gwd rfl rfl rfl rfl rfl
    exact (taken.trans (send_tells c.socketFs c.request _)).trans (notify_tells .release)

lemma waitSuccess_tells : Tells s (s.waitSuccess j) := by
  unfold waitSuccess
  split
  · exact notifyWaiting_tells.trans crash_tells
  · exact notifyWaiting_tells

lemma waitFailed_tells : Tells s (s.waitFailed j) := by
  unfold waitFailed
  split
  · exact .refl s
  · rename_i c rest found
    have taken : Tells s { s with connections := rest } := .of_gwd rfl rfl rfl rfl rfl
    have sent (answer : Answer) := taken.trans (send_tells c.socketFs c.request answer)
    dsimp only
    split
    · exact (sent _).trans removeAnys_tells
    · exact sent _

/-- The handler of an answer only tells clients. -/
theorem handle_tells (a : RmAction) (j : JobId) (s : Rm) : Tells s (s.handle a j) := by
  cases a
  case resumeFailed => exact resumeFailed_tells
  case waitSuccess => exact waitSuccess_tells
  case waitFailed => exact waitFailed_tells
  case killSuccess => exact (notify_tells .kill).trans notifyWaiting_tells
  all_goals exact notify_tells _

/-- A message that is only answered, or that puts a request in a thread. -/
structure Reads (stack msg : Msg) (s s' : Rm) : Prop where
  conf : s'.conf = s.conf
  handled : s'.handled = s.handled
  received : s'.received = s.received ++ [msg]
  effect :
    (s'.gwd = s.gwd ∧ s'.threads = s.threads) ∨
    (s'.gwd = s.gwd ∧ s.authUser msg.jobId msg.owner msg.proxyPath = true ∧
      ∃ action entry, s'.threads =
        s.threads ++ [{ request := s.received.length, action, jobId := msg.jobId, entry }]) ∨
    (s'.threads = s.threads ∧ msg.msgType = .priority ∧
      (checkPriority s.conf stack.owner stack.group stack.fixedPriority).isSome ∧
      (s'.gwd.crashed = true ∨ ∃ job, s.gwd.jobs msg.jobId = some job ∧
        s'.gwd = { s.gwd with
          jobs := (Function.update s.gwd.jobs msg.jobId
            (some { job with fixedPriority := msg.fixedPriority })) }))

lemma denied_reads {stack msg : Msg} :
    Reads stack msg s ((s.receive msg).permissionDenied s.received.length msg) :=
  ⟨rfl, rfl, rfl, .inl ⟨rfl, rfl⟩⟩

lemma enter_reads {stack msg : Msg} (listed : Bool) (action : Request) (waitType : WaitType)
    (auth : s.authUser msg.jobId msg.owner msg.proxyPath = true) :
    Reads stack msg s ((s.receive msg).enter listed action waitType s.received.length msg) := by
  exact ⟨rfl, rfl, rfl, .inr (.inl ⟨rfl, auth, action, _, rfl⟩)⟩

lemma serve_reads {stack msg : Msg} (listed : Bool) (action : Request) :
    Reads stack msg s ((s.receive msg).serve listed action s.received.length msg) := by
  unfold serve
  split
  · rename_i auth
    exact enter_reads listed action msg.waitType auth
  · exact denied_reads

lemma serveWait_reads {stack msg : Msg} :
    Reads stack msg s ((s.receive msg).serveWait s.received.length msg) := by
  unfold serveWait
  split
  · rename_i auth
    split
    · split
      · exact enter_reads true .wait .any auth
      · exact ⟨rfl, rfl, rfl, .inl ⟨rfl, rfl⟩⟩
    · exact enter_reads true .wait .any auth
    · exact enter_reads true .wait .job auth
  · exact denied_reads

lemma servePriority_reads {stack msg : Msg} (priority : msg.msgType = .priority) :
    Reads stack msg s ((s.receive msg).servePriority stack msg) := by
  unfold servePriority
  split
  · exact ⟨rfl, rfl, rfl, .inl ⟨rfl, rfl⟩⟩
  · rename_i granted
    have granted : (checkPriority s.conf stack.owner stack.group stack.fixedPriority).isSome :=
      Option.isSome_iff_exists.2 ⟨_, granted⟩
    split
    · exact ⟨rfl, rfl, rfl, .inr (.inr ⟨rfl, priority, granted, .inl rfl⟩)⟩
    · rename_i job here
      exact ⟨rfl, rfl, rfl, .inr (.inr ⟨rfl, priority, granted, .inr ⟨job, here, rfl⟩⟩)⟩

/-- What reading a message does. -/
theorem connection_reads (stack msg : Msg) (s : Rm) : Reads stack msg s (s.connection stack msg) := by
  unfold connection
  dsimp only
  split
  case h_1 => exact serveWait_reads
  case h_11 priority => exact servePriority_reads priority
  case h_12 => exact ⟨rfl, rfl, rfl, .inl ⟨rfl, rfl⟩⟩
  all_goals exact serve_reads _ _

/-- The next answer is handled, if there is one. -/
lemma next_tells : s.next = s ∨ Tells { s with handled := s.handled + 1 } s.next := by
  unfold next
  split
  · exact .inl rfl
  · exact .inr (handle_tells _ _ _)

lemma Tells.dmQueue (h : Tells s s') : s'.gwd.dmQueue = s.gwd.dmQueue := by
  obtain ⟨jobs, crashed, eq, -⟩ := h.gwd
  rw [eq]

lemma connection_dmQueue {stack msg : Msg} (live : (s.connection stack msg).gwd.crashed = false) :
    (s.connection stack msg).gwd.dmQueue = s.gwd.dmQueue := by
  rcases (connection_reads stack msg s).effect with ⟨gwd, -⟩ | ⟨gwd, -⟩ |
    ⟨-, -, -, crashed | ⟨job, here, gwd⟩⟩
  · rw [gwd]
  · rw [gwd]
  · rw [crashed] at live
    cases live
  · rw [gwd]

/-- A daemon that runs after an event ran before it, or it was restarted. -/
lemma step_live {e : RmEvent} (live : (s.step e).gwd.crashed = false)
    (stays : ∀ w, e ≠ .restart w) : s.gwd.crashed = false ∧ s.step e = s.live e := by
  cases crashed : s.gwd.crashed
  · refine ⟨rfl, ?_⟩
    cases e <;> simp only [step, crashed, Bool.false_eq_true, if_false]
  · cases e
    case restart w => exact absurd rfl (stays w)
    all_goals simp [step, crashed] at live

end Rm

end GridWay
