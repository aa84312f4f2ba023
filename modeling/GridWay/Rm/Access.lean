import GridWay.Gwd.Clients
import GridWay.Rm.Frame
import GridWay.Lib.Machine

/-!
# Who may change a job

Every request carries the name of its user, and the Request Manager looks up whether the job belongs
to that user or whether the user is the administrator. An observer notes in whose name each job was
submitted and which request put an action into the queue of the Dispatch Manager.

* `Rm.requester`: the client whose request a step serves.
* `Rm.guardedStep`: the steps that leave the check its meaning.
* `Rm.requests_authorised`: what requests change.
-/

namespace GridWay

/-- The client of a message. -/
def Msg.client (msg : Msg) : Client := (msg.owner, msg.proxyPath)

/-- What an observer notes: the client of each job, and for each entry of the queue of the Dispatch
Manager the request that put it there. -/
structure Access where
  owner : JobId → Option Client := fun _ => none
  askers : List (Option Nat) := []

/-- The request and the job of an entry that a request put into the queue. -/
def ticket : DmItem × Option Nat → Option (Nat × JobId)
  | (.job _ j, some n) => some (n, j)
  | _ => none

namespace Rm

variable {s : Rm} {a : Access} {c : Client} {i j : JobId} {n : Nat} {e : RmEvent}

/-- Entries that nobody asked for fill the list up. -/
def pad (askers : List (Option Nat)) (len : Nat) : List (Option Nat) :=
  askers ++ List.replicate (len - askers.length) none

/-- The observer after an event. -/
def note (s : Rm) (a : Access) (e : RmEvent) : Access :=
  let s' := s.step e
  match e with
  | .internal (.dm _) =>
    let owner :=
      match s.gwd.dmQueue with
      | .allocate msg :: _ => fun i =>
        if (s.gwd.jobs i).isNone ∧ (s'.gwd.jobs i).isSome then some msg.client else a.owner i
      | _ => a.owner
    { owner, askers := pad a.askers.tail s'.gwd.dmQueue.length }
  | .trigger n =>
    let asked := (s.threads[n]?.filter (·.entry.isNone)).toList.map fun t => some t.request
    { a with askers := pad (a.askers ++ asked) s'.gwd.dmQueue.length }
  | .restart _ =>
    { owner := fun i => ((s.gwd.dirs i).bind (·.conf)).map JobConf.client
      askers := pad [] s'.gwd.dmQueue.length }
  | _ => { a with askers := pad a.askers s'.gwd.dmQueue.length }

/-- The client of a request that was read. -/
def clientOf (s : Rm) (request : Nat) : Option Client := s.received[request]?.map Msg.client

/-- The client whose request a step serves: a message is read, a thread triggers its action, or the
Dispatch Manager takes an action or a submission that a client asked for. -/
def requester (s : Rm) (a : Access) : RmEvent → Option Client
  | .connection _ msg => some msg.client
  | .submit msg _ => some msg.client
  | .trigger n => s.threads[n]?.bind fun t => s.clientOf t.request
  | .internal (.dm _) =>
    match s.gwd.dmQueue with
    | .allocate msg :: _ => some msg.client
    | .job _ _ :: _ => a.askers.head?.join.bind s.clientOf
    | [] => none
  | _ => none

/-- A client may change a job: it is the administrator, or the job is its own. -/
def permitted (conf : RmConf) (owner : JobId → Option Client) (c : Client) (j : JobId) : Bool :=
  isGwadmin conf c.1 || owner j == some c

/-- The requests that wait for a job, in a thread or in the queue. -/
def waitingFor (s : Rm) (a : Access) : List (Nat × JobId) :=
  s.threads.map (fun t => (t.request, t.jobId)) ++
    (s.gwd.dmQueue.zip a.askers).filterMap ticket

/-- The steps that leave the check its meaning: a priority that is granted comes from the owner of
the job or from the administrator, no user is freed who has jobs, and no submission is served while
a request of somebody else waits for an id that is still to be given. -/
def guardedStep (s : Rm) (a : Access) : RmEvent → Bool
  | .connection stack msg =>
    msg.msgType != .priority ||
      (checkPriority s.conf stack.owner stack.group stack.fixedPriority).isNone ||
      (s.gwd.jobs msg.jobId).isNone || permitted s.conf a.owner msg.client msg.jobId
  | .internal (.dm _) =>
    match s.gwd.dmQueue with
    | .allocate _ :: _ => (s.waitingFor a).all fun x =>
      (s.gwd.jobs x.2).isSome || decide (x.2 < s.gwd.nextJobId) ||
        (s.clientOf x.1).any fun c => isGwadmin s.conf c.1
    | _ => true
  | .internal e => !s.gwd.freesOwner e
  | _ => true

/-- A request leaves the jobs alone that its client may not change, unless the daemon ends. -/
def Authorised (p : Rm × Access) (e : RmEvent) : Prop :=
  (p.1.step e).gwd.crashed = false → ∀ c, p.1.requester p.2 e = some c →
    ∀ j, (p.1.step e).gwd.jobs j = p.1.gwd.jobs j ∨
      permitted p.1.conf (p.1.note p.2 e).owner c j = true

/-- The client may ask for the job, as long as it exists. -/
def Entitled (s : Rm) (owner : JobId → Option Client) (c : Client) (j : JobId) : Prop :=
  isGwadmin s.conf c.1 = true ∨ ((s.gwd.jobs j).isSome → owner j = some c)

/-- The jobs belong to their clients, and the requests that wait are entitled to their jobs. -/
structure AccessInv (p : Rm × Access) : Prop where
  inside : ∀ i, (p.1.gwd.jobs i).isSome → i < p.1.gwd.conf.numberOfJobs
  owners : ∀ i, (p.1.gwd.jobs i).isSome →
    ∃ c, p.1.gwd.holder i = some c ∧ p.2.owner i = some c
  aligned : p.2.askers.length = p.1.gwd.dmQueue.length
  tagged : ∀ item n, (item, some n) ∈ p.1.gwd.dmQueue.zip p.2.askers →
    ∃ (q : Request) (j : JobId), item = .job q.action j
  entitled : ∀ x ∈ p.1.waitingFor p.2, ∃ c, p.1.clientOf x.1 = some c ∧ Entitled p.1 p.2.owner c x.2

section Askers

variable {α β : Type*} {item : DmItem} {xs added : List DmItem} {ts : List (Option Nat)}

lemma pad_append (same : ts.length = xs.length) :
    pad ts (xs ++ added).length = ts ++ List.replicate added.length none := by
  rw [pad, List.length_append, same, Nat.add_sub_cancel_left]

lemma pad_self (same : ts.length = xs.length) : pad ts xs.length = ts := by
  have padded : pad ts (xs ++ []).length = ts ++ List.replicate 0 none := pad_append same
  rwa [List.append_nil, List.replicate_zero, List.append_nil] at padded

/-- Nobody asks for the entries that the padding stands for. -/
lemma asked_pad (same : ts.length = xs.length)
    (mem : (item, some n) ∈ (xs ++ added).zip (pad ts (xs ++ added).length)) :
    (item, some n) ∈ xs.zip ts := by
  rw [pad_append same, List.zip_append same.symm] at mem
  rcases List.mem_append.1 mem with mem | mem
  · exact mem
  · have asker := (List.of_mem_zip mem).2
    rw [List.mem_replicate] at asker
    cases asker.2

lemma asked_tail (mem : (item, some n) ∈ xs.tail.zip ts.tail) : (item, some n) ∈ xs.zip ts := by
  cases xs with
  | nil => simp at mem
  | cons x xs =>
    cases ts with
    | nil => simp at mem
    | cons t ts => exact List.mem_cons_of_mem _ mem

/-- The requests that wait, by where they wait. -/
lemma mem_waitingFor {x : Nat × JobId} : x ∈ s.waitingFor a ↔
    (∃ t ∈ s.threads, (t.request, t.jobId) = x) ∨
      ∃ d, (DmItem.job d x.2, some x.1) ∈ s.gwd.dmQueue.zip a.askers := by
  rw [waitingFor, List.mem_append, List.mem_map]
  refine or_congr_right ?_
  constructor
  · intro mem
    obtain ⟨⟨item, asker⟩, waits, eq⟩ := List.mem_filterMap.1 mem
    cases item with
    | allocate msg => cases eq
    | job d i =>
      cases asker with
      | none => cases eq
      | some m =>
        cases eq
        exact ⟨d, waits⟩
  · rintro ⟨d, mem⟩
    exact List.mem_filterMap.2 ⟨_, mem, rfl⟩

end Askers

section Steps

variable {s' : Rm} {a' : Access}

lemma accessInv_start (rmConf : RmConf) (conf : Conf) : AccessInv (Rm.start rmConf conf, {}) where
  inside i there := by cases there
  owners i there := by cases there
  aligned := rfl
  tagged item n mem := by cases mem
  entitled x mem := by cases mem

/-- The invariant after a step: each job that is there was there before with the same client, or it
is a new one that no request waits for; each request that waits did so before, or it is entitled. -/
lemma AccessInv.next (inv : AccessInv (s, a)) (conf : s'.conf = s.conf)
    (pool : s'.gwd.conf = s.gwd.conf) (aligned : a'.askers.length = s'.gwd.dmQueue.length)
    (read : ∀ n c, s.clientOf n = some c → s'.clientOf n = some c)
    (jobs : ∀ i, (s'.gwd.jobs i).isSome →
      ((s.gwd.jobs i).isSome ∧ a'.owner i = a.owner i ∧
        ∀ c, s.gwd.holder i = some c → s'.gwd.holder i = some c) ∨
      (i < s.gwd.conf.numberOfJobs ∧ (∃ c, s'.gwd.holder i = some c ∧ a'.owner i = some c) ∧
        ∀ x ∈ s.waitingFor a, x.2 = i → (s.clientOf x.1).any fun c => isGwadmin s.conf c.1))
    (queue : ∀ item n, (item, some n) ∈ s'.gwd.dmQueue.zip a'.askers →
      (item, some n) ∈ s.gwd.dmQueue.zip a.askers ∨
        ∃ t ∈ s.threads, item = .job t.action.action t.jobId ∧ n = t.request)
    (threads : ∀ t ∈ s'.threads,
      (∃ t' ∈ s.threads, (t'.request, t'.jobId) = (t.request, t.jobId)) ∨
        ∃ c, s'.clientOf t.request = some c ∧ Entitled s' a'.owner c t.jobId) :
    AccessInv (s', a') where
  inside i there := by
    rw [pool]
    rcases jobs i there with ⟨before, -⟩ | ⟨below, -⟩
    · exact inv.inside i before
    · exact below
  owners i there := by
    rcases jobs i there with ⟨before, owner, kept⟩ | ⟨-, new, -⟩
    · obtain ⟨c, known, owned⟩ := inv.owners i before
      exact ⟨c, kept c known, owner.trans owned⟩
    · exact new
  aligned := aligned
  tagged item n mem := by
    rcases queue item n mem with before | ⟨t, -, eq, -⟩
    · exact inv.tagged item n before
    · exact ⟨t.action, t.jobId, eq⟩
  entitled := by
    have old {x : Nat × JobId} (mem : x ∈ s.waitingFor a) :
        ∃ c, s'.clientOf x.1 = some c ∧ Entitled s' a'.owner c x.2 := by
      obtain ⟨c, known, entitled⟩ := inv.entitled x mem
      refine ⟨c, read x.1 c known, ?_⟩
      rcases entitled with admin | owner
      · exact .inl (conf ▸ admin)
      · by_cases admin : isGwadmin s.conf c.1 = true
        · exact .inl (conf ▸ admin)
        · refine .inr fun there => ?_
          rcases jobs x.2 there with ⟨before, same, -⟩ | ⟨-, -, stranger⟩
          · exact same.trans (owner before)
          · have admin' := stranger x mem rfl
            rw [show s.clientOf x.1 = some c from known, Option.any_some] at admin'
            exact absurd admin' admin
    intro x mem
    rcases mem_waitingFor.1 mem with ⟨t, waits, rfl⟩ | ⟨d, waits⟩
    · rcases threads t waits with ⟨t', before, same⟩ | new
      · exact old (mem_waitingFor.2 (.inl ⟨t', before, same⟩))
      · exact new
    · rcases queue _ _ waits with before | ⟨t, before, eq, asker⟩
      · exact old (mem_waitingFor.2 (.inr ⟨d, before⟩))
      · obtain ⟨n, j⟩ := x
        cases eq
        cases asker
        exact old (mem_waitingFor.2 (.inl ⟨t, before, rfl⟩))

/-- A client that is authorised is entitled to the job. -/
lemma authUser_entitled {msg : Msg} (inv : AccessInv (s, a))
    (auth : s.authUser msg.jobId msg.owner msg.proxyPath = true) :
    isGwadmin s.conf msg.client.1 = true ∨
      ((s.gwd.jobs msg.jobId).isSome → a.owner msg.jobId = some msg.client) := by
  rcases Bool.or_eq_true .. ▸ auth with admin | found
  · exact .inl admin
  · refine .inr fun there => ?_
    cases user : s.gwd.userExists msg.owner msg.proxyPath with
    | none => simp [user] at found
    | some uid =>
      obtain ⟨job, here⟩ := Option.isSome_iff_exists.1 there
      have owner : job.userId = some uid := by simpa [user, here] using found
      obtain ⟨c, holder, owned⟩ := inv.owners msg.jobId there
      rw [Gwd.holder_eq here, owner, Option.bind_some, Gwd.userExists_client user] at holder
      cases holder
      exact owned

/-- Nothing but the waiting clients of the jobs changes. -/
lemma AccessInv.still (inv : AccessInv (s, a)) (tells : Tells s s') : AccessInv (s', a) := by
  obtain ⟨jobs, crashed, eq, same⟩ := tells.gwd
  have present (i : JobId) : (s'.gwd.jobs i).isSome = (s.gwd.jobs i).isSome := by
    have some := congrArg Option.isSome (same i)
    rw [eq]
    simpa using some
  have holders (i : JobId) : s'.gwd.holder i = s.gwd.holder i := by
    refine Gwd.holder_congr ?_ (by rw [eq])
    have owner := congrArg (Option.bind · Job.userId) (same i)
    rw [eq]
    simpa [Option.bind_map, Function.comp_def, Job.uncounted] using owner
  have queue : s'.gwd.dmQueue = s.gwd.dmQueue := by rw [eq]
  refine inv.next tells.conf (by rw [eq]) (queue ▸ inv.aligned) ?_ ?_ ?_ ?_
  · intro n c known
    rw [clientOf, tells.received]
    exact known
  · intro i there
    exact .inl ⟨present i ▸ there, rfl, fun c known => (holders i).trans known⟩
  · intro item n mem
    exact .inl (queue ▸ mem)
  · intro t mem
    exact .inl ⟨t, tells.threads ▸ mem, rfl⟩

lemma pad_length {ts : List (Option Nat)} {len : Nat} (le : ts.length ≤ len) :
    (pad ts len).length = len := by
  rw [pad, List.length_append, List.length_replicate, Nat.add_sub_cancel' le]

lemma step_internal {e : Event} (internal : e.internal = true) (alive : s.gwd.crashed = false) :
    s.step (.internal e) = { s with gwd := s.gwd.step e } := by
  simp [step, alive, live, internal]

lemma step_external {e : Event} (external : e.internal = false) :
    s.step (.internal e) = s := by
  simp [step, live, external]

/-- The askers that an event leaves before new entries come. -/
def asked (askers : List (Option Nat)) : Event → List (Option Nat)
  | .dm _ => askers.tail
  | _ => askers

lemma note_askers (s : Rm) (a : Access) (e : Event) :
    (s.note a (.internal e)).askers =
      pad (asked a.askers e) (s.step (.internal e)).gwd.dmQueue.length := by
  cases e <;> rfl

/-- A job that was there keeps its client. -/
lemma note_owner {e : Event} (here : (s.gwd.jobs i).isSome) :
    (s.note a (.internal e)).owner i = a.owner i := by
  cases e
  case dm wS =>
    simp only [note]
    rcases s.gwd.dmQueue with _ | ⟨_ | msg, rest⟩
    · rfl
    · rfl
    · obtain ⟨job, here⟩ := Option.isSome_iff_exists.1 here
      exact if_neg fun new => by rw [here] at new; cases new.1
  all_goals rfl

/-- A submission gives its jobs to its client. -/
lemma note_owner_new {wS : SubmitWorld} {msg : SubmitMsg} {rest : List DmItem}
    (queue : s.gwd.dmQueue = .allocate msg :: rest) (fresh : s.gwd.jobs i = none)
    (there : ((s.step (.internal (.dm wS))).gwd.jobs i).isSome) :
    (s.note a (.internal (.dm wS))).owner i = some msg.client := by
  simp only [note, queue]
  rw [if_pos ⟨by rw [fresh]; rfl, there⟩]

/-- The steps of the daemon itself keep the invariant. -/
lemma accessInv_internal {e : Event} (inv : AccessInv (s, a))
    (ok : guardedStep s a (.internal e) = true) (alive : s.gwd.crashed = false) (live : (s.step (.internal e)).gwd.crashed = false) :
    AccessInv (s.step (.internal e), s.note a (.internal e)) := by
  cases internal : e.internal
  · have same : s.note a (.internal e) = a := by
      have askers : (s.note a (.internal e)).askers = a.askers := by
        rw [note_askers, step_external internal]
        cases e <;> first
          | exact pad_self inv.aligned
          | cases internal
      have owner : (s.note a (.internal e)).owner = a.owner := by
        cases e <;> first
          | rfl
          | cases internal
      calc s.note a (.internal e)
          = ⟨(s.note a (.internal e)).owner, (s.note a (.internal e)).askers⟩ := rfl
        _ = a := by rw [owner, askers]
    rw [step_external internal, same]
    exact inv
  · have eq := step_internal internal alive
    rw [eq] at live
    obtain ⟨added, queue⟩ := Gwd.step_dmQueue live
    have keeps : s.gwd.freesOwner e = false := by
      cases e <;> first
        | rfl
        | simpa [guardedStep] using ok
    have base : (asked a.askers e).length = (s.gwd.dmRest e).length := by
      cases e <;> simp [asked, Gwd.dmRest, inv.aligned]
    refine inv.next (by rw [eq]) (by rw [eq]; exact Gwd.step_conf live) ?_ ?_ ?_ ?_ ?_
    · rw [note_askers, eq, pad_length]
      rw [queue, base]
      simp
    · intro n c known
      rw [eq]
      exact known
    · intro i there
      rw [eq] at there
      rcases Gwd.step_holder live inv.inside keeps there with
        ⟨wS, msg, rest, rfl, head, fresh, above, below, new⟩ | ⟨before, kept⟩
      · refine .inr ⟨below, ⟨msg.client, by rw [eq]; exact new, ?_⟩, ?_⟩
        · exact note_owner_new head fresh (by rw [eq]; exact there)
        · rintro x waits rfl
          simp only [guardedStep, head, List.all_eq_true] at ok
          simpa [fresh, Nat.not_lt.2 above] using ok x waits
      · exact .inl ⟨before, note_owner before, fun c known => by rw [eq]; exact kept c known⟩
    · intro item n mem
      left
      rw [note_askers, eq,
        show ({ s with gwd := s.gwd.step e } : Rm).gwd.dmQueue = _ from queue] at mem
      have before := asked_pad base mem
      cases e <;> first
        | exact asked_tail before
        | exact before
    · intro t mem
      rw [eq] at mem
      exact .inl ⟨t, mem, rfl⟩

/-- A restart gives the jobs that are read back to the clients of their directories. -/
lemma accessInv_restart {w : RecoverWorld} (live : (s.step (.restart w)).gwd.crashed = false) :
    AccessInv (s.step (.restart w), s.note a (.restart w)) where
  inside i there := by
    rw [show (s.step (.restart w)).gwd.conf = s.gwd.conf from Gwd.restart_conf]
    exact (Gwd.restart_clients live there).1
  owners i there := by
    obtain ⟨-, dir, conf, read, names, holder⟩ := Gwd.restart_clients live there
    refine ⟨conf.client, holder, ?_⟩
    show ((s.gwd.dirs i).bind (·.conf)).map JobConf.client = _
    rw [read, Option.bind_some, names]
    rfl
  aligned := pad_length (Nat.zero_le _)
  tagged item n mem := by
    have nobody : (item, some n) ∈ ([] : List DmItem).zip [] := asked_pad rfl mem
    cases nobody
  entitled x mem := by
    rcases mem_waitingFor.1 mem with ⟨t, waits, -⟩ | ⟨d, waits⟩
    · cases waits
    · have nobody : (DmItem.job d x.2, some x.1) ∈ ([] : List DmItem).zip [] := asked_pad rfl waits
      cases nobody

/-- Reading a message keeps the invariant: a request gets a thread when its client is authorised. -/
lemma accessInv_connection {stack msg : Msg} (inv : AccessInv (s, a))
    (live : (s.connection stack msg).gwd.crashed = false) :
    AccessInv (s.connection stack msg, a) := by
  have reads := connection_reads stack msg s
  have read (n : Nat) (c : Client) (known : s.clientOf n = some c) :
      (s.connection stack msg).clientOf n = some c := by
    rw [clientOf, reads.received]
    obtain ⟨m, here, rfl⟩ := Option.map_eq_some_iff.1 known
    have below := (List.getElem?_eq_some_iff.1 here).1
    rw [List.getElem?_append_left below, here]
    rfl
  rcases reads.effect with ⟨gwd, threads⟩ | ⟨gwd, auth, q, entry, threads⟩ |
    ⟨threads, -, -, crashed | ⟨job, here, gwd⟩⟩
  · refine inv.next reads.conf (by rw [gwd]) (by rw [gwd]; exact inv.aligned) read ?_ ?_ ?_
    · intro i there
      rw [gwd] at there ⊢
      exact .inl ⟨there, rfl, fun _ => id⟩
    · intro item n mem
      exact .inl (by rwa [gwd] at mem)
    · intro t mem
      exact .inl ⟨t, threads ▸ mem, rfl⟩
  · refine inv.next reads.conf (by rw [gwd]) (by rw [gwd]; exact inv.aligned) read ?_ ?_ ?_
    · intro i there
      rw [gwd] at there ⊢
      exact .inl ⟨there, rfl, fun _ => id⟩
    · intro item n mem
      exact .inl (by rwa [gwd] at mem)
    · intro t mem
      rw [threads] at mem
      rcases List.mem_append.1 mem with mem | mem
      · exact .inl ⟨t, mem, rfl⟩
      · obtain rfl := List.mem_singleton.1 mem
        refine .inr ⟨msg.client, ?_, ?_⟩
        · rw [clientOf, reads.received, List.getElem?_concat_length]
          rfl
        · rw [Entitled, reads.conf, gwd]
          exact authUser_entitled inv auth
  · rw [crashed] at live
    cases live
  · have present (i : JobId) :
        ((s.connection stack msg).gwd.jobs i).bind Job.userId = (s.gwd.jobs i).bind Job.userId ∧
        ((s.connection stack msg).gwd.jobs i).isSome = (s.gwd.jobs i).isSome := by
      rw [gwd]
      by_cases same : i = msg.jobId
      · subst same
        simp [here]
      · simp [same]
    refine inv.next reads.conf (by rw [gwd]) (by rw [gwd]; exact inv.aligned) read ?_ ?_ ?_
    · intro i there
      refine .inl ⟨(present i).2 ▸ there, rfl, fun c known => ?_⟩
      exact (Gwd.holder_congr (present i).1 (by rw [gwd])).trans known
    · intro item n mem
      exact .inl (by rwa [gwd] at mem)
    · intro t mem
      exact .inl ⟨t, threads ▸ mem, rfl⟩

/-- Nothing is noted when nothing is queued. -/
lemma note_still
    (same : s.note a e = { a with askers := pad a.askers (s.step e).gwd.dmQueue.length })
    (queue : (s.step e).gwd.dmQueue = s.gwd.dmQueue)
    (aligned : a.askers.length = s.gwd.dmQueue.length) : s.note a e = a := by
  rw [same, queue, pad_self aligned]

/-- A submission waits in the queue, and nobody asks for it. -/
lemma accessInv_submit {msg : Msg} {sub : SubmitMsg} (inv : AccessInv (s, a))
    (alive : s.gwd.crashed = false) :
    AccessInv (s.submit msg sub,
      { a with askers := pad a.askers (s.submit msg sub).gwd.dmQueue.length }) := by
  have read (n : Nat) (c : Client) (known : s.clientOf n = some c) :
      (s.receive msg).clientOf n = some c := by
    obtain ⟨m, here, rfl⟩ := Option.map_eq_some_iff.1 known
    have below := (List.getElem?_eq_some_iff.1 here).1
    rw [clientOf, receive, List.getElem?_append_left below, here]
    rfl
  unfold submit
  dsimp only
  split
  · rw [show ((s.receive msg).permissionDenied s.received.length msg).gwd = s.gwd from rfl,
      pad_self inv.aligned]
    exact inv.next rfl rfl inv.aligned read (fun i there => .inl ⟨there, rfl, fun _ => id⟩)
      (fun item n mem => .inl mem) fun t mem => .inl ⟨t, mem, rfl⟩
  · have queue (q : SubmitMsg) : s.gwd.step (.submit q) =
        { s.gwd with dmQueue := s.gwd.dmQueue ++ [.allocate q] } := by
      simp [Gwd.step, alive, Gwd.live]
    rw [show (s.receive msg).gwd = s.gwd from rfl, queue]
    refine inv.next rfl rfl ?_ read (fun i there => .inl ⟨there, rfl, fun _ => id⟩) ?_
      fun t mem => .inl ⟨t, mem, rfl⟩
    · rw [pad_length]
      simp [inv.aligned]
    · intro item n mem
      exact .inl (asked_pad inv.aligned mem)

/-- A client is entered in the list, and its request keeps its place. -/
lemma accessInv_enlist (inv : AccessInv (s, a)) : AccessInv (s.enlist n, a) := by
  unfold enlist
  split
  · exact inv
  · rename_i t found
    split
    · exact inv
    · refine inv.next rfl rfl inv.aligned (fun _ _ => id)
        (fun i there => .inl ⟨there, rfl, fun _ => id⟩) (fun item n mem => .inl mem)
        fun t' mem => .inl ?_
      rcases List.mem_or_eq_of_mem_set mem with mem | rfl
      · exact ⟨t', mem, rfl⟩
      · exact ⟨t, List.mem_of_getElem? found, rfl⟩

lemma enlist_dmQueue : (s.enlist n).gwd.dmQueue = s.gwd.dmQueue := by
  unfold enlist
  split
  · rfl
  · split <;> rfl

/-- A request goes from its thread to the queue. -/
lemma accessInv_trigger (inv : AccessInv (s, a)) (alive : s.gwd.crashed = false)
    (eq : s.step (.trigger n) = s.trigger n) :
    AccessInv (s.trigger n, s.note a (.trigger n)) := by
  unfold note
  dsimp only
  rw [eq]
  unfold trigger
  cases found : s.threads[n]? with
  | none =>
    dsimp only
    rw [Option.filter_none, Option.toList_none, List.map_nil, List.append_nil, pad_self inv.aligned]
    exact inv
  | some t =>
    have queue : s.gwd.step (.request t.action t.jobId) =
        { s.gwd with dmQueue := s.gwd.dmQueue ++ [.job t.action.action t.jobId] } := by
      simp [Gwd.step, alive, Gwd.live]
    dsimp only
    cases entry : t.entry with
    | some c =>
      simp only [Option.filter, entry, Option.isNone_some, Bool.false_eq_true, if_false,
        Option.isSome_some, if_true, Option.toList_none, List.map_nil, List.append_nil]
      rw [pad_self inv.aligned]
      exact inv
    | none =>
      simp only [Option.filter, entry, Option.isNone_none, if_true, Option.isSome_none,
        Bool.false_eq_true, if_false, Option.toList_some, List.map_cons, List.map_nil]
      rw [queue]
      have padded : pad (a.askers ++ [some t.request])
          (s.gwd.dmQueue ++ [DmItem.job t.action.action t.jobId]).length =
            a.askers ++ [some t.request] := pad_self (by simp [inv.aligned])
      rw [padded]
      refine inv.next rfl rfl (by simp [inv.aligned]) (fun _ _ => id)
        (fun i there => .inl ⟨there, rfl, fun _ => id⟩) ?_
        fun t mem => .inl ⟨t, List.mem_of_mem_eraseIdx mem, rfl⟩
      intro item m mem
      rw [List.zip_append inv.aligned.symm] at mem
      rcases List.mem_append.1 mem with mem | mem
      · exact .inl mem
      · rw [List.zip_cons_cons, List.zip_nil_right, List.mem_singleton] at mem
        cases mem
        exact .inr ⟨t, List.mem_of_getElem? found, rfl, rfl⟩

/-- Every step that is guarded keeps the invariant. -/
theorem accessInv_step {p : Rm × Access} (inv : p.1.gwd.crashed = false → AccessInv p)
    (ok : guardedStep p.1 p.2 e = true) (live : (p.1.step e).gwd.crashed = false) :
    AccessInv (Machine.observe step note p e) := by
  obtain ⟨s, a⟩ := p
  cases e
  case restart w => exact accessInv_restart live
  all_goals
    obtain ⟨alive, eq⟩ := step_live live (by simp)
    have inv := inv alive
    rw [eq] at live
  case internal e => exact accessInv_internal inv ok alive (eq ▸ live)
  case connection stack msg =>
    have queue : (s.step (.connection stack msg)).gwd.dmQueue = s.gwd.dmQueue := by
      rw [eq]
      exact connection_dmQueue live
    show AccessInv (s.step (.connection stack msg), s.note a (.connection stack msg))
    rw [note_still rfl queue inv.aligned, eq]
    exact accessInv_connection inv live
  case submit msg sub =>
    show AccessInv (s.step (.submit msg sub), s.note a (.submit msg sub))
    unfold note
    dsimp only
    rw [eq]
    exact accessInv_submit inv alive
  case enlist n =>
    have queue : (s.step (.enlist n)).gwd.dmQueue = s.gwd.dmQueue := by
      rw [eq]
      exact enlist_dmQueue
    show AccessInv (s.step (.enlist n), s.note a (.enlist n))
    rw [note_still rfl queue inv.aligned, eq]
    exact accessInv_enlist inv
  case trigger n =>
    show AccessInv (s.step (.trigger n), s.note a (.trigger n))
    rw [show s.step (.trigger n) = s.trigger n from eq]
    exact accessInv_trigger inv alive eq
  case next =>
    have queue : (s.step .next).gwd.dmQueue = s.gwd.dmQueue := by
      rw [eq]
      rcases next_tells (s := s) with same | tells
      · exact congrArg (·.gwd.dmQueue) same
      · exact tells.dmQueue
    have kept : AccessInv (s.next, a) := by
      rcases next_tells (s := s) with same | tells
      · rw [same]
        exact inv
      · have inv : AccessInv ({ s with handled := s.handled + 1 }, a) :=
          ⟨inv.inside, inv.owners, inv.aligned, inv.tagged, inv.entitled⟩
        exact inv.still tells
    show AccessInv (s.step .next, s.note a .next)
    rw [note_still rfl queue inv.aligned, eq]
    exact kept
  case disconnect socket =>
    have queue : (s.step (.disconnect socket)).gwd.dmQueue = s.gwd.dmQueue := by
      rw [eq]
      rfl
    show AccessInv (s.step (.disconnect socket), s.note a (.disconnect socket))
    rw [note_still rfl queue inv.aligned, eq]
    exact inv.still (.of_gwd rfl rfl rfl rfl rfl)

end Steps

section Requests

/-- Reading a message changes a job only by a priority. -/
lemma authorised_connection {stack msg : Msg} (ok : guardedStep s a (.connection stack msg) = true)
    (live : (s.connection stack msg).gwd.crashed = false) (j : JobId) :
    (s.connection stack msg).gwd.jobs j = s.gwd.jobs j ∨
      permitted s.conf a.owner msg.client j = true := by
  rcases (connection_reads stack msg s).effect with ⟨gwd, -⟩ | ⟨gwd, -⟩ |
    ⟨-, priority, granted, crashed | ⟨job, here, gwd⟩⟩
  · exact .inl (by rw [gwd])
  · exact .inl (by rw [gwd])
  · rw [crashed] at live
    cases live
  · by_cases same : j = msg.jobId
    · obtain ⟨value, granted⟩ := Option.isSome_iff_exists.1 granted
      right
      rw [same]
      simpa [guardedStep, priority, granted, here] using ok
    · exact .inl (by rw [gwd]; exact Function.update_of_ne same ..)

/-- The Dispatch Manager changes jobs for a request only when its client may change them. -/
lemma authorised_dm {wS : SubmitWorld} (inv : AccessInv (s, a))
    (live : (s.gwd.step (.dm wS)).crashed = false)
    (asks : s.requester a (.internal (.dm wS)) = some c)
    (eq : s.step (.internal (.dm wS)) = { s with gwd := s.gwd.step (.dm wS) }) (j : JobId) :
    (s.gwd.step (.dm wS)).jobs j = s.gwd.jobs j ∨
      permitted s.conf (s.note a (.internal (.dm wS))).owner c j = true := by
  rcases queue : s.gwd.dmQueue with _ | ⟨⟨d, i⟩ | msg, rest⟩
  · simp [requester, queue] at asks
  · -- the entry was put there by a request, or nobody asked for it
    cases askers : a.askers with
    | nil => simp [requester, queue, askers] at asks
    | cons asker others =>
      cases asker with
      | none => simp [requester, queue, askers] at asks
      | some n =>
        have waits : (DmItem.job d i, some n) ∈ s.gwd.dmQueue.zip a.askers := by
          rw [queue, askers, List.zip_cons_cons]
          exact List.mem_cons_self
        obtain ⟨q, _, head⟩ := inv.tagged _ n waits
        cases head
        by_cases other : j = i
        · subst other
          obtain ⟨c', known, entitled⟩ := inv.entitled (n, j) (mem_waitingFor.2 (.inr ⟨_, waits⟩))
          have client : c' = c := by
            simp only [requester, queue, askers, List.head?_cons, Option.join_some,
              Option.bind_some] at asks
            exact Option.some.inj (known.symm.trans asks)
          subst client
          cases there : s.gwd.jobs j with
          | none =>
            left
            simp [Gwd.step, Gwd.step_alive live, Gwd.live, Gwd.dmNext, queue, there]
          | some job =>
            right
            rcases entitled with admin | owner
            · simp [permitted, admin]
            · have mine : a.owner j = some c' := owner (by rw [there]; rfl)
              have kept : (s.note a (.internal (.dm wS))).owner j = some c' :=
                (note_owner (by rw [there]; rfl)).trans mine
              simp [permitted, kept]
        · exact .inl (Gwd.request_other queue other)
  · -- a submission takes free slots, for its client
    have client : c = msg.client := by
      simp only [requester, queue] at asks
      exact (Option.some.inj asks).symm
    subst client
    have step : s.gwd.step (.dm wS) = ({ s.gwd with dmQueue := rest } : Gwd).allocate wS msg := by
      simp [Gwd.step, Gwd.step_alive live, Gwd.live, Gwd.dmNext, queue]
    cases there : s.gwd.jobs j with
    | some job =>
      left
      rw [step, ← there]
      exact Gwd.allocate_old (s := { s.gwd with dmQueue := rest }) (by rw [there]; rfl)
    | none =>
      cases after : (s.gwd.step (.dm wS)).jobs j with
      | none => exact .inl rfl
      | some job =>
        right
        have new : (s.note a (.internal (.dm wS))).owner j = some msg.client :=
          note_owner_new queue there (by rw [eq, after]; rfl)
        simp [permitted, new]

/-- A guarded step serves no request against the owner of a job. -/
theorem authorised_step {p : Rm × Access} (inv : p.1.gwd.crashed = false → AccessInv p)
    (ok : guardedStep p.1 p.2 e = true) : Authorised p e := by
  obtain ⟨s, a⟩ := p
  intro live c asks j
  cases e
  case restart w => cases asks
  all_goals
    obtain ⟨alive, eq⟩ := step_live live (by simp)
    have inv := inv alive
  case connection stack msg =>
    cases asks
    rw [eq] at live
    have kept : (s.note a (.connection stack msg)).owner = a.owner := rfl
    rw [kept, show s.step (.connection stack msg) = s.connection stack msg from eq]
    exact authorised_connection ok live j
  case submit msg sub =>
    have alive : s.gwd.crashed = false := alive
    left
    rw [eq]
    simp only [Rm.live, submit]
    split
    · rfl
    · simp [Gwd.step, alive, Gwd.live, receive]
  case trigger n =>
    have alive : s.gwd.crashed = false := alive
    left
    rw [eq]
    simp only [Rm.live, trigger]
    split
    · rfl
    · split
      · rfl
      · simp [Gwd.step, alive, Gwd.live]
  case enlist n => cases asks
  case internal e =>
    cases e
    case dm wS =>
      have eq : s.step (.internal (.dm wS)) = { s with gwd := s.gwd.step (.dm wS) } :=
        step_internal rfl alive
      rw [eq] at live ⊢
      exact authorised_dm inv live asks eq j
    all_goals cases asks
  case next => cases asks
  case disconnect socket => cases asks

/-- In every run whose priorities come from the owners, that frees no user with jobs and that gives
no id away for which somebody else's request waits, a request changes a job only for its owner or
for the administrator. -/
theorem requests_authorised (rmConf : RmConf) (conf : Conf) (evs : List RmEvent) (e : RmEvent)
    (guarded : Machine.Guarded (Machine.observe step note)
      (fun p e => guardedStep p.1 p.2 e = true) (start rmConf conf, {}) (evs ++ [e])) :
    Authorised (Machine.run (Machine.observe step note) (start rmConf conf, {}) evs) e := by
  obtain ⟨before, ok, -⟩ := Machine.guarded_cut guarded
  have inv := Machine.run_induction
    (fun p : Rm × Access => p.1.gwd.crashed = false → AccessInv p)
    (fun _ _ inv ok live => accessInv_step inv ok live) (fun _ => accessInv_start rmConf conf) before
  exact authorised_step inv ok

/-- The configuration for runs on fixed inputs. -/
def smallConf : Conf :=
  { numberOfJobs := 4, numberOfUsers := 4, numberOfArrays := 1, numberOfHosts := 2 }

/-- The job of a user is submitted; its owner and a stranger ask to hold it. -/
def holdRun : List RmEvent :=
  [.submit { msgType := .submit, clientSocket := 5, owner := "alice", proxyPath := "/tmp/x509up" }
      { owner := "" },
    .internal (.dm {}),
    .connection { msgType := .hold, clientSocket := 0 }
      { msgType := .hold, clientSocket := 6, owner := "bob" },
    .connection { msgType := .hold, clientSocket := 0 }
      { msgType := .hold, clientSocket := 5, owner := "alice", proxyPath := "/tmp/x509up" },
    .enlist 0, .trigger 0]

/-- The request of the owner holds the job, that of the stranger got no thread. -/
theorem requests_authorised_hold :
    let p := Machine.run (Machine.observe step note)
      (start { gwadmin := "gwadmin" } smallConf, {}) holdRun
    p.1.requester p.2 (.internal (.dm {})) = some ("alice", "/tmp/x509up") ∧
      ((p.1.step (.internal (.dm {}))).gwd.jobs 0).map Job.jobState = some .hold ∧
      Authorised p (.internal (.dm {})) :=
  ⟨by decide, by decide,
    requests_authorised { gwadmin := "gwadmin" } smallConf holdRun (.internal (.dm {}))
      (by decide)⟩

/-- A stranger gives the job of another user the highest priority. -/
theorem priority_by_stranger : ¬ ∀ (rmConf : RmConf) (conf : Conf) (evs : List RmEvent)
    (e : RmEvent),
      Authorised (Machine.run (Machine.observe step note) (start rmConf conf, {}) evs) e := by
  intro all
  have changed := all { gwadmin := "gwadmin" } smallConf holdRun
    (.connection { msgType := .priority, clientSocket := 0 }
      { msgType := .priority, clientSocket := 6, owner := "bob", fixedPriority := 20 })
    (by decide) ("bob", "") (by decide) 0
  revert changed
  decide

end Requests

end Rm

end GridWay
