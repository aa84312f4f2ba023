import Mathlib.Data.List.Basic
import Mathlib.Logic.Function.Basic

/-!
# The waits in the daemon

What the request manager and the dispatch manager do with the waits of one client (`gw_rm.c`, `gw_rm_wait.c`,
`gw_rm_kill.c`, `gw_dm_action_wait.c`). The managers have queues of actions, and jobs end and are removed
between them. An observer notes how each job has ended.

* `Daemon.step`: the actions, and what happens to the jobs.
* `Daemon.Truthful`: an answer is about a job that has ended in the way it says.
* `Daemon.Ok.step`: every answer that is sent is truthful.
-/

namespace GridWay.Drmaa

/-- How a job has ended. -/
inductive Outcome where
  | exited (code : Int)
  | failed
  | removed
deriving DecidableEq, Repr

/-- The states of a job that a wait can tell apart. -/
inductive Job where
  | running
  | zombie (code : Int)
  | failed (code : Int)
deriving DecidableEq, Repr

/-- `gw_return_code_t`, of the answers to a wait. -/
inductive Rc where
  | success
  | badJobId
  | jobFail
  | jobKilled
  | perm
  | timeout
deriving DecidableEq, Repr

/-- The answer to a wait. -/
structure Msg where
  rc : Rc
  jobId : Int
  exitCode : Int := 0
deriving DecidableEq, Repr

/-- `gw_msg_wait_type_t`. -/
inductive WaitType where
  | job
  | any
  | anyFirst
deriving DecidableEq, Repr

/-- An action in the queue of a manager. -/
inductive Action where
  | wait (jid : Int)
  | waitSuccess (jid : Int)
  | waitFailed (jid : Int)
  | killSuccess (jid : Int)
deriving DecidableEq, Repr

/-- The job that an action is about. -/
def Action.job : Action → Int
  | .wait jid => jid
  | .waitSuccess jid => jid
  | .waitFailed jid => jid
  | .killSuccess jid => jid

/-- How a job that the pool holds, or no longer holds, has ended. -/
def outcome : Option Job → List Outcome
  | none => [.removed]
  | some .running => []
  | some (.zombie code) => [.exited code]
  | some (.failed _) => [.failed]

/-- The pool of the jobs, the queues, and what the daemon has for the connection of the client: the requests
that it has not read, the list of the waits, and the answers that it sent. The observer keeps the ids that
were given to jobs, and the outcomes of the last job with an id. -/
structure Daemon where
  alive : Bool := true
  pool : Int → Option Job
  requests : List (WaitType × Int) := []
  waits : List (WaitType × Int) := []
  actions : List Action := []
  answers : List Msg := []
  past : Int → List Outcome
  used : List Int

/-- What happens in the daemon. Whether a client waits for a job that ends is counted over all clients. -/
inductive DaemonEvent where
  | allocate (jid : Int)
  | finish (jid code : Int) (waiting : Bool)
  | fail (jid code : Int) (waiting : Bool)
  | kill (jid : Int)
  | read (authorized : Bool)
  | act (k : Nat)

namespace Daemon

/-- A daemon without jobs. -/
def start : Daemon where
  pool _ := none
  past _ := []
  used := []

/-- A job ends. -/
def ends (d : Daemon) (jid : Int) (job : Option Job) (actions : List Action) : Daemon :=
  { d with
    pool := Function.update d.pool jid job
    past := Function.update d.past jid (outcome job ++ d.past jid)
    actions := d.actions ++ actions }

/-- Answers the waits for a job; a wait for any job ends the other waits of the client. -/
def notify (d : Daemon) (m : Msg) : Nat → Daemon
  | 0 => d
  | n + 1 =>
    match d.waits.find? (·.2 = m.jobId) with
    | none => d
    | some w =>
      let waits := if w.1 = .any then [] else d.waits.erase w
      notify { d with waits, answers := d.answers ++ [m] } m n

/-- `gw_rm_wait_success`. It unlocks the job at its end, also when there is none. -/
def waitSuccess (d : Daemon) (jid : Int) : Daemon :=
  match d.pool jid with
  | none => { d.notify { rc := .badJobId, jobId := jid } d.waits.length with alive := false }
  | some (.failed code) => d.notify { rc := .jobFail, jobId := jid, exitCode := code } d.waits.length
  | some (.zombie code) => d.notify { rc := .success, jobId := jid, exitCode := code } d.waits.length
  | some .running => d.notify { rc := .success, jobId := jid } d.waits.length

/-- `gw_dm_wait`. -/
def wait (d : Daemon) (jid : Int) : Daemon :=
  match d.pool jid with
  | none => { d with actions := d.actions ++ [.waitFailed jid] }
  | some .running => d
  | some _ => { d with actions := d.actions ++ [.waitSuccess jid] }

/-- A manager runs an action. -/
def run (d : Daemon) : Action → Daemon
  | .wait jid => d.wait jid
  | .waitSuccess jid => d.waitSuccess jid
  | .waitFailed jid => d.notify { rc := .badJobId, jobId := jid } 1
  | .killSuccess jid => d.notify { rc := .jobKilled, jobId := jid } d.waits.length

/-- `gw_rm_connection`, for a wait. -/
def read (d : Daemon) (authorized : Bool) : Daemon :=
  match d.requests with
  | [] => d
  | (type, jid) :: requests =>
    if !authorized then { d with requests, answers := d.answers ++ [{ rc := .perm, jobId := jid }] }
    else if type = .any ∧ ∀ w ∈ d.waits, w.1 ≠ .any then { d with requests }
    else
      let type := if type = .anyFirst then .any else type
      { d with requests, waits := (type, jid) :: d.waits, actions := d.actions ++ [.wait jid] }

/-- A step. -/
def step (d : Daemon) (e : DaemonEvent) : Daemon :=
  if !d.alive then d
  else
    match e with
    | .allocate jid =>
      if 0 ≤ jid ∧ d.pool jid = none then
        { d with
          pool := Function.update d.pool jid (some .running)
          past := Function.update d.past jid []
          used := jid :: d.used }
      else d
    | .finish jid code waiting =>
      if d.pool jid = some .running then
        d.ends jid (some (.zombie code)) (if waiting then [.waitSuccess jid] else [])
      else d
    | .fail jid code waiting =>
      if d.pool jid = some .running then
        d.ends jid (some (.failed code)) (if waiting then [.waitSuccess jid] else [])
      else d
    | .kill jid =>
      if d.pool jid = none then d else d.ends jid none [.killSuccess jid]
    | .read authorized => d.read authorized
    | .act k =>
      match d.actions[k]? with
      | none => d
      | some a => { d with actions := d.actions.eraseIdx k }.run a

/-- The daemon can give an id to a new job. -/
def accepts (d : Daemon) (jid : Int) : Bool := d.alive && decide (0 ≤ jid ∧ d.pool jid = none)

/-- The client connects and asks for some jobs. -/
def connect (d : Daemon) (requests : List (WaitType × Int)) : Daemon :=
  { d with requests, waits := [], answers := [] }

/-- The client disconnects. -/
def disconnect (d : Daemon) : Daemon := d.connect []

/-- Nothing is left to do for an earlier job with the id. -/
def Fresh (d : Daemon) (jid : Int) : Prop :=
  (∀ a ∈ d.actions, a.job ≠ jid) ∧ ∀ m ∈ d.answers, m.jobId ≠ jid

/-- The answer tells how its job has ended. -/
def Truthful (d : Daemon) (m : Msg) : Prop :=
  match m.rc with
  | .success => .exited m.exitCode ∈ d.past m.jobId
  | .jobFail => .failed ∈ d.past m.jobId
  | .jobKilled => .removed ∈ d.past m.jobId
  | .badJobId => m.jobId ∈ d.used → .removed ∈ d.past m.jobId
  | _ => True

/-- The answer that an action will give is truthful. -/
def Due (d : Daemon) : Action → Prop
  | .wait _ => True
  | .waitSuccess jid => jid ∈ d.used ∧ d.pool jid ≠ some .running
  | .waitFailed jid => jid ∈ d.used → d.pool jid = none
  | .killSuccess jid => .removed ∈ d.past jid

/-- The pool and the queues agree with how the jobs have ended. -/
structure Ok (d : Daemon) : Prop where
  noted : ∀ jid ∈ d.used, outcome (d.pool jid) ⊆ d.past jid
  going : ∀ jid, d.pool jid = some .running → d.past jid = []
  pooled : ∀ jid, d.pool jid ≠ none → jid ∈ d.used
  known : ∀ jid, d.past jid ≠ [] → jid ∈ d.used
  ids : ∀ jid ∈ d.used, 0 ≤ jid
  due : ∀ a ∈ d.actions, d.Due a
  truthful : ∀ m ∈ d.answers, d.Truthful m

/-- The client has asked for one job only. -/
structure Asked (d : Daemon) (jid : Int) : Prop where
  requests : ∀ r ∈ d.requests, r.2 = jid
  waits : ∀ w ∈ d.waits, w.2 = jid
  answers : ∀ m ∈ d.answers, m.jobId = jid

variable {d d' : Daemon} {jid k : Int} {m : Msg} {job : Option Job} {actions : List Action}

/-- One message is sent to some of the waits for its job. -/
structure Sends (d : Daemon) (m : Msg) (d' : Daemon) : Prop where
  same : d' = { d with waits := d'.waits, answers := d'.answers }
  waits : ∀ w ∈ d'.waits, w ∈ d.waits
  answers : ∀ x ∈ d'.answers, x ∈ d.answers ∨ x = m ∧ ∃ w ∈ d.waits, w.2 = m.jobId

lemma notify_sends (d : Daemon) (m : Msg) (n : Nat) : d.Sends m (d.notify m n) := by
  induction n generalizing d with
  | zero => exact ⟨rfl, fun _ mem => mem, fun _ mem => .inl mem⟩
  | succ n ih =>
    rw [notify]
    cases found : d.waits.find? (·.2 = m.jobId) with
    | none => exact ⟨rfl, fun _ mem => mem, fun _ mem => .inl mem⟩
    | some w =>
      have here : w ∈ d.waits := List.mem_of_find?_eq_some found
      have about : w.2 = m.jobId := by
        have holds := List.find?_some found
        exact of_decide_eq_true holds
      have fewer : ∀ v ∈ (if w.1 = .any then [] else d.waits.erase w), v ∈ d.waits := by
        intro v mem
        split at mem
        · exact (List.not_mem_nil mem).elim
        · exact List.mem_of_mem_erase mem
      dsimp only
      obtain ⟨same, waits, answers⟩ := ih
        { d with waits := if w.1 = .any then [] else d.waits.erase w, answers := d.answers ++ [m] }
      refine ⟨same, fun v mem => fewer v (waits v mem), fun x mem => ?_⟩
      obtain old | ⟨new, -⟩ := answers x mem
      · obtain old | new := List.mem_append.1 old
        · exact .inl old
        · exact .inr ⟨List.mem_singleton.1 new, w, here, about⟩
      · exact .inr ⟨new, w, here, about⟩

/-- Other waits and truthful answers. -/
lemma Ok.answered (ok : d.Ok) {waits requests : List (WaitType × Int)} {answers : List Msg} {alive : Bool}
    (truthful : ∀ m ∈ answers, d.Truthful m) : { d with alive, requests, waits, answers }.Ok where
  noted := ok.noted
  going := ok.going
  pooled := ok.pooled
  known := ok.known
  ids := ok.ids
  due := ok.due
  truthful := truthful

lemma Ok.sends (ok : d.Ok) (sends : d.Sends m d') (truthful : d.Truthful m) : d'.Ok := by
  rw [sends.same]
  refine ok.answered fun x mem => ?_
  obtain old | ⟨rfl, -⟩ := sends.answers x mem
  · exact ok.truthful x old
  · exact truthful

lemma Ok.notify (ok : d.Ok) (n : Nat) (truthful : d.Truthful m) : (d.notify m n).Ok :=
  ok.sends (notify_sends d m n) truthful

/-- More actions are due. -/
lemma Ok.queued (ok : d.Ok) (due : ∀ a ∈ actions, d.Due a) : { d with actions }.Ok where
  noted := ok.noted
  going := ok.going
  pooled := ok.pooled
  known := ok.known
  ids := ok.ids
  due := due
  truthful := ok.truthful

lemma Ok.append (ok : d.Ok) {a : Action} (due : d.Due a) : { d with actions := d.actions ++ [a] }.Ok := by
  refine ok.queued fun b mem => ?_
  obtain old | new := List.mem_append.1 mem
  · exact ok.due b old
  · rw [List.mem_singleton.1 new]
    exact due

/-- A job ends, or is removed. -/
lemma Ok.ends (ok : d.Ok) (pooled : d.pool jid ≠ none) (finished : job ≠ some .running)
    (due : ∀ a ∈ actions, a = .waitSuccess jid ∨ a = .killSuccess jid ∧ job = none) :
    (d.ends jid job actions).Ok := by
  have mine : jid ∈ d.used := ok.pooled jid pooled
  have grows (i : Int) : d.past i ⊆ (d.ends jid job actions).past i := by
    intro o mem
    show o ∈ Function.update d.past jid _ i
    by_cases same : i = jid
    · subst same
      rw [Function.update_self]
      exact List.mem_append_right _ mem
    · rw [Function.update_of_ne same]
      exact mem
  have pool (i : Int) (other : i ≠ jid) : (d.ends jid job actions).pool i = d.pool i :=
    Function.update_of_ne other _ _
  have self : (d.ends jid job actions).pool jid = job := Function.update_self _ _ _
  have added : outcome job ⊆ (d.ends jid job actions).past jid := by
    show outcome job ⊆ Function.update d.past jid _ jid
    rw [Function.update_self]
    exact List.subset_append_left _ _
  constructor
  case noted =>
    intro i used
    by_cases same : i = jid
    · subst same
      rw [self]
      exact added
    · rw [pool i same]
      exact List.Subset.trans (ok.noted i used) (grows i)
  case going =>
    intro i running
    by_cases same : i = jid
    · subst same
      rw [self] at running
      exact absurd running finished
    · rw [pool i same] at running
      rw [← ok.going i running]
      exact Function.update_of_ne same _ _
  case pooled =>
    intro i there
    by_cases same : i = jid
    · exact same ▸ mine
    · rw [pool i same] at there
      exact ok.pooled i there
  case known =>
    intro i some
    by_cases same : i = jid
    · exact same ▸ mine
    · refine ok.known i fun none => some ?_
      rw [← none]
      exact Function.update_of_ne same _ _
  case ids => exact ok.ids
  case due =>
    intro a mem
    obtain old | new := List.mem_append.1 mem
    · have before := ok.due a old
      cases a with
      | wait i => trivial
      | waitSuccess i =>
        refine ⟨before.1, ?_⟩
        by_cases same : i = jid
        · subst same
          rw [self]
          exact finished
        · rw [pool i same]
          exact before.2
      | waitFailed i =>
        intro used
        have gone : d.pool i = none := before used
        have other : i ≠ jid := fun same => pooled (same ▸ gone)
        rw [pool i other]
        exact gone
      | killSuccess i => exact grows i before
    · obtain rfl | ⟨rfl, rfl⟩ := due a new
      · refine ⟨mine, ?_⟩
        rw [self]
        exact finished
      · exact added (List.mem_singleton_self _)
  case truthful =>
    intro m mem
    have before := ok.truthful m mem
    rw [Truthful] at before ⊢
    cases rc : m.rc with
    | success =>
      rw [rc] at before
      exact grows _ before
    | jobFail =>
      rw [rc] at before
      exact grows _ before
    | jobKilled =>
      rw [rc] at before
      exact grows _ before
    | badJobId =>
      rw [rc] at before
      exact fun used => grows _ (before used)
    | _ => trivial

/-- A new job gets an id that is fresh. -/
lemma Ok.allocate (ok : d.Ok) (fresh : d.Fresh jid) (index : 0 ≤ jid) :
    Ok { d with
      pool := Function.update d.pool jid (some .running)
      past := Function.update d.past jid []
      used := jid :: d.used } := by
  obtain ⟨idle, unanswered⟩ := fresh
  constructor
  case noted =>
    intro i used
    show outcome (Function.update d.pool jid _ i) ⊆ Function.update d.past jid [] i
    by_cases same : i = jid
    · rw [same, Function.update_self]
      exact List.nil_subset _
    · rw [Function.update_of_ne same, Function.update_of_ne same]
      exact ok.noted i ((List.mem_cons.1 used).resolve_left same)
  case going =>
    intro i running
    show Function.update d.past jid [] i = []
    by_cases same : i = jid
    · rw [same, Function.update_self]
    · rw [Function.update_of_ne same]
      refine ok.going i ?_
      rw [← running]
      exact (Function.update_of_ne same _ _).symm
  case pooled =>
    intro i there
    by_cases same : i = jid
    · exact same ▸ List.mem_cons_self
    · refine List.mem_cons_of_mem _ (ok.pooled i fun none => there ?_)
      rw [← none]
      exact Function.update_of_ne same _ _
  case known =>
    intro i some
    by_cases same : i = jid
    · exact same ▸ List.mem_cons_self
    · refine List.mem_cons_of_mem _ (ok.known i fun none => some ?_)
      rw [← none]
      exact Function.update_of_ne same _ _
  case ids =>
    intro i used
    obtain rfl | used := List.mem_cons.1 used
    · exact index
    · exact ok.ids i used
  case due =>
    intro a mem
    have before := ok.due a mem
    cases a with
    | wait i => trivial
    | waitSuccess i =>
      have other : i ≠ jid := idle _ mem
      refine ⟨List.mem_cons_of_mem _ before.1, ?_⟩
      show Function.update d.pool jid _ i ≠ _
      rw [Function.update_of_ne other]
      exact before.2
    | waitFailed i =>
      have other : i ≠ jid := idle _ mem
      intro used
      show Function.update d.pool jid _ i = _
      rw [Function.update_of_ne other]
      exact before ((List.mem_cons.1 used).resolve_left other)
    | killSuccess i =>
      have other : i ≠ jid := idle _ mem
      show Outcome.removed ∈ Function.update d.past jid [] i
      rw [Function.update_of_ne other]
      exact before
  case truthful =>
    intro m mem
    have other : m.jobId ≠ jid := unanswered m mem
    have before := ok.truthful m mem
    have past : Function.update d.past jid [] m.jobId = d.past m.jobId := Function.update_of_ne other _ _
    rw [Truthful] at before ⊢
    dsimp only
    rw [past]
    cases rc : m.rc with
    | badJobId =>
      rw [rc] at before
      exact fun used => before ((List.mem_cons.1 used).resolve_left other)
    | _ =>
      rw [rc] at before
      exact before

lemma Ok.read (ok : d.Ok) (authorized : Bool) : (d.read authorized).Ok := by
  rw [Daemon.read]
  cases d.requests with
  | nil => exact ok
  | cons request requests =>
    obtain ⟨type, jid⟩ := request
    dsimp only
    by_cases denied : !authorized
    · rw [if_pos denied]
      refine ok.answered fun m mem => ?_
      obtain old | new := List.mem_append.1 mem
      · exact ok.truthful m old
      · rw [List.mem_singleton.1 new]
        trivial
    · rw [if_neg denied]
      by_cases answered : type = .any ∧ ∀ w ∈ d.waits, w.1 ≠ .any
      · rw [if_pos answered]
        exact ok.answered ok.truthful
      · rw [if_neg answered]
        exact (ok.append (a := .wait jid) trivial).answered ok.truthful

/-- The job of an answer has ended. -/
lemma Ok.run (ok : d.Ok) {a : Action} (due : d.Due a) : (d.run a).Ok := by
  cases a with
  | wait jid =>
    rw [Daemon.run, Daemon.wait]
    cases job : d.pool jid with
    | none => exact ok.append fun _ => job
    | some state =>
      have used : jid ∈ d.used := ok.pooled jid (job ▸ Option.some_ne_none state)
      cases state with
      | running => exact ok
      | zombie code => exact ok.append ⟨used, by rw [job]; intro h; cases h⟩
      | failed code => exact ok.append ⟨used, by rw [job]; intro h; cases h⟩
  | waitSuccess jid =>
    obtain ⟨used, finished⟩ := due
    have noted := ok.noted jid used
    rw [Daemon.run, Daemon.waitSuccess]
    cases job : d.pool jid with
    | none =>
      rw [job] at noted
      have sent := ok.notify (m := { rc := .badJobId, jobId := jid }) d.waits.length
        fun _ => noted List.mem_cons_self
      exact sent.answered sent.truthful
    | some state =>
      rw [job] at noted
      cases state with
      | running => exact absurd job finished
      | zombie code => exact ok.notify _ (noted List.mem_cons_self)
      | failed code => exact ok.notify _ (noted List.mem_cons_self)
  | waitFailed jid =>
    refine ok.notify _ fun used => ?_
    have noted := ok.noted jid used
    rw [due used] at noted
    exact noted List.mem_cons_self
  | killSuccess jid => exact ok.notify _ due

/-- A new job of the daemon gets a fresh id. -/
def Allowed (d : Daemon) : DaemonEvent → Prop
  | .allocate jid => d.Fresh jid
  | _ => True

/-- Every answer that is sent is truthful. -/
theorem Ok.step (ok : d.Ok) {e : DaemonEvent} (allowed : d.Allowed e) : (d.step e).Ok := by
  rw [Daemon.step.eq_def]
  by_cases alive : !d.alive
  · rw [if_pos alive]
    exact ok
  rw [if_neg alive]
  cases e with
  | allocate jid =>
    dsimp only
    by_cases free : 0 ≤ jid ∧ d.pool jid = none
    · rw [if_pos free]
      exact ok.allocate allowed free.1
    · rw [if_neg free]
      exact ok
  | finish jid code waiting =>
    dsimp only
    by_cases running : d.pool jid = some .running
    · rw [if_pos running]
      refine ok.ends (running ▸ Option.some_ne_none _) (by intro h; cases h) fun a mem => ?_
      split at mem
      · exact .inl (List.mem_singleton.1 mem)
      · exact (List.not_mem_nil mem).elim
    · rw [if_neg running]
      exact ok
  | fail jid code waiting =>
    dsimp only
    by_cases running : d.pool jid = some .running
    · rw [if_pos running]
      refine ok.ends (running ▸ Option.some_ne_none _) (by intro h; cases h) fun a mem => ?_
      split at mem
      · exact .inl (List.mem_singleton.1 mem)
      · exact (List.not_mem_nil mem).elim
    · rw [if_neg running]
      exact ok
  | kill jid =>
    dsimp only
    by_cases gone : d.pool jid = none
    · rw [if_pos gone]
      exact ok
    · rw [if_neg gone]
      exact ok.ends gone (by intro h; cases h) fun a mem => .inr ⟨List.mem_singleton.1 mem, rfl⟩
  | read authorized => exact ok.read authorized
  | act k =>
    dsimp only
    cases action : d.actions[k]? with
    | none => exact ok
    | some a =>
      have due := ok.due a (List.mem_of_getElem? action)
      refine (ok.queued fun b mem => ok.due b (List.mem_of_mem_eraseIdx mem)).run (a := a) ?_
      cases a with
      | _ => exact due

lemma used_notify (d : Daemon) (m : Msg) (n : Nat) : (d.notify m n).used = d.used := by
  rw [(notify_sends d m n).same]

lemma used_run (d : Daemon) (a : Action) : (d.run a).used = d.used := by
  cases a with
  | wait jid =>
    rw [Daemon.run, Daemon.wait]
    cases d.pool jid with
    | none => rfl
    | some job =>
      cases job with
      | _ => rfl
  | waitSuccess jid =>
    rw [Daemon.run, Daemon.waitSuccess]
    cases d.pool jid with
    | none => exact used_notify d _ _
    | some job =>
      cases job with
      | _ => exact used_notify d _ _
  | waitFailed jid => exact used_notify d _ _
  | killSuccess jid => exact used_notify d _ _

lemma step_allocate (accepts : d.accepts jid) :
    d.step (.allocate jid) =
      { d with
        pool := Function.update d.pool jid (some .running)
        past := Function.update d.past jid []
        used := jid :: d.used } := by
  obtain ⟨alive, free⟩ := Bool.and_eq_true_iff.1 accepts
  have running : ¬(!d.alive) = true := by
    rw [alive]
    decide
  rw [Daemon.step.eq_def, if_neg running]
  exact if_pos (of_decide_eq_true free)

/-- The jobs of an array get fresh ids. -/
lemma Ok.allocateAll (ok : d.Ok) (ids : List Int) (nodup : ids.Nodup) (accepts : ids.all d.accepts)
    (fresh : ∀ i ∈ ids, d.Fresh i) :
    (ids.foldl (fun d i => d.step (.allocate i)) d).Ok ∧
      (∀ i ∈ ids, i ∈ (ids.foldl (fun d i => d.step (.allocate i)) d).used) ∧
      d.used ⊆ (ids.foldl (fun d i => d.step (.allocate i)) d).used := by
  induction ids generalizing d with
  | nil => exact ⟨ok, fun _ mem => (List.not_mem_nil mem).elim, List.Subset.refl _⟩
  | cons jid ids ih =>
    obtain ⟨notIn, nodup⟩ := List.nodup_cons.1 nodup
    obtain ⟨first, rest⟩ := List.forall_mem_cons.1 (List.all_eq_true.1 accepts)
    obtain ⟨freshFirst, freshRest⟩ := List.forall_mem_cons.1 fresh
    have other {i : Int} (mem : i ∈ ids) : i ≠ jid := fun same => notIn (same ▸ mem)
    have next := step_allocate first
    have accepts' : ids.all (d.step (.allocate jid)).accepts := by
      refine List.all_eq_true.2 fun i mem => ?_
      obtain ⟨alive, free⟩ := Bool.and_eq_true_iff.1 (rest i mem)
      obtain ⟨index, none⟩ := of_decide_eq_true free
      rw [next]
      refine Bool.and_eq_true_iff.2 ⟨alive, decide_eq_true ⟨index, ?_⟩⟩
      rw [← none]
      exact Function.update_of_ne (other mem) _ _
    have fresh' : ∀ i ∈ ids, (d.step (.allocate jid)).Fresh i := by
      intro i mem
      rw [next]
      exact freshRest i mem
    obtain ⟨ok', mine, old⟩ := ih (ok.step (e := .allocate jid) freshFirst) nodup accepts' fresh'
    have used : (d.step (.allocate jid)).used = jid :: d.used := by rw [next]
    rw [used] at old
    refine ⟨ok', List.forall_mem_cons.2 ⟨old List.mem_cons_self, mine⟩, ?_⟩
    exact List.Subset.trans (List.subset_cons_self _ _) old

lemma start_ok : start.Ok where
  noted _ mem := (List.not_mem_nil mem).elim
  going _ _ := rfl
  pooled _ there := (there rfl).elim
  known _ some := (some rfl).elim
  ids _ mem := (List.not_mem_nil mem).elim
  due _ mem := (List.not_mem_nil mem).elim
  truthful _ mem := (List.not_mem_nil mem).elim

/-- The ids that were given to jobs stay given. -/
lemma used_step (d : Daemon) (e : DaemonEvent) : d.used ⊆ (d.step e).used := by
  rw [Daemon.step.eq_def]
  split_ifs
  · exact List.Subset.refl _
  · cases e with
    | allocate jid =>
      dsimp only
      split_ifs
      · exact List.subset_cons_self _ _
      · exact List.Subset.refl _
    | finish jid code waiting =>
      dsimp only
      split_ifs <;> exact List.Subset.refl _
    | fail jid code waiting =>
      dsimp only
      split_ifs <;> exact List.Subset.refl _
    | kill jid =>
      dsimp only
      split_ifs <;> exact List.Subset.refl _
    | read authorized =>
      show _ ⊆ (d.read authorized).used
      rw [Daemon.read]
      cases d.requests with
      | nil => exact List.Subset.refl _
      | cons request requests =>
        dsimp only
        split_ifs <;> exact List.Subset.refl _
    | act k =>
      dsimp only
      cases d.actions[k]? with
      | none => exact List.Subset.refl _
      | some a =>
        dsimp only
        rw [used_run]
        exact List.Subset.refl _

lemma Asked.sends (asked : d.Asked jid) (sends : d.Sends m d') : d'.Asked jid := by
  refine ⟨?_, fun w mem => asked.waits w (sends.waits w mem), fun x mem => ?_⟩
  · rw [sends.same]
    exact asked.requests
  · obtain old | ⟨rfl, w, mem', about⟩ := sends.answers x mem
    · exact asked.answers x old
    · rw [← about]
      exact asked.waits w mem'

lemma Asked.notify (asked : d.Asked jid) (n : Nat) : (d.notify m n).Asked jid :=
  asked.sends (notify_sends d m n)

lemma Asked.run (asked : d.Asked jid) (a : Action) : (d.run a).Asked jid := by
  cases a with
  | wait i =>
    rw [Daemon.run, Daemon.wait]
    cases d.pool i with
    | none => exact ⟨asked.requests, asked.waits, asked.answers⟩
    | some job =>
      cases job with
      | running => exact asked
      | _ => exact ⟨asked.requests, asked.waits, asked.answers⟩
  | waitSuccess i =>
    rw [Daemon.run, Daemon.waitSuccess]
    cases d.pool i with
    | none =>
      have sent := asked.notify (m := { rc := .badJobId, jobId := i }) d.waits.length
      exact ⟨sent.requests, sent.waits, sent.answers⟩
    | some job =>
      cases job with
      | _ => exact asked.notify _
  | waitFailed i => exact asked.notify _
  | killSuccess i => exact asked.notify _

/-- Every answer is about the job that the client has asked for. -/
lemma Asked.step (asked : d.Asked jid) (e : DaemonEvent) : (d.step e).Asked jid := by
  rw [Daemon.step.eq_def]
  split_ifs
  · exact asked
  · cases e with
    | allocate i =>
      dsimp only
      split_ifs
      · exact ⟨asked.requests, asked.waits, asked.answers⟩
      · exact asked
    | finish i code waiting =>
      dsimp only
      split_ifs <;> exact ⟨asked.requests, asked.waits, asked.answers⟩
    | fail i code waiting =>
      dsimp only
      split_ifs <;> exact ⟨asked.requests, asked.waits, asked.answers⟩
    | kill i =>
      dsimp only
      split_ifs <;> exact ⟨asked.requests, asked.waits, asked.answers⟩
    | read authorized =>
      show (d.read authorized).Asked jid
      rw [Daemon.read]
      cases requests : d.requests with
      | nil => exact asked
      | cons request rest =>
        obtain ⟨first, others⟩ := List.forall_mem_cons.1 (requests ▸ asked.requests)
        dsimp only
        by_cases denied : !authorized
        · rw [if_pos denied]
          refine ⟨others, asked.waits, fun m mem => ?_⟩
          obtain old | new := List.mem_append.1 mem
          · exact asked.answers m old
          · rw [List.mem_singleton.1 new]
            exact first
        · rw [if_neg denied]
          by_cases answered : request.1 = .any ∧ ∀ w ∈ d.waits, w.1 ≠ .any
          · rw [if_pos answered]
            exact ⟨others, asked.waits, asked.answers⟩
          · rw [if_neg answered]
            exact ⟨others, List.forall_mem_cons.2 ⟨first, asked.waits⟩, asked.answers⟩
    | act k =>
      dsimp only
      cases d.actions[k]? with
      | none => exact asked
      | some a =>
        have rest : { d with actions := d.actions.eraseIdx k }.Asked jid :=
          ⟨asked.requests, asked.waits, asked.answers⟩
        exact rest.run a

end Daemon

end GridWay.Drmaa
