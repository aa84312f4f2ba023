import GridWay.Drmaa.Daemon
import GridWay.Drmaa.Session
import GridWay.Em.Rsl2
import GridWay.Lib.Machine

/-!
# Waiting for the jobs of a session

A program submits jobs and calls `drmaa_wait`, while the jobs end in the daemon in any order. An observer
keeps the jobs of the session.

* `State.step`: the calls (`gw_drmaa.c`, `gw_client_wait.c`) and the daemon; the result of a wait.
* `State.Reaped`: a wait returns a job that has ended, with its status, and disposes of that job alone.
* `State.reaped_run`: what holds of the waits of a run.
-/

namespace GridWay.Drmaa.Reap
open Rsl2 (atoi32)

/-- Where the program is in a call: it tests the jobs of an array or a job, or waits for an answer. -/
inductive Client where
  | idle
  | testing (ids rest : List Int)
  | testingJob (jid : Int)
  | asking (ids : List Int)
  | askingJob (jid : Int)

/-- What happens. A job id of `drmaa_run_job` or of `drmaa_run_bulk_jobs` is one that the daemon gives. A
wait with no time does not block. -/
inductive Event where
  | daemon (e : DaemonEvent)
  | runJob (jid : Int)
  | runBulkJobs (ids : List Int)
  | wait (job : List Char) (noTime : Bool)
  | poll
  | reply
  | giveUp

/-- The program, its session, and the daemon. The observer keeps the requests to kill a job, and the jobs of
the session. -/
structure State where
  session : Session
  daemon : Daemon
  client : Client := .idle
  killed : List Int := []
  live : List Int := []

/-- `DRMAA_JOB_IDS_SESSION_ANY`. -/
def sessionAny : List Char := "DRMAA_JOB_IDS_SESSION_ANY".toList

/-- The id and the status that a wait returns. -/
abbrev Result := Option (Int × Int)

namespace State

/-- The call returns without a job. -/
def fail (s : State) : Option (State × Result) :=
  some ({ s with client := .idle, daemon := s.daemon.disconnect }, none)

/-- The call returns a job: it is removed from the table, before it is killed in some cases, and in all of
them after it. -/
def reap (s : State) (jid stat : Int) (before : Bool) : Option (State × Result) :=
  let removed := if before then s.session.rmSessionId jid else some s.session
  removed.bind fun session => (session.rmSessionId jid).map fun session => ({ s with
    session
    client := .idle
    daemon := s.daemon.disconnect
    killed := s.killed ++ [jid]
    live := s.live.erase jid }, some (jid, stat))

/-- `drmaa_wait_any`, with what `gw_client_wait_set` returns and the first id of its array. -/
def waitAny (s : State) (jid : Int) (rc : Rc) (exitCode : Int) : Option (State × Result) :=
  match rc with
  | .jobFail => s.reap jid 258 true
  | .badJobId => s.reap jid 257 true
  | .jobKilled => s.reap jid 257 true
  | .success => s.reap jid exitCode false
  | _ => s.fail

/-- `drmaa_wait_job`, with what `gw_client_wait` returns. -/
def waitJob (s : State) (jid : Int) (rc : Rc) (exitCode : Int) : Option (State × Result) :=
  match rc with
  | .badJobId => if (s.session.find jid).isSome then s.reap jid 256 true else s.fail
  | .jobFail => s.reap jid 258 true
  | .jobKilled => s.reap jid 257 true
  | .success => s.reap jid exitCode false
  | _ => s.fail

/-- `drmaa_run_job`, with the id that the daemon gives. -/
def runJob (s : State) (jid : Int) : Option (State × Result) :=
  if s.session.numberOfJobs ≥ sessionJobs ∨ !s.daemon.accepts jid then some (s, none)
  else do
    let session ← s.session.store jid
    return ({ s with session, daemon := s.daemon.step (.allocate jid), live := s.live ++ [jid] }, none)

/-- `drmaa_run_bulk_jobs`, with the ids that the daemon gives. -/
def runBulkJobs (s : State) (ids : List Int) : Option (State × Result) :=
  if ids = [] ∨ s.session.numberOfJobs + ids.length ≥ sessionJobs then some (s, none)
  else if ¬(ids.Nodup ∧ ids.all s.daemon.accepts) then some (s, none)
  else do
    let session ← s.session.storeAll ids
    let daemon := ids.foldl (fun d jid => d.step (.allocate jid)) s.daemon
    return ({ s with session, daemon, live := s.live ++ ids }, none)

/-- The requests of `gw_client_wait_set`. -/
def requests : List Int → List (WaitType × Int)
  | [] => []
  | jid :: ids => (.anyFirst, jid) :: ids.map fun jid => (.any, jid)

/-- The first id of an array that ends with -1. -/
def first (ids : List Int) : Int := ids.headD (-1)

/-- `drmaa_wait`, until it waits for the daemon. -/
def wait (s : State) (job : List Char) (noTime : Bool) : Option (State × Result) :=
  if job = sessionAny then
    if s.session.numberOfJobs = 0 then s.fail
    else do
      let ids := (← s.session.copy).takeWhile (· ≠ -1)
      if noTime then return ({ s with client := .testing ids ids }, none)
      -- the exit code of no job is returned
      else if ids = [] then none
      else return ({ s with client := .asking ids, daemon := s.daemon.connect (requests ids) }, none)
  else
    let jid := atoi32 job
    if noTime then some ({ s with client := .testingJob jid }, none)
    else some ({ s with client := .askingJob jid, daemon := s.daemon.connect [(.job, jid)] }, none)

/-- `gw_client_test_job`, for the next job: the state of the job or its absence. -/
def poll (s : State) : Option (State × Result) :=
  match s.client with
  | .testing _ [] => s.fail
  | .testing ids (jid :: rest) =>
    match s.daemon.pool jid with
    | none => s.waitAny (first ids) .badJobId 0
    | some (.zombie code) => s.waitAny jid .success code
    | some (.failed code) => s.waitAny jid .success code
    | some .running => some ({ s with client := .testing ids rest }, none)
  | .testingJob jid =>
    match s.daemon.pool jid with
    | none => s.waitJob jid .badJobId 0
    | some (.zombie code) => s.waitJob jid .success code
    | some (.failed code) => s.waitJob jid .success code
    | some .running => s.fail
  | _ => some (s, none)

/-- The first answer of the daemon is read. -/
def reply (s : State) : Option (State × Result) :=
  match s.client, s.daemon.answers with
  | .asking ids, m :: _ => s.waitAny (if m.rc = .success then m.jobId else first ids) m.rc m.exitCode
  | .askingJob jid, m :: _ => s.waitJob jid m.rc m.exitCode
  | _, _ => some (s, none)

/-- A step, with the result of a wait that returns. -/
def step (s : State) (e : Event) : Option (State × Result) :=
  match e, s.client with
  | .daemon e, _ => some ({ s with daemon := s.daemon.step e }, none)
  | .runJob jid, .idle => s.runJob jid
  | .runBulkJobs ids, .idle => s.runBulkJobs ids
  | .wait job noTime, .idle => s.wait job noTime
  | .poll, _ => s.poll
  | .reply, _ => s.reply
  | .giveUp, _ => s.fail
  | _, _ => some (s, none)

/-- The state before the first call. -/
def start (pid : Nat) : State where
  session := ({} : Session).clear (some pid)
  daemon := .start

/-- A step of a run. -/
def advance (s : Option State) (e : Event) : Option State := s.bind fun s => (s.step e).map Prod.fst

/-- The state after a run. -/
def runFrom (pid : Nat) (evs : List Event) : Option State := Machine.run advance (some (start pid)) evs

end State

/-- What the status of a wait says about a job. -/
def Status : Outcome → Int → Prop
  | .exited code, stat => stat = code
  | .failed, stat => stat = 258
  | .removed, stat => stat = 256 ∨ stat = 257

namespace State

/-- A wait has returned a job that has ended, with its status; the job is killed and removed from the table,
and no other one is. -/
structure Reaped (s s' : State) (jid stat : Int) : Prop where
  finished : s.daemon.pool jid ≠ some .running
  status : ∃ o ∈ s.daemon.past jid, Status o stat
  killed : s'.killed = s.killed ++ [jid]
  removed : s'.session.Holds (s.live.erase jid)

/-- The ids of new jobs are not in the table, and nothing is left to do for an earlier job with such an id; a
wait for any job copies a table that is not full; an answer of failure for a wait for any job comes when the
first job of the array has ended in that way; a test does not find a job that has failed; and an id of -1 is
not looked for among the free entries. -/
def Allowed (s : State) : Event → Prop
  | .daemon e => s.daemon.Allowed e
  | .runJob jid => s.daemon.Fresh jid ∧ jid ∉ s.live
  | .runBulkJobs ids => ∀ jid ∈ ids, s.daemon.Fresh jid ∧ jid ∉ s.live
  | .wait job _ => job = sessionAny → s.session.numberOfJobs < sessionJobs
  | .poll =>
    match s.client with
    | .testing ids (jid :: _) =>
      (s.daemon.pool jid = none → .removed ∈ s.daemon.past (first ids)) ∧
        ∀ code, s.daemon.pool jid = some (.failed code) → code = 258
    | .testingJob jid =>
      (jid = -1 → s.session.numberOfJobs = sessionJobs) ∧
        ∀ code, s.daemon.pool jid = some (.failed code) → code = 258
    | _ => True
  | .reply =>
    match s.client, s.daemon.answers with
    | .asking ids, m :: _ =>
      (m.rc = .jobFail → .failed ∈ s.daemon.past (first ids)) ∧
        (m.rc = .badJobId ∨ m.rc = .jobKilled → .removed ∈ s.daemon.past (first ids))
    | .askingJob jid, m :: _ => m.rc = .badJobId → jid = -1 → s.session.numberOfJobs = sessionJobs
    | _, _ => True
  | .giveUp => True

/-- The steps of a run are allowed. -/
def AllAllowed (pid : Nat) (evs : List Event) : Prop :=
  Machine.Guarded advance (fun s e => ∀ s', s = some s' → s'.Allowed e) (some (start pid)) evs

/-- The invariant: the daemon tells the truth, the table holds the jobs of the session, and a wait for one
job is answered about it. -/
structure Inv (s : State) : Prop where
  ok : s.daemon.Ok
  holds : s.session.Holds s.live
  own : ∀ jid ∈ s.live, jid ∈ s.daemon.used
  asked : ∀ jid, s.client = .askingJob jid → s.daemon.Asked jid

/-- A step keeps the invariant, and reaps a job when it returns one. -/
def Good (s : State) (next : Option (State × Result)) : Prop :=
  ∃ s' result, next = some (s', result) ∧ s'.Inv ∧
    ∀ jid stat, result = some (jid, stat) → s.Reaped s' jid stat

variable {s : State} {jid stat code : Int} {o : Outcome} {rc : Rc} {e : Event}

lemma start_inv (pid : Nat) : (start pid).Inv where
  ok := Daemon.start_ok
  holds := Session.clear_holds _ _
  own _ mem := (List.not_mem_nil mem).elim
  asked _ h := by cases h

/-- A step that returns no job. -/
lemma good_of_inv {s' : State} (inv : s'.Inv) : s.Good (some (s', none)) :=
  ⟨s', none, rfl, inv, fun _ _ h => by cases h⟩

namespace Inv

lemma unchanged (inv : s.Inv) : s.Good (some (s, none)) := good_of_inv inv

lemma fail (inv : s.Inv) : s.Good s.fail :=
  good_of_inv ⟨inv.ok.answered fun _ mem => (List.not_mem_nil mem).elim, inv.holds, inv.own,
    fun _ h => by cases h⟩

/-- The id of a job that has ended is not -1. -/
lemma job (inv : s.Inv) (past : o ∈ s.daemon.past jid) : jid ≠ -1 := by
  rintro rfl
  have index := inv.ok.ids (-1) (inv.ok.known (-1) (List.ne_nil_of_mem past))
  cases index

/-- A job that has ended is reaped. -/
lemma reap (inv : s.Inv) (past : o ∈ s.daemon.past jid) (status : Status o stat) (before : Bool) :
    s.Good (s.reap jid stat before) := by
  have job := inv.job past
  have once : ∃ session, (if before then s.session.rmSessionId jid else some s.session) = some session ∧
      ∃ live, session.Holds live ∧ live.erase jid = s.live.erase jid := by
    cases before with
    | true =>
      obtain ⟨session, done, holds, -⟩ := inv.holds.rm job
      exact ⟨session, done, _, holds, List.erase_of_not_mem inv.holds.nodup.not_mem_erase⟩
    | false => exact ⟨s.session, rfl, s.live, inv.holds, rfl⟩
  obtain ⟨session, first, live, holds, same⟩ := once
  obtain ⟨session', second, holds', -⟩ := holds.rm job
  rw [same] at holds'
  rw [State.reap, first, Option.bind_some, second]
  have inv' : State.Inv { s with
      session := session', client := .idle, daemon := s.daemon.disconnect, killed := s.killed ++ [jid],
      live := s.live.erase jid } :=
    ⟨inv.ok.answered fun _ mem => (List.not_mem_nil mem).elim, holds',
      fun i mem => inv.own i (List.mem_of_mem_erase mem), fun _ h => by cases h⟩
  refine ⟨_, _, rfl, inv', fun i stat' result => ?_⟩
  cases result
  refine ⟨fun running => ?_, ⟨o, past, status⟩, rfl, holds'⟩
  rw [inv.ok.going jid running] at past
  exact List.not_mem_nil past

/-- What `drmaa_wait_any` makes of the outcome of the job that it takes. -/
lemma waitAny (inv : s.Inv) (failed : rc = .jobFail → .failed ∈ s.daemon.past jid)
    (removed : rc = .badJobId ∨ rc = .jobKilled → .removed ∈ s.daemon.past jid)
    (exited : rc = .success → ∃ o ∈ s.daemon.past jid, Status o code) :
    s.Good (s.waitAny jid rc code) := by
  cases rc with
  | success =>
    obtain ⟨o, past, status⟩ := exited rfl
    exact inv.reap past status false
  | badJobId => exact inv.reap (removed (.inl rfl)) (.inr rfl) true
  | jobFail => exact inv.reap (failed rfl) rfl true
  | jobKilled => exact inv.reap (removed (.inr rfl)) (.inr rfl) true
  | perm => exact inv.fail
  | timeout => exact inv.fail

/-- What `drmaa_wait_job` makes of the outcome of its job. -/
lemma waitJob (inv : s.Inv) (failed : rc = .jobFail → .failed ∈ s.daemon.past jid)
    (removed : rc = .jobKilled → .removed ∈ s.daemon.past jid)
    (bad : rc = .badJobId → jid ∈ s.daemon.used → .removed ∈ s.daemon.past jid)
    (free : rc = .badJobId → jid = -1 → s.session.numberOfJobs = sessionJobs)
    (exited : rc = .success → ∃ o ∈ s.daemon.past jid, Status o code) :
    s.Good (s.waitJob jid rc code) := by
  cases rc with
  | success =>
    obtain ⟨o, past, status⟩ := exited rfl
    exact inv.reap past status false
  | badJobId =>
    dsimp only [State.waitJob]
    by_cases minus : jid = -1
    · subst minus
      have full : s.live.length = sessionJobs := by
        have number := inv.holds.number
        rw [free rfl rfl] at number
        exact (Int.ofNat.inj number).symm
      rw [inv.holds.find_full full]
      exact inv.fail
    · rw [inv.holds.find minus]
      by_cases mine : jid ∈ s.live
      · rw [if_pos mine]
        exact inv.reap (bad rfl (inv.own jid mine)) (.inl rfl) true
      · rw [if_neg mine]
        exact inv.fail
  | jobFail => exact inv.reap (failed rfl) rfl true
  | jobKilled => exact inv.reap (removed rfl) (.inr rfl) true
  | perm => exact inv.fail
  | timeout => exact inv.fail

/-- A job that a test finds has ended as the pool says. -/
lemma tested (inv : s.Inv) {job : Job} (pool : s.daemon.pool jid = some job) :
    outcome (some job) ⊆ s.daemon.past jid := by
  have noted := inv.ok.noted jid (inv.ok.pooled jid (pool ▸ Option.some_ne_none job))
  rw [pool] at noted
  exact noted

/-- A job that is looked for and is not in the pool has been removed. -/
lemma gone (inv : s.Inv) (pool : s.daemon.pool jid = none) (used : jid ∈ s.daemon.used) :
    .removed ∈ s.daemon.past jid := by
  have noted := inv.ok.noted jid used
  rw [pool] at noted
  exact noted List.mem_cons_self

lemma poll (inv : s.Inv) (allowed : s.Allowed .poll) : s.Good s.poll := by
  rw [State.poll]
  rw [Allowed] at allowed
  cases client : s.client with
  | testing ids rest =>
    cases rest with
    | nil => exact inv.fail
    | cons jid rest =>
      rw [client] at allowed
      obtain ⟨missing, failed⟩ := allowed
      dsimp only
      cases pool : s.daemon.pool jid with
      | none =>
        refine inv.waitAny (fun h => ?_) (fun _ => missing pool) fun h => ?_
        · cases h
        · cases h
      | some job =>
        have past := inv.tested pool
        cases job with
        | running => exact good_of_inv ⟨inv.ok, inv.holds, inv.own, fun _ h => by cases h⟩
        | zombie code =>
          refine inv.waitAny (fun h => ?_) (fun h => ?_) fun _ => ⟨_, past List.mem_cons_self, rfl⟩
          · cases h
          · obtain h | h := h <;> cases h
        | failed code =>
          have found := failed code pool
          refine inv.waitAny (fun h => ?_) (fun h => ?_) fun _ => ⟨_, past List.mem_cons_self, found⟩
          · cases h
          · obtain h | h := h <;> cases h
  | testingJob jid =>
    rw [client] at allowed
    obtain ⟨free, failed⟩ := allowed
    dsimp only
    cases pool : s.daemon.pool jid with
    | none =>
      refine inv.waitJob (fun h => ?_) (fun h => ?_) (fun _ => inv.gone pool) (fun _ => free) fun h => ?_
      · cases h
      · cases h
      · cases h
    | some job =>
      have past := inv.tested pool
      cases job with
      | running => exact inv.fail
      | zombie code =>
        refine inv.waitJob (fun h => ?_) (fun h => ?_) (fun h => ?_) (fun h => ?_)
          fun _ => ⟨_, past List.mem_cons_self, rfl⟩
        all_goals cases h
      | failed code =>
        have found := failed code pool
        refine inv.waitJob (fun h => ?_) (fun h => ?_) (fun h => ?_) (fun h => ?_)
          fun _ => ⟨_, past List.mem_cons_self, found⟩
        all_goals cases h
  | _ => exact inv.unchanged

lemma reply (inv : s.Inv) (allowed : s.Allowed .reply) : s.Good s.reply := by
  rw [State.reply]
  rw [Allowed] at allowed
  cases answers : s.daemon.answers with
  | nil =>
    cases s.client with
    | _ => exact inv.unchanged
  | cons m ms =>
    have first : m ∈ s.daemon.answers := answers ▸ List.mem_cons_self
    have truthful := inv.ok.truthful m first
    rw [Daemon.Truthful] at truthful
    cases client : s.client with
    | asking ids =>
      rw [client, answers] at allowed
      obtain ⟨failed, removed⟩ := allowed
      dsimp only
      by_cases success : m.rc = .success
      · rw [success] at truthful
        rw [if_pos success, success]
        refine inv.waitAny (fun h => ?_) (fun h => ?_) fun _ => ⟨_, truthful, rfl⟩
        · cases h
        · obtain h | h := h <;> cases h
      · rw [if_neg success]
        exact inv.waitAny failed removed fun h => absurd h success
    | askingJob jid =>
      rw [client, answers] at allowed
      have about : m.jobId = jid := (inv.asked jid client).answers m first
      rw [about] at truthful
      dsimp only
      refine inv.waitJob (fun rc => ?_) (fun rc => ?_) (fun rc => ?_) allowed fun rc => ?_
      · rw [rc] at truthful
        exact truthful
      · rw [rc] at truthful
        exact truthful
      · rw [rc] at truthful
        exact truthful
      · rw [rc] at truthful
        exact ⟨_, truthful, rfl⟩
    | _ => exact inv.unchanged

lemma length_lt (inv : s.Inv) (room : s.session.numberOfJobs < sessionJobs) :
    s.live.length < sessionJobs := by
  rw [inv.holds.number] at room
  exact Int.ofNat_lt.1 room

/-- Fresh ids are those of new jobs. -/
lemma new {ids : List Int} (nodup : ids.Nodup) (accepts : ids.all s.daemon.accepts)
    (fresh : ∀ i ∈ ids, s.daemon.Fresh i ∧ i ∉ s.live) : Session.New s.live ids := by
  refine ⟨nodup, fun i mem => ⟨(fresh i mem).2, ?_⟩⟩
  obtain ⟨-, free⟩ := Bool.and_eq_true_iff.1 (List.all_eq_true.1 accepts i mem)
  rintro rfl
  cases (of_decide_eq_true free).1

lemma runBulkJobs (inv : s.Inv) {ids : List Int} (fresh : ∀ i ∈ ids, s.daemon.Fresh i ∧ i ∉ s.live)
    (idle : s.client = .idle) : s.Good (s.runBulkJobs ids) := by
  rw [State.runBulkJobs]
  by_cases full : ids = [] ∨ s.session.numberOfJobs + ids.length ≥ sessionJobs
  · rw [if_pos full]
    exact inv.unchanged
  · rw [if_neg full]
    by_cases given : ids.Nodup ∧ ids.all s.daemon.accepts
    · rw [if_neg (not_not.2 given)]
      obtain ⟨nodup, accepts⟩ := given
      have room : s.live.length + ids.length ≤ sessionJobs := by
        have number := inv.holds.number
        have less := not_le.1 (not_or.1 full).2
        omega
      obtain ⟨session, stored, holds⟩ := inv.holds.storeAll ids room (new nodup accepts fresh)
      obtain ⟨ok, mine, old⟩ := inv.ok.allocateAll ids nodup accepts fun i mem => (fresh i mem).1
      rw [stored]
      refine good_of_inv ⟨ok, holds, fun i mem => ?_, fun _ h => ?_⟩
      · exact (List.mem_append.1 mem).elim (fun mem => old (inv.own i mem)) (mine i)
      · cases idle.symm.trans h
    · rw [if_pos given]
      exact inv.unchanged

lemma runJob (inv : s.Inv) (fresh : s.daemon.Fresh jid ∧ jid ∉ s.live) (idle : s.client = .idle) :
    s.Good (s.runJob jid) := by
  rw [State.runJob]
  by_cases full : s.session.numberOfJobs ≥ sessionJobs ∨ !s.daemon.accepts jid
  · rw [if_pos full]
    exact inv.unchanged
  · rw [if_neg full]
    obtain ⟨room, accepts⟩ := not_or.1 full
    have accepts : s.daemon.accepts jid := by
      rw [Bool.not_eq_true', Bool.not_eq_false] at accepts
      exact accepts
    have one : [jid].all s.daemon.accepts := by
      rw [List.all_cons, accepts]
      rfl
    have fresh' : ∀ i ∈ [jid], s.daemon.Fresh i ∧ i ∉ s.live :=
      fun i mem => (List.mem_singleton.1 mem) ▸ fresh
    obtain ⟨notIn, job⟩ := (new (List.nodup_singleton jid) one fresh').fresh jid List.mem_cons_self
    obtain ⟨session, stored, holds, -⟩ := inv.holds.store (inv.length_lt (not_le.1 room)) notIn job
    obtain ⟨ok, mine, old⟩ := inv.ok.allocateAll [jid] (List.nodup_singleton jid) one fun i mem => (fresh' i mem).1
    rw [stored]
    refine good_of_inv ⟨ok, holds, fun i mem => ?_, fun _ h => ?_⟩
    · exact (List.mem_append.1 mem).elim (fun mem => old (inv.own i mem)) (mine i)
    · cases idle.symm.trans h

lemma wait (inv : s.Inv) {job : List Char} (noTime : Bool)
    (room : job = sessionAny → s.session.numberOfJobs < sessionJobs) : s.Good (s.wait job noTime) := by
  have asked (requests : List (WaitType × Int)) : (s.daemon.connect requests).Ok :=
    inv.ok.answered fun _ mem => (List.not_mem_nil mem).elim
  rw [State.wait]
  by_cases any : job = sessionAny
  · rw [if_pos any]
    by_cases none : s.session.numberOfJobs = 0
    · rw [if_pos none]
      exact inv.fail
    · have full : (s.live ++ [-1]).takeWhile (· ≠ -1) = s.live := by
        have jobs : ∀ i ∈ s.live, decide (i ≠ -1) = true :=
          fun i mem => decide_eq_true fun same => inv.holds.ids (same ▸ mem)
        rw [List.takeWhile_append_of_pos jobs, List.takeWhile_cons_of_neg Bool.false_ne_true,
          List.append_nil]
      have some : s.live ≠ [] := by
        intro empty
        rw [inv.holds.number, empty] at none
        exact none rfl
      rw [if_neg none, inv.holds.copy (inv.length_lt (room any)), Option.bind_eq_bind, Option.bind_some,
        full]
      cases noTime with
      | true => exact good_of_inv ⟨inv.ok, inv.holds, inv.own, fun _ h => by cases h⟩
      | false =>
        rw [if_neg Bool.false_ne_true, if_neg some]
        exact good_of_inv ⟨asked _, inv.holds, inv.own, fun _ h => by cases h⟩
  · rw [if_neg any]
    cases noTime with
    | true => exact good_of_inv ⟨inv.ok, inv.holds, inv.own, fun _ h => by cases h⟩
    | false =>
      refine good_of_inv ⟨asked _, inv.holds, inv.own, fun jid h => ?_⟩
      cases h
      refine ⟨fun r mem => ?_, fun _ mem => (List.not_mem_nil mem).elim,
        fun _ mem => (List.not_mem_nil mem).elim⟩
      rw [List.mem_singleton.1 mem]

/-- An allowed step reaps the job that it returns. -/
theorem step (inv : s.Inv) (allowed : s.Allowed e) : s.Good (s.step e) := by
  cases e with
  | daemon e =>
    refine good_of_inv ⟨inv.ok.step allowed, inv.holds, fun i mem => ?_, fun i h => ?_⟩
    · exact Daemon.used_step _ _ (inv.own i mem)
    · exact (inv.asked i h).step e
  | runJob jid =>
    rw [State.step.eq_def]
    cases client : s.client with
    | idle => exact inv.runJob allowed client
    | _ => exact inv.unchanged
  | runBulkJobs ids =>
    rw [State.step.eq_def]
    cases client : s.client with
    | idle => exact inv.runBulkJobs allowed client
    | _ => exact inv.unchanged
  | wait job noTime =>
    rw [State.step.eq_def]
    cases s.client with
    | idle => exact inv.wait noTime allowed
    | _ => exact inv.unchanged
  | poll => exact inv.poll allowed
  | reply => exact inv.reply allowed
  | giveUp => exact inv.fail

end Inv

/-- In a run whose steps are allowed, a wait that returns a job has reaped it. -/
theorem reaped_run (pid : Nat) (evs : List Event) (e : Event) (allowed : AllAllowed pid (evs ++ [e])) :
    ∃ s s' result, runFrom pid evs = some s ∧ s.step e = some (s', result) ∧
      ∀ jid stat, result = some (jid, stat) → s.Reaped s' jid stat := by
  obtain ⟨before, last, -⟩ := Machine.guarded_cut allowed
  have inv : ∃ s, runFrom pid evs = some s ∧ s.Inv := by
    refine Machine.run_induction (fun s => ∃ s', s = some s' ∧ s'.Inv) ?_
      ⟨_, rfl, start_inv pid⟩ before
    rintro _ e ⟨s, rfl, inv⟩ allowed
    obtain ⟨s', result, done, inv', -⟩ := inv.step (allowed s rfl)
    refine ⟨s', ?_, inv'⟩
    rw [advance, Option.bind_some, done]
    rfl
  obtain ⟨s, reached, inv⟩ := inv
  obtain ⟨s', result, done, -, reaped⟩ := inv.step (last s reached)
  exact ⟨s, s', result, reached, done, reaped⟩

section Two

/-- The daemon after the jobs 0 and 1 were submitted. -/
def twoJobs : Daemon := [0, 1].foldl (fun d jid => d.step (.allocate jid)) Daemon.start

lemma two_lt : 2 < sessionJobs := by
  rw [sessionJobs]
  decide

/-- The jobs 0 and 1 are submitted to an empty session. -/
lemma submitted : ∃ table : Session, table.Holds [0, 1] ∧
    advance (some (start 1)) (.runBulkJobs [0, 1]) =
      some { session := table, daemon := twoJobs, live := [0, 1] } := by
  have new : Session.New [] [0, 1] := ⟨by decide, by decide⟩
  obtain ⟨table, stored, holds⟩ :=
    (Session.clear_holds {} (some 1)).storeAll [0, 1] (Nat.le_of_lt two_lt) new
  refine ⟨table, holds, ?_⟩
  have less : ¬((start 1).session.numberOfJobs + ([0, 1] : List Int).length ≥ sessionJobs) :=
    not_le.2 (Int.ofNat_lt.2 two_lt)
  show Option.map Prod.fst ((start 1).runBulkJobs [0, 1]) = _
  rw [runBulkJobs, if_neg (not_or.2 ⟨List.cons_ne_nil _ _, less⟩), if_neg (not_not.2 (by decide))]
  change Option.map Prod.fst ((({} : Session).clear (some 1)).storeAll [0, 1] >>= _) = _
  rw [stored]
  rfl

/-- The program starts to test them. -/
lemma tests {table : Session} (holds : table.Holds [0, 1]) (daemon : Daemon) :
    advance (some { session := table, daemon, live := [0, 1] }) (.wait sessionAny true) =
      some { session := table, daemon, client := .testing [0, 1] [0, 1], live := [0, 1] } := by
  show Option.map Prod.fst (State.wait _ sessionAny true) = _
  have some : table.numberOfJobs ≠ 0 := by
    rw [holds.number]
    decide
  rw [State.wait, if_pos rfl, if_neg some, holds.copy two_lt]
  rfl

end Two

/-- The job 1 ends with the code 3 while the job 0 runs, and is returned by a wait with no time. -/
theorem reaped_run_one : ∃ s s' result,
    runFrom 1 [.runBulkJobs [0, 1], .daemon (.finish 1 3 false), .wait sessionAny true, .poll] = some s ∧
      s.step .poll = some (s', result) ∧
      ∀ jid stat, result = some (jid, stat) → s.Reaped s' jid stat := by
  obtain ⟨table, holds, first⟩ := submitted
  refine reaped_run 1 [.runBulkJobs [0, 1], .daemon (.finish 1 3 false), .wait sessionAny true, .poll] .poll
    ⟨fun s start => ?_, fun s _ => trivial, ?_, ?_, ?_, trivial⟩
  · cases start
    exact fun jid _ => ⟨⟨fun _ mem => (List.not_mem_nil mem).elim,
      fun _ mem => (List.not_mem_nil mem).elim⟩, List.not_mem_nil⟩
  · rw [first]
    rintro _ ⟨⟩ -
    show table.numberOfJobs < _
    rw [holds.number]
    exact Int.ofNat_lt.2 two_lt
  · rw [first]
    change ∀ s', advance (some { session := table, daemon := _, live := [0, 1] }) _ = some s' → _
    rw [tests holds]
    rintro _ ⟨⟩
    exact ⟨fun h => (by cases h), fun _ h => (by cases h)⟩
  · rw [first]
    change ∀ s', advance (advance (some { session := table, daemon := _, live := [0, 1] }) _) _ = some s' → _
    rw [tests holds]
    rintro _ ⟨⟩
    exact ⟨fun h => (by cases h), fun _ h => (by cases h)⟩

lemma reap_result {s s' : State} {result : Result} {before : Bool}
    (done : s.reap jid stat before = some (s', result)) : result = some (jid, stat) := by
  rw [reap, Option.bind_eq_some_iff] at done
  obtain ⟨table, -, done⟩ := done
  rw [Option.map_eq_some_iff] at done
  obtain ⟨table', -, same⟩ := done
  cases same
  rfl

/-- The job 1 is removed while the job 0 runs, and the test of the one is taken for one of the other. -/
theorem not_reaped : ¬ ∀ (pid : Nat) (evs : List Event) (e : Event),
    ∃ s s' result, runFrom pid evs = some s ∧ s.step e = some (s', result) ∧
      ∀ jid stat, result = some (jid, stat) → s.Reaped s' jid stat := by
  intro all
  obtain ⟨table, holds, first⟩ := submitted
  obtain ⟨s, s', result, reached, done, reaped⟩ :=
    all 1 [.runBulkJobs [0, 1], .daemon (.kill 1), .wait sessionAny true, .poll] .poll
  rw [runFrom, Machine.run_cons, first, Machine.run_cons, Machine.run_cons] at reached
  change Machine.run advance
    (advance (some { session := table, daemon := twoJobs.step (.kill 1), live := [0, 1] }) _) _ = _ at reached
  rw [tests holds] at reached
  cases reached
  exact (reaped 0 257 (reap_result done)).finished rfl

end State

end GridWay.Drmaa.Reap
