import GridWay.Rm.Reply

/-!
# Replies stay aligned

* `Rm.Gives`: what the answer to a question is.
* `Rm.aligned_iff`: every function of the library returns the answer to its question and leaves nothing on
  the connection, when every array that is asked for has a job that is there.
-/

namespace GridWay.Rm

/-- What a record tells of a queue. -/
structure QueueView where
  name : List Char
  fits : Bool
  rank : Int
  slots : Int
deriving DecidableEq, Repr

/-- What a record tells of a host. -/
structure HostView where
  hostId : Int
  jobId : Int
  fixedPriority : Int
  hostname : List Char
  runningJobs : Int
  queues : List QueueView
deriving DecidableEq, Repr

/-- The queues of a record are the first ones of its arrays. -/
def MatchMsg.queues (msg : MatchMsg) : List QueueView :=
  (List.range msg.numberOfQueues).map fun i =>
    ⟨msg.queueName i, msg.fits i, msg.rank i, msg.slots i⟩

def MatchMsg.view (msg : MatchMsg) : HostView :=
  ⟨msg.hostId, msg.jobId, msg.fixedPriority, msg.hostname, msg.runningJobs, msg.queues⟩

variable (judge : Judge)

/-- A queue of a host, as the requirements and the rank of a job see it. -/
def queueOf (host : Host) (job : Job) (j : Nat) : Option QueueView :=
  (host.queueName j).map fun name =>
    let fits := judge.checkReqs host j job.template.requirements
    { name := copyStr stringShort (some name)
      fits
      rank := if fits then judge.computeRank host j job.template.rank else 0
      slots := if fits then slotsOf host j else 0 }

/-- The queues of a host. -/
def queuesOf (host : Host) (job : Job) : List QueueView :=
  (List.range judge.maxQueues).filterMap (queueOf judge host job)

/-- The host with a number, when one of its queues meets the requirements. -/
def matchOf (job_id : Int) (job : Job) (p : Option Host × Nat) : Option HostView :=
  p.1.bind fun host =>
    let queues := queuesOf judge host job
    if queues.any (·.fits) then
      some ⟨p.2, job_id, host.fixedPriority, copyStr stringHost host.hostname, host.runningJobs,
        queues⟩
    else none

/-- The hosts that match a job. -/
def matchesOf (job_id : Int) (job : Job) (hosts : List (Option Host)) : List HostView :=
  hosts.zipIdx.filterMap (matchOf judge job_id job)

/-- The job whose hosts are asked for, or nothing when the array has no job that is there. -/
def target (pools : Pools) (job_id array_id : Int) : Option Int :=
  if array_id = -1 then some job_id
  else
    match pools.getArray array_id with
    | none => some (-1)
    | some array => (array.jobIds.findSome? id).map Int.ofNat

/-- What a record tells of a job; a job without a name leaves the name as it was. -/
structure Describes (now : Time) (entry : Entry) (msg : JobMsg) : Prop where
  rc : msg.rc = .success
  id : msg.id = entry.job.id
  arrayId : msg.arrayId = entry.job.arrayId.elim (-1) Int.ofNat
  task : msg.taskId = entry.job.taskId ∧ msg.totalTasks = entry.job.totalTasks
  states : msg.emState = entry.job.emState ∧ msg.jobState = entry.job.jobState
  exitCode : msg.exitCode = entry.job.exitCode
  times : msg.startTime = entry.job.startTime ∧ msg.exitTime = entry.job.exitTime ∧
    msg.deadline = entry.deadline
  owner : msg.owner = entry.job.owner.toList.take stringShort
  name : ∀ name, entry.name = some name → msg.name = name.toList.take stringShort
  same : msg = jobToMsg now entry msg

/-- What the answer to a question is. -/
def Gives (asked : Asked) : Result → Prop
  | .status rc msg =>
    ∃ job_id, asked.question = .status job_id ∧
      match asked.pools.getJob job_id with
      | none => rc = .failedBadJobId ∧ msg.id = job_id
      | some entry => rc = .success ∧ Describes asked.pools.now entry msg
  | .history rc list =>
    ∃ job_id, asked.question = .history job_id ∧
      match asked.pools.getJob job_id with
      | none => rc = .failedBadJobId ∧ list = []
      | some entry => rc = .success ∧ list = entry.job.history.map historyToMsg
  | .matching rc list =>
    ∃ job_id array_id, asked.question = .matching job_id array_id ∧
      ∃ job, target asked.pools job_id array_id = some job ∧
        match asked.pools.getJob job with
        | none => rc = .failedBadJobId ∧ list = []
        | some entry =>
          rc = .success ∧ list.map MatchMsg.view = matchesOf judge job entry.job asked.pools.hosts

/-- The functions of the library return the answers to their questions, and nothing is left. -/
def Aligned (qs : List Asked) : Prop :=
  ∃ rs, List.Forall₂ (Gives judge) qs rs ∧
    Exchange.session (answer judge) reader qs [] = some (rs, [])

/-- An array that is asked for has a job that is there. -/
def Live (asked : Asked) : Prop :=
  ∀ job_id array_id, asked.question = .matching job_id array_id →
    array_id ≠ -1 → ∀ array, asked.pools.getArray array_id = some array →
      ∃ job ∈ array.jobIds, job.isSome = true

/-- The array that a question is about, `-1` when it is about none. -/
def Question.asksArray : Question → Int
  | .matching _ array_id => array_id
  | _ => -1

lemma live_iff (asked : Asked) :
    (asked.question.asksArray = -1 ∨ (asked.pools.getArray asked.question.asksArray).all
      (fun array => array.jobIds.any Option.isSome) = true) ↔ Live asked := by
  simp only [Option.all_eq_true, List.any_eq_true]
  constructor
  · intro live job_id array_id eq some_array
    rw [eq] at live
    exact live.resolve_left some_array
  · intro live
    cases eq : asked.question with
    | status _ => exact .inl rfl
    | history _ => exact .inl rfl
    | matching job_id array_id =>
      by_cases none : array_id = -1
      · exact .inl none
      · exact .inr (live job_id array_id eq none)

instance (asked : Asked) : Decidable (Live asked) := decidable_of_iff _ (live_iff asked)

variable {judge} {asked : Asked} {host : Host} {job : Job} {msg : MatchMsg} {pools : Pools}
  {job_id : Int}

section Records

/-- A queue is put behind those that the record has, and nothing else changes. -/
lemma addQueue_spec (judge : Judge) (host : Host) (job : Job) (msg : MatchMsg) (j : Nat) :
    (addQueue judge host job msg j).queues = msg.queues ++ (queueOf judge host job j).toList ∧
      (addQueue judge host job msg j).matched =
        (msg.matched || (queueOf judge host job j).any (·.fits)) ∧
      { addQueue judge host job msg j with
        queueName := msg.queueName, fits := msg.fits, rank := msg.rank, slots := msg.slots
        numberOfQueues := msg.numberOfQueues, matched := msg.matched } = msg := by
  rw [addQueue, queueOf]
  cases host.queueName j with
  | none => exact ⟨(List.append_nil _).symm, (Bool.or_false _).symm, rfl⟩
  | some name =>
    dsimp only [Option.map]
    have old (i : Nat) (below : i ∈ List.range msg.numberOfQueues) : i ≠ msg.numberOfQueues :=
      Nat.ne_of_lt (List.mem_range.1 below)
    cases judge.checkReqs host j job.template.requirements with
    | true =>
      refine ⟨?_, (Bool.or_true _).symm, rfl⟩
      rw [if_pos rfl, MatchMsg.queues, MatchMsg.queues, List.range_succ, List.map_append,
        List.map_singleton]
      dsimp only
      rw [Function.update_self, Function.update_self, Function.update_self, Function.update_self]
      congr 1
      apply List.map_congr_left
      intro i below
      rw [Function.update_of_ne (old i below), Function.update_of_ne (old i below),
        Function.update_of_ne (old i below), Function.update_of_ne (old i below)]
    | false =>
      refine ⟨?_, (Bool.or_false _).symm, rfl⟩
      rw [if_neg Bool.false_ne_true, MatchMsg.queues, MatchMsg.queues, List.range_succ,
        List.map_append, List.map_singleton]
      dsimp only
      rw [Function.update_self, Function.update_self, Function.update_self, Function.update_self]
      congr 1
      apply List.map_congr_left
      intro i below
      rw [Function.update_of_ne (old i below), Function.update_of_ne (old i below),
        Function.update_of_ne (old i below), Function.update_of_ne (old i below)]

/-- The queues of a host are put behind those that the record has, and nothing else changes. -/
lemma addQueues_spec (judge : Judge) (host : Host) (job : Job) (msg : MatchMsg) 
    (l : List Nat) :
    (l.foldl (addQueue judge host job) msg).queues =
        msg.queues ++ l.filterMap (queueOf judge host job) ∧
      (l.foldl (addQueue judge host job) msg).matched =
        (msg.matched || (l.filterMap (queueOf judge host job)).any (·.fits)) ∧
      { l.foldl (addQueue judge host job) msg with
        queueName := msg.queueName, fits := msg.fits, rank := msg.rank, slots := msg.slots
        numberOfQueues := msg.numberOfQueues, matched := msg.matched } = msg := by
  induction l generalizing msg with
  | nil => exact ⟨(List.append_nil _).symm, (Bool.or_false _).symm, rfl⟩
  | cons j l ih =>
    obtain ⟨queues, matched, frame⟩ := addQueue_spec judge host job msg j
    obtain ⟨queues', matched', frame'⟩ := ih (addQueue judge host job msg j)
    rw [List.foldl_cons, List.filterMap_cons]
    refine ⟨?_, ?_, ?_⟩
    · rw [queues', queues]
      cases queueOf judge host job j with
      | none => rw [Option.toList_none, List.append_nil]
      | some view => rw [Option.toList_some, List.append_assoc]; rfl
    · rw [matched', matched]
      cases queueOf judge host job j with
      | none => rw [Option.any_none, Bool.or_false]
      | some view => rw [Option.any_some, Bool.or_assoc]; rfl
    · rw [← frame'] at frame
      exact frame

/-- The record of a host. -/
lemma hostToMsg_spec (judge : Judge) (host : Host) (job : Job) (msg : MatchMsg) (job_id : Int)
    (i : Nat) :
    (hostToMsg judge job_id job i host msg).view =
        ⟨i, job_id, host.fixedPriority, copyStr stringHost host.hostname, host.runningJobs,
          queuesOf judge host job⟩ ∧
      (hostToMsg judge job_id job i host msg).matched = (queuesOf judge host job).any (·.fits) ∧
      (hostToMsg judge job_id job i host msg).rc = .success ∧
      (hostToMsg judge job_id job i host msg).msgType = msg.msgType := by
  obtain ⟨queues, matched, frame⟩ := addQueues_spec judge host job
    ({ msg with
      numberOfQueues := 0, rc := .success, matched := false, hostId := i, jobId := job_id
      fixedPriority := host.fixedPriority, runningJobs := host.runningJobs
      hostname := copyStr stringHost host.hostname } : MatchMsg)
    (List.range judge.maxQueues)
  rw [← hostToMsg] at queues matched frame
  have msgType := congrArg MatchMsg.msgType frame
  have rc := congrArg MatchMsg.rc frame
  have hostId := congrArg MatchMsg.hostId frame
  have jobId := congrArg MatchMsg.jobId frame
  have priority := congrArg MatchMsg.fixedPriority frame
  have hostname := congrArg MatchMsg.hostname frame
  have running := congrArg MatchMsg.runningJobs frame
  dsimp only at msgType rc hostId jobId priority hostname running
  refine ⟨?_, matched.trans (Bool.false_or _), rc, msgType⟩
  rw [MatchMsg.view, queues, hostId, jobId, priority, hostname, running]
  rfl

/-- The records of the hosts that match, in the order of the pool. -/
lemma matchHosts_spec (judge : Judge) (job : Job) (job_id : Int) (i : Nat)
    (hosts : List (Option Host)) (type : msg.msgType = .jobMatch) :
    (matchHosts judge job_id job i hosts msg).2.map MatchMsg.view =
        (hosts.zipIdx i).filterMap (matchOf judge job_id job) ∧
      ∀ m ∈ (matchHosts judge job_id job i hosts msg).2, m.rc = .success ∧ m.msgType = .jobMatch := by
  induction hosts generalizing i msg with
  | nil => exact ⟨rfl, fun m mem => absurd mem List.not_mem_nil⟩
  | cons h hosts ih =>
    rw [List.zipIdx_cons, List.filterMap_cons]
    cases h with
    | none => exact ih (i + 1) type
    | some host =>
      obtain ⟨view, matched, rc, same⟩ := hostToMsg_spec judge host job msg job_id i
      rw [type] at same
      obtain ⟨views, fine⟩ := ih (i + 1) same
      rw [matchHosts]
      dsimp only
      rw [matched, matchOf, Option.bind_some]
      dsimp only
      cases (queuesOf judge host job).any (·.fits) with
      | true =>
        refine ⟨?_, List.forall_mem_cons.2 ⟨⟨rc, same⟩, fine⟩⟩
        rw [if_pos rfl, if_pos rfl, List.map_cons, view, views]
      | false =>
        rw [if_neg Bool.false_ne_true, if_neg Bool.false_ne_true]
        exact ⟨views, fine⟩

end Records

section Readers

/-- A function of the library reads the reply to its own question. -/
def Exact (judge : Judge) (asked : Asked) : Prop :=
  ∃ r, Gives judge asked r ∧ ∀ rest, reader asked (answer judge asked ++ rest) = some (r, rest)

lemma status_exact (eq : asked.question = .status job_id) : Exact judge asked := by
  rw [Exact, answer, reader, eq]
  dsimp only
  rw [jobStatus]
  cases found : asked.pools.getJob job_id with
  | none =>
    refine ⟨.status .failedBadJobId { asked.job with
      msgType := .jobStatus, rc := .failedBadJobId, id := job_id }, ⟨job_id, eq, ?_⟩, fun rest => rfl⟩
    rw [found]
    exact ⟨rfl, rfl⟩
  | some entry =>
    refine ⟨.status .success (jobToMsg asked.pools.now entry
      { asked.job with msgType := .jobStatus }), ⟨job_id, eq, ?_⟩, fun rest => rfl⟩
    rw [found]
    refine ⟨rfl, rfl, rfl, rfl, ⟨rfl, rfl⟩, ⟨rfl, rfl⟩, rfl, ⟨rfl, rfl, rfl⟩, rfl, ?_, ?_⟩
    · intro name named
      rw [jobToMsg, named]
      rfl
    · rw [jobToMsg, jobToMsg]
      cases entry.name <;> rfl

lemma history_exact (eq : asked.question = .history job_id) : Exact judge asked := by
  rw [Exact, answer, reader, eq]
  dsimp only
  rw [jobHistory]
  cases found : asked.pools.getJob job_id with
  | none =>
    refine ⟨.history .failedBadJobId [], ⟨job_id, eq, ?_⟩, fun rest => ?_⟩
    · rw [found]
      exact ⟨rfl, rfl⟩
    · rw [jobHistoryFd, List.singleton_append, Exchange.readRecords_refused Record.history]
      · rfl
      · exact fun _ => rfl
      · exact nofun
  | some entry =>
    refine ⟨.history .success (entry.job.history.map historyToMsg), ⟨job_id, eq, ?_⟩, fun rest => ?_⟩
    · rw [found]
      exact ⟨rfl, rfl⟩
    · have fine : ∀ r ∈ entry.job.history.map historyToMsg,
          r.rc = .success ∧ decide (r.msgType = .endAll) = false := by
        intro r mem
        obtain ⟨history, -, rfl⟩ := List.mem_map.1 mem
        exact ⟨rfl, rfl⟩
      rw [jobHistoryFd]
      dsimp only
      rw [Exchange.readRecords_exact Record.history (fun _ => rfl) fine]
      · rfl
      · exact ⟨rfl, rfl⟩

/-- The records of the hosts that match a job are read. -/
lemma jobMatch_exact (judge : Judge) (msg : MatchMsg) (pools : Pools) (job_id : Int) :
    ∃ rc list, (∀ rest, matchJobFd (jobMatch judge pools job_id msg ++ rest) =
        some (.matching rc list, rest)) ∧
      match pools.getJob job_id with
      | none => rc = .failedBadJobId ∧ list = []
      | some entry =>
        rc = .success ∧ list.map MatchMsg.view = matchesOf judge job_id entry.job pools.hosts := by
  rw [jobMatch]
  cases pools.getJob job_id with
  | none =>
    refine ⟨.failedBadJobId, [], fun rest => ?_, rfl, rfl⟩
    dsimp only
    rw [matchJobFd, List.singleton_append, Exchange.readRecords_refused Record.matched]
    · rfl
    · exact fun _ => rfl
    · exact nofun
  | some entry =>
    have asked : { msg with msgType := MsgType.jobMatch }.msgType = .jobMatch := rfl
    obtain ⟨views, fine⟩ := matchHosts_spec judge entry.job job_id 0 pools.hosts asked
    refine ⟨.success, _, fun rest => ?_, rfl, views⟩
    have records : ∀ r ∈ (matchHosts judge job_id entry.job 0 pools.hosts
        { msg with msgType := .jobMatch }).2,
        r.rc = .success ∧ decide (r.msgType = .endJob) = false := by
      intro r mem
      obtain ⟨rc, type⟩ := fine r mem
      rw [type]
      exact ⟨rc, rfl⟩
    dsimp only
    rw [matchJobFd, Exchange.readRecords_exact Record.matched (fun _ => rfl) records]
    · rfl
    · exact ⟨rfl, rfl⟩

lemma getJob_negative : pools.getJob (-1) = none := if_neg (by decide)

lemma matching_exact {array_id : Int} (eq : asked.question = .matching job_id array_id)
    (live : Live asked) : Exact judge asked := by
  have found {job : Int} (aim : target asked.pools job_id array_id = some job)
      (sent : answer judge asked = jobMatch judge asked.pools job asked.matched) :
      Exact judge asked := by
    obtain ⟨rc, list, reads, tells⟩ := jobMatch_exact judge asked.matched asked.pools job
    refine ⟨.matching rc list, ⟨job_id, array_id, eq, job, aim, tells⟩, fun rest => ?_⟩
    rw [sent, reader, eq]
    exact reads rest
  by_cases alone : array_id = -1
  · apply found
    · rw [target, if_pos alone]
    · rw [answer, eq]
      exact if_pos alone
  · have sent : answer judge asked = arrayMatch judge asked.pools array_id asked.matched := by
      rw [answer, eq]
      exact if_neg alone
    rw [arrayMatch] at sent
    cases there : asked.pools.getArray array_id with
    | none =>
      rw [there] at sent
      refine ⟨.matching .failedBadJobId [], ⟨job_id, array_id, eq, -1, ?_, ?_⟩, fun rest => ?_⟩
      · rw [target, if_neg alone, there]
      · rw [getJob_negative]
        exact ⟨rfl, rfl⟩
      · rw [sent, reader, eq]
        dsimp only
        rw [matchJobFd, List.singleton_append, Exchange.readRecords_refused Record.matched]
        · rfl
        · exact fun _ => rfl
        · exact nofun
    | some array =>
      rw [there] at sent
      dsimp only at sent
      obtain ⟨task, mem, some_task⟩ := live job_id array_id eq alone array there
      cases first : array.jobIds.findSome? id with
      | none =>
        have gone := List.findSome?_eq_none_iff.1 first task mem
        rw [id] at gone
        rw [gone] at some_task
        cases some_task
      | some job =>
        rw [first] at sent
        apply found
        · rw [target, if_neg alone, there]
          dsimp only
          rw [first]
          rfl
        · exact sent

/-- The functions of the library read the replies to their own questions. -/
lemma exact_of_live (live : Live asked) : Exact judge asked := by
  cases eq : asked.question with
  | status job_id => exact status_exact eq
  | history job_id => exact history_exact eq
  | matching job_id array_id => exact matching_exact eq live

/-- Nothing is sent for an array without a job that is there, and the client waits. -/
lemma silent_of_not_live (judge : Judge) (gone : ¬Live asked) :
    answer judge asked = [] ∧ reader asked [] = none := by
  rw [Live] at gone
  push Not at gone
  obtain ⟨job_id, array_id, eq, alone, array, there, dead⟩ := gone
  have empty : array.jobIds.findSome? id = none := by
    rw [List.findSome?_eq_none_iff]
    intro task mem
    exact Option.not_isSome_iff_eq_none.1 (dead task mem)
  rw [answer, reader, eq]
  dsimp only
  rw [if_neg alone, arrayMatch, there]
  dsimp only
  rw [empty]
  exact ⟨rfl, rfl⟩

end Readers

/-- The replies stay aligned when every array that is asked for has a job that is there, and only then. -/
theorem aligned_iff (judge : Judge) (qs : List Asked) :
    Aligned judge qs ↔ ∀ asked ∈ qs, Live asked := by
  constructor
  · rintro ⟨rs, -, done⟩
    by_contra gone
    cases first : qs.find? fun asked => ¬Live asked with
    | none =>
      apply gone
      intro asked mem
      have live := List.find?_eq_none.1 first asked mem
      rw [decide_eq_true_iff, not_not] at live
      exact live
    | some asked =>
      obtain ⟨dead, before, later, rfl, live⟩ := List.find?_eq_some_iff_append.1 first
      obtain ⟨silent, waits⟩ := silent_of_not_live judge (of_decide_eq_true dead)
      have stuck : Exchange.session (answer judge) reader (before ++ asked :: later) [] = none := by
        apply Exchange.session_stuck _ silent waits
        intro q mem
        have alive := live q mem
        rw [Bool.not_eq_true', decide_eq_false_iff_not, not_not] at alive
        obtain ⟨r, -, reads⟩ : Exact judge q := exact_of_live alive
        exact ⟨r, reads⟩
      rw [stuck] at done
      cases done
  · intro live
    exact Exchange.session_of_exact fun asked mem => exact_of_live (live asked mem)

/-- An array whose task is gone is asked for. -/
def askedGone : Asked where
  question := .matching 0 0
  pools := { jobs := [], arrays := [some { jobIds := [none], freedTasks := 0 }], hosts := [] }
  job := ⟨.jobStatus, .success, [], [], [], 0, 0, 0, 0, 0, 0, 0, 0, 0, .init, .init, 0, 0, 0, 0, 0, 0,
    0, false⟩
  history := ⟨.jobHistory, .success, 0, 0, 0, 0, 0, 0, 0, 0, 0, 0, 0, 0, 0, 0, [], [], [], 0, .none⟩
  matched := ⟨.jobMatch, .success, 0, 0, 0, false, [], 0, 0, fun _ => [], fun _ => false, fun _ => 0,
    fun _ => 0⟩

/-- The client waits for an answer that never comes. -/
theorem not_aligned :
    ¬Aligned { maxQueues := 0, checkReqs := fun _ _ _ => true, computeRank := fun _ _ _ => 0 }
      [askedGone] := by
  rintro ⟨rs, -, done⟩
  cases done

end GridWay.Rm
