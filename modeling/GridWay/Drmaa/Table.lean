import Mathlib.Algebra.Ring.Int.Defs
import Mathlib.Algebra.Ring.Nat
import GridWay.Drmaa.Session
import GridWay.Lib.Machine

/-!
# The calls of a session

Every thread of a program can call the library. A call takes the mutex for each of its critical sections,
and other threads run between them; what a thread has in its own variables is kept with the thread. An
observer notes the jobs that the session has, and numbers the submissions.

* `State.step`: the critical sections, and what the threads do between them.
* `State.Sound`: the table holds the jobs of the session, and the arrays that were copied from it end.
* `State.Counted.step`, `State.sound_run`: a run stays sound as long as its steps are allowed.
* `State.Sound.allowed`: a step that leaves the table in order is allowed.
-/

namespace GridWay.Drmaa

/-- Where a thread is in a call. The numbers are those of the session in which a job was submitted and of
the submission, of the removals that are left, and of the jobs to dispose of. No job asked for stands for
any or all of them. -/
inductive Thread where
  | idle
  | submitting
  | storing (session : Nat) (jid : Int) (number : Nat)
  | calling (job : Option Int)
  | waiting (ids : List Int)
  | checking (jid : Int)
  | removing (jid : Int) (times : Nat)
  | collecting (jobs : Option (List Int))
  | syncing (ids : List Int) (number : Nat)
deriving DecidableEq, Repr

/-- The arrays of a thread end with -1, and its submission is one of the first. -/
def Thread.Ends (next : Nat) : Thread → Prop
  | .waiting ids => ids.getLast? = some (-1)
  | .syncing ids _ => ids.getLast? = some (-1)
  | .storing _ _ number => number < next
  | _ => True

/-- What the wait for a job, or for one of several, returns. -/
inductive Answer where
  | success (k : Nat)
  | failed
  | badJobId
  | error
deriving DecidableEq, Repr

/-- A critical section of a thread, or a step between two of them. -/
inductive Event where
  | init (contact : Bool) (pid : Nat) (client : Bool)
  | exit
  | run (t : Nat)
  | submitted (t : Nat) (answer : Option Int)
  | store (t : Nat)
  | runBulk (start stop incr : Int) (valid : Bool) (answer : Option (Nat → Int)) (memory : Nat)
  | wait (t : Nat) (job : Option Int)
  | copy (t : Nat)
  | waited (t : Nat) (answer : Answer)
  | check (t : Nat)
  | remove (t : Nat)
  | synchronize (t : Nat) (jobs : Option (List Int))
  | collect (t : Nat)
  | synchronized (t : Nat) (dispose : Bool)
  | giveUp (t : Nat)

/-- The session and the threads. The observer counts the sessions and the submissions, and keeps the jobs
of this session with the numbers of their submissions. -/
structure State where
  session : Session
  threads : Nat → Thread := fun _ => .idle
  ended : Bool := false
  count : Nat := 1
  next : Nat := 0
  live : List (Nat × Int) := []

namespace State

/-- The state after the first `drmaa_init`. -/
def start (pid : Nat) : State := { session := ({} : Session).clear (some pid) }

/-- A thread goes on. -/
def goTo (s : State) (t : Nat) (thread : Thread) : State :=
  { s with threads := Function.update s.threads t thread }

/-- The jobs without one of them. -/
def erase (live : List (Nat × Int)) (jid : Int) : List (Nat × Int) := live.eraseP fun job => job.2 = jid

/-- The jobs of a submission with their numbers. -/
def numbered (next : Nat) (ids : List Int) : List (Nat × Int) := (List.range' next ids.length).zip ids

/-- A thread removes a job. -/
def rm (s : State) (t : Nat) (jid : Int) (thread : Thread) : Option State := do
  let session ← s.session.rmSessionId jid
  return { s with session, live := erase s.live jid }.goTo t thread

/-- The numbers are 32 bits wide. -/
def int32 (z : Int) : Int := Int.bmod z (2 ^ 32)

/-- The number of the jobs of `drmaa_run_bulk_jobs`; a division that has no result ends the process. -/
def totalJobs (start stop incr : Int) : Option Int :=
  if incr = 0 ∨ incr = -1 ∧ int32 (stop - start) = -2 ^ 31 then none
  else some (int32 (Int.tdiv (int32 (stop - start)) incr + 1))

/-- The ids that `drmaa_run_bulk_jobs` stores: nothing when a test or the submission fails, and fewer when
there is no memory for their names. -/
def bulkIds (s : State) (total : Int) (valid : Bool) (answer : Option (Nat → Int)) (memory : Nat) :
    List Int :=
  if s.session.sessionId.isNone then []
  else if !valid ∨ total = 0 then []
  else if int32 (s.session.numberOfJobs + total) ≥ sessionJobs then []
  else if total ≤ 0 then []
  else
    match answer with
    | none => []
    | some ids => ((List.range total.toNat).map ids).take memory

/-- A step. An access outside the table leaves nothing. -/
def step (s : State) (e : Event) : Option State :=
  if s.ended then some s
  else
    match e with
    | .init contact pid client =>
      if contact ∨ s.session.sessionId.isSome then some s
      else
        let pid := if client then some pid else none
        some { s with session := s.session.clear pid, count := s.count + 1, live := [] }
    | .exit => some { s with session := { s.session with sessionId := none } }
    | .run t =>
      if s.threads t ≠ .idle then some s
      else if s.session.sessionId.isNone then some s
      else if s.session.numberOfJobs ≥ sessionJobs then some s
      else some (s.goTo t .submitting)
    | .submitted t answer =>
      match s.threads t, answer with
      | .submitting, some jid =>
        some ({ s with next := s.next + 1 }.goTo t (.storing s.count jid s.next))
      | .submitting, none => some (s.goTo t .idle)
      | _, _ => some s
    | .store t =>
      match s.threads t with
      | .storing session jid number => do
        let stored ← s.session.store jid
        let live := if session = s.count then s.live ++ [(number, jid)] else s.live
        return { s with session := stored, live }.goTo t .idle
      | _ => some s
    | .runBulk start stop incr valid answer memory =>
      match totalJobs start stop incr with
      | none => some { s with ended := true }
      | some total => do
        let ids := s.bulkIds total valid answer memory
        let stored ← s.session.storeAll ids
        let live := s.live ++ numbered s.next ids
        return { s with session := stored, next := s.next + ids.length, live }
    | .wait t job =>
      if s.threads t ≠ .idle then some s
      else if s.session.sessionId.isNone then some s
      else some (s.goTo t (.calling job))
    | .copy t =>
      match s.threads t with
      | .calling none =>
        if s.session.numberOfJobs = 0 then some (s.goTo t .idle)
        else do
          let ids ← s.session.copy
          return s.goTo t (.waiting ids)
      | _ => some s
    | .waited t answer =>
      match s.threads t, answer with
      | .waiting ids, .success k =>
        let jid := (ids.takeWhile (· ≠ -1))[k]?.getD (ids.headD (-1))
        some (s.goTo t (.removing jid 1))
      | .waiting ids, .failed => some (s.goTo t (.removing (ids.headD (-1)) 2))
      | .waiting ids, .badJobId => some (s.goTo t (.removing (ids.headD (-1)) 2))
      | .calling (some jid), .success _ => some (s.goTo t (.removing jid 1))
      | .calling (some jid), .failed => some (s.goTo t (.removing jid 2))
      | .calling (some jid), .badJobId => some (s.goTo t (.checking jid))
      | .waiting _, .error => some (s.goTo t .idle)
      | .calling (some _), .error => some (s.goTo t .idle)
      | _, _ => some s
    | .check t =>
      match s.threads t with
      | .checking jid =>
        if (s.session.find jid).isSome then s.rm t jid (.removing jid 1) else some (s.goTo t .idle)
      | _ => some s
    | .remove t =>
      match s.threads t with
      | .removing jid times => s.rm t jid (if times ≤ 1 then .idle else .removing jid (times - 1))
      | _ => some s
    | .synchronize t jobs =>
      if s.threads t ≠ .idle then some s
      else if s.session.sessionId.isNone then some s
      else some (s.goTo t (.collecting jobs))
    | .collect t =>
      match s.threads t with
      | .collecting none => do
        let ids ← s.session.copy
        if s.session.numberOfJobs = 0 then return s.goTo t .idle
        else return s.goTo t (.syncing ids s.session.numberOfJobs.toNat)
      | .collecting (some jobs) => some (s.goTo t (.syncing (jobs ++ [-1]) jobs.length))
      | _ => some s
    | .synchronized t dispose =>
      match s.threads t with
      | .syncing ids number =>
        if dispose then do
          let session ← s.session.rmAll (ids.take number)
          return { s with session, live := (ids.take number).foldl erase s.live }.goTo t .idle
        else some (s.goTo t .idle)
      | _ => some s
    | .giveUp t =>
      match s.threads t with
      | .submitting | .calling _ | .collecting _ => some (s.goTo t .idle)
      | _ => some s

/-- A step of a run. -/
def advance (s : Option State) (e : Event) : Option State := s.bind fun s => s.step e

/-- The state after a run from the first session of a process. -/
def runFrom (pid : Nat) (evs : List Event) : Option State :=
  Machine.run advance (some (start pid)) evs

/-- The ids of the jobs of the session. -/
def jobs (s : State) : List Int := s.live.map Prod.snd

/-- An array that a thread copied. -/
def Copied (s : State) (ids : List Int) : Prop :=
  ∃ t, s.threads t = .waiting ids ∨ ∃ number, s.threads t = .syncing ids number

/-- The table holds the jobs of the session in the order of the submissions, and the arrays that were
copied from it end with -1. -/
structure Sound (s : State) : Prop where
  holds : s.session.Holds s.jobs
  ordered : (s.live.map Prod.fst).Pairwise (· < ·)
  terminated : ∀ ids, s.Copied ids → ids.getLast? = some (-1)

/-- A step keeps the table in order: a job is stored in the session in which it was submitted, while there
is room for it, with an id that is new and behind no job that was submitted after it; a table is copied
while it is not full; and -1 is not removed, but from a full table. -/
def Allowed (s : State) (e : Event) : Prop :=
  s.ended = false →
  match e with
  | .store t => ∀ session jid number, s.threads t = .storing session jid number →
      session = s.count ∧ s.session.numberOfJobs < sessionJobs ∧ Session.New s.jobs [jid] ∧
        ∀ job ∈ s.live, job.1 < number
  | .runBulk start stop incr valid answer memory => ∀ total, totalJobs start stop incr = some total →
      s.session.numberOfJobs + (s.bulkIds total valid answer memory).length ≤ sessionJobs ∧
        Session.New s.jobs (s.bulkIds total valid answer memory)
  | .copy t => s.threads t = .calling none → s.session.numberOfJobs < sessionJobs
  | .collect t => s.threads t = .collecting none → s.session.numberOfJobs < sessionJobs
  | .check t => s.threads t = .checking (-1) → s.session.numberOfJobs = sessionJobs
  | .remove t => ∀ times, s.threads t = .removing (-1) times → s.session.numberOfJobs = sessionJobs
  | .synchronized t true => ∀ ids number, s.threads t = .syncing ids number →
      -1 ∉ ids.take number
  | _ => True

/-- The steps of a run are allowed. -/
def AllAllowed (pid : Nat) (evs : List Event) : Prop :=
  Machine.Guarded advance (fun s e => ∀ s', s = some s' → s'.Allowed e) (some (start pid)) evs

/-- The invariant: the numbers of the submissions are below the next one. -/
structure Counted (s : State) : Prop where
  holds : s.session.Holds s.jobs
  ordered : (s.live.map Prod.fst).Pairwise (· < ·)
  before : ∀ job ∈ s.live, job.1 < s.next
  ends : ∀ t, (s.threads t).Ends s.next

variable {s s' : State} {t next : Nat} {jid : Int} {thread : Thread} {session : Session}
  {live : List (Nat × Int)} {ids : List Int}

lemma Counted.sound (counted : s.Counted) : s.Sound := by
  refine ⟨counted.holds, counted.ordered, fun ids copied => ?_⟩
  obtain ⟨t, thread | ⟨number, thread⟩⟩ := copied
  · have ends := counted.ends t
    rw [thread] at ends
    exact ends
  · have ends := counted.ends t
    rw [thread] at ends
    exact ends

lemma sessionJobs_pos : (0 : Int) < sessionJobs := by
  rw [sessionJobs]
  decide

lemma start_counted (pid : Nat) : (start pid).Counted where
  holds := Session.clear_holds _ _
  ordered := List.Pairwise.nil
  before _ mem := (List.not_mem_nil mem).elim
  ends _ := trivial

lemma ends_mono {thread : Thread} {next' : Nat} (ends : thread.Ends next) (le : next ≤ next') :
    thread.Ends next' := by
  cases thread with
  | storing session jid number => exact Nat.lt_of_lt_of_le ends le
  | waiting ids => exact ends
  | syncing ids number => exact ends
  | _ => trivial

lemma erase_sublist (live : List (Nat × Int)) (jid : Int) : (erase live jid).Sublist live :=
  List.eraseP_sublist

lemma map_erase (live : List (Nat × Int)) (jid : Int) :
    (erase live jid).map Prod.snd = (live.map Prod.snd).erase jid := by
  rw [List.erase_eq_eraseP', List.eraseP_map]
  rfl

lemma eraseAll_sublist (ids : List Int) (live : List (Nat × Int)) :
    (ids.foldl erase live).Sublist live := by
  induction ids generalizing live with
  | nil => exact List.Sublist.refl live
  | cons jid ids ih => exact (ih (erase live jid)).trans (erase_sublist live jid)

lemma map_eraseAll (ids : List Int) (live : List (Nat × Int)) :
    (ids.foldl erase live).map Prod.snd = ids.foldl List.erase (live.map Prod.snd) := by
  induction ids generalizing live with
  | nil => rfl
  | cons jid ids ih => rw [List.foldl_cons, ih, map_erase, List.foldl_cons]

lemma map_snd_numbered (next : Nat) (ids : List Int) : (numbered next ids).map Prod.snd = ids :=
  List.map_snd_zip (Nat.le_of_eq (List.length_range' ..).symm)

lemma map_fst_numbered (next : Nat) (ids : List Int) :
    (numbered next ids).map Prod.fst = List.range' next ids.length :=
  List.map_fst_zip (Nat.le_of_eq (List.length_range' ..))

lemma mem_numbered {next : Nat} {ids : List Int} {job : Nat × Int} (mem : job ∈ numbered next ids) :
    next ≤ job.1 ∧ job.1 < next + ids.length := by
  have there : job.1 ∈ (numbered next ids).map Prod.fst := List.mem_map_of_mem mem
  rw [map_fst_numbered] at there
  exact List.mem_range'_1.1 there

namespace Counted

/-- A thread goes on with another table, with fewer jobs. -/
lemma goTo (counted : s.Counted) (fewer : live.Sublist s.live)
    (holds : session.Holds (live.map Prod.snd)) (ends : thread.Ends s.next) :
    ({ s with session, live }.goTo t thread).Counted := by
  refine ⟨holds, counted.ordered.sublist (fewer.map _), ?_, fun i => ?_⟩
  · exact fun job mem => counted.before job (fewer.subset mem)
  show (Function.update s.threads t thread i).Ends s.next
  by_cases same : i = t
  · subst same
    rw [Function.update_self]
    exact ends
  · rw [Function.update_of_ne same]
    exact counted.ends i

lemma onlyGoTo (counted : s.Counted) (ends : thread.Ends s.next) :
    ∃ s', some (s.goTo t thread) = some s' ∧ s'.Counted :=
  ⟨_, rfl, counted.goTo (List.Sublist.refl _) counted.holds ends⟩

lemma unchanged (counted : s.Counted) : ∃ s', some s = some s' ∧ s'.Counted := ⟨s, rfl, counted⟩

/-- More submissions have been made. -/
lemma later (counted : s.Counted) (le : s.next ≤ next) : { s with next }.Counted where
  holds := counted.holds
  ordered := counted.ordered
  before job mem := Nat.lt_of_lt_of_le (counted.before job mem) le
  ends t := ends_mono (counted.ends t) le

lemma length_lt (counted : s.Counted) (room : s.session.numberOfJobs < sessionJobs) :
    s.jobs.length < sessionJobs := by
  rw [counted.holds.number] at room
  exact Int.ofNat_lt.1 room

/-- New jobs are put behind the others. -/
lemma append (counted : s.Counted) {new : List (Nat × Int)}
    (holds : session.Holds ((s.live ++ new).map Prod.snd)) (ordered : (new.map Prod.fst).Pairwise (· < ·))
    (after : ∀ job ∈ s.live, ∀ job' ∈ new, job.1 < job'.1) (before : ∀ job ∈ new, job.1 < s.next) :
    { s with session, live := s.live ++ new }.Counted where
  holds := holds
  ordered := by
    show ((s.live ++ new).map Prod.fst).Pairwise (· < ·)
    rw [List.map_append, List.pairwise_append]
    refine ⟨counted.ordered, ordered, fun i mem j mem' => ?_⟩
    obtain ⟨job, memJob, rfl⟩ := List.mem_map.1 mem
    obtain ⟨job', memJob', rfl⟩ := List.mem_map.1 mem'
    exact after job memJob job' memJob'
  before job mem := (List.mem_append.1 mem).elim (counted.before job) (before job)
  ends := counted.ends

/-- A job is removed. -/
lemma rm (counted : s.Counted) (allowed : jid = -1 → s.session.numberOfJobs = sessionJobs)
    (ends : thread.Ends s.next) : ∃ s', s.rm t jid thread = some s' ∧ s'.Counted := by
  rw [State.rm]
  have fewer := erase_sublist s.live jid
  by_cases free : jid = -1
  · subst free
    have full : s.jobs.length = sessionJobs := by
      have number := counted.holds.number
      rw [allowed rfl] at number
      exact (Int.ofNat.inj number).symm
    have holds : s.session.Holds ((erase s.live (-1)).map Prod.snd) := by
      rw [map_erase]
      exact (List.erase_of_not_mem counted.holds.ids).symm ▸ counted.holds
    rw [counted.holds.rm_full full]
    exact ⟨_, rfl, counted.goTo fewer holds ends⟩
  · obtain ⟨session, done, holds, -⟩ := counted.holds.rm free
    rw [done]
    refine ⟨_, rfl, counted.goTo fewer ?_ ends⟩
    rw [map_erase]
    exact holds

/-- A job is stored in the session in which it was submitted. -/
lemma store (counted : s.Counted) {number : Nat} (room : s.session.numberOfJobs < sessionJobs)
    (new : Session.New s.jobs [jid]) (after : ∀ job ∈ s.live, job.1 < number) (before : number < s.next) :
    ∃ s', (do
      let stored ← s.session.store jid
      return { s with session := stored, live := s.live ++ [(number, jid)] }.goTo t .idle) = some s' ∧
      s'.Counted := by
  obtain ⟨fresh, job⟩ := new.fresh jid (List.mem_singleton_self jid)
  obtain ⟨stored, done, holds, -⟩ := counted.holds.store (counted.length_lt room) fresh job
  rw [done]
  have holds' : stored.Holds ((s.live ++ [(number, jid)]).map Prod.snd) := by
    rw [List.map_append]
    exact holds
  have more : { s with session := stored, live := s.live ++ [(number, jid)] }.Counted := by
    refine counted.append holds' (List.pairwise_singleton _ _) (fun job mem job' mem' => ?_)
      fun job mem => ?_
    · rw [List.mem_singleton.1 mem']
      exact after job mem
    · rw [List.mem_singleton.1 mem]
      exact before
  exact ⟨_, rfl, more.goTo (List.Sublist.refl _) holds' trivial⟩

/-- The jobs of an array are stored. -/
lemma storeAll (counted : s.Counted) (room : s.session.numberOfJobs + ids.length ≤ sessionJobs)
    (new : Session.New s.jobs ids) :
    ∃ s', (do
      let stored ← s.session.storeAll ids
      return { s with
        session := stored, next := s.next + ids.length, live := s.live ++ numbered s.next ids }) =
        some s' ∧ s'.Counted := by
  have room : s.jobs.length + ids.length ≤ sessionJobs := by
    rw [counted.holds.number] at room
    omega
  obtain ⟨stored, done, holds⟩ := counted.holds.storeAll ids room new
  rw [done]
  have holds' : stored.Holds ((s.live ++ numbered s.next ids).map Prod.snd) := by
    rw [List.map_append, map_snd_numbered]
    exact holds
  have ordered : ((numbered s.next ids).map Prod.fst).Pairwise (· < ·) := by
    rw [map_fst_numbered]
    exact List.pairwise_lt_range'
  have later := counted.later (Nat.le_add_right s.next ids.length)
  refine ⟨_, rfl, later.append holds' ordered (fun job mem job' mem' => ?_) fun job mem => ?_⟩
  · exact Nat.lt_of_lt_of_le (counted.before job mem) (mem_numbered mem').1
  · exact (mem_numbered mem).2

/-- The jobs of an array are removed. -/
lemma rmAll (counted : s.Counted) (jobs : -1 ∉ ids) :
    ∃ s', (do
      let session ← s.session.rmAll ids
      return { s with session, live := ids.foldl erase s.live }.goTo t .idle) = some s' ∧
      s'.Counted := by
  obtain ⟨session, done, holds⟩ := counted.holds.rmAll ids jobs
  rw [done]
  refine ⟨_, rfl, counted.goTo (eraseAll_sublist ids s.live) ?_ trivial⟩
  rw [map_eraseAll]
  exact holds

/-- An allowed step is one that the language defines, and keeps the table in order. -/
theorem step (counted : s.Counted) {e : Event} (allowed : s.Allowed e) :
    ∃ s', s.step e = some s' ∧ s'.Counted := by
  rw [State.step.eq_def]
  by_cases ended : s.ended
  · rw [if_pos ended]
    exact counted.unchanged
  rw [if_neg ended]
  have allowed := allowed (Bool.eq_false_iff.2 ended)
  cases e with
  | init contact pid client =>
    dsimp only
    by_cases skip : contact ∨ s.session.sessionId.isSome
    · rw [if_pos skip]
      exact counted.unchanged
    · rw [if_neg skip]
      exact ⟨_, rfl, Session.clear_holds _ _, List.Pairwise.nil,
        fun _ mem => (List.not_mem_nil mem).elim, counted.ends⟩
  | exit =>
    obtain ⟨number, room, nodup, ids, entries⟩ := counted.holds
    exact ⟨_, rfl, ⟨number, room, nodup, ids, entries⟩, counted.ordered, counted.before, counted.ends⟩
  | run t =>
    dsimp only
    split_ifs
    · exact counted.unchanged
    · exact counted.unchanged
    · exact counted.unchanged
    · exact counted.onlyGoTo trivial
  | submitted t answer =>
    dsimp only
    cases s.threads t with
    | submitting =>
      cases answer with
      | none => exact counted.onlyGoTo trivial
      | some jid => exact (counted.later (Nat.le_succ s.next)).onlyGoTo (Nat.lt_succ_self s.next)
    | _ => exact counted.unchanged
  | store t =>
    dsimp only
    cases thread : s.threads t with
    | storing session jid number =>
      obtain ⟨same, room, new, after⟩ := allowed session jid number thread
      have before := counted.ends t
      rw [thread] at before
      dsimp only
      rw [if_pos same]
      exact counted.store room new after before
    | _ => exact counted.unchanged
  | runBulk start stop incr valid answer memory =>
    dsimp only
    cases total : totalJobs start stop incr with
    | none => exact ⟨_, rfl, counted.holds, counted.ordered, counted.before, counted.ends⟩
    | some total' =>
      obtain ⟨room, new⟩ := allowed total' total
      exact counted.storeAll room new
  | wait t job =>
    dsimp only
    split_ifs
    · exact counted.unchanged
    · exact counted.unchanged
    · exact counted.onlyGoTo trivial
  | copy t =>
    dsimp only
    cases thread : s.threads t with
    | calling job =>
      cases job with
      | some jid => exact counted.unchanged
      | none =>
        dsimp only
        by_cases none : s.session.numberOfJobs = 0
        · rw [if_pos none]
          exact counted.onlyGoTo trivial
        · rw [if_neg none, counted.holds.copy (counted.length_lt (allowed thread))]
          exact counted.onlyGoTo List.getLast?_concat
    | _ => exact counted.unchanged
  | waited t answer =>
    dsimp only
    cases s.threads t with
    | waiting ids =>
      cases answer with
      | _ => exact counted.onlyGoTo trivial
    | calling job =>
      cases job with
      | none =>
        cases answer with
        | _ => exact counted.unchanged
      | some jid =>
        cases answer with
        | _ => exact counted.onlyGoTo trivial
    | _ =>
      cases answer with
      | _ => exact counted.unchanged
  | check t =>
    dsimp only
    cases thread : s.threads t with
    | checking jid =>
      dsimp only
      by_cases found : (s.session.find jid).isSome
      · rw [if_pos found]
        exact counted.rm (fun same => allowed (same ▸ thread)) trivial
      · rw [if_neg found]
        exact counted.onlyGoTo trivial
    | _ => exact counted.unchanged
  | remove t =>
    dsimp only
    cases thread : s.threads t with
    | removing jid times =>
      refine counted.rm (fun same => allowed times (same ▸ thread)) ?_
      split_ifs
      · exact trivial
      · exact trivial
    | _ => exact counted.unchanged
  | synchronize t jobs =>
    dsimp only
    split_ifs
    · exact counted.unchanged
    · exact counted.unchanged
    · exact counted.onlyGoTo trivial
  | collect t =>
    dsimp only
    cases thread : s.threads t with
    | collecting jobs =>
      cases jobs with
      | some jobs => exact counted.onlyGoTo List.getLast?_concat
      | none =>
        dsimp only
        rw [counted.holds.copy (counted.length_lt (allowed thread)), Option.bind_eq_bind, Option.bind_some]
        split_ifs
        · exact counted.onlyGoTo trivial
        · exact counted.onlyGoTo List.getLast?_concat
    | _ => exact counted.unchanged
  | synchronized t dispose =>
    dsimp only
    cases thread : s.threads t with
    | syncing ids number =>
      cases dispose with
      | false => exact counted.onlyGoTo trivial
      | true => exact counted.rmAll (allowed ids number thread)
    | _ => exact counted.unchanged
  | giveUp t =>
    dsimp only
    cases s.threads t with
    | submitting => exact counted.onlyGoTo trivial
    | calling job => exact counted.onlyGoTo trivial
    | collecting jobs => exact counted.onlyGoTo trivial
    | _ => exact counted.unchanged

end Counted

namespace Sound

lemma full (sound : s.Sound) : s.session.numberOfJobs < sessionJobs ∨ s.jobs.length = sessionJobs := by
  obtain less | same := Nat.lt_or_eq_of_le sound.holds.room
  · rw [sound.holds.number]
    exact .inl (Int.ofNat_lt.2 less)
  · exact .inr same

/-- The table is copied while it is not full. -/
lemma room_of_copy (sound : s.Sound) (done : s.session.copy = some ids) :
    s.session.numberOfJobs < sessionJobs := by
  obtain room | full := sound.full
  · exact room
  · rw [sound.holds.copy_full full] at done
    cases done

/-- A job that is stored is new, comes last, and is one of the session. -/
lemma of_store (sound : s.Sound) {session number : Nat}
    (done : (do
      let stored ← s.session.store jid
      let live := if session = s.count then s.live ++ [(number, jid)] else s.live
      return { s with session := stored, live }.goTo t .idle) = some s') (sound' : s'.Sound) :
    session = s.count ∧ s.session.numberOfJobs < sessionJobs ∧ Session.New s.jobs [jid] ∧
      ∀ job ∈ s.live, job.1 < number := by
  cases stored : s.session.store jid with
  | none =>
    rw [stored] at done
    cases done
  | some table =>
    rw [stored] at done
    cases done
    have more : table.numberOfJobs = s.session.numberOfJobs + 1 := by
      rw [Session.store, Session.write] at stored
      split at stored
      · cases stored
        rfl
      · cases stored
    have same : session = s.count := by
      by_contra other
      have number : table.numberOfJobs =
          ((if session = s.count then s.live ++ [(number, jid)] else s.live).map Prod.snd).length :=
        sound'.holds.number
      rw [more, if_neg other, sound.holds.number, jobs] at number
      omega
    have holds : table.Holds
        ((if session = s.count then s.live ++ [(number, jid)] else s.live).map Prod.snd) := sound'.holds
    have ordered : ((if session = s.count then s.live ++ [(number, jid)] else s.live).map
      Prod.fst).Pairwise (· < ·) := sound'.ordered
    rw [if_pos same, List.map_append] at holds ordered
    refine ⟨same, ?_, ⟨List.nodup_singleton jid, fun k mem => ?_⟩, fun job mem => ?_⟩
    · obtain room | full := sound.full
      · exact room
      · rw [sound.holds.store_full full] at stored
        cases stored
    · rw [List.mem_singleton.1 mem]
      refine ⟨fun old => ?_, fun free => ?_⟩
      · exact (List.nodup_append.1 holds.nodup).2.2 jid old jid (List.mem_singleton_self jid) rfl
      · exact holds.ids (List.mem_append_right _ (List.mem_singleton.2 free.symm))
    · have last : number ∈ [(number, jid)].map Prod.fst := List.mem_singleton_self number
      exact (List.pairwise_append.1 ordered).2.2 _ (List.mem_map_of_mem mem) _ last

/-- The jobs of an array that are stored are new. -/
lemma of_storeAll (done : (do
      let stored ← s.session.storeAll ids
      return { s with
        session := stored, next := s.next + ids.length, live := s.live ++ numbered s.next ids }) =
      some s') (sound : s.Sound) (sound' : s'.Sound) :
    s.session.numberOfJobs + ids.length ≤ sessionJobs ∧ Session.New s.jobs ids := by
  cases stored : s.session.storeAll ids with
  | none =>
    rw [stored] at done
    cases done
  | some table =>
    rw [stored] at done
    cases done
    have holds : table.Holds ((s.live ++ numbered s.next ids).map Prod.snd) := sound'.holds
    rw [List.map_append, map_snd_numbered] at holds
    obtain ⟨-, nodup, disjoint⟩ := List.nodup_append.1 holds.nodup
    refine ⟨?_, nodup, fun k mem => ⟨fun old => disjoint k old k mem rfl, fun free => ?_⟩⟩
    · have room := holds.room
      rw [List.length_append] at room
      rw [sound.holds.number, jobs]
      omega
    · exact holds.ids (List.mem_append_right _ (free ▸ mem))

/-- The id -1 is removed from a full table only. -/
lemma of_rm (sound : s.Sound) (done : s.rm t (-1) thread = some s') (sound' : s'.Sound) :
    s.session.numberOfJobs = sessionJobs := by
  obtain room | full := sound.full
  · cases removed : s.session.rmSessionId (-1) with
    | none =>
      rw [State.rm, removed] at done
      cases done
    | some table =>
      rw [State.rm, removed] at done
      cases done
      have number : table.numberOfJobs = (((erase s.live (-1)).map Prod.snd).length : Nat) :=
        sound'.holds.number
      rw [map_erase] at number
      have fewer := sound.holds.rm_free (Int.ofNat_lt.1 (sound.holds.number ▸ room)) table removed
      have same : (s.live.map Prod.snd).erase (-1) = s.jobs := List.erase_of_not_mem sound.holds.ids
      rw [same, fewer] at number
      omega
  · rw [sound.holds.number, full]

/-- A step that leaves the table in order, and does not dispose of several jobs, is allowed. -/
theorem allowed (sound : s.Sound) {e : Event} (one : ∀ t, e ≠ .synchronized t true)
    (done : s.step e = some s') (sound' : s'.Sound) : s.Allowed e := by
  intro running
  rw [State.step.eq_def, if_neg (Bool.eq_false_iff.1 running)] at done
  cases e with
  | store t =>
    intro session jid number thread
    dsimp only at done
    rw [thread] at done
    exact sound.of_store done sound'
  | runBulk start stop incr valid answer memory =>
    intro total divided
    dsimp only at done
    rw [divided] at done
    exact of_storeAll done sound sound'
  | copy t =>
    intro thread
    dsimp only at done
    rw [thread] at done
    dsimp only at done
    by_cases none : s.session.numberOfJobs = 0
    · rw [none]
      exact sessionJobs_pos
    · rw [if_neg none] at done
      cases copied : s.session.copy with
      | none =>
        rw [copied] at done
        cases done
      | some ids => exact sound.room_of_copy copied
  | collect t =>
    intro thread
    dsimp only at done
    rw [thread] at done
    cases copied : s.session.copy with
    | none =>
      dsimp only at done
      rw [copied] at done
      cases done
    | some ids => exact sound.room_of_copy copied
  | check t =>
    intro thread
    dsimp only at done
    rw [thread] at done
    dsimp only at done
    obtain room | full := sound.full
    · have found := sound.holds.find_free (Int.ofNat_lt.1 (sound.holds.number ▸ room))
      rw [found] at done
      exact sound.of_rm done sound'
    · rw [sound.holds.number, full]
  | remove t =>
    intro times thread
    dsimp only at done
    rw [thread] at done
    exact sound.of_rm done sound'
  | synchronized t dispose =>
    cases dispose with
    | false => trivial
    | true => exact absurd rfl (one t)
  | _ => trivial

end Sound

/-- In a run whose steps are allowed, every state reached has the table in order. -/
theorem sound_run (pid : Nat) (evs : List Event) (allowed : AllAllowed pid evs) (n : Nat) :
    ∃ s, runFrom pid (evs.take n) = some s ∧ s.Sound := by
  have first : AllAllowed pid (evs.take n) := by
    rw [AllAllowed, ← List.take_append_drop n evs, Machine.guarded_append] at allowed
    exact allowed.1
  have counted : ∃ s, runFrom pid (evs.take n) = some s ∧ s.Counted := by
    refine Machine.run_induction (fun s => ∃ s', s = some s' ∧ s'.Counted) ?_
      ⟨_, rfl, start_counted pid⟩ first
    rintro _ e ⟨s, rfl, counted⟩ allowed
    exact counted.step (allowed s rfl)
  obtain ⟨s, done, counted⟩ := counted
  exact ⟨s, done, counted.sound⟩

lemma advance_run (pid : Nat) :
    advance (some (start pid)) (.run 0) = some ((start pid).goTo 0 .submitting) := by
  rw [advance, Option.bind_some, step.eq_def, if_neg (fun h => Bool.noConfusion h)]
  dsimp only
  rw [if_neg (fun h => h rfl), if_neg (fun h => Bool.noConfusion h), if_neg]
  · exact Int.not_le.2 sessionJobs_pos

/-- A job is submitted and stored. -/
theorem sound_run_one : ∃ s,
    runFrom 1 [.run 0, .submitted 0 (some 7), .store 0] = some s ∧ s.Sound := by
  refine sound_run 1 [.run 0, .submitted 0 (some 7), .store 0] ?_ 3
  rw [AllAllowed, Machine.Guarded, advance_run]
  refine ⟨fun s _ _ => trivial, fun s _ _ => trivial, fun s now _ session jid number thread => ?_, trivial⟩
  cases now
  cases thread
  refine ⟨rfl, sessionJobs_pos, ⟨List.nodup_singleton _, fun jid mem => ⟨List.not_mem_nil, ?_⟩⟩,
    fun job mem => (List.not_mem_nil mem).elim⟩
  rw [List.mem_singleton.1 mem]
  decide

/-- A job with the id -1 is waited for, which no daemon has. -/
theorem unsound : ¬ ∀ (pid : Nat) (evs : List Event) (n : Nat),
    ∃ s, runFrom pid (evs.take n) = some s ∧ s.Sound := by
  intro all
  obtain ⟨s, done, sound⟩ := all 1 [.wait 0 (some (-1)), .waited 0 .badJobId, .check 0] 3
  have empty := Session.clear_holds {} (some 1)
  have room : 0 < sessionJobs := Int.ofNat_lt.1 sessionJobs_pos
  have found : (start 1).session.find (-1) = some 0 := empty.find_free room
  have checked : runFrom 1 [.wait 0 (some (-1)), .waited 0 .badJobId, .check 0] =
      (((start 1).goTo 0 (.calling (some (-1)))).goTo 0 (.checking (-1))).rm 0 (-1) (.removing (-1) 1) := by
    show (if ((start 1).session.find (-1)).isSome then _ else _) = _
    rw [found]
    exact if_pos rfl
  rw [List.take_of_length_le (Nat.le_refl 3), checked, State.rm] at done
  cases removed : (start 1).session.rmSessionId (-1) with
  | none =>
    change (start 1).session.rmSessionId (-1) >>= _ = _ at done
    rw [removed] at done
    cases done
  | some session =>
    change (start 1).session.rmSessionId (-1) >>= _ = _ at done
    rw [removed] at done
    cases done
    have number := empty.rm_free room session removed
    have counted : session.numberOfJobs = 0 := sound.holds.number
    rw [counted] at number
    cases number

end State

end GridWay.Drmaa
