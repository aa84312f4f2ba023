import GridWay.Drm4g.EmMad
import GridWay.Lib.Machine

/-!
# The threads of the execution driver

Requests are read by the main thread, which serves submissions and recoveries itself and hands polls
and cancellations to a pool of threads; another thread refreshes the jobs of the list and reports
their states. Every operation of the job list and every message on the standard output is one step.
A job object is known by a number.

* `Threads.step`: the steps of all threads, in any order.
* `Threads.OneReport`: each submission is reported as ended once, and as itself.
* `Threads.settled`: nothing is on its way for a job id.
-/

namespace GridWay.Drm4g

/-- The operations that are answered. -/
inductive Op where
  | submit | recover | poll | cancel | callback
deriving DecidableEq, Repr

/-- A message. It carries the number of the job object that it is about, which is not written. -/
structure Line where
  op : Op
  jid : String
  ok : Bool
  status : Option String := none
  sub : Option Nat := none
deriving DecidableEq, Repr

/-- A message of a poll or of the callback thread that a job has ended. -/
def Line.ends (l : Line) : Bool :=
  (l.op == .poll || l.op == .callback) && l.ok && Mad.terminal l.status

/-- The main thread. -/
inductive Reader where
  | idle
  | submitting (jid : String) (n : Nat)
  | recovering (jid : String) (n : Nat)
  | recovered (jid : String) (n : Nat)
  | answering (l : Line)
deriving DecidableEq, Repr

/-- A task of the pool. -/
inductive Task where
  | poll (jid : String)
  | pollGet (jid : String)
  | pollRead (jid : String) (n : Nat)
  | cancel (jid : String)
  | cancelGet (jid : String)
  | cancelling (jid : String) (n : Nat)
  | answering (l : Line)
deriving DecidableEq, Repr

/-- The callback thread, with the jobs of its round that it has still to do. -/
inductive Caller where
  | asleep
  | next (todo : Dict String Nat)
  | refresh (jid : String) (n : Nat) (old : Option String) (todo : Dict String Nat)
  | compare (jid : String) (n : Nat) (old : Option String) (todo : Dict String Nat)
  | retire (jid : String) (n : Nat) (new : Option String) (todo : Dict String Nat)
  | report (jid : String) (n : Nat) (new : Option String) (todo : Dict String Nat)
  | fail (jid : String) (n : Nat) (todo : Dict String Nat)
deriving DecidableEq, Repr

/-- The driver with its threads. -/
structure Threads where
  job_list : Dict String Nat := []
  status : Dict Nat String := []
  main : Reader := .idle
  tasks : List Task := []
  caller : Caller := .asleep
  next : Nat := 0
  out : List Line := []
deriving DecidableEq, Repr

/-- A request of the core, or a step of a thread with what happens outside: a submission succeeds, a
state is read, or an exception is raised. -/
inductive Event where
  | submit (jid : String)
  | recover (jid : String)
  | poll (jid : String)
  | cancel (jid : String)
  | main (outcome : Option String)
  | task (k : Nat) (ok : Bool)
  | callback (outcome : Option String)
deriving DecidableEq, Repr

namespace Threads

/-- A message is written. -/
def write (s : Threads) (l : Line) : Threads := { s with out := s.out ++ [l] }

/-- The next step of the main thread. -/
def mainStep (s : Threads) (outcome : Option String) : Threads :=
  match s.main with
  | .idle => s
  | .submitting jid n =>
    match outcome with
    | none => { s with main := .answering { op := .submit, jid, ok := false } }
    | some _ =>
      { s with
        job_list := s.job_list.set jid n
        main := .answering { op := .submit, jid, ok := true, sub := some n } }
  | .recovering jid n =>
    match outcome with
    | none => { s with main := .answering { op := .recover, jid, ok := false } }
    | some status =>
      { s with
        status := s.status.set n status
        job_list := s.job_list.set jid n
        main := .recovered jid n }
  | .recovered jid n =>
    let l : Line := { op := .recover, jid, ok := true, status := s.status.get n, sub := some n }
    { s with main := .answering l }
  | .answering l => { s.write l with main := .idle }

/-- The next step of a task of the pool. -/
def taskStep (s : Threads) (k : Nat) (t : Task) (ok : Bool) : Threads :=
  match t with
  | .poll jid =>
    if s.job_list.has jid then { s with tasks := s.tasks.set k (.pollGet jid) }
    else { s with tasks := s.tasks.set k (.answering { op := .poll, jid, ok := false }) }
  | .pollGet jid =>
    match s.job_list.get jid with
    | some n => { s with tasks := s.tasks.set k (.pollRead jid n) }
    | none => { s with tasks := s.tasks.set k (.answering { op := .poll, jid, ok := false }) }
  | .pollRead jid n =>
    let l : Line := { op := .poll, jid, ok := true, status := s.status.get n, sub := some n }
    { s with tasks := s.tasks.set k (.answering l) }
  | .cancel jid =>
    if s.job_list.has jid then { s with tasks := s.tasks.set k (.cancelGet jid) }
    else { s with tasks := s.tasks.set k (.answering { op := .cancel, jid, ok := false }) }
  | .cancelGet jid =>
    match s.job_list.get jid with
    | some n => { s with tasks := s.tasks.set k (.cancelling jid n) }
    | none => { s with tasks := s.tasks.set k (.answering { op := .cancel, jid, ok := false }) }
  | .cancelling jid n =>
    { s with tasks := s.tasks.set k (.answering { op := .cancel, jid, ok, sub := some n }) }
  | .answering l => { s.write l with tasks := s.tasks.eraseIdx k }

/-- The next step of the callback thread. -/
def callerStep (s : Threads) (outcome : Option String) : Threads :=
  match s.caller with
  | .asleep => { s with caller := .next s.job_list }
  | .next [] => { s with caller := .asleep }
  | .next ((jid, n) :: todo) => { s with caller := .refresh jid n (s.status.get n) todo }
  | .refresh jid n old todo =>
    match outcome with
    | none => { s with caller := .fail jid n todo }
    | some status =>
      { s with status := s.status.set n status, caller := .compare jid n old todo }
  | .compare jid n old todo =>
    let new := s.status.get n
    if Mad.terminal new then { s with caller := .retire jid n new todo }
    else if old ≠ new then { s with caller := .report jid n new todo }
    else { s with caller := .next todo }
  | .retire jid n new todo =>
    { s with job_list := s.job_list.erase jid, caller := .report jid n new todo }
  | .report jid n new todo =>
    let l : Line := { op := .callback, jid, ok := true, status := new, sub := some n }
    { s.write l with caller := .next todo }
  | .fail jid n todo =>
    { s.write { op := .callback, jid, ok := false, sub := some n } with caller := .next todo }

/-- A step of the driver. The main thread reads a request when it has answered the one before. -/
def step (s : Threads) : Event → Threads
  | .submit jid =>
    if s.main = .idle then { s with main := .submitting jid s.next, next := s.next + 1 } else s
  | .recover jid =>
    if s.main = .idle then { s with main := .recovering jid s.next, next := s.next + 1 } else s
  | .poll jid => if s.main = .idle then { s with tasks := s.tasks ++ [.poll jid] } else s
  | .cancel jid => if s.main = .idle then { s with tasks := s.tasks ++ [.cancel jid] } else s
  | .main outcome => s.mainStep outcome
  | .task k ok =>
    match s.tasks[k]? with
    | none => s
    | some t => s.taskStep k t ok
  | .callback outcome => s.callerStep outcome

/-- What an observer notes: the latest submission with each id, the submissions that were stored, the
messages with the latest submission of their id when they were written, and the deletions with what
the list held. -/
structure Log where
  latest : Dict String Nat := []
  stored : List (String × Nat) := []
  lines : List (Line × Option Nat) := []
  deleted : List (Nat × Option Nat) := []
deriving DecidableEq, Repr

/-- The message that a step writes. -/
def written (s : Threads) : Event → Option Line
  | .main _ =>
    match s.main with
    | .answering l => some l
    | _ => none
  | .task k _ =>
    match s.tasks[k]? with
    | some (.answering l) => some l
    | _ => none
  | .callback _ =>
    match s.caller with
    | .report jid n new _ => some { op := .callback, jid, ok := true, status := new, sub := some n }
    | .fail jid n _ => some { op := .callback, jid, ok := false, sub := some n }
    | _ => none
  | _ => none

/-- The submission that a step stores. -/
def stores (s : Threads) : Event → Option (String × Nat)
  | .main (some _) =>
    match s.main with
    | .submitting jid n | .recovering jid n => some (jid, n)
    | _ => none
  | _ => none

/-- The submission that a step deletes, with what the list holds. -/
def deletes (s : Threads) : Event → Option (Nat × Option Nat)
  | .callback _ =>
    match s.caller with
    | .retire jid n _ _ => some (n, s.job_list.get jid)
    | _ => none
  | _ => none

/-- The id of a submission that begins. -/
def begins (s : Threads) : Event → Option String
  | .submit jid | .recover jid => if s.main = .idle then some jid else none
  | _ => none

/-- The observer. -/
def note (s : Threads) (a : Log) (e : Event) : Log where
  latest := (s.begins e).elim a.latest fun jid => a.latest.set jid s.next
  stored := a.stored ++ (s.stores e).toList
  lines := a.lines ++ (s.written e).toList.map fun l => (l, a.latest.get l.jid)
  deleted := a.deleted ++ (s.deletes e).toList

/-- The driver with its observer. -/
def observed : Threads × Log → Event → Threads × Log := Machine.observe step note

/-- The submissions that the callback thread reported as ended. -/
def reported (a : Log) : List Nat :=
  a.lines.filterMap fun p => if p.1.op = .callback ∧ p.1.ends then p.1.sub else none

/-- What is said and done about the end of a submission concerns this submission, and is said once. -/
structure Owned (a : Log) : Prop where
  /-- A state that ends a submission is written while the submission is the latest one of its id. -/
  own_status : ∀ p ∈ a.lines, p.1.ends = true → p.2 = p.1.sub
  /-- A deletion meets its own submission. -/
  own_deletion : ∀ d ∈ a.deleted, ∀ m, d.2 = some m → m = d.1
  /-- No submission is reported as ended twice. -/
  once : (reported a).Nodup

/-- Each submission is reported as ended once, and as itself. -/
structure OneReport (s : Threads) (a : Log) : Prop extends Owned a where
  /-- A stored submission is in the list until its end was reported. -/
  stays : ∀ e ∈ a.stored, s.job_list.get e.1 = some e.2 ∨ e.2 ∈ reported a

/-- The callback thread has taken a job out of the list and not yet reported it. -/
def window (s : Threads) : Option (String × Nat) :=
  match s.caller with
  | .report jid n new _ => if Mad.terminal new then some (jid, n) else none
  | _ => none

/-- A task of the pool is about to report the end of a job with this id. -/
def Task.mayEnd (jid : String) : Task → Bool
  | .pollRead jid' _ => jid' = jid
  | .answering l => l.ends && decide (l.jid = jid)
  | _ => false

/-- Nothing is on its way for a job id: no job of the list has it, and neither the callback thread nor
a poll is about to report the end of a job with it. -/
def settled (s : Threads) (jid : String) : Bool :=
  !s.job_list.has jid && (s.window.all fun e => e.1 ≠ jid) && s.tasks.all (!Task.mayEnd jid ·)

/-- The steps of a run in which an id is used again when it is settled. -/
def orderly (s : Threads) (e : Event) : Bool := (s.begins e).all s.settled

/-- The core uses an id again after a poll or a callback said that its job had ended. -/
def reuses (s : Threads) (a : Log) (e : Event) : Bool :=
  (s.begins e).all fun jid =>
    (a.latest.get jid).all fun n => a.lines.any fun p => p.1.ends && p.1.sub == some n

end Threads

end GridWay.Drm4g
