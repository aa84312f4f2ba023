import GridWay.Dagman.Node
import GridWay.Lib.Exit
import GridWay.Lib.Scan
import Mathlib.Data.List.DropRight

/-!
# The runner of a dag

The runner looks at the jobs that run, finishes those that are done, and submits those whose parents are
done. It exits when a script or a submission fails. What it prints is left out.

* `State`: the lists of the runner, with what it asked for so far.
* `Dag.iterate`, `Dag.after`: one round, and the rounds of the main loop.
-/

namespace GridWay.Dagman

/-- Removes white space at both ends. -/
def strip (s : List Char) : List Char :=
  ((s.dropWhile Scan.isSpace).rdropWhile (·.toNat = 0)).rdropWhile Scan.isSpace

/-- The parts between separators, without the empty ones at the end. -/
def split (c : Char) (s : List Char) : List (List Char) := (s.splitOn c).rdropWhile (·.isEmpty)

/-- The lines of a text, with their ends. -/
def lines : List Char → List (List Char)
  | [] => []
  | c :: cs =>
    if c = '\n' then [c] :: lines cs
    else
      match lines cs with
      | [] => [[c]]
      | l :: ls => (c :: l) :: ls

/-- A line of `gwps -f`: a name, and a value if there is one. -/
def entry (line : List Char) : Option (List Char × Option (List Char)) :=
  match split '=' line with
  | [] => none
  | name :: vals => some (strip name, vals.head?.map strip)

/-- The last value of `JOB_STATE`. -/
def stateOf (ps_out : List Char) : Option (List Char) :=
  (((lines ps_out).filterMap entry).reverse.find? fun e => e.1 = "JOB_STATE".toList).bind (·.2)

/-- The job id in the output of `gwsubmit -v`. -/
def jobIdOf (submit_out : List Char) : Option (List Char) :=
  ((split ':' submit_out)[1]?).map strip

/-- What is known of a submitted job. -/
structure Gridway where
  job_id : Option (List Char) := none
  state : Option (List Char) := none
deriving DecidableEq, Repr

/-- Returns true if the job is done. -/
def Gridway.done? (gridway : Gridway) : Bool :=
  match gridway.state with
  | some state => state = "done".toList
  | none => false

/-- A command that the runner gives. -/
inductive Event (J : Type) where
  | wait (ids : List (Option (List Char)))
  | ps (job : J) (ps_out : Option (List Char))
  | script (phase : Phase) (job : J) (command : List Char) (ok : Bool)
  | submit (job : J) (template : List Char) (submit_out : Option (List Char))
  | kill (job : J)
deriving DecidableEq, Repr

/-- The lists of the runner. -/
structure State (J : Type) where
  gridway : J → Gridway := fun _ => {}
  to_do : List J
  running : List J := []
  done : List J := []
  events : List (Event J) := []

/-- The answers to the commands. An answer is missing when the exit code is not zero. A submitted job
ends: in the end it is seen as done or as failed, and never as the other. -/
structure World (J : Type) where
  ps : Nat → J → Option (List Char)
  script : Phase → J → Bool
  submit : J → Option (List Char)
  succeeds : J → Bool
  seen_done : ∀ k j out, ps k j = some out → stateOf out = some "done".toList → succeeds j = true
  seen_fail : ∀ k j out, ps k j = some out → stateOf out = some "fail".toList → succeeds j = false
  ends : ∀ j k, ∃ k' ≥ k, ∃ out, ps k' j = some out ∧
    stateOf out = some (if succeeds j then "done".toList else "fail".toList)

namespace State

variable {J : Type}

/-- Notes a command. -/
def tell (s : State J) (e : Event J) : State J := { s with events := s.events ++ [e] }

/-- True if there are no more jobs to do. -/
def finished? (s : State J) : Bool := if s.to_do.length + s.running.length > 0 then false else true

end State

namespace Dag

variable {J : Type} [DecidableEq J] (d : Dag J) (w : World J)

/-- Returns true if the job is already finished. -/
def done? (s : State J) (j : J) : Bool := if (d.node j).done then true else (s.gridway j).done?

/-- Returns true if the node did not run and all the parents are already done. -/
def runable? (s : State J) (j : J) : Bool :=
  if d.done? s j then false
  else ((d.parents j).find? fun parent => !d.done? s parent).isNone

/-- The runner before its first round. -/
def start : State J :=
  { to_do := d.jobs.filter fun j => !d.done? { to_do := [] } j }

/-- Actualizes information for the job. -/
def get_info (k : Nat) (s : State J) (j : J) : State J :=
  let s := s.tell (.ps j (w.ps k j))
  match w.ps k j with
  | none => s
  | some ps_out =>
    { s with
      gridway := Function.update s.gridway j { s.gridway j with state := stateOf ps_out } }

/-- Waits until some job finishes and then actualizes the information of all. -/
def check_jobs (k : Nat) (s : State J) : State J :=
  let s :=
    if s.running.length > 0 then s.tell (.wait (s.running.map fun j => (s.gridway j).job_id)) else s
  s.running.foldl (get_info w k) s

/-- Runs the script of a phase. A script that fails ends the runner. -/
def runScript (phase : Phase) (s : State J) (j : J) : Except (State J) (State J) :=
  match (d.node j).script phase with
  | none => .ok s
  | some script =>
    let s := s.tell (.script phase j ((d.node j).command script) (w.script phase j))
    if w.script phase j then .ok s else .error s

/-- Takes a finished job off the list. -/
def finalize (s : State J) (j : J) : State J :=
  State.tell { s with done := s.done ++ [j], running := s.running.filter (· ≠ j) } (.kill j)

/-- Runs the POST script. -/
def finish (s : State J) (j : J) : Except (State J) (State J) :=
  if (s.gridway j).state = some "failed".toList then .error s
  else do
    let s ← d.runScript w .post s j
    return finalize s j

/-- Moves a submitted job from one list to the other. -/
def launch (s : State J) (j : J) (id : List Char) : State J :=
  { s with
    gridway := Function.update s.gridway j { s.gridway j with job_id := some id }
    running := s.running ++ [j]
    to_do := s.to_do.filter (· ≠ j) }

/-- Submits a job. An answer without a job id raises. -/
def submit (s : State J) (j : J) : Except (State J) (State J) :=
  let s := s.tell (.submit j (d.node j).template (w.submit j))
  match (w.submit j).bind jobIdOf with
  | none => .error s
  | some id => .ok (launch s j id)

/-- Submits the specified job and its PRE script. -/
def run (s : State J) (j : J) : Except (State J) (State J) := do
  let s ← d.runScript w .pre s j
  d.submit w s j

/-- Checks for finished jobs and submits the ones that have every requirement satisfied. -/
def iterate (k : Nat) (s : State J) : Except (State J) (State J) := do
  let s := check_jobs w k s
  let s ← (s.running.filter (d.done? s)).foldlM (d.finish w) s
  (s.to_do.filter (d.runable? s)).foldlM (d.run w) s

/-- The main loop after some rounds. -/
def after : Nat → Except (State J) (State J)
  | 0 => .ok d.start
  | k + 1 => do
    let s ← after k
    if s.finished? then return s else d.iterate w k s

end Dag

end GridWay.Dagman
