import GridWay.Em.Rsl2
import GridWay.Lib.Scan
import Mathlib.Logic.Function.Basic

/-!
# The template of a job

`gw_template.h` and the functions of `gw_template_parser.l` that set values. The strings have buffers of
`GW_JT_STR` characters, and the lists of files and of variables `GW_JT_FILES` entries. A string that fills
its buffer is not terminated. The bounds are a parameter, so that the values can be compared with what they
would be without them.

* `Template.init`: what a template has before it is parsed.
* `set_value_str`, `set_value_int`: a value of a statement.
-/

namespace GridWay.Jt

open Rsl2 (atoi32 sameIgnoringCase)

/-- A text. -/
abbrev Text := List Char

/-- `gw_template_var_t`. -/
inductive Var where
  | CPULOAD_THRESHOLD | EXECUTABLE | ARGUMENTS | ENVIRONMENT | INPUT_FILES | NUMBER_OF_RETRIES | OUTPUT_FILES
  | PRE_WRAPPER | PRE_WRAPPER_ARGUMENTS | RANK | REQUIREMENTS | RESCHEDULE_ON_FAILURE
  | RESCHEDULING_INTERVAL | RESCHEDULING_THRESHOLD | RESTART_FILES | STDERR_FILE | STDIN_FILE | STDOUT_FILE
  | SUSPENSION_TIMEOUT | WRAPPER | MONITOR | CHECKPOINT_INTERVAL | CHECKPOINT_URL | JOB_DEPENDENCIES | TYPE
  | NP | DEADLINE | NAME
deriving DecidableEq, Repr

/-- The sizes of the arrays of a template; `none` for no bound. -/
structure Limits where
  str : Option ℕ
  files : Option ℕ
  deps : Option ℕ

/-- `GW_JT_STR`, `GW_JT_FILES` and `GW_JT_DEPS`. -/
def limits : Limits := ⟨some 256, some 20, some 50⟩

/-- No bounds. -/
def unlimited : Limits := ⟨none, none, none⟩

/-- The index is within the bound. -/
def inside (i : ℕ) : Option ℕ → Prop
  | none => True
  | some n => i < n

instance (i : ℕ) : ∀ bound, Decidable (inside i bound)
  | none => inferInstanceAs (Decidable True)
  | some n => inferInstanceAs (Decidable (i < n))

/-- The first characters of a text. -/
def cut (cs : Text) : Option ℕ → Text
  | none => cs
  | some n => cs.take n

/-- `strncpy` of a text into a buffer. A text as long as the buffer leaves it without an end. -/
def strncpy (lim : Limits) (val : Text) : Text := cut (Scan.cstr val) lim.str

/-- `snprintf` into a buffer. -/
def snprintf (lim : Limits) (val : Text) : Text := cut val (lim.str.map (· - 1))

/-- An integer of 32 bits. -/
def int (z : ℤ) : ℤ := Int.bmod z (2 ^ 32)

/-- `gw_template_t`. The lists are functions of the index. -/
structure Template where
  name : Text := []
  executable : Text := []
  arguments : Text := []
  pre_wrapper : Text := []
  pre_wrapper_arguments : Text := []
  num_input_files : ℕ := 0
  input_files : ℕ → Text × Text := fun _ => ([], [])
  num_output_files : ℕ := 0
  output_files : ℕ → Text × Text := fun _ => ([], [])
  num_restart_files : ℕ := 0
  restart_files : ℕ → Text := fun _ => []
  num_env : ℕ := 0
  environment : ℕ → Text × Text := fun _ => ([], [])
  stdin_file : Text := []
  stdout_file : Text := []
  stderr_file : Text := []
  requirements : Text := []
  rank : Text := []
  rescheduling_interval : ℤ := 0
  rescheduling_threshold : ℤ := 300
  checkpoint_interval : ℤ := 300
  checkpoint_url : Text := []
  suspension_timeout : ℤ := 300
  cpuload_threshold : ℤ := 70
  reschedule_on_failure : ℤ := 1
  number_of_retries : ℤ := 3
  wrapper : Text := []
  monitor : Text := []
  job_deps : List ℤ := [-1]
  type : Rsl2.JobType := .single
  np : ℤ := 1
  deadline : ℤ := 0

/-- What `gw_template_init` sets before it calls the parser, for a file with this name. -/
def Template.init (GW_LOCATION file : Text) : Template where
  name := (Scan.cstr file).take 256
  wrapper := (GW_LOCATION ++ "/libexec/gw_wrapper.sh".toList).take 511

/-- A name with a directory, unless it is an absolute one. -/
def located (lim : Limits) (GW_LOCATION val : Text) : Text :=
  if (Scan.cstr val).head? ≠ some '/' then snprintf lim (GW_LOCATION ++ '/' :: Scan.cstr val)
  else strncpy lim val

/-- The words that `strtok` finds between blanks. -/
def strtok (cs : Text) : List Text := (cs.splitOnP (· == ' ')).filter (· ≠ [])

/-- The first of the words. -/
def firstWords (ws : List Text) : Option ℕ → List Text
  | none => ws
  | some n => ws.take (n - 1)

/-- The dependencies of a job, with their end. -/
def dependencies (lim : Limits) (val : Text) : List ℤ :=
  (firstWords (strtok (Scan.cstr val)) lim.deps).map atoi32 ++ [-1]

/-- `gw_template_set_value_str`. -/
def set_value_str (lim : Limits) (GW_LOCATION : Text) (jt : Template) (var : Var) (val : Text) : Template :=
  match var with
  | .EXECUTABLE => { jt with executable := strncpy lim val }
  | .ARGUMENTS => { jt with arguments := strncpy lim val }
  | .PRE_WRAPPER => { jt with pre_wrapper := strncpy lim val }
  | .PRE_WRAPPER_ARGUMENTS => { jt with pre_wrapper_arguments := strncpy lim val }
  | .RANK => { jt with rank := strncpy lim val }
  | .REQUIREMENTS => { jt with requirements := strncpy lim val }
  | .STDERR_FILE => { jt with stderr_file := strncpy lim val }
  | .STDIN_FILE => { jt with stdin_file := strncpy lim val }
  | .STDOUT_FILE => { jt with stdout_file := strncpy lim val }
  | .CHECKPOINT_URL => { jt with checkpoint_url := strncpy lim val }
  | .WRAPPER => { jt with wrapper := located lim GW_LOCATION val }
  | .MONITOR => { jt with monitor := located lim GW_LOCATION val }
  | .JOB_DEPENDENCIES => { jt with job_deps := dependencies lim val }
  | .TYPE =>
    if sameIgnoringCase (Scan.cstr val) "mpi" then { jt with type := .mpi }
    else if sameIgnoringCase (Scan.cstr val) "multiple" then { jt with type := .multiple }
    else if sameIgnoringCase (Scan.cstr val) "single" then { jt with type := .single }
    else jt
  | .NAME => { jt with name := strncpy lim val }
  | _ => jt

/-- `gw_template_set_value_int`. -/
def set_value_int (jt : Template) (var : Var) (val : ℤ) : Template :=
  match var with
  | .CPULOAD_THRESHOLD => { jt with cpuload_threshold := val }
  | .NUMBER_OF_RETRIES => { jt with number_of_retries := val }
  | .RESCHEDULE_ON_FAILURE => { jt with reschedule_on_failure := val }
  | .RESCHEDULING_INTERVAL => { jt with rescheduling_interval := val }
  | .RESCHEDULING_THRESHOLD => { jt with rescheduling_threshold := val }
  | .CHECKPOINT_INTERVAL => { jt with checkpoint_interval := val }
  | .SUSPENSION_TIMEOUT => { jt with suspension_timeout := val }
  | .NP => { jt with np := val }
  | _ => jt

end GridWay.Jt
