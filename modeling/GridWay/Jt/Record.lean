import GridWay.Im.Layout
import GridWay.Jt.Order

/-!
# The template of a job on disk

`gw_job_template.c`: the core copies the template of a submitted job, and writes the copy to
`job.template`, which a restarted core reads with the parser of templates.

* `JobTemplate.init`: the copy.
* `JobTemplate.to_file`: what is written.
* `JobTemplate.record`: the statements of what is written.
* `JobTemplate.Writable`: when a copy can be read back.
* `script_of`: what is written is a template.
-/

namespace GridWay.Jt

open Rsl2 (JobType atoi32 jobtypeString number)

/-- `gw_job_template_t`, without the names of its file and its directories. The end of the
dependencies is left out. -/
@[ext] structure JobTemplate where
  name : Option Text
  executable : Option Text
  arguments : Option Text
  pre_wrapper : Option Text
  pre_wrapper_arguments : Option Text
  input_files : List (Option Text × Option Text)
  output_files : List (Option Text × Option Text)
  restart_files : List (Option Text)
  environment : List (Option Text × Option Text)
  stdin_file : Option Text
  stdout_file : Option Text
  stderr_file : Option Text
  requirements : Option Text
  rank : Option Text
  rescheduling_interval : ℤ
  rescheduling_threshold : ℤ
  checkpoint_interval : ℤ
  checkpoint_url : Option Text
  suspension_timeout : ℤ
  cpuload_threshold : ℤ
  reschedule_on_failure : ℤ
  number_of_retries : ℤ
  wrapper : Option Text
  monitor : Option Text
  job_deps : Option (List ℤ)
  type : JobType
  np : ℤ
  deadline : ℤ

/-- `gw_job_template_set_str`. -/
def set_str (src : Text) : Option Text := if src = [] then none else some src

/-- `gw_job_pool_dep_cp`. -/
def dep_cp (src : List ℤ) : Option (List ℤ) :=
  match src.takeWhile (· > -1) with
  | [] => none
  | deps => some deps

/-- The entries of a list of pairs. -/
def copyPairs (num : ℕ) (pairs : ℕ → Text × Text) : List (Option Text × Option Text) :=
  (List.range num).map fun i => (set_str (pairs i).1, set_str (pairs i).2)

namespace JobTemplate

/-- `gw_job_template_init`. -/
def init (ct : Template) : JobTemplate where
  name := set_str ct.name
  executable := set_str ct.executable
  arguments := set_str ct.arguments
  pre_wrapper := set_str ct.pre_wrapper
  pre_wrapper_arguments := set_str ct.pre_wrapper_arguments
  input_files := copyPairs ct.num_input_files ct.input_files
  output_files := copyPairs ct.num_output_files ct.output_files
  restart_files := (List.range ct.num_restart_files).map fun i => set_str (ct.restart_files i)
  environment := copyPairs ct.num_env ct.environment
  stdin_file := set_str ct.stdin_file
  stdout_file := set_str ct.stdout_file
  stderr_file := set_str ct.stderr_file
  requirements := set_str ct.requirements
  rank := set_str ct.rank
  rescheduling_interval := ct.rescheduling_interval
  rescheduling_threshold := ct.rescheduling_threshold
  checkpoint_interval := ct.checkpoint_interval
  checkpoint_url := set_str ct.checkpoint_url
  suspension_timeout := ct.suspension_timeout
  cpuload_threshold := ct.cpuload_threshold
  reschedule_on_failure := ct.reschedule_on_failure
  number_of_retries := ct.number_of_retries
  wrapper := set_str ct.wrapper
  monitor := set_str ct.monitor
  job_deps := dep_cp ct.job_deps
  type := ct.type
  np := ct.np
  deadline := ct.deadline

/-- `GWNSTR`. -/
def GWNSTR (str : Option Text) : Text := str.getD []

/-- The text of a variable. -/
def text (t : JobTemplate) : Var → Option Text
  | .NAME => t.name
  | .EXECUTABLE => t.executable
  | .ARGUMENTS => t.arguments
  | .STDIN_FILE => t.stdin_file
  | .STDOUT_FILE => t.stdout_file
  | .STDERR_FILE => t.stderr_file
  | .REQUIREMENTS => t.requirements
  | .RANK => t.rank
  | .CHECKPOINT_URL => t.checkpoint_url
  | .WRAPPER => t.wrapper
  | .MONITOR => t.monitor
  | .PRE_WRAPPER => t.pre_wrapper
  | .PRE_WRAPPER_ARGUMENTS => t.pre_wrapper_arguments
  | _ => none

/-- The number of a variable. -/
def num (t : JobTemplate) : Var → ℤ
  | .RESCHEDULING_INTERVAL => t.rescheduling_interval
  | .RESCHEDULING_THRESHOLD => t.rescheduling_threshold
  | .SUSPENSION_TIMEOUT => t.suspension_timeout
  | .CPULOAD_THRESHOLD => t.cpuload_threshold
  | .NUMBER_OF_RETRIES => t.number_of_retries
  | .CHECKPOINT_INTERVAL => t.checkpoint_interval
  | .NP => t.np
  | _ => 0

/-- A line with a variable. -/
def line (v : Var) (val : Text) : Text := v.keyword.toList ++ '=' :: (val ++ ['\n'])

/-- A list of entries after its variable, if it has any. -/
def list {A : Type} (v : Var) (entry : A → Text) : List A → Text
  | [] => []
  | a :: more => line v (entry a ++ more.flatMap fun b => ',' :: ' ' :: entry b)

/-- The names of a file. -/
def file (names : Option Text × Option Text) : Text := GWNSTR names.1 ++ ' ' :: GWNSTR names.2

/-- A variable of the environment. -/
def env (pair : Option Text × Option Text) : Text :=
  GWNSTR pair.1 ++ '=' :: '"' :: (GWNSTR pair.2 ++ ['"'])

/-- `%02ld`. -/
def two (n : ℤ) : Text := if (number n).length < 2 then '0' :: number n else number n

/-- `gw_template_deadline_string`. -/
def deadline_string (deadline : ℤ) : Text :=
  number (((deadline.tdiv 60).tdiv 60).tdiv 24) ++
    ':' :: (two (((deadline.tdiv 60).tdiv 60).tmod 24) ++
      ':' :: two ((deadline.tdiv 60).tmod 60))

/-- What is written for a variable. -/
def written (t : JobTemplate) : Var → Text
  | .INPUT_FILES => list .INPUT_FILES file t.input_files
  | .OUTPUT_FILES => list .OUTPUT_FILES file t.output_files
  | .RESTART_FILES => list .RESTART_FILES GWNSTR t.restart_files
  | .ENVIRONMENT => list .ENVIRONMENT env t.environment
  | .RESCHEDULE_ON_FAILURE =>
    line .RESCHEDULE_ON_FAILURE (if t.reschedule_on_failure ≠ 0 then "yes".toList else "no".toList)
  | .JOB_DEPENDENCIES =>
    (t.job_deps.map fun deps =>
      line .JOB_DEPENDENCIES (deps.flatMap fun dep => number dep ++ [' '])).getD []
  | .TYPE => line .TYPE (jobtypeString t.type).toList
  | .DEADLINE => line .DEADLINE (deadline_string t.deadline)
  | v => if v.kind = .int then line v (number (t.num v)) else line v (GWNSTR (t.text v))

/-- The variables in the order of `gw_job_template_to_file`. -/
def order : List Var :=
  [.NAME, .EXECUTABLE, .ARGUMENTS, .INPUT_FILES, .OUTPUT_FILES, .RESTART_FILES, .ENVIRONMENT,
    .STDIN_FILE, .STDOUT_FILE, .STDERR_FILE, .REQUIREMENTS, .RANK, .RESCHEDULING_INTERVAL,
    .RESCHEDULING_THRESHOLD, .SUSPENSION_TIMEOUT, .CPULOAD_THRESHOLD, .RESCHEDULE_ON_FAILURE,
    .NUMBER_OF_RETRIES, .CHECKPOINT_INTERVAL, .CHECKPOINT_URL, .WRAPPER, .MONITOR, .PRE_WRAPPER,
    .PRE_WRAPPER_ARGUMENTS, .JOB_DEPENDENCIES, .TYPE, .NP, .DEADLINE]

/-- A value, or none. -/
def value (v : Var) (val : Option Text) : Statement := val.elim (.unset v) (.str v)

/-- The names of a file of a statement. -/
def names (pair : Option Text × Option Text) : Text × Option Text := (GWNSTR pair.1, pair.2)

/-- The files of a list, if there are any. -/
def files (find : Find) (fs : List (Text × Option Text)) : List Statement :=
  if fs = [] then [] else [.files find fs]

/-- The environment, if there is any. -/
def vars (pairs : List (Text × Text)) : List Statement := if pairs = [] then [] else [.env pairs]

/-- The statement that is written for a variable, if there is one. -/
def record (t : JobTemplate) : Var → List Statement
  | .INPUT_FILES => files .input (t.input_files.map names)
  | .OUTPUT_FILES => files .output (t.output_files.map names)
  | .RESTART_FILES => files .restart (t.restart_files.map fun name => (GWNSTR name, none))
  | .ENVIRONMENT => vars (t.environment.map fun pair => (GWNSTR pair.1, GWNSTR pair.2))
  | .RESCHEDULE_ON_FAILURE => [.yn .RESCHEDULE_ON_FAILURE (t.reschedule_on_failure ≠ 0)]
  | .JOB_DEPENDENCIES =>
    (t.job_deps.map fun deps =>
      [.str .JOB_DEPENDENCIES (deps.flatMap fun dep => number dep ++ [' '])]).getD []
  | .TYPE => [.str .TYPE (jobtypeString t.type).toList]
  | .DEADLINE =>
    [.deadline (((t.deadline.tdiv 60).tdiv 60).tdiv 24) (((t.deadline.tdiv 60).tdiv 60).tmod 24)
      ((t.deadline.tdiv 60).tmod 60)]
  | v => if v.kind = .int then [.int v (t.num v)] else [value v (t.text v)]

end JobTemplate

/-- A text fits into a buffer. -/
structure Short (val : Text) : Prop where
  length : val.length < 256
  whole : ∀ c ∈ val, c.toNat ≠ 0

/-- The names of a pair can be written. -/
structure Named (pair : Option Text × Option Text) : Prop where
  first : ∃ a ∈ pair.1, IsName a ∧ Short a
  second : ∀ b ∈ pair.2, IsName b ∧ Short b

/-- A variable of the environment can be written. An empty value is none. -/
structure Assigned (pair : Option Text × Option Text) : Prop where
  first : ∃ a ∈ pair.1, IsVar a ∧ Short a
  second : ∀ b ∈ pair.2, b ≠ [] ∧ Quotable b ∧ Short b

/-- The copy can be read back over what a template has from its defaults: where the copy says
nothing, the defaults say nothing, and its texts are not taken for something else. -/
structure JobTemplate.Writable (t : JobTemplate) (d : Template) : Prop where
  absent : ∀ v, t.text v = none → (JobTemplate.init d).text v = none
  texts : ∀ v, ∀ val ∈ t.text v, Plain val ∧ Short val
  paths : ∀ v ∈ [Var.WRAPPER, .MONITOR], ∀ val ∈ t.text v, val.head? = some '/'
  nums : ∀ v, 0 ≤ t.num v ∧ t.num v < 2 ^ 31
  on_failure : t.reschedule_on_failure = 0 ∨ t.reschedule_on_failure = 1
  noFiles : d.num_input_files = 0 ∧ d.num_output_files = 0 ∧ d.num_restart_files = 0
  noVars : t.environment = [] → d.num_env = 0
  input : t.input_files.length < 20 ∧ ∀ pair ∈ t.input_files, Named pair
  output : t.output_files.length < 20 ∧ ∀ pair ∈ t.output_files, Named pair
  restart : t.restart_files.length < 20 ∧ ∀ name ∈ t.restart_files, Named (name, none)
  env : t.environment.length ≤ 20 ∧ ∀ pair ∈ t.environment, Assigned pair
  deps : ∀ deps ∈ t.job_deps, deps ≠ [] ∧ deps.length < 50 ∧ ∀ dep ∈ deps, 0 ≤ dep ∧ dep < 2 ^ 31
  noDeps : t.job_deps = none → dep_cp d.job_deps = none
  type : t.type ≠ .other
  deadline : 0 ≤ t.deadline ∧ t.deadline < 2 ^ 31 ∧ t.deadline % 60 = 0

section Numbers

variable {n : ℤ}

lemma digits_number (low : 0 ≤ n) : Digits (number n) := by
  obtain ⟨m, rfl⟩ := Int.eq_ofNat_of_zero_le low
  rw [Rsl2.number_natCast]
  exact ⟨Nat.toDigits_ne_nil, fun c mem => numeral_digit mem⟩

lemma atoi_number (low : 0 ≤ n) (high : n < 2 ^ 31) : atoi32 (number n) = n := by
  obtain ⟨sign, ds, -, -, -, -, value⟩ := Im.number_digits (Int.le_trans (by decide) low) high
  exact value

/-- A number with a zero in front of it is the same number. -/
lemma atoi_zero (low : 0 ≤ n) (high : n < 2 ^ 31) : atoi32 ('0' :: number n) = n := by
  obtain ⟨m, rfl⟩ := Int.eq_ofNat_of_zero_le low
  have all : ∀ c ∈ Nat.toDigits 10 m, c.isDigit = true := fun c mem => numeral_digit mem
  have value := digits_eq all 0
  rw [Nat.ofDigitChars_toDigits (by decide) (by decide)] at value
  have read : Rsl2.strtol ('0' :: number m) = m := by
    rw [Rsl2.number_natCast]
    exact value
  rw [atoi32, read, Int.bmod_eq_emod]
  split <;> omega

lemma digits_two (low : 0 ≤ n) : Digits (JobTemplate.two n) := by
  have digits := digits_number low
  rw [JobTemplate.two]
  split
  · exact ⟨List.cons_ne_nil _ _, List.forall_mem_cons.2 ⟨rfl, digits.all⟩⟩
  · exact digits

lemma atoi_two (low : 0 ≤ n) (high : n < 2 ^ 31) : atoi32 (JobTemplate.two n) = n := by
  rw [JobTemplate.two]
  split
  · exact atoi_zero low high
  · exact atoi_number low high

end Numbers

section Written

variable {x : Text} {v : Var} {o : Option Text} {t : JobTemplate}

/-- The statements of a text: one, or none if the text is empty. -/
inductive Writes (v : Var) : List Statement → Text → Prop
  | none : Writes v [] []
  | one {s : Statement} {x : Text} (spelled : s.Spelled x) (var : s.var = v) : Writes v [s] x

/-- What is written comes in front of a template. -/
lemma Writes.script {ss ss' : List Statement} {y : Text} (here : Writes v ss x)
    (script : Script ss' y) : Script (ss ++ ss') (x ++ y) := by
  cases here with
  | none => exact script
  | one spelled => exact .line spelled script

/-- A line is written for a statement with its variable. -/
lemma writes_line {s : Statement} (var : s.var = v) (right : s.Right v.kind (x ++ ['\n'])) :
    Writes v [s] (JobTemplate.line v x) := by
  subst var
  have spelled := Statement.Spelled.assign no_blanks no_blanks right
  exact .one spelled rfl

lemma writes_value (kind : v.kind = .str) (plain : ∀ val ∈ o, Plain val) :
    Writes v [JobTemplate.value v o] (JobTemplate.line v (JobTemplate.GWNSTR o)) := by
  cases o with
  | none =>
    refine writes_line rfl ?_
    rw [kind]
    exact .unset newline_ends (apart_cons rfl)
  | some val =>
    refine writes_line rfl ?_
    rw [kind]
    exact .line (plain val rfl)

lemma writes_int {n : ℤ} (kind : v.kind = .int) (low : 0 ≤ n) (high : n < 2 ^ 31) :
    Writes v [.int v n] (JobTemplate.line v (number n)) := by
  have right : Statement.Right (.int v (atoi32 (number n))) .int (number n ++ ['\n']) :=
    .int (digits_number low) newline_ends
  rw [atoi_number low high, ← kind] at right
  exact writes_line rfl right

lemma writes_yn {n : ℤ} (kind : v.kind = .yn) : Writes v [.yn v (n ≠ 0)]
    (JobTemplate.line v (if n ≠ 0 then "yes".toList else "no".toList)) := by
  refine writes_line rfl ?_
  rw [kind]
  split_ifs with here
  · rw [decide_eq_true here]
    exact .yes (.inl rfl) newline_ends
  · rw [decide_eq_false here]
    exact .no (.inl rfl) newline_ends

lemma writes_deadline {n : ℤ} (low : 0 ≤ n) (high : n < 2 ^ 31) : Writes .DEADLINE
    [.deadline (((n.tdiv 60).tdiv 60).tdiv 24) (((n.tdiv 60).tdiv 60).tmod 24)
      ((n.tdiv 60).tmod 60)]
    (JobTemplate.line .DEADLINE (JobTemplate.deadline_string n)) := by
  have minutes : 0 ≤ n / 60 := by omega
  have hours : 0 ≤ n / 60 / 60 := by omega
  refine writes_line rfl ?_
  rw [JobTemplate.deadline_string, Int.tdiv_eq_ediv_of_nonneg low,
    Int.tdiv_eq_ediv_of_nonneg minutes, Int.tdiv_eq_ediv_of_nonneg hours,
    Int.tmod_eq_emod_of_nonneg hours, Int.tmod_eq_emod_of_nonneg minutes]
  have days : 0 ≤ n / 60 / 60 / 24 ∧ n / 60 / 60 / 24 < 2 ^ 31 := by omega
  have hours : 0 ≤ n / 60 / 60 % 24 ∧ n / 60 / 60 % 24 < 2 ^ 31 := by omega
  have minutes : 0 ≤ n / 60 % 60 ∧ n / 60 % 60 < 2 ^ 31 := by omega
  have right := Statement.Right.days (digits_number days.1) (digits_two hours.1)
    (digits_two minutes.1) newline_ends
  rw [atoi_number days.1 days.2, atoi_two hours.1 hours.2, atoi_two minutes.1 minutes.2] at right
  rw [List.append_assoc, List.cons_append, List.append_assoc, List.cons_append]
  exact right

lemma writes_type (type : JobType) : Writes .TYPE [.str .TYPE (jobtypeString type).toList]
    (JobTemplate.line .TYPE (jobtypeString type).toList) := by
  have plain : Plain (jobtypeString type).toList := by
    cases type with
    | single => exact ⟨⟨'s', _, rfl, rfl, by decide, by decide⟩, by decide⟩
    | multiple => exact ⟨⟨'m', _, rfl, rfl, by decide, by decide⟩, by decide⟩
    | mpi => exact ⟨⟨'m', _, rfl, rfl, by decide, by decide⟩, by decide⟩
    | other => exact ⟨⟨'u', _, rfl, rfl, by decide, by decide⟩, by decide⟩
  exact writes_line rfl (.line plain)

lemma writes_deps {deps : List ℤ} (some_dep : deps ≠ [])
    (low : ∀ dep ∈ deps, 0 ≤ dep) : Writes .JOB_DEPENDENCIES
    [.str .JOB_DEPENDENCIES (deps.flatMap fun dep => number dep ++ [' '])]
    (JobTemplate.line .JOB_DEPENDENCIES (deps.flatMap fun dep => number dep ++ [' '])) := by
  have plain : Plain (deps.flatMap fun dep => number dep ++ [' ']) := by
    constructor
    · cases deps with
      | nil => exact absurd rfl some_dep
      | cons dep deps =>
        have digits := digits_number (low dep List.mem_cons_self)
        cases eq : number dep with
        | nil => exact absurd eq digits.some_digit
        | cons c cs =>
          have digit := digits.all c (by rw [eq]; exact List.mem_cons_self)
          obtain ⟨blank, comment, -, -⟩ := digit_plain digit
          refine ⟨c, _, by rw [List.flatMap_cons, eq]; rfl, blank, comment, ?_⟩
          rintro rfl
          cases digit
    · rw [List.mem_flatMap]
      rintro ⟨dep, mem, newline⟩
      obtain newline | newline := List.mem_append.1 newline
      · have digit := (digits_number (low dep mem)).all _ newline
        cases digit
      · exact absurd newline (by decide)
  exact writes_line rfl (.line plain)

/-- What an entry of a list of files looks like: the names and perhaps a space. -/
def Entry (names : Text × Option Text) (x : Text) : Prop :=
  ∃ y b, x = y ++ b ∧ FileNames names y ∧ (b = [] ∨ b = [' '])

/-- Entries with commas between them are a list of files. -/
lemma entries_list {A : Type} {f : A → Text × Option Text} {entry : A → Text} {a : A}
    {more : List A} (each : ∀ b ∈ a :: more, Entry (f b) (entry b)) :
    ∃ y e, entry a ++ (more.flatMap fun b => ',' :: ' ' :: entry b) ++ ['\n'] = y ++ e ∧
      FileList ((a :: more).map f) y ∧ LineEnd e ∧ Apart isNameChar e := by
  -- The blank behind a single name belongs to the separator, or to the end of the line.
  induction more generalizing a with
  | nil =>
    obtain ⟨y, b, eq, names, blank⟩ := each a List.mem_cons_self
    refine ⟨y, b ++ ['\n'], by simp [eq], .last names, .plain ?_, ?_⟩
    · obtain rfl | rfl := blank
      · exact no_blanks
      · exact List.forall_mem_singleton.2 rfl
    · obtain rfl | rfl := blank <;> exact apart_cons rfl
  | cons b more ih =>
    obtain ⟨y, gap, eq, names, blank⟩ := each a List.mem_cons_self
    obtain ⟨z, e, eq', list, ends, apart⟩ := ih fun c mem => each c (List.mem_cons_of_mem _ mem)
    have separator : Separator ',' (gap ++ [',', ' ']) := by
      have space : Blanks [' '] := List.forall_mem_singleton.2 rfl
      obtain rfl | rfl := blank
      · exact .near space
      · exact .apart no_blanks space
    refine ⟨y ++ (gap ++ [',', ' '] ++ z), e, ?_, .more names separator list, ends, apart⟩
    have eq'' : entry b ++ ((more.flatMap fun b => ',' :: ' ' :: entry b) ++ ['\n']) = z ++ e := by
      rw [← List.append_assoc]
      exact eq'
    simp [eq, eq'']

lemma entry_file {pair : Option Text × Option Text} (named : Named pair) :
    Entry (JobTemplate.names pair) (JobTemplate.file pair) := by
  obtain ⟨first, second⟩ := pair
  obtain ⟨a, rfl, name, -⟩ := named.first
  cases second with
  | none => exact ⟨a, [' '], rfl, .one name, .inr rfl⟩
  | some b =>
    exact ⟨a ++ ' ' :: b, [], (List.append_nil _).symm, .two name no_blanks (named.second b rfl).1,
      .inl rfl⟩

lemma entry_restart {name : Option Text} (named : Named (name, none)) :
    Entry (JobTemplate.GWNSTR name, none) (JobTemplate.GWNSTR name) := by
  obtain ⟨a, rfl, name, -⟩ := named.first
  exact ⟨a, [], (List.append_nil _).symm, .one name, .inl rfl⟩

/-- A list of files is written for its statement. -/
lemma writes_files {A : Type} {f : A → Text × Option Text} {entry : A → Text} {as : List A}
    {find : Find} (var : (Statement.files find (as.map f)).var = v) (each : ∀ a ∈ as, Entry (f a) (entry a))
    (single : find = .restart → ∀ a ∈ as, (f a).2 = none) :
    Writes v (JobTemplate.files find (as.map f)) (JobTemplate.list v entry as) := by
  cases as with
  | nil => exact .none
  | cons a more =>
    obtain ⟨y, e, eq, list, ends, apart⟩ := entries_list each
    have kind : v.kind = .files := by
      rw [← var]
      cases find <;> rfl
    have single' (restart : find = .restart) : ∀ n ∈ (a :: more).map f, n.2 = none := by
      intro n mem
      obtain ⟨b, there, rfl⟩ := List.mem_map.1 mem
      exact single restart b there
    refine writes_line var ?_
    rw [kind, eq]
    exact .files list single' ends apart

/-- Variables with commas between them are an environment. -/
lemma env_list {a : Option Text × Option Text} {more : List (Option Text × Option Text)}
    (each : ∀ pair ∈ a :: more, Assigned pair) :
    EnvList ((a :: more).map fun pair => (JobTemplate.GWNSTR pair.1, JobTemplate.GWNSTR pair.2))
      (JobTemplate.env a ++ more.flatMap fun b => ',' :: ' ' :: JobTemplate.env b) := by
  have value {pair : Option Text × Option Text}
      (assigned : Assigned pair) : IsVar (JobTemplate.GWNSTR pair.1) ∧
      EnvValue (JobTemplate.GWNSTR pair.2) ('"' :: (JobTemplate.GWNSTR pair.2 ++ ['"'])) := by
    obtain ⟨first, second⟩ := pair
    obtain ⟨n, rfl, name, -⟩ := assigned.first
    refine ⟨name, .quoted ?_⟩
    cases second with
    | none => exact ⟨List.not_mem_nil, fun c mem => absurd mem List.not_mem_nil⟩
    | some val => exact (assigned.second val rfl).2.1
  induction more generalizing a with
  | nil =>
    obtain ⟨name, quoted⟩ := value (each a List.mem_cons_self)
    rw [List.flatMap_nil, List.append_nil]
    exact .last name (.near no_blanks) quoted
  | cons b more ih =>
    obtain ⟨name, quoted⟩ := value (each a List.mem_cons_self)
    have list := ih fun c mem => each c (List.mem_cons_of_mem _ mem)
    have space : Blanks [' '] := List.forall_mem_singleton.2 rfl
    have whole := EnvList.more name (.near no_blanks) quoted (.near space) list
    rw [List.flatMap_cons, JobTemplate.env]
    simpa using whole

lemma writes_env {pairs : List (Option Text × Option Text)} (each : ∀ pair ∈ pairs, Assigned pair) :
    Writes .ENVIRONMENT
      (JobTemplate.vars (pairs.map fun pair =>
        (JobTemplate.GWNSTR pair.1, JobTemplate.GWNSTR pair.2)))
      (JobTemplate.list .ENVIRONMENT JobTemplate.env pairs) := by
  cases pairs with
  | nil => exact .none
  | cons a more => exact writes_line rfl (.env (env_list each) newline_ends (apart_cons rfl))

/-- What is written for a variable is its statement. -/
lemma writes {d : Template} (w : t.Writable d) (v : Var) : Writes v (t.record v) (t.written v) := by
  have str (kind : v.kind = .str) : Writes v [JobTemplate.value v (t.text v)]
      (JobTemplate.line v (JobTemplate.GWNSTR (t.text v))) := writes_value kind fun val mem =>
    (w.texts v val mem).1
  have num (kind : v.kind = .int) : Writes v [.int v (t.num v)]
      (JobTemplate.line v (number (t.num v))) :=
    writes_int kind (w.nums v).1 (w.nums v).2
  cases v with
  | INPUT_FILES =>
    exact writes_files rfl (fun pair mem => entry_file (w.input.2 pair mem))
      (fun other => by cases other)
  | OUTPUT_FILES =>
    exact writes_files rfl (fun pair mem => entry_file (w.output.2 pair mem))
      (fun other => by cases other)
  | RESTART_FILES =>
    exact writes_files rfl (fun name mem => entry_restart (w.restart.2 name mem))
      (fun _ name mem => rfl)
  | ENVIRONMENT => exact writes_env w.env.2
  | RESCHEDULE_ON_FAILURE => exact writes_yn rfl
  | JOB_DEPENDENCIES =>
    show Writes _ ((t.job_deps.map _).getD []) ((t.job_deps.map _).getD [])
    cases deps : t.job_deps with
    | none => exact .none
    | some deps' =>
      obtain ⟨some_dep, -, each⟩ := w.deps deps' deps
      exact writes_deps some_dep fun dep mem => (each dep mem).1
  | TYPE => exact writes_type t.type
  | DEADLINE => exact writes_deadline w.deadline.1 w.deadline.2.1
  | RESCHEDULING_INTERVAL | RESCHEDULING_THRESHOLD | SUSPENSION_TIMEOUT | CPULOAD_THRESHOLD
  | NUMBER_OF_RETRIES | CHECKPOINT_INTERVAL | NP => exact num rfl
  | NAME | EXECUTABLE | ARGUMENTS | STDIN_FILE | STDOUT_FILE | STDERR_FILE | REQUIREMENTS | RANK
  | CHECKPOINT_URL | WRAPPER | MONITOR | PRE_WRAPPER | PRE_WRAPPER_ARGUMENTS => exact str rfl

/-- The variables of the statements, each at most once. -/
lemma record_once {d : Template} (w : t.Writable d) {vs : List Var} (once : vs.Nodup) :
    ((vs.flatMap t.record).map Statement.var).Nodup := by
  have sub (vs : List Var) : ((vs.flatMap t.record).map Statement.var).Sublist vs := by
    induction vs with
    | nil => exact .slnil
    | cons v vs ih =>
      rw [List.flatMap_cons]
      have here := writes w v
      generalize t.record v = ss, t.written v = x at here ⊢
      cases here with
      | none => exact ih.cons v
      | one spelled var =>
        rw [List.singleton_append, List.map_cons, var]
        exact ih.cons_cons v
  exact once.sublist (sub vs)

end Written

end GridWay.Jt
