import GridWay.Drm4g.Configure
import GridWay.Lib.Proc

/-!
# The jobs of the execution driver

`drm4g/managers`: the objects that submit a job to a batch system, ask for its state and cancel it.
What a job reads besides its own fields is the dictionary of its resource, which all jobs of the
resource share, and for CREAM a list of file names that belongs to the class.

* `Job.jobTemplate`, `Job.jobSubmit`, `Job.jobStatus`: the methods of the managers.
* `Job.Address`: what the methods take from a job to name it on its resource.
-/

namespace GridWay.Drm4g

/-- The dictionary that `Rsl2Parser.parser` returns. -/
structure Rsl where
  values : Features
  environment : Option Features
deriving DecidableEq, Repr

/-- A job object. -/
structure Job where
  manager : Manager
  name : String
  resfeatures : Ref
  communicator : Communicator
  jobId : String := "None"
  status : Option String := none
  local_output_directory : Option String := none
deriving DecidableEq, Repr

/-- What the driver does outside of itself: commands on a resource, local files, copies. -/
inductive Sent where
  | exec (communicator : Communicator) (command : String)
  | write (path text : String)
  | copy (communicator : Communicator) (source destination : String)
deriving DecidableEq, Repr

/-- The `default_output_files` of the CREAM jobs, as the class defines them. -/
def defaultOutputFiles : List String :=
  ["stdout.execution", "stderr.execution", "stdout.wrapper", "stderr.wrapper"]

/-- The execution driver. -/
structure Mad where
  configure : Configuration
  heap : Heap := []
  communicators : Dict String Communicator := []
  job_list : Dict String Job := []
  default_output_files : List String := defaultOutputFiles
  sent : List Sent := []
  out : List String := []
deriving DecidableEq, Repr

/-- What is outside of the driver during a request: the resources file, the files that describe the
job, and the answers to what the driver does. The scripts of the batch systems other than CREAM are
functions of their parameters alone. -/
structure Outside where
  file : File
  rsl : String → Except String Rsl
  read : String → Except String String
  reply : List Sent → Except String (String × String)
  script : Manager → Rsl → Except String String
  /-- The `%` operator with the directory as its only key. -/
  percent : String → String → Except String String
  /-- The `EState` of the first job in the answer of `checkjob`. -/
  estate : String → Except String String

/-- A computation of the driver; what it changed stays changed when it raises. -/
abbrev M := Proc Mad

/-- Something is done outside, and answered. -/
def perform (o : Outside) (what : Sent) : M (String × String) := do
  modify fun s => { s with sent := s.sent ++ [what] }
  match o.reply (← get).sent with
  | .ok answer => return answer
  | .error err => throw err

/-- A value of a Python expression that may raise. -/
def raising {α : Type} (x : Except String α) : M α :=
  match x with
  | .ok v => return v
  | .error err => throw err

/-- An error is raised unless a condition holds. -/
def demand (holds : Bool) (err : String) : M Unit := if holds then pure () else throw err

namespace Job

/-- `self.Communicator.execCommand(command)`. -/
def execCommand (o : Outside) (job : Job) (command : String) : M (String × String) :=
  perform o (.exec job.communicator command)

/-- `self.resfeatures[key]`. -/
def feature (job : Job) (key : String) : M String := do
  raising (Configuration.item ((← get).heap.deref job.resfeatures) key)

/-- A program of the CREAM client with the proxy of a VO. -/
def tool (here : Local) (vo program : String) : String :=
  "X509_USER_PROXY=" ++ Py.join here.remote_vos_dir ("x509up." ++ vo ++ " ") ++ program

/-- One attempt of `_renew_voms_proxy`; its result is the error text. -/
def renewOnce (here : Local) (o : Outside) (job : Job) : M String := do
  let vo ← job.feature "vo"
  let d := (← get).heap.deref job.resfeatures
  let proxy :=
    match d.get "myproxy_server" with
    | some server => "X509_USER_PROXY=" ++ Py.join here.remote_vos_dir server
    | none => "X509_USER_PROXY=" ++ here.remote_vos_dir ++ "/$\x7bMYPROXY_SERVER\x7d"
  let (_, err) ← job.execCommand o (proxy ++
    " voms-proxy-init -ignorewarn -timeout 30 -valid 24:00 -q -voms " ++ vo ++ " -noregen -out " ++
    Py.join here.remote_vos_dir ("x509up." ++ vo ++ " "))
  return err

/-- `_renew_voms_proxy`, which tries again up to `more` times. -/
def renew_voms_proxy (here : Local) (o : Outside) (job : Job) : Nat → M Unit
  | 0 => do
    let _ ← renewOnce here o job
    return
  | more + 1 => do
    let err ← renewOnce here o job
    if err ≠ "" then renew_voms_proxy here o job more

/-- A command that is repeated after the proxy was renewed when its answer says so. -/
def execRenewing (here : Local) (o : Outside) (job : Job) (command : String)
    (expired : String × String → Bool) : M (String × String) := do
  let answer ← job.execCommand o command
  if expired answer then
    renew_voms_proxy here o job 3
    job.execCommand o command
  else return answer

/-- The answers after which a submission renews the proxy. -/
def expiredOrLost (answer : String × String) : Bool :=
  Py.isIn "The proxy has EXPIRED" answer.1 || Py.isIn "is not accessible" answer.2

/-- The answers after which a query renews the proxy. -/
def expired (answer : String × String) : Bool := Py.isIn "The proxy has EXPIRED" answer.1

/-- `jobSubmit` of CREAM. -/
def creamSubmit (here : Local) (o : Outside) (job : Job) (wrapper_file : String) : M String := do
  let delegate := tool here (← job.feature "vo") "glite-ce-delegate-proxy" ++ " -e " ++
    (← job.feature "host") ++ " delegete-proxy"
  let (out, _) ← execRenewing here o job delegate expiredOrLost
  demand (Py.isIn "succesfully delegated" out || Py.isIn "already exists" out) out
  let submit := tool here (← job.feature "vo") "glite-ce-job-submit" ++ " -D delegete-proxy -r " ++
    (← job.feature "host") ++ ":8443/" ++ (← job.feature "jm") ++ "-" ++
    (← job.feature "queue") ++ " " ++ wrapper_file
  let (out, err) ← execRenewing here o job submit expiredOrLost
  match Py.findFrom "https://".toList out.toList with
  | none => throw ("Error submitting job: " ++ out ++ " " ++ err)
  | some url => return Py.strip (String.ofList url)

/-- The command that submits a wrapper to a batch system. -/
def submitCommand (manager : Manager) (wrapper_file : String) : String :=
  match manager with
  | .pbs | .pbs_custom | .sge => "LANG=POSIX qsub " ++ wrapper_file
  | .fork => "/bin/bash " ++ wrapper_file
  | .lsf => "bsub < " ++ wrapper_file
  | .loadleveler => "llsubmit " ++ wrapper_file
  | .slurm => "sbatch " ++ wrapper_file
  | .marenostrum | .slurm_res => "LANG=POSIX mnsubmit " ++ wrapper_file
  | .neptuno => "msub " ++ wrapper_file
  | .cream => ""

/-- The job id in the answer to a submission. -/
def readSubmit (manager : Manager) (out err : String) : Except String String :=
  let found (id : Option (List Char)) : Except String String :=
    match id with
    | some id => .ok (String.ofList id)
    | none => .error (Py.oneLine err)
  let missing (id : Option (List Char)) : Except String String :=
    match id with
    | some id => .ok (String.ofList id)
    | none => .error "'NoneType' object has no attribute 'group'"
  match manager with
  | .pbs | .pbs_custom => if err ≠ "" then .error (Py.oneLine err) else .ok (Py.strip out)
  | .fork => if err ≠ "" then .error (Py.oneLine err) else .ok (Py.rstrip (· == '\n') out)
  | .sge =>
    if err ≠ "" then .error (Py.oneLine err)
    else
      missing (if "Your job ".toList.isPrefixOf out.toList then
        Py.run Char.isDigit 0 [' '] (out.toList.drop 9) else none)
  | .loadleveler =>
    missing (Py.group "The job \"".toList (!Py.isSpace ·) 1 "\" has been submitted".toList out.toList)
  | .lsf => found (Py.group "Job <".toList Char.isDigit 0 "> is submitted".toList out.toList)
  | .slurm | .slurm_res =>
    found (Py.group "Submitted batch job ".toList Char.isDigit 0 [] out.toList)
  | .marenostrum => found (Py.group "Submitted batch job ".toList Char.isDigit 0 [] err.toList)
  | .neptuno =>
    if out ≠ "" then
      match Py.words out with
      | [] => .error "list index out of range"
      | id :: _ => .ok id
    else .error (Py.oneLine err)
  | .cream => .ok ""

/-- `jobSubmit`. -/
def jobSubmit (here : Local) (o : Outside) (job : Job) (wrapper_file : String) : M String :=
  if job.manager = .cream then creamSubmit here o job wrapper_file
  else do
    let (out, err) ← job.execCommand o (submitCommand job.manager wrapper_file)
    raising (readSubmit job.manager out err)

/-- The command that asks a batch system for the state of a job. -/
def statusCommand (manager : Manager) (jobId : String) : String :=
  match manager with
  | .pbs | .pbs_custom => "LANG=POSIX qstat " ++ jobId
  | .sge => "LANG=POSIX qstat | grep " ++ jobId
  | .fork => "ps --no-heading -p " ++ jobId
  | .lsf => "bjobs " ++ jobId
  | .loadleveler => "llq -f %st " ++ jobId
  | .slurm | .neptuno => "squeue -h -o %T -j " ++ jobId
  | .marenostrum => "LANG=POSIX checkjob " ++ jobId ++ " --xml"
  | .slurm_res => "LANG=POSIX mnq -j " ++ jobId ++ " -h"
  | .cream => ""

/-- The states of the batch systems and those of GridWay. -/
def states : Manager → Dict String String
  | .pbs | .pbs_custom =>
    [("E", "ACTIVE"), ("H", "SUSPENDED"), ("Q", "PENDING"), ("R", "ACTIVE"), ("T", "PENDING"),
      ("W", "PENDING"), ("S", "SUSPENDED"), ("C", "DONE")]
  | .sge =>
    [("d", "FAILED"), ("Eqw", "FAILED"), ("Ew", "FAILED"), ("h", "PENDING"), ("r", "ACTIVE"),
      ("R", "FAILED"), ("Rr", "FAILED"), ("s", "SUSPENDED"), ("S", "SUSPENDED"), ("t", "PENDING"),
      ("T", "PENDING"), ("w", "PENDING"), ("qw", "PENDING")]
  | .lsf =>
    [("DONE", "DONE"), ("EXIT", "DONE"), ("RUN", "ACTIVE"), ("ZOMBI", "FAILED"),
      ("PEND", "PENDING"), ("PSUSP", "SUSPENDED"), ("USUSP", "SUSPENDED"), ("SSUSP", "SUSPENDED"),
      ("UNKWN", "UNKNOWN")]
  | .loadleveler =>
    [("CA", "DONE"), ("CK", "ACTIVE"), ("C", "PENDING"), ("CP", "ACTIVE"), ("D", "PENDING"),
      ("I", "PENDING"), ("NQ", "SUSPENDED"), ("NR", "SUSPENDED"), ("P", "ACTIVE"),
      ("E", "ACTIVE"), ("EP", "ACTIVE"), ("X", "DONE"), ("XP", "SUSPENDED"), ("RM", "DONE"),
      ("RP", "SUSPENDED"), ("MP", "ACTIVE"), ("R", "ACTIVE"), ("ST", "ACTIVE"), ("S", "PENDING"),
      ("TX", "PENDING"), ("HS", "PENDING"), ("H", "PENDING"), ("V", "DONE"), ("VP", "PENDING")]
  | .slurm | .neptuno | .slurm_res =>
    [("CANCELLED", "DONE"), ("COMPLETED", "DONE"), ("COMPLETING", "ACTIVE"),
      ("RUNNING", "ACTIVE"), ("NODE_FAIL", "FAILED"), ("FAILED", "FAILED"),
      ("PENDING", "PENDING"), ("SUSPENDED", "SUSPENDED"), ("TIMEOUT", "FAILED")]
  | .marenostrum =>
    [("BatchHold", "PENDING"), ("SystemHold", "PENDING"), ("UserHold", "PENDING"),
      ("Canceling", "PENDING"), ("Removed", "FAILED"), ("NotQueued", "FAILED"),
      ("Vacated", "FAILED"), ("Running", "ACTIVE"), ("Migrated", "PENDING"), ("Idle", "PENDING"),
      ("Deferred", "FAILED"), ("Staging", "PENDING"), ("Starting", "PENDING"),
      ("Completed", "DONE"), ("Suspended", "SUSPENDED")]
  | .cream =>
    [("REGISTERED", "PENDING"), ("PENDING", "PENDING"), ("IDLE", "PENDING"),
      ("RUNNING", "ACTIVE"), ("REALLY-RUNNING", "ACTIVE"), ("HELD", "PENDING"),
      ("CANCELLED", "DONE"), ("DONE-OK", "DONE"), ("DONE-FAILED", "FAILED"),
      ("ABORTED", "FAILED")]
  | .fork => []

/-- A state of a batch system in the words of GridWay. -/
def stateOf (manager : Manager) (state : String) : String :=
  ((states manager).get state).getD "UNKNOWN"

/-- A field of a list, or the error of a field that is not there. -/
def field (fields : List String) (i : Nat) : Except String String :=
  match fields[i]? with
  | some f => .ok f
  | none => .error "list index out of range"

/-- The state of a job in the answer of a batch system. -/
def readStatus (o : Outside) (manager : Manager) (out err : String) : Except String String :=
  match manager with
  | .pbs | .pbs_custom =>
    if Py.isIn "Unknown Job Id" err then .ok "DONE"
    else if err ≠ "" then .ok "UNKNOWN"
    else (field (Py.words out).reverse 1).map (stateOf manager)
  | .sge => if out = "" then .ok "DONE" else (field (Py.words out) 4).map (stateOf manager)
  | .fork => .ok (if out ≠ "" then "ACTIVE" else "DONE")
  | .lsf => if err ≠ "" then .ok "UNKNOWN" else (field (Py.words out) 10).map (stateOf manager)
  | .loadleveler =>
    if Py.isIn "There is currently no job status to report" out then .ok "DONE"
    else (field (Py.splitAll '\n' out) 2).map fun state => stateOf manager (Py.strip state)
  | .slurm | .neptuno =>
    .ok (if err ≠ "" ∨ out = "" then "DONE" else stateOf manager (Py.rstrip (· == '\n') out))
  | .slurm_res =>
    if err ≠ "" ∨ out = "" then .ok "DONE" else (field (Py.words out) 3).map (stateOf manager)
  | .marenostrum => if err ≠ "" then .ok "DONE" else (o.estate out).map (stateOf manager)
  | .cream => .ok ""

/-- The command of CREAM that renews the proxy of a site. -/
def renewCommand (here : Local) (vo host : String) : String :=
  tool here vo "glite-ce-proxy-renew" ++ " -e " ++ host ++ " delegete-proxy"

/-- `_getOutputFiles`. -/
def getOutputFiles (here : Local) (o : Outside) (job : Job) (output_url : String) :
    List String → M Unit
  | [] => return
  | file :: files => do
    let vo ← job.feature "vo"
    match job.local_output_directory with
    | none => throw "'Job' object has no attribute 'local_output_directory'"
    | some directory =>
      let (_, err) ← job.execCommand o (tool here vo "globus-url-copy" ++ " " ++
        Py.join output_url file ++ " file://" ++ Py.join directory file)
      demand (!Py.isIn "error" err) ("Error coping file '" ++ file ++ "' : " ++ err)
      getOutputFiles here o job output_url files

/-- The output files are fetched when the job has ended. -/
def fetchOutput (here : Local) (o : Outside) (job : Job) (out job_status : String) : M Unit := do
  if job_status = "DONE" ∨ job_status = "FAILED" then
    match Py.assigned "CREAM OSB URI".toList '[' ']' out.toList with
    | none => throw ("Output URL not found in '" ++ out ++ "'")
    | some url => getOutputFiles here o job (String.ofList url) (← get).default_output_files
  else return

/-- `jobStatus` of CREAM. -/
def creamStatus (here : Local) (o : Outside) (job : Job) : M String := do
  let (out, _) ← job.execCommand o
    (renewCommand here (← job.feature "vo") (← job.feature "host"))
  if Py.isIn "succesfully renewed" out then
    let status := tool here (← job.feature "vo") "glite-ce-job-status" ++ " " ++ job.jobId ++ " -L 2"
    let (out, err) ← execRenewing here o job status expired
    if Py.isIn "ERROR" err then return "FAILED"
    else
      match Py.assigned "Current Status".toList '[' ']' out.toList with
      | none => return "UNKNOWN"
      | some state =>
        fetchOutput here o job out (stateOf .cream (String.ofList state))
        return stateOf .cream (String.ofList state)
  else return "FAILED"

/-- `jobStatus`. -/
def jobStatus (here : Local) (o : Outside) (job : Job) : M String :=
  if job.manager = .cream then creamStatus here o job
  else do
    let (out, err) ← job.execCommand o (statusCommand job.manager job.jobId)
    raising (readStatus o job.manager out err)

/-- `parse_files`: the names of the files of a sandbox that are not on a storage element. -/
def parse_files (env : String) (output : Bool) (name : String) : Except String (List String) :=
  match Py.assigned name.toList '"' '"' env.toList with
  | none => .ok []
  | some list =>
    let remote (file : String) : Bool :=
      "gsiftp://".toList.isPrefixOf file.toList || "lfn://".toList.isPrefixOf file.toList
    ((Py.splitAll ',' (String.ofList list)).filter (!remote ·)).mapM fun file =>
      if Py.isIn " " file then
        match Py.words file with
        | [source, destination] => .ok (Py.basename (if output then source else destination))
        | [] => .error "not enough values to unpack (expected 2, got 0)"
        | [_] => .error "not enough values to unpack (expected 2, got 1)"
        | _ => .error "too many values to unpack (expected 2)"
      else .ok (Py.basename file)

/-- `' '.join(f.readlines())`: every line but the first one is preceded by a blank. -/
def joinLines : List Char → List Char
  | [] => []
  | ['\n'] => ['\n']
  | '\n' :: cs => '\n' :: ' ' :: joinLines cs
  | c :: cs => c :: joinLines cs

/-- `sandbox_files`. -/
def sandbox_files (o : Outside) (env_file : String) : Except String (List String × List String) := do
  let line_env := String.ofList (joinLines (← o.read env_file).toList)
  let input_files ← parse_files line_env false "GW_INPUT_FILES"
  let output_files ← parse_files line_env true "GW_OUTPUT_FILES"
  return (input_files, output_files)

/-- The limits of a job as the `Requirements` of CREAM. -/
def requirements (values : Features) : String :=
  let wall :=
    match values.get "maxWallTime" with
    | some time => "(other.GlueCEPolicyMaxWallClockTime <= " ++ time ++ ")"
    | none => ""
  let cpu :=
    match values.get "maxCpuTime" with
    | some time => (if wall ≠ "" then wall ++ " && " else wall) ++
      "(other.GlueCEPolicyMaxCPUTime <= " ++ time ++ ")"
    | none => wall
  let all :=
    match values.get "maxMemory" with
    | some memory => (if cpu ≠ "" then cpu ++ " && " else cpu) ++
      " (other.GlueHostMainMemoryRAMSize <= " ++ memory ++ ")"
    | none => cpu
  if all ≠ "" then "Requirements=" ++ all ++ ";" else ""

/-- The list of the input files of a job in its script. -/
def inputFiles (o : Outside) (dir_temp : String) (input_sandbox : List String) :
    Except String String :=
  if input_sandbox = [] then .ok ""
  else
    o.percent dir_temp
      (Py.joinWith " " (input_sandbox.map fun f => ",\"%(dir_temp)s/" ++ f ++ "\""))

/-- What the script of a job of CREAM is made of. -/
structure Parts where
  path : String
  stdout : String
  stderr : String
  count : String
  input_files : String
  output_sandbox : List String
deriving DecidableEq, Repr

/-- The parts of a script, from the description of the job and its environment file. -/
def parts (o : Outside) (env_file : Option String) (rsl : Rsl) : Except String Parts := do
  let path ← Configuration.item rsl.values "executable"
  let stdout ← Configuration.item rsl.values "stdout"
  let stderr ← Configuration.item rsl.values "stderr"
  let count ← Configuration.item rsl.values "count"
  let env_file ← env_file.elim (.error (Py.keyError "env_file")) .ok
  let (input_sandbox, output_sandbox) ← sandbox_files o env_file
  let input_files ← inputFiles o (Py.dirname path) input_sandbox
  return { path, stdout, stderr, count, input_files, output_sandbox }

/-- The script of CREAM, with the names of the output files. -/
def creamScript (rsl : Rsl) (p : Parts) (output_files : List String) : Except String String := do
  let environment ← rsl.environment.elim (.error (Py.keyError "environment")) .ok
  return "\n[\nJobType = \"Normal\";\nExecutable = \"" ++ Py.basename p.path ++
    "\";\nStdOutput = \"" ++ Py.basename p.stdout ++ "\";\nStdError = \"" ++
    Py.basename p.stderr ++ "\";\nCpuNumber = " ++ p.count ++ ";\nSMPGranularity = " ++
    (rsl.values.get "ppn").getD "1" ++
    ";\nOutputSandboxBaseDestURI = \"gsiftp://localhost\";\nInputSandbox = \x7b \"" ++
    Py.dirname p.path ++ "/job.env\", \"" ++ Py.dirname p.path ++ "/" ++ Py.basename p.path ++
    "\"  " ++ p.input_files ++ " \x7d;\nOutputSandbox = \x7b " ++
    Py.joinWith "," (output_files.map fun f => "\"" ++ f ++ "\"") ++
    " \x7d;\nEnvironment = \x7b " ++
    Py.joinWith "," (environment.map fun (k, v) => "\"" ++ k ++ "=" ++ v ++ "\"") ++
    " \x7d;\n" ++ requirements rsl.values ++ "\n]"

/-- `jobTemplate` of CREAM; it adds the output files of the job to the list of the class. -/
def creamTemplate (o : Outside) (job : Job) (rsl : Rsl) : M (String × Job) := do
  let env_file := ((← get).heap.deref job.resfeatures).get "env_file"
  let p ← raising (parts o env_file rsl)
  modify fun s => { s with default_output_files := s.default_output_files ++ p.output_sandbox }
  let script ← raising (creamScript rsl p (← get).default_output_files)
  return (script, { job with local_output_directory := some (Py.dirname p.path) })

/-- `jobTemplate`: the script of a job, and the job after it was rendered. -/
def jobTemplate (o : Outside) (job : Job) (rsl : Rsl) : M (String × Job) :=
  if job.manager = .cream then creamTemplate o job rsl
  else do
    let script ← raising (o.script job.manager rsl)
    return (script, job)

/-- The commands of a cancellation that name the job. -/
def cancelCommands (manager : Manager) (jobId : String) : List String :=
  match manager with
  | .pbs | .pbs_custom | .sge => ["LANG=POSIX qdel " ++ jobId]
  | .fork => ["ps ho pid --ppid " ++ jobId, "kill -9 " ++ jobId]
  | .lsf => ["bkill " ++ jobId]
  | .loadleveler => ["llcancel " ++ jobId]
  | .slurm | .neptuno => ["scancel " ++ jobId]
  | .marenostrum | .slurm_res => ["LANG=POSIX mncancel " ++ jobId]
  | .cream => []

end Job

end GridWay.Drm4g
