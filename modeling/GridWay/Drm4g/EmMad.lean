import GridWay.Drm4g.Job

/-!
# The execution driver

`drm4g/core/em_mad.py`: the requests of the core are answered one after the other; the jobs that were
submitted or recovered are kept in a list by their ids.

* `Mad.update_resource`: the manager of a host, after the configuration was brought up to date.
* `Mad.do_SUBMIT`, `Mad.do_RECOVER`, `Mad.do_POLL`, `Mad.callbackRound`: the operations.
* `Mad.start`: the driver after it was started.
-/

namespace GridWay.Drm4g

namespace Mad

/-- The dictionary of a resource is changed in place. -/
def setFeature (job : Job) (key value : String) : M Unit :=
  modify fun s => { s with heap := s.heap.write job.resfeatures key value }

/-- A line on the standard output. -/
def stdout (line : String) : M Unit := modify fun s => { s with out := s.out ++ [line] }

/-- The configuration is read again unless the file has just been changed. -/
def reload (here : Local) (o : Outside) : M Unit := do
  let s ← get
  let (changed, configure) := s.configure.check_update o.file
  if !changed || configure.resources.isEmpty then
    let (configure, heap) := Configuration.load here o.file.sections (configure, s.heap)
    let (errors, heap) := Configuration.check here configure.resources heap
    set { s with configure, heap }
    let errors ← raising errors
    if errors ≠ [] then throw (Py.joinWith " " errors)
  else set { s with configure }

/-- The name of the first resource that a host belongs to. -/
def findResource (heap : Heap) (host : String) : Dict String Ref → Except String (String × Ref)
  | [] => .error "cannot unpack non-iterable NoneType object"
  | (resname, r) :: resources =>
    if (heap.deref r).has "cloud_provider" then findResource heap host resources
    else if Cut.hasPair ':' host.toList then
      match Py.splitPairs ':' host with
      | [name, _] => if resname ≠ name then findResource heap host resources else .ok (resname, r)
      | _ => .error "too many values to unpack (expected 2)"
    else if resname ≠ host then findResource heap host resources
    else .ok (resname, r)

/-- The communicator of a resource: it is made once. -/
def communicatorOf (here : Local) (resname : String) (d : Features) : M Communicator := do
  match (← get).communicators.get resname, Configuration.make_communicator here d with
  | some communicator, _ => return communicator
  | none, none => throw (Py.keyError resname)
  | none, some communicator =>
    modify fun s => { s with communicators := s.communicators.set resname communicator }
    return communicator

/-- The manager of a resource. -/
def managerOf (here : Local) (d : Features) : Except String Manager :=
  match Configuration.make_manager here d with
  | none => .error (Py.keyError "Job")
  | some manager => .ok manager

/-- `_update_resource`: a new job object for a host. -/
def update_resource (here : Local) (o : Outside) (host : String) : M Job := do
  reload here o
  let s ← get
  let (name, resfeatures) ← raising (findResource s.heap host s.configure.resources)
  let d := s.heap.deref resfeatures
  let communicator ← communicatorOf here name d
  let manager ← raising (managerOf here d)
  return { manager, name, resfeatures, communicator }

/-- What a resource adds to the description of a job. -/
def extend (d : Features) (rsl : Rsl) (key : String) : Rsl :=
  match d.get key with
  | some value => { rsl with values := rsl.values.set key value }
  | none => rsl

/-- The site in the name of a host. -/
def siteOf (host : String) : Option String :=
  match Py.splitPairs ':' host with
  | [_, site] => some site
  | _ => none

/-- The site, the job manager, the environment file and the queue of a job of a VO are noted in the
dictionary of the resource. -/
def noteSite (job : Job) (host jm rslPath : String) (rsl : Rsl) : M Unit := do
  let d := (← get).heap.deref job.resfeatures
  if d.has "vo" && Cut.hasPair ':' host.toList then
    match siteOf host with
    | some site =>
      setFeature job "host" site
      setFeature job "jm" jm
      setFeature job "env_file" (Py.join (Py.dirname rslPath) "job.env")
      setFeature job "queue" (← raising (Configuration.item rsl.values "queue"))
    | none => throw "too many values to unpack (expected 2)"

/-- A path of the job is moved below the directory of the jobs on the resource. -/
def relocate (directory key : String) (rsl : Rsl) : Except String Rsl := do
  let path ← Configuration.item rsl.values key
  return { rsl with values := rsl.values.set key (Py.join directory path) }

/-- The paths of a job on its resource. -/
def relocateAll (directory : String) (rsl : Rsl) : Except String Rsl := do
  let rsl ← relocate directory "stdout" rsl
  let rsl ← relocate directory "stderr" rsl
  relocate directory "executable" rsl

/-- `get_abs_directory`. -/
def get_abs_directory (o : Outside) (job : Job) (directory : String) : M String := do
  let (out, err) ← job.execCommand o ("ls -d " ++ directory)
  if err = "" then
    return Py.rstrip (· == '\n') (Py.lstrip (· == '\n') out)
  else throw ("Could not obtain  the '" ++ directory ++ "' directory : " ++ err)

/-- `createWrapper`. -/
def createWrapper (o : Outside) (path script : String) : M Unit := do
  let _ ← tryCatch (perform o (.write path script))
    fun err => throw ("Error creating wrapper_drm4g :" ++ err)

/-- `copyWrapper`. -/
def copyWrapper (o : Outside) (job : Job) (path remote : String) : M Unit := do
  let copy := Sent.copy job.communicator ("file://" ++ path) ("gsiftp://_/" ++ remote)
  let _ ← tryCatch (perform o copy)
    fun err => throw ("Error copying wrapper_drm4g : " ++ err)

/-- The description of a job with its files on the resource. -/
def locate (here : Local) (o : Outside) (job : Job) (rsl : Rsl) : M Rsl := do
  let d := (← get).heap.deref job.resfeatures
  let directory ← get_abs_directory o job ((d.get "scratch").getD here.remote_jobs_dir)
  raising (relocateAll directory rsl)

/-- The first part of `do_SUBMIT`: the job object and the description of the job. -/
def describe (here : Local) (o : Outside) (host jm rslPath : String) : M (Job × Rsl) := do
  let job ← update_resource here o host
  let rsl ← raising (o.rsl rslPath)
  let d := (← get).heap.deref job.resfeatures
  let rsl := extend d (extend d rsl "project") "parallel_env"
  noteSite job host jm rslPath rsl
  return (job, ← locate here o job rsl)

/-- The second part: the wrapper is written, copied and submitted. -/
def launch (here : Local) (o : Outside) (rslPath : String) (job : Job) (rsl : Rsl) : M Job := do
  let suffix := ((Py.splitAll '.' rslPath).getLast?).getD ""
  let local_file := Py.join (Py.dirname rslPath) ("wrapper_drm4g." ++ suffix)
  let executable ← raising (Configuration.item rsl.values "executable")
  let remote_file := Py.join (Py.dirname executable) "wrapper_drm4g"
  let (script, job) ← job.jobTemplate o rsl
  createWrapper o local_file script
  copyWrapper o job local_file remote_file
  let jobId ← job.jobSubmit here o remote_file
  return { job with jobId }

/-- The job of a `SUBMIT` request, on the host that the request names. -/
def submit (here : Local) (o : Outside) (jid host_jm rslPath : String) : M (String × Job) :=
  match Py.splitLast '/' host_jm with
  | none => throw "not enough values to unpack (expected 2, got 1)"
  | some (host, jm) => do
    let (job, rsl) ← describe here o host jm rslPath
    let job ← launch here o rslPath job rsl
    modify fun s => { s with job_list := s.job_list.set jid job }
    return (host, job)

/-- The answer to a request: its text when it succeeds, and the error when it fails. -/
def answer (operation jid : String) (work : M String) : M Unit := do
  let line ← tryCatch (do return operation ++ " " ++ jid ++ " SUCCESS " ++ (← work))
    fun err => return operation ++ " " ++ jid ++ " FAILURE " ++ err
  stdout line

lemma answer_of_ok {operation jid line : String} {work : M String} {s t : Mad}
    (done : work s = (.ok line, t)) :
    answer operation jid work s =
      (.ok ⟨⟩, { t with out := t.out ++ [operation ++ " " ++ jid ++ " SUCCESS " ++ line] }) := by
  have body : (do return operation ++ " " ++ jid ++ " SUCCESS " ++ (← work) : M String) s =
      (.ok (operation ++ " " ++ jid ++ " SUCCESS " ++ line), t) := by
    rw [Proc.bind_of_ok done]
    rfl
  rw [answer, Proc.bind_of_ok (Proc.handle_of_ok body)]
  rfl

lemma answer_of_error {operation jid err : String} {work : M String} {s t : Mad}
    (raised : work s = (.error err, t)) :
    answer operation jid work s =
      (.ok ⟨⟩, { t with out := t.out ++ [operation ++ " " ++ jid ++ " FAILURE " ++ err] }) := by
  have body : (do return operation ++ " " ++ jid ++ " SUCCESS " ++ (← work) : M String) s =
      (.error err, t) := Proc.bind_of_error raised
  rw [answer, Proc.run_bind, Proc.handle_of_error body]
  rfl

/-- The contact of a job. -/
def contact (host : String) (job : Job) : String := host ++ ":" ++ job.jobId

/-- `do_SUBMIT`. -/
def do_SUBMIT (here : Local) (o : Outside) (jid host_jm rslPath : String) : M Unit :=
  answer "SUBMIT" jid do
    let (host, job) ← submit here o jid host_jm rslPath
    return contact host job

/-- The state of a job as Python prints it. -/
def showStatus (status : Option String) : String := status.getD "None"

/-- The job that `do_RECOVER` rebuilds from a contact. -/
def rebuild (here : Local) (o : Outside) (host_jm : String) : M Job :=
  match Py.splitFirst ':' host_jm with
  | none => throw "not enough values to unpack (expected 2, got 1)"
  | some (host, remote_job_id) => do
    let job ← update_resource here o host
    return { job with jobId := remote_job_id }

/-- `refreshJobStatus`. -/
def refreshJobStatus (here : Local) (o : Outside) (job : Job) : M Job := do
  return { job with status := some (← job.jobStatus here o) }

/-- `do_RECOVER`. -/
def do_RECOVER (here : Local) (o : Outside) (jid host_jm : String) : M Unit :=
  answer "RECOVER" jid do
    let job ← refreshJobStatus here o (← rebuild here o host_jm)
    modify fun s => { s with job_list := s.job_list.set jid job }
    return showStatus job.status

/-- `do_POLL`. -/
def do_POLL (jid : String) : M Unit := do
  match (← get).job_list.get jid with
  | some job => stdout ("POLL " ++ jid ++ " SUCCESS " ++ showStatus job.status)
  | none => stdout ("POLL " ++ jid ++ " FAILURE Job not submitted")

/-- The states that end a job. -/
def terminal (status : Option String) : Bool := status == some "DONE" || status == some "FAILED"

/-- A job that has ended leaves the list. -/
def retire (jid : String) (status : Option String) : M Unit :=
  if terminal status then modify fun s => { s with job_list := s.job_list.erase jid } else pure ()

/-- A new state of a job is reported, and a state that ends it in any case. -/
def report (jid : String) (oldStatus newStatus : Option String) : M Unit :=
  if oldStatus ≠ newStatus ∨ terminal newStatus then do
    retire jid newStatus
    stdout ("CALLBACK " ++ jid ++ " SUCCESS " ++ showStatus newStatus)
  else pure ()

/-- The state of a job is asked for and reported. -/
def observeJob (here : Local) (o : Outside) (jid : String) (job : Job) : M Unit := do
  let job' ← refreshJobStatus here o job
  modify fun s => { s with job_list := s.job_list.set jid job' }
  report jid job.status job'.status

/-- One job of a round of `do_CALLBACK`. -/
def callback (here : Local) (o : Outside) (jid : String) (job : Job) : M Unit :=
  tryCatch (observeJob here o jid job)
    fun err => stdout ("CALLBACK " ++ jid ++ " FAILURE " ++ err)

/-- The jobs of a round one after the other. -/
def callbacks (here : Local) (o : Outside) : Dict String Job → M Unit
  | [] => return
  | (jid, job) :: jobs => do
    callback here o jid job
    callbacks here o jobs

/-- A round of `do_CALLBACK` that nothing interrupts. -/
def callbackRound (here : Local) (o : Outside) : M Unit := do
  callbacks here o (← get).job_list

/-- The driver after it was started. -/
def start (file : File) : Mad := { configure := { init_time := file.mtime } }

end Mad

end GridWay.Drm4g
