import GridWay.Drm4g.Fresh
import GridWay.Lib.Machine

/-!
# What the jobs of a resource share

The job objects of a resource refer to its dictionary, and the CREAM jobs of the driver to one list
of file names. An observer notes what each submission to a site asked for, and beside each script of
CREAM that was rendered the script that the job has alone.

* `Mad.serve`: the requests of the core and the rounds of the callback thread.
* `Mad.Independent`: what the operations on a job read is what its own submission noted.
* `Mad.jobs_independent`: this is so in every run whose steps do not share.
-/

namespace GridWay.Drm4g

open Proc

/-- A request of the core, or a round of the callback thread. -/
inductive Request where
  | submit (jid host_jm rslPath : String)
  | recover (jid host_jm : String)
  | poll (jid : String)
  | callback
deriving DecidableEq, Repr

/-- A request and what is outside of the driver when it is served. -/
structure Round where
  request : Request
  outside : Outside

/-- What a submission to a site asked for. -/
structure Own where
  host : String
  jm : String
  env_file : String
  queue : String
  output_sandbox : List String
deriving DecidableEq, Repr

/-- What an observer notes: what the jobs asked for, and the scripts that were rendered, each beside
the script of the job alone. -/
structure Notes where
  own : Dict String Own := []
  scripts : List (Except String String × Except String String) := []

namespace Mad

/-- A request is served. -/
def serve (here : Local) (s : Mad) (r : Round) : Mad :=
  match r.request with
  | .submit jid host_jm rslPath => (do_SUBMIT here r.outside jid host_jm rslPath s).2
  | .recover jid host_jm => (do_RECOVER here r.outside jid host_jm s).2
  | .poll jid => (do_POLL jid s).2
  | .callback => (callbackRound here r.outside s).2

/-- The output files of a sandbox. -/
def outputs (o : Outside) (env_file : String) : List String :=
  match Job.sandbox_files o env_file with
  | .ok (_, output_sandbox) => output_sandbox
  | .error _ => []

/-- The environment file of a job. -/
def envFile (rslPath : String) : String := Py.join (Py.dirname rslPath) "job.env"

/-- What a submission to a host asks for, on a resource with the dictionary `d`. -/
def ownOf (o : Outside) (d : Features) (host jm rslPath : String) : Option Own :=
  if d.has "vo" && Cut.hasPair ':' host.toList then
    match siteOf host, (o.rsl rslPath).toOption.bind fun rsl => rsl.values.get "queue" with
    | some site, some queue =>
      some { host := site, jm, env_file := envFile rslPath, queue
             output_sandbox := outputs o (envFile rslPath) }
    | _, _ => none
  else none

/-- The script of a CREAM job with the names of the files that come before its own. -/
def scriptWith (o : Outside) (env_file : Option String) (rsl : Rsl) (before : List String) :
    Except String String := do
  let p ← Job.parts o env_file rsl
  Job.creamScript rsl p (before ++ p.output_sandbox)

/-- The script of a CREAM job alone. -/
def ownScript (o : Outside) (own : Option Own) (rsl : Rsl) : Except String String :=
  scriptWith o (own.map Own.env_file) rsl defaultOutputFiles

/-- The resource of a host. -/
def resourceName (host : String) : String :=
  if Cut.hasPair ':' host.toList then ((Py.splitPairs ':' host).head?).getD "" else host

/-- The observer during a submission to a host. -/
def noteSubmit (here : Local) (o : Outside) (jid host jm rslPath : String) (s : Mad) (a : Notes) :
    Notes :=
  match describe here o host jm rslPath s with
  | (.error _, _) => a
  | (.ok (job, rsl), s₁) =>
    if job.manager = .cream then
      let own := ownOf o (s₁.heap.deref job.resfeatures) host jm rslPath
      { own :=
          match (launch here o rslPath job rsl s₁).1, own with
          | .ok _, some own => a.own.set jid own
          | _, _ => a.own
        scripts := a.scripts ++ [((job.jobTemplate o rsl s₁).1.map Prod.fst, ownScript o own rsl)] }
    else a

/-- The observer. -/
def note (here : Local) (s : Mad) (a : Notes) (r : Round) : Notes :=
  match r.request with
  | .submit jid host_jm rslPath =>
    match Py.splitLast '/' host_jm with
    | none => a
    | some (host, jm) => noteSubmit here r.outside jid host jm rslPath s a
  | _ => a

/-- The driver with its observer. -/
def observed (here : Local) : Mad × Notes → Round → Mad × Notes :=
  Machine.observe (serve here) (note here)

/-- What the operations on a CREAM job read is what its submission asked for. -/
structure Held (s : Mad) (job : Job) (own : Own) : Prop where
  host : (s.heap.deref job.resfeatures).get "host" = some own.host
  jm : (s.heap.deref job.resfeatures).get "jm" = some own.jm
  env_file : (s.heap.deref job.resfeatures).get "env_file" = some own.env_file
  queue : (s.heap.deref job.resfeatures).get "queue" = some own.queue
  sandbox : s.default_output_files = defaultOutputFiles ++ own.output_sandbox

/-- The jobs of the driver are independent of each other: every CREAM job has what its own submission
asked for, and every script was rendered as if the job had been alone. -/
structure Independent (s : Mad) (a : Notes) : Prop where
  own : ∀ e ∈ s.job_list, e.2.manager = .cream → ∃ w, a.own.get e.1 = some w ∧ Held s e.2 w
  scripts : ∀ p ∈ a.scripts, p.1 = p.2

/-- The section of a host is read again for a request. -/
def Renews (here : Local) (s : Mad) (o : Outside) (host : String) : Prop :=
  Rereads s o ∧ resourceName host ∈ Configuration.readNames here o.file.sections

instance (here : Local) (s : Mad) (o : Outside) (host : String) :
    Decidable (Renews here s o host) := by
  unfold Renews
  infer_instance

/-- A request for a job of CREAM gets a new dictionary. -/
def renewed (here : Local) (s : Mad) (o : Outside) (host : String) : Bool :=
  match (update_resource here o host s).1 with
  | .ok job => !decide (job.manager = .cream) || decide (Renews here s o host)
  | .error _ => true

/-- A script of CREAM is rendered with no file names of other jobs, and adds none that the other
jobs of CREAM would fetch. -/
def alone (here : Local) (s : Mad) (o : Outside) (host jm rslPath : String) : Bool :=
  match (describe here o host jm rslPath s).1 with
  | .ok (job, _) =>
    !decide (job.manager = .cream) || (decide (s.default_output_files = defaultOutputFiles) &&
      (decide (outputs o (envFile rslPath) = []) ||
        s.job_list.all fun e => decide (e.2.manager ≠ .cream)))
  | .error _ => true

/-- The steps that do not share. -/
def apart (here : Local) (s : Mad) (r : Round) : Bool :=
  match r.request with
  | .submit _ host_jm rslPath =>
    match Py.splitLast '/' host_jm with
    | none => true
    | some (host, jm) =>
      renewed here s r.outside host && alone here s r.outside host jm rslPath
  | .recover _ host_jm =>
    match Py.splitFirst ':' host_jm with
    | none => true
    | some (host, _) => renewed here s r.outside host
  | _ => true

end Mad

end GridWay.Drm4g
