import GridWay.Lib.Dict
import GridWay.Lib.Py

/-!
# The configuration of the resources

`drm4g/core/configure.py`: the resources file is read into a dictionary of dictionaries. A manager
object made from it does not copy the dictionary of its resource, so the dictionaries are kept on a
heap and referred to by position.

* `Configuration.load`, `Configuration.check`: the file is read and checked.
* `Configuration.make_resources`: the manager and the dictionary of each resource.
-/

namespace GridWay.Drm4g

/-- The dictionary of a resource. -/
abbrev Features := Dict String String

/-- A reference to a dictionary. -/
abbrev Ref := Nat

/-- The dictionaries that were made so far. -/
abbrev Heap := List Features

namespace Heap

/-- The dictionary at a reference. -/
def deref (heap : Heap) (r : Ref) : Features := heap[r]?.getD []

/-- A dictionary is changed in place. -/
def write (heap : Heap) (r : Ref) (k v : String) : Heap := heap.modify r fun d => d.set k v

end Heap

/-- A virtual machine of a cloud resource, as it was pickled. -/
structure Instance where
  vm_user : String
  ext_ip : String
  vm_comm : String
  private_key : String
  max_jobs_running : String
deriving DecidableEq, Repr

/-- The resources file: its time, and the sections with their items that `RawConfigParser` holds after
reading it, whether or not it found the file malformed. -/
structure File where
  mtime : Nat
  sections : List (String × Features)
deriving DecidableEq, Repr

/-- The managers of `drm4g.managers`. -/
inductive Manager where
  | pbs | pbs_custom | sge | fork | lsf | loadleveler | cream | slurm | marenostrum | slurm_res
  | neptuno
deriving DecidableEq, Repr

/-- A communicator object. -/
structure Communicator where
  module : String
  username : Option String
  frontend : Option String
  private_key : Option String
  public_key : Option String
  work_directory : String
deriving DecidableEq, Repr

/-- What importing a module does: it is found, there is an `ImportError`, or another exception. -/
inductive Import where
  | found
  | missing
  | raises (err : String)
deriving DecidableEq, Repr

/-- What the drivers ask the machine they run on: what importing a module does, the modules that define
a communicator, the expansion of paths, the files, and the pickled virtual machines of a resource. -/
structure Local where
  imports : String → Import
  communicates : String → Bool
  expand : String → String
  isfile : String → Bool
  instances : String → Except String (List Instance)
  remote_jobs_dir : String
  remote_vos_dir : String

/-- `COMMUNICATORS`. -/
def COMMUNICATORS : Dict String String :=
  [("ssh", "drm4g.communicators.ssh"), ("ssh_fabric", "drm4g.communicators.ssh_fabric"),
    ("pk_ssh", "drm4g.communicators.ssh"), ("op_ssh", "drm4g.communicators.openssh"),
    ("local", "drm4g.communicators.local")]

/-- `RESOURCE_MANAGERS`. -/
def RESOURCE_MANAGERS : Dict String String :=
  [("pbs", "drm4g.managers.pbs"), ("sge", "drm4g.managers.sge"), ("fork", "drm4g.managers.fork"),
    ("none", "drm4g.managers.fork"), ("lsf", "drm4g.managers.lsf"),
    ("loadleveler", "drm4g.managers.loadleveler"), ("cream", "drm4g.managers.cream"),
    ("slurm", "drm4g.managers.slurm"), ("mnslurm", "drm4g.managers.marenostrum"),
    ("slurm_res", "drm4g.managers.slurm_res"), ("neptuno", "drm4g.managers.neptuno")]

/-- The modules that define a manager. -/
def managerModules : Dict String Manager :=
  [("drm4g.managers.pbs", .pbs), ("drm4g.managers.pbs_custom", .pbs_custom),
    ("drm4g.managers.sge", .sge), ("drm4g.managers.fork", .fork), ("drm4g.managers.lsf", .lsf),
    ("drm4g.managers.loadleveler", .loadleveler), ("drm4g.managers.cream", .cream),
    ("drm4g.managers.slurm", .slurm), ("drm4g.managers.marenostrum", .marenostrum),
    ("drm4g.managers.slurm_res", .slurm_res), ("drm4g.managers.neptuno", .neptuno)]

/-- The configuration: the dictionaries of the resources, and the time of the file. -/
structure Configuration where
  resources : Dict String Ref := []
  init_time : Nat
deriving DecidableEq, Repr

namespace Configuration

/-- `_import_manager`: the module of a manager, when it can be imported. -/
def import_manager (here : Local) (MANAGERS : Dict String String) (manager : String) :
    Option String :=
  let module := (MANAGERS.get manager).getD manager
  if here.imports module = .found then some module else none

/-- `_exist_manager`: only an `ImportError` is handled. -/
def exist_manager (here : Local) (MANAGERS : Dict String String) (manager : String) :
    Except String Bool :=
  match here.imports ((MANAGERS.get manager).getD manager) with
  | .found => .ok true
  | .missing => .ok false
  | .raises err => .error err

/-- `check_update`: the file has another time than before. -/
def check_update (c : Configuration) (file : File) : Bool × Configuration :=
  if file.mtime ≠ c.init_time then (true, { c with init_time := file.mtime }) else (false, c)

/-- The dictionary of a virtual machine. -/
def insdict (i : Instance) : Features :=
  [("username", i.vm_user), ("frontend", i.ext_ip), ("communicator", i.vm_comm),
    ("private_key", i.private_key), ("enable", "true"), ("lrms", "fork"),
    ("max_jobs_running", i.max_jobs_running)]

/-- A new dictionary for a resource. -/
def put (name : String) (d : Features) (s : Configuration × Heap) : Configuration × Heap :=
  ({ s.1 with resources := s.1.resources.set name s.2.length }, s.2 ++ [d])

/-- One section of the file; the flag says whether the sections after it are read as well. -/
def loadSection (here : Local) (name : String) (d : Features) (s : Configuration × Heap) :
    (Configuration × Heap) × Bool :=
  let s := put name d s
  match d.get "lrms" with
  | none => (s, false)
  | some lrms =>
    if lrms = "rocci" then
      match here.instances name with
      | .error _ => (s, false)
      | .ok instances =>
        (instances.foldl (fun s i => put (name ++ "_" ++ i.ext_ip) (insdict i) s) s, true)
    else (s, true)

/-- `load`: the sections are read in order; an exception ends the reading. -/
def load (here : Local) : List (String × Features) → Configuration × Heap → Configuration × Heap
  | [], s => s
  | (name, d) :: sections, s =>
    match loadSection here name d s with
    | (s, true) => load here sections s
    | (s, false) => s

/-- The keys that a resource may have. -/
def knownKeys : List String :=
  ["enable", "communicator", "username", "frontend", "private_key", "public_key", "scratch", "lrms",
    "queue", "max_jobs_in_queue", "max_jobs_running", "parallel_env", "project", "vo",
    "host_filter", "bdii", "myproxy_server", "vm_user", "vm_communicator", "vm_config",
    "cloud_provider", "flavour", "virtual_image", "instances", "volume"]

/-- A rule of `check`: the errors that it finds in a resource and the dictionary after it. It sees
the keys that the resource had before the first rule. -/
abbrev Rule := Local → String → List String → Features → Except String (List String × Features)

/-- `resdict[key]`. -/
def item (d : Features) (key : String) : Except String String :=
  match d.get key with
  | some v => .ok v
  | none => .error (Py.keyError key)

/-- `not resdict.get(key)`. -/
def lacks (d : Features) (key : String) : Bool := (d.get key).getD "" == ""

/-- `resdict.get(key).count(',')`. -/
def commas (d : Features) (key : String) : Except String Nat :=
  match d.get key with
  | some v => .ok (Py.count ',' v)
  | none => .error "'NoneType' object has no attribute 'count'"

def ruleKnown : Rule := fun _ name reslist d =>
  .ok ((reslist.filter (!knownKeys.contains ·)).map fun key =>
    "'" ++ name ++ "' resource has an invalid key : '" ++ key ++ "'", d)

def ruleRequired : Rule := fun _ name reslist d =>
  .ok ((["enable", "frontend", "lrms", "communicator"].filter (!reslist.contains ·)).map fun key =>
    "'" ++ name ++ "' resource does not have '" ++ key ++ "' key", d)

def ruleRocci : Rule := fun _ name _ d => do
  let lrms ← item d "lrms"
  return (if lrms = "rocci" ∧ lacks d "private_key" then
    ["'private_key' key has not been defined for '" ++ name ++ "' resource"] else [], d)

def ruleRunning : Rule := fun _ name reslist d => do
  let lrms ← item d "lrms"
  return (if !reslist.contains "max_jobs_running" ∧ lrms ≠ "cream" then
    ["'max_jobs_running' key is mandatory for '" ++ name ++ "' resource"] else [], d)

def ruleRunningValue : Rule := fun _ name _ d => do
  let lrms ← item d "lrms"
  return (if lrms ≠ "cream" ∧ lacks d "max_jobs_running" then
    ["'max_jobs_running' key has a wrong value for '" ++ name ++ "' resource"] else [], d)

def ruleInQueue : Rule := fun _ _ reslist d => do
  if !reslist.contains "max_jobs_in_queue" ∧ reslist.contains "max_jobs_running" then
    let lrms ← item d "lrms"
    if lrms ≠ "cream" then
      return ([], d.set "max_jobs_in_queue" (← item d "max_jobs_running"))
  return ([], d)

def ruleQueue : Rule := fun _ _ reslist d => do
  if !reslist.contains "queue" then
    let lrms ← item d "lrms"
    if lrms ≠ "cream" then return ([], d.set "queue" "default")
  return ([], d)

/-- A list of limits has as many elements as the list of queues. -/
def ruleCount (key : String) : Rule := fun _ _ reslist d => do
  if reslist.contains "max_jobs_running" then
    let lrms ← item d "lrms"
    if lrms ≠ "cream" then
      if (← commas d key) ≠ (← commas d "queue") then
        return (["The number of elements in '" ++ key ++
          "' are different to the elements of 'queue'"], d)
  return ([], d)

def ruleFilter : Rule := fun _ _ reslist d => do
  let lrms ← item d "lrms"
  return (if lrms ≠ "cream" ∧ reslist.contains "host_filter" then
    ["'host_filter' key is only available for 'cream' lrms"] else [], d)

def ruleCommunicator : Rule := fun here name _ d => do
  let communicator ← item d "communicator"
  let known ← exist_manager here COMMUNICATORS communicator
  return (if !known then
    ["'" ++ name ++ "' has a wrong communicator: '" ++ communicator ++ "'"] else [], d)

def ruleUsername : Rule := fun _ name _ d => do
  let communicator ← item d "communicator"
  return (if communicator ≠ "local" ∧ !d.has "username" then
    ["'username' key is mandatory for '" ++ communicator ++ "' communicator, '" ++ name ++
      "' resource"] else [], d)

def ruleManager : Rule := fun here name _ d => do
  let lrms ← item d "lrms"
  let known ← exist_manager here RESOURCE_MANAGERS lrms
  return (if !known then
    ["'" ++ name ++ "' has a wrong lrms: '" ++ lrms ++ "'"] else [], d)

/-- The public key is looked for beside the private key; it is the private key that must be a file,
both times. -/
def ruleKeys : Rule := fun here name _ d => do
  let communicator ← item d "communicator"
  if communicator = "local" then return ([], d)
  if lacks d "private_key" then
    return (["'private_key' key is mandatory for '" ++ name ++ "' resource"], d)
  let private_key := (d.get "private_key").getD ""
  let abs_private_key := here.expand private_key
  let abs_public_key :=
    if lacks d "public_key" then abs_private_key ++ ".pub"
    else here.expand ((d.get "public_key").getD "")
  if here.isfile abs_private_key then
    return ([], (d.set "private_key" abs_private_key).set "public_key" abs_public_key)
  else
    return (["'" ++ private_key ++ "' does not exist for '" ++ name ++ "' resource",
      "'" ++ abs_public_key ++ "' does not exist for '" ++ name ++ "' resource"], d)

def ruleCert : Rule := fun here name _ d => do
  if lacks d "grid_cert" then return ([], d)
  let abs_grid_cert := here.expand ((d.get "grid_cert").getD "")
  if here.isfile abs_grid_cert then return ([], d.set "grid_cert" abs_grid_cert)
  else return (["'" ++ abs_grid_cert ++ "' does not exist for '" ++ name ++ "' resource"], d)

/-- The rules of `check` in their order. -/
def rules : List Rule :=
  [ruleKnown, ruleRequired, ruleRocci, ruleRunning, ruleRunningValue, ruleInQueue, ruleQueue,
    ruleCount "max_jobs_in_queue", ruleCount "max_jobs_running", ruleFilter, ruleCommunicator,
    ruleUsername, ruleManager, ruleKeys, ruleCert]

/-- The rules applied to the dictionary of one resource. The dictionary is changed in place, also
when a later rule raises. -/
def applyRules (here : Local) (name : String) (reslist : List String) :
    List Rule → Features → Except String (List String) × Features
  | [], d => (.ok [], d)
  | rule :: rules, d =>
    match rule here name reslist d with
    | .error err => (.error err, d)
    | .ok (errors, d) =>
      match applyRules here name reslist rules d with
      | (.error err, d) => (.error err, d)
      | (.ok more, d) => (.ok (errors ++ more), d)

/-- `check`: the errors of all resources. -/
def check (here : Local) : Dict String Ref → Heap → Except String (List String) × Heap
  | [], heap => (.ok [], heap)
  | (name, r) :: resources, heap =>
    let d := heap.deref r
    let (result, d) := applyRules here name d.keys rules d
    let heap := heap.set r d
    match result with
    | .error err => (.error err, heap)
    | .ok errors =>
      match check here resources heap with
      | (.error err, heap) => (.error err, heap)
      | (.ok more, heap) => (.ok (errors ++ more), heap)

/-- The entry of `make_communicators` for a resource; `none` when it could not be made. -/
def make_communicator (here : Local) (d : Features) : Option Communicator := do
  let module ← import_manager here COMMUNICATORS (← d.get "communicator")
  guard (here.communicates module)
  return { module, username := d.get "username", frontend := d.get "frontend"
           private_key := d.get "private_key", public_key := d.get "public_key"
           work_directory := (d.get "scratch").getD here.remote_jobs_dir }

/-- The manager that `make_resources` finds for a resource; `none` when it could not be made. -/
def make_manager (here : Local) (d : Features) : Option Manager := do
  let module ← import_manager here RESOURCE_MANAGERS (← d.get "lrms")
  managerModules.get module

end Configuration

end GridWay.Drm4g
