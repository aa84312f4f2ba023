import GridWay.Drm4g.EmMad

/-!
# The communicators of the transfer driver

`_update_com` of `drm4g/core/tm_mad.py`: the configuration is read for every transfer, and the first
resource that has the host is used. A communicator is made once for the name of a resource.
-/

namespace GridWay.Drm4g

/-- The transfer driver. -/
structure TmMad where
  configure : Configuration
  heap : Heap := []
  communicator : Dict String Communicator := []
deriving DecidableEq, Repr

namespace TmMad

/-- The configuration is read and checked. -/
def reload (here : Local) (file : File) : Proc TmMad Unit := do
  let s ← get
  let (configure, heap) := Configuration.load here file.sections (s.configure, s.heap)
  let (errors, heap) := Configuration.check here configure.resources heap
  set { s with configure, heap }
  match errors with
  | .error err => throw err
  | .ok errors => if errors ≠ [] then throw (Py.joinWith " " errors)

/-- `self._communicator[ resname ]`. -/
def cached (resname : String) : Proc TmMad Communicator := do
  match (← get).communicator.get resname with
  | some communicator => return communicator
  | none => throw (Py.keyError resname)

/-- A communicator is made for a resource that has none. -/
def make (here : Local) (resname : String) (d : Features) : Proc TmMad Unit := do
  match (← get).communicator.get resname, Configuration.make_communicator here d with
  | some _, _ => return
  | none, none => throw (Py.keyError resname)
  | none, some communicator =>
    modify fun s => { s with communicator := s.communicator.set resname communicator }

/-- The loop over the resources. A communicator is made when the host is the name of the resource; for
a host of a VO it must be there. -/
def search (here : Local) (host : String) : Dict String Ref → Proc TmMad (Option Communicator)
  | [] => return none
  | (resname, r) :: resources => do
    let d := (← get).heap.deref r
    if d.has "cloud_provider" then search here host resources
    else if Cut.hasPair ':' host.toList then
      match Py.splitPairs ':' host with
      | [name, _] =>
        if resname ≠ name then search here host resources
        else return some (← cached resname)
      | _ => throw "too many values to unpack (expected 2)"
    else if resname ≠ host then search here host resources
    else do
      make here resname d
      return some (← cached resname)

/-- `_update_com`. -/
def update_com (here : Local) (file : File) (host : String) : Proc TmMad (Option Communicator) := do
  reload here file
  search here host (← get).configure.resources

/-- The driver after it was started. -/
def start (file : File) : TmMad := { configure := { init_time := file.mtime } }

end TmMad

end GridWay.Drm4g
