import GridWay.Job.Basic
import GridWay.Lib.Dict
import GridWay.Lib.Machine

/-!
# Hosts and their reports

`gw_host.c`, `gw_host_var.c`, `gw_host_pool.c` and `gw_host_update_syntax.y`: a host is made when it is
discovered, and a report about it is a list of assignments that change its variables one by one. Strings
that are `NULL` are `none`; a write beyond the arrays of a host is no result.

* `Host.update`: a report changes a host.
* `Host.clear_dynamic_info`: a host could not be monitored.
* `Host.step`: what happens to a host.
-/

namespace GridWay.Im

/-- `GW_HOST_MAX_QUEUES`. -/
def maxQueues : Nat := 67

/-- `GW_HOST_MAX_GENVARS`. -/
def maxGenvars : Nat := 134

/-- The variables of a host (`gw_host_var_t`). -/
inductive Var where
  | hostname | arch | osName | osVersion | cpuModel | cpuMhz | cpuFree | cpuSmp | nodecount
  | sizeMemMb | freeMemMb | sizeDiskMb | freeDiskMb | forkName | lrmsName | lrmsType
  | queueName | queueNodecount | queueFreenodecount | queueMaxtime | queueMaxcputime
  | queueMaxcount | queueMaxrunningjobs | queueMaxjobsinqueue | queueStatus | queueDispatchtype
  | queuePriority
deriving DecidableEq, Repr

namespace Var

/-- `gw_host_is_var_int`. -/
def isInt : Var → Bool
  | .cpuMhz | .cpuFree | .cpuSmp | .nodecount | .sizeMemMb | .freeMemMb | .sizeDiskMb
  | .freeDiskMb | .queueNodecount | .queueFreenodecount | .queueMaxtime | .queueMaxcputime
  | .queueMaxcount | .queueMaxrunningjobs | .queueMaxjobsinqueue => true
  | _ => false

/-- The variable is an array over the queues. -/
def isQueue : Var → Bool
  | .queueName | .queueNodecount | .queueFreenodecount | .queueMaxtime | .queueMaxcputime
  | .queueMaxcount | .queueMaxrunningjobs | .queueMaxjobsinqueue | .queueStatus
  | .queueDispatchtype | .queuePriority => true
  | _ => false

/-- The variables that `gw_host_clear_dynamic_info` clears. -/
def isDynamic : Var → Bool
  | .cpuFree | .nodecount | .freeMemMb | .sizeMemMb | .freeDiskMb | .sizeDiskMb | .forkName
  | .lrmsName | .lrmsType | .queueStatus | .queueFreenodecount | .queueMaxrunningjobs
  | .queueMaxjobsinqueue => true
  | _ => false

end Var

/-- The value of a variable. -/
inductive Value where
  | int (n : Int)
  | str (s : Option String)
deriving DecidableEq, Repr

/-- The value of a variable that is not set. -/
def Var.unset (v : Var) : Value := if v.isInt then .int 0 else .str none

/-- A variable has values of its kind; the name of a host does not change. -/
def Var.takes (v : Var) : Value → Bool
  | .int _ => v.isInt
  | .str _ => !v.isInt && v != .hostname

/-- `gw_host_state_t`. -/
inductive HostState where
  | unknown | discovered | monitoring | monitored
deriving DecidableEq, Repr

/-- A host. A variable that is no array has its value at index 0. -/
structure Host where
  fixedPriority : Int
  vars : Var → Nat → Value := fun v _ => v.unset
  genvarInt : List (String × Int) := []
  genvarStr : List (String × Option String) := []
  state : HostState := .discovered
  lastMonitoringTime : Time := 0

/-- A token of a report. -/
inductive Token where
  | var (v : Var)
  | generic (name : String)
  | int (n : Int)
  | str (s : Option String)
  | sym (c : Char)
deriving DecidableEq, Repr

/-- What a report assigns to: a variable, or a generic one that is known by its name. -/
inductive Target where
  | var (v : Var)
  | generic (name : String)
deriving DecidableEq, Repr

/-- What a report assigns: a number, a string or nothing. -/
inductive Given where
  | int (n : Int)
  | str (s : Option String)
  | null
deriving DecidableEq, Repr

/-- An assignment of a report. The index of a variable without one is -1. -/
structure Assign where
  target : Target
  index : Int
  given : Given
deriving DecidableEq, Repr

/-- The target that a token names. -/
def Token.target : Token → Option Target
  | .var v => some (.var v)
  | .generic name => some (.generic name)
  | _ => none

/-- The right side of an assignment with the tokens after it. -/
def rightSide : List Token → Given × List Token
  | .int n :: rest => (.int n, rest)
  | .str s :: rest => (.str s, rest)
  | rest => (.null, rest)

/-- The next assignment of a report with the tokens after it. -/
def assignment : List Token → Option (Assign × List Token)
  | t :: .sym '=' :: rest =>
    t.target.map fun target =>
      let (given, rest) := rightSide rest
      ({ target, index := -1, given }, rest)
  | t :: .sym '[' :: .int index :: .sym ']' :: .sym '=' :: rest =>
    t.target.map fun target =>
      let (given, rest) := rightSide rest
      ({ target, index, given }, rest)
  | _ => none

/-- The assignments of a report up to a syntax error, and whether there was none. -/
def parseFuel : Nat → List Token → List Assign × Bool
  | _, [] => ([], true)
  | 0, _ => ([], false)
  | fuel + 1, tokens =>
    match assignment tokens with
    | none => ([], false)
    | some (a, rest) =>
      let (as, ok) := parseFuel fuel rest
      (a :: as, ok)

/-- `host_update_parse`: a report is read to its end or to a syntax error. -/
def parse (tokens : List Token) : List Assign × Bool := parseFuel tokens.length tokens

/-- The name of a generic variable in the tables of a host. -/
def genvarName (var : String) (index : Int) : String :=
  if index = -1 then String.ofList (var.toList.take 1023)
  else String.ofList ((var ++ "[" ++ toString index ++ "]").toList.take 1022)

/-- What an assignment gives to a variable. -/
def Given.value (given : Given) (v : Var) : Value :=
  match given with
  | .int n => .int n
  | .str s => .str s
  | .null => v.unset

namespace Host

/-- A variable gets a value. -/
def setVar (host : Host) (v : Var) (i : Nat) (value : Value) : Host :=
  { host with vars := fun v' i' => if v' = v ∧ i' = i then value else host.vars v' i' }

/-- `gw_host_set_var_int` and `gw_host_set_var_str`: a value of the wrong kind and an index that is too
large are ignored, and so is a value for the name of the host; an array has no index below 0. -/
def set_var (host : Host) (v : Var) (index : Int) (value : Value) : Option Host :=
  if index ≥ maxQueues ∨ v.takes value = false then some host
  else if v.isQueue then
    if index < 0 then none else some (host.setVar v index.toNat value)
  else some (host.setVar v 0 value)

/-- A value is stored in a table of generic variables, when there is room. -/
def store {ν : Type} (table : List (String × ν)) (name : String) (value : ν) :
    Option (List (String × ν)) :=
  match table.findIdx? (·.1 = name) with
  | some p => some (table.set p (name, value))
  | none => if table.length < maxGenvars then some (table ++ [(name, value)]) else none

/-- `gw_host_set_genvar_int`, `gw_host_set_genvar_str` and `gw_host_set_genvar_null`. Nothing is
assigned to the first slot with the name, and to none when there is no such slot. -/
def set_genvar (host : Host) (var : String) (index : Int) (given : Given) : Option Host :=
  let name := genvarName var index
  if index ≥ maxQueues then some host
  else
    match given with
    | .int n => (store host.genvarInt name n).map fun table => { host with genvarInt := table }
    | .str s => (store host.genvarStr name s).map fun table => { host with genvarStr := table }
    | .null =>
      match host.genvarInt.findIdx? (·.1 = name), host.genvarStr.findIdx? (·.1 = name) with
      | some p, some q =>
        if p ≤ q then some { host with genvarInt := host.genvarInt.set p (name, 0) }
        else some { host with genvarStr := host.genvarStr.set q (name, none) }
      | some p, none => some { host with genvarInt := host.genvarInt.set p (name, 0) }
      | none, some q => some { host with genvarStr := host.genvarStr.set q (name, none) }
      | none, none => some host

/-- An assignment is done. -/
def assign (host : Host) (a : Assign) : Option Host :=
  match a.target with
  | .var v => host.set_var v a.index (a.given.value v)
  | .generic name => host.set_genvar name a.index a.given

/-- `gw_host_update_attr` and `gw_host_update`: the assignments of a report are done up to a syntax
error, after which the host is unknown. -/
def update (host : Host) (attrs : List Token) : Option Host :=
  let (as, ok) := parse attrs
  (as.foldlM assign host).map fun host =>
    { host with state := if ok then .monitored else .unknown }

/-- `gw_host_clear_dynamic_info`. -/
def clear_dynamic_info (host : Host) : Host :=
  { host with
    fixedPriority := 0
    vars := fun v i => if v.isDynamic then v.unset else host.vars v i
    state := .unknown
    lastMonitoringTime := 0 }

/-- `gw_host_pool_update`, for a host that is already in the pool. -/
def discover (host : Host) : Host :=
  if host.state = .unknown then { host with state := .discovered } else host

/-- `gw_im_monitor`, with the time that `gw_host_pool_monitor_hosts` notes before. -/
def monitor (host : Host) (theTime : Time) : Host :=
  let host := { host with lastMonitoringTime := theTime }
  if host.state = .discovered ∨ host.state = .monitored then { host with state := .monitoring }
  else host

/-- What happens to a host: it is found again, a report is asked for, a report comes, or none does. -/
inductive Event where
  | discover
  | monitor (theTime : Time)
  | success (attrs : List Token)
  | failure
deriving DecidableEq, Repr

/-- A step of a host. -/
def step (host : Host) : Event → Option Host
  | .discover => some host.discover
  | .monitor theTime => some (host.monitor theTime)
  | .success attrs => host.update attrs
  | .failure => some host.clear_dynamic_info

/-- `gw_host_init`, with the priority that the configuration gives to the host. -/
def init (priority : Int) : Host where
  fixedPriority := priority

end Host

end GridWay.Im
