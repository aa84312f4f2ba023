import GridWay.Im.Host
import GridWay.Lib.Scan
import GridWay.Em.Listener

/-!
# The queries of the information manager

`gw_im.c`, `gw_im_actions.c`, `gw_im_listener.c`, `gw_im_mad.c` and `gw_host_pool.c`: on a timer the
information manager asks its drivers for hosts and for reports about hosts, and counts its queries. The
lines of the drivers are the answers. A driver whose process ended is started again.

* `State.gw_im_timer`: the queries are sent.
* `State.gw_im_listener`: a line is read.
* `State.gw_im_mad_reload`: the process of a driver is replaced.
-/

namespace GridWay.Im

/-- What the configuration says, and the tokens that the scanner of the reports finds. -/
structure Conf where
  discoveryInterval : Time
  monitoringInterval : Time
  /-- `max_active_im_queries`. -/
  maxActive : Int
  /-- `number_of_hosts`. -/
  maxHosts : Nat
  /-- The names of the drivers, as the timer goes through them. -/
  imMads : List (List Char)
  /-- `gw_sch_get_host_priority`. -/
  priority : List Char → List Char → Int
  tokens : List Char → List Token

/-- `gw_im_mad_state_t`. -/
inductive MadState where
  | idle | discovering
deriving DecidableEq, Repr

/-- A driver. -/
structure Mad where
  name : List Char
  state : MadState := .idle
  /-- The listener has a pipe to its process. -/
  running : Bool := true
deriving DecidableEq, Repr

/-- A host of the pool. -/
structure PoolHost where
  hostname : List Char
  imMad : List Char
  host : Host

/-- A request that a process got: for its hosts, or for a report about a host. -/
inductive Request where
  | discover (mad : Nat)
  | monitor (mad host : Nat)
deriving DecidableEq, Repr

/-- The driver whose process got a request. -/
def Request.mad : Request → Nat
  | .discover mad => mad
  | .monitor mad _ => mad

/-- The information manager. The hosts of the pool are numbered from 0, and none is ever freed. -/
structure State where
  mads : List Mad
  hosts : List PoolHost := []
  /-- `active_queries`. -/
  active : Int := 0
  lastDiscovery : Time := 0
  lastChecked : Nat := 0
  /-- The requests that the processes of the drivers got and did not answer. -/
  waiting : List Request := []

/-- The tick of the timer, a line of a driver, or the end of its process. The process that writes a line
knows which of its requests it answers. -/
inductive Event where
  | timer (theTime : Time)
  | line (mad : Nat) (text : List Char) (answers : Option Request)
  | reload (mad : Nat) (started : Bool)
deriving DecidableEq, Repr

namespace State

/-- `gw_im_get_mad_by_name`. -/
def get_mad_by_name (s : State) (name : List Char) : Option (Nat × Mad) :=
  (s.mads.findIdx? (·.name = name)).bind fun m => s.mads[m]?.map fun mad => (m, mad)

/-- `gw_host_pool_get_host`. -/
def get_host (s : State) (hostId : Int) : Option PoolHost :=
  if 0 ≤ hostId then s.hosts[hostId.toNat]? else none

/-- A host of the pool changes. -/
def setHost (s : State) (hid : Nat) (host : Host) : State :=
  { s with hosts := s.hosts.modify hid fun h => { h with host } }

/-- The process of a driver is there. -/
def runs (s : State) (m : Nat) : Bool := s.mads[m]?.any (·.running)

/-- `gw_im_mad_discover` and `gw_im_mad_monitor`: a request is written to the process of a driver. -/
def send (s : State) (r : Request) : State :=
  if s.runs r.mad then { s with waiting := s.waiting ++ [r] } else s

/-- `gw_im_discover`. -/
def gw_im_discover (s : State) (name : List Char) : State :=
  match s.get_mad_by_name name with
  | none => s
  | some (m, mad) =>
    if mad.state ≠ .idle then s
    else
      send { s with
        mads := s.mads.set m { mad with state := .discovering }
        active := s.active + 1 } (.discover m)

/-- `gw_im_monitor`. -/
def gw_im_monitor (s : State) (hid : Nat) : State :=
  match s.hosts[hid]? with
  | none => s
  | some h =>
    if h.host.state ≠ .discovered ∧ h.host.state ≠ .monitored then s
    else
      match s.get_mad_by_name h.imMad with
      | none => s
      | some (m, _) =>
        send { s.setHost hid { h.host with state := .monitoring } with active := s.active + 1 }
          (.monitor m hid)

/-- A host is asked for a report when it is time. -/
def check (conf : Conf) (theTime : Time) (s : State) (hid : Nat) : State :=
  match s.hosts[hid]? with
  | none => s
  | some h =>
    if h.host.lastMonitoringTime = 0 ∨
        theTime - h.host.lastMonitoringTime ≥ conf.monitoringInterval then
      gw_im_monitor
        { s.setHost hid { h.host with lastMonitoringTime := theTime } with lastChecked := hid } hid
    else s

/-- The loop over the hosts, from a host on. -/
def checkFrom (conf : Conf) (theTime : Time) (numHosts : Nat) : Nat → Nat → State → State
  | 0, _, s => s
  | n + 1, hid, s =>
    if s.active < conf.maxActive then
      checkFrom conf theTime numHosts n ((hid + 1) % numHosts) (s.check conf theTime hid)
    else s

/-- `gw_host_pool_monitor_hosts`. -/
def gw_host_pool_monitor_hosts (conf : Conf) (theTime : Time) (s : State) : State :=
  let numHosts := s.hosts.length
  if numHosts = 0 then s
  else checkFrom conf theTime numHosts numHosts ((s.lastChecked + 1) % numHosts) s

/-- `gw_im_timer`. -/
def gw_im_timer (conf : Conf) (theTime : Time) (s : State) : State :=
  gw_host_pool_monitor_hosts conf theTime
    (if theTime - s.lastDiscovery ≥ conf.discoveryInterval then
      conf.imMads.foldl gw_im_discover { s with lastDiscovery := theTime }
    else s)

/-- `gw_host_pool_host_allocate` and `gw_host_init`. -/
def gw_host_pool_host_allocate (conf : Conf) (imMad : List Char) (s : State)
    (hostname : List Char) : State :=
  if s.hosts.length < conf.maxHosts then
    { s with
      hosts := s.hosts ++
        [{ hostname, imMad, host := Host.init (conf.priority hostname imMad) }] }
  else s

/-- `gw_host_pool_update`, for one of the names. -/
def updatePool (conf : Conf) (imMad : List Char) (s : State) (hostname : List Char) : State :=
  match s.hosts.findIdx? (·.hostname = hostname) with
  | none => s.gw_host_pool_host_allocate conf imMad hostname
  | some hid => { s with hosts := s.hosts.modify hid fun h => { h with host := h.host.discover } }

/-- `gw_host_pool_update`. -/
def gw_host_pool_update (conf : Conf) (imMad : List Char) (s : State) (hostnames : List Char) :
    State :=
  ((hostnames.splitOn ' ').filter (· ≠ [])).foldl (updatePool conf imMad) s

/-- `gw_host_update`; there is no result when the report leaves the arrays of the host. -/
def gw_host_update (conf : Conf) (s : State) (hostId : Int) (attrs : List Char) : Option State :=
  match s.get_host hostId with
  | none => some s
  | some h => (h.host.update (conf.tokens attrs)).map (s.setHost hostId.toNat)

/-- `gw_host_clear_dynamic_info`. -/
def gw_host_clear_dynamic_info (s : State) (hostId : Int) : State :=
  match s.get_host hostId with
  | none => s
  | some h => s.setHost hostId.toNat h.host.clear_dynamic_info

/-- The fields of a line, which are scanned into buffers of bounded size. -/
def fields (text : List Char) : Option (List (List Char) × Option (List Char)) :=
  Scan.scan 65536 [20, 5, 10] (Scan.cstr text)

/-- The host that a line names, -1 for none. -/
def hostIdOf (word : List Char) : Int := if word.head? = some '-' then -1 else atoi word

/-- A line of a driver with all its fields. -/
def answer (conf : Conf) (s : State) (m : Nat) (action word result info : List Char) :
    Option State :=
  if word.head? ≠ some '-' ∧ (s.get_host (hostIdOf word)).isNone then some s
  else if action = "DISCOVER".toList then
    let s := { s with active := s.active - 1 }
    let s :=
      match s.mads[m]? with
      | some mad =>
        if result = "SUCCESS".toList then s.gw_host_pool_update conf mad.name info else s
      | none => s
    some { s with mads := s.mads.modify m fun mad => { mad with state := .idle } }
  else if action = "MONITOR".toList then
    let s := { s with active := s.active - 1 }
    if result = "SUCCESS".toList then s.gw_host_update conf (hostIdOf word) info
    else some (s.gw_host_clear_dynamic_info (hostIdOf word))
  else some s

/-- `gw_im_listener`, for a line; there is no result when a field leaves its buffer. -/
def gw_im_listener (conf : Conf) (s : State) (m : Nat) (text : List Char) : Option State :=
  if s.runs m then
    (fields text).bind fun (words, info) =>
      match words with
      | [action, word, result] => s.answer conf m action word result (info.getD [])
      | _ => some s
  else some s

/-- `gw_im_mad_reload`: what the process did not answer is lost. -/
def gw_im_mad_reload (s : State) (m : Nat) (started : Bool) : State :=
  if s.runs m then
    { s with
      mads := s.mads.modify m fun mad => { mad with running := started }
      waiting := s.waiting.filter (·.mad ≠ m) }
  else s

/-- What the process answers does not wait any more. -/
def answered (s : State) (answers : Option Request) : State :=
  match answers with
  | some r => { s with waiting := s.waiting.erase r }
  | none => s

/-- A step of the information manager. -/
def step (conf : Conf) (s : State) : Event → Option State
  | .timer theTime => some (s.gw_im_timer conf theTime)
  | .line m text answers => (s.answered answers).gw_im_listener conf m text
  | .reload m started => some (s.gw_im_mad_reload m started)

/-- The state after a list of events. -/
def run (conf : Conf) (s : State) (evs : List Event) : Option State := evs.foldlM (step conf) s

/-- The information manager when its drivers are loaded. -/
def start (names : List (List Char)) : State where
  mads := names.map fun name => { name }

end State

end GridWay.Im
