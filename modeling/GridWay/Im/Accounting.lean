import GridWay.Im.Query
import GridWay.Lib.Ledger
import GridWay.Mad.Line
import Mathlib.Logic.Relation

/-!
# The queries are accounted

* `State.Accounted`: the counter is the number of the requests that wait for an answer, and what is
  marked as asked for does wait.
* `State.Proper`, `State.Orderly`: a line is the answer that its process means it to be; a step loses no
  request.
* `State.accounted_of_orderly`: orderly runs keep the accounts, and can be brought to rest.
* `State.query_lost`: runs that are not orderly.
-/

namespace GridWay.Im.State

/-- The counter is right, and every driver and host that is marked waits for an answer. -/
structure Accounted (s : State) : Prop where
  active : s.active = s.waiting.length
  discovering : ∀ m mad, s.mads[m]? = some mad → mad.state = .discovering → .discover m ∈ s.waiting
  monitoring : ∀ hid h, s.hosts[hid]? = some h → h.host.state = .monitoring →
    ∃ m, .monitor m hid ∈ s.waiting

/-- Nothing is asked for. -/
structure AtRest (s : State) : Prop where
  active : s.active = 0
  idle : ∀ mad ∈ s.mads, mad.state = .idle
  settled : ∀ h ∈ s.hosts, h.host.state ≠ .monitoring

/-- The listener takes no notice of a line. -/
def Ignores (s : State) (m : Nat) (text : List Char) : Prop :=
  s.runs m = false ∨ ∃ words info, fields text = some (words, info) ∧
    ∀ action word result, words = [action, word, result] →
      word.head? ≠ some '-' ∧ (s.get_host (hostIdOf word)).isNone ∨
        action ≠ "DISCOVER".toList ∧ action ≠ "MONITOR".toList

/-- A line is the answer to a request of its driver that the process means, or no answer, and a report
stays inside the arrays of its host. -/
inductive Proper (conf : Conf) (s : State) (m : Nat) (text : List Char) : Option Request → Prop where
  | none (ignores : s.Ignores m text) : Proper conf s m text none
  | discover (word result : List Char) (info : Option (List Char))
    (fields : fields text = some (["DISCOVER".toList, word, result], info))
    (named : word.head? = some '-' ∨ (s.get_host (hostIdOf word)).isSome)
    (waits : .discover m ∈ s.waiting) : Proper conf s m text (some (.discover m))
  | monitor (word result : List Char) (info : Option (List Char)) (hid : Nat)
    (fields : fields text = some (["MONITOR".toList, word, result], info))
    (named : hostIdOf word = hid)
    (fits : result = "SUCCESS".toList →
      ∀ h, s.hosts[hid]? = some h → (h.host.update (conf.tokens (info.getD []))).isSome)
    (waits : .monitor m hid ∈ s.waiting) : Proper conf s m text (some (.monitor m hid))

/-- A step loses no request: every driver has its process when the timer ticks, no process ends before it
has answered, and the lines are what the processes mean them to be. -/
def Orderly (conf : Conf) (s : State) : Event → Prop
  | .timer _ => ∀ mad ∈ s.mads, mad.running = true
  | .line m text answers => s.Proper conf m text answers
  | .reload m _ => ∀ r ∈ s.waiting, r.mad ≠ m

/-- A run whose steps are orderly leads from one state to the other. -/
def Leads (conf : Conf) : State → State → Prop :=
  Relation.ReflTransGen fun s s' => ∃ e, s.Orderly conf e ∧ s.step conf e = some s'

/-- The state of a driver. -/
def stateOf (s : State) (m : Nat) : Option MadState := s.mads[m]?.map (·.state)

/-- The state of a host with the name of its driver. -/
def hostView (s : State) (hid : Nat) : Option (HostState × List Char) :=
  s.hosts[hid]?.map fun h => (h.host.state, h.imMad)

/-- The driver with a name. -/
def indexOf (s : State) (name : List Char) : Option Nat := s.mads.findIdx? (·.name = name)

/-- What the drivers and the hosts are marked for. -/
def asked (s : State) : Request → Prop
  | .discover m => s.stateOf m = some .discovering
  | .monitor m hid =>
    ∃ name, s.hostView hid = some (.monitoring, name) ∧ m = (s.indexOf name).getD 0

/-- The accounts of the information manager. -/
def ledger : Ledger State Request where
  count := active
  waiting := waiting
  asked := asked

lemma stateOf_states {s s' : State} (same : s'.mads.map (·.state) = s.mads.map (·.state)) :
    s'.stateOf = s.stateOf := by
  funext m
  rw [stateOf, stateOf, ← List.getElem?_map, ← List.getElem?_map, same]

/-- The names of the drivers, and which of them have a process. -/
def drivers (s : State) : List (List Char × Bool) := s.mads.map fun mad => (mad.name, mad.running)

variable {conf : Conf} {s s' : State} {m hid : Nat} {name : List Char} {host : Host} {r : Request}

/-- The drivers keep their places when they keep their names. -/
lemma indexOf_names (names : s'.mads.map (·.name) = s.mads.map (·.name)) :
    s'.indexOf = s.indexOf := by
  funext name
  have index (s : State) : s.indexOf name = (s.mads.map (·.name)).findIdx? (· = name) := by
    rw [List.findIdx?_map]
    rfl
  rw [index, index, names]

lemma indexOf_drivers (same : s'.drivers = s.drivers) : s'.indexOf = s.indexOf := by
  apply indexOf_names
  have names := congrArg (List.map Prod.fst) same
  rw [drivers, drivers, List.map_map, List.map_map] at names
  exact names

lemma runs_drivers (s : State) (m : Nat) : s.runs m = s.drivers[m]?.any (·.2) := by
  rw [drivers, runs, List.getElem?_map, Option.any_map]

lemma asked_discover (state : s'.stateOf m = s.stateOf m) :
    s'.asked (.discover m) ↔ s.asked (.discover m) := by
  rw [asked, asked, state]

lemma asked_monitor (index : s'.indexOf = s.indexOf)
    (host : ∀ name, s'.hostView hid = some (.monitoring, name) ↔
      s.hostView hid = some (.monitoring, name)) :
    s'.asked (.monitor m hid) ↔ s.asked (.monitor m hid) := by
  simp only [asked, host, index]

/-- The marks depend on the states of the drivers and on which hosts are monitored. -/
lemma asked_same (index : s'.indexOf = s.indexOf) (states : s'.stateOf = s.stateOf)
    (hosts : ∀ hid name, s'.hostView hid = some (.monitoring, name) ↔
      s.hostView hid = some (.monitoring, name)) (r : Request) :
    s'.asked r ↔ s.asked r := by
  cases r with
  | discover m => exact asked_discover (congrFun states m)
  | monitor m hid => exact asked_monitor index (hosts hid)

/-- A change that leaves the accounts alone. -/
structure Quiet (conf : Conf) (s s' : State) : Prop where
  active : s'.active = s.active
  waiting : s'.waiting = s.waiting
  mads : s'.mads = s.mads
  hosts : ∀ hid name, s'.hostView hid = some (.monitoring, name) ↔
    s.hostView hid = some (.monitoring, name)
  room : s.hosts.length ≤ conf.maxHosts → s'.hosts.length ≤ conf.maxHosts

lemma Quiet.refl (conf : Conf) (s : State) : Quiet conf s s := ⟨rfl, rfl, rfl, fun _ _ => .rfl, id⟩

lemma Quiet.trans {s'' : State} (one : Quiet conf s s') (two : Quiet conf s' s'') :
    Quiet conf s s'' where
  active := two.active.trans one.active
  waiting := two.waiting.trans one.waiting
  mads := two.mads.trans one.mads
  hosts hid name := (two.hosts hid name).trans (one.hosts hid name)
  room := two.room ∘ one.room

/-- The accounts are kept, what waits has a process, and the pool has no more hosts than it can. -/
structure Sound (conf : Conf) (s : State) : Prop where
  kept : ledger.Kept s
  running : ∀ r ∈ s.waiting, s.runs r.mad = true
  room : s.hosts.length ≤ conf.maxHosts

/-- What a part of the information manager does: a move of the accounts, for a driver that has a process.
-/
structure Turn (conf : Conf) (s s' : State) : Prop where
  move : ledger.Move s s'
  drivers : s'.drivers = s.drivers
  waits : ∀ r ∈ s'.waiting, r ∈ s.waiting ∨ s.runs r.mad = true
  room : s.hosts.length ≤ conf.maxHosts → s'.hosts.length ≤ conf.maxHosts

lemma Quiet.drivers (quiet : Quiet conf s s') : s'.drivers = s.drivers :=
  congrArg (List.map _) quiet.mads

lemma Quiet.turn (quiet : Quiet conf s s') : Turn conf s s' where
  move := .same quiet.active quiet.waiting <| asked_same (indexOf_drivers quiet.drivers)
    (funext fun m => congrArg (fun mads : List Mad => mads[m]?.map Mad.state) quiet.mads) quiet.hosts
  drivers := quiet.drivers
  waits _ mem := .inl (quiet.waiting ▸ mem)
  room := quiet.room

lemma Turn.sound (turn : Turn conf s s') (sound : s.Sound conf) : s'.Sound conf where
  kept := turn.move.kept sound.kept
  running r mem := by
    rw [runs_drivers, turn.drivers, ← runs_drivers]
    obtain before | runs := turn.waits r mem
    · exact sound.running r before
    · exact runs
  room := turn.room sound.room

/-- The parts of a step, one after the other. -/
abbrev Turns (conf : Conf) : State → State → Prop := Relation.ReflTransGen (Turn conf)

lemma Turns.drivers (turns : Turns conf s s') : s'.drivers = s.drivers := by
  induction turns with
  | refl => rfl
  | tail _ turn ih => exact turn.drivers.trans ih

lemma Turns.sound (turns : Turns conf s s') (sound : s.Sound conf) : s'.Sound conf := by
  induction turns with
  | refl => exact sound
  | tail _ turn ih => exact turn.sound ih

lemma setHost_hostView (s : State) (hid : Nat) (host : Host) (hid' : Nat) :
    (s.setHost hid host).hostView hid' =
      if hid = hid' then (s.hostView hid').map fun v => (host.state, v.2) else s.hostView hid' := by
  rw [hostView, setHost]
  dsimp only
  rw [List.getElem?_modify, Option.map_eq_map, hostView, Option.map_map, Option.map_map]
  by_cases here : hid = hid'
  · rw [if_pos here]
    simp only [Function.comp_def, here, if_true]
  · rw [if_neg here]
    simp only [Function.comp_def, here, if_false]

lemma setHost_length : (s.setHost hid host).hosts.length = s.hosts.length :=
  List.length_modify ..

/-- A host that changes without a mark, and without losing one. -/
lemma setHost_monitoring {h : PoolHost} (found : s.hosts[hid]? = some h)
    (same : host.state = .monitoring ↔ h.host.state = .monitoring) (hid' : Nat)
    (name : List Char) :
    (s.setHost hid host).hostView hid' = some (.monitoring, name) ↔
      s.hostView hid' = some (.monitoring, name) := by
  rw [setHost_hostView]
  by_cases here : hid = hid'
  · subst here
    rw [if_pos rfl, hostView, found]
    simp only [Option.map_some, Option.some.injEq, Prod.mk.injEq, same]
  · rw [if_neg here]

lemma get_mad_by_name_some {mad : Mad} (found : s.get_mad_by_name name = some (m, mad)) :
    s.indexOf name = some m ∧ s.mads[m]? = some mad := by
  rw [get_mad_by_name] at found
  obtain ⟨m', index, there⟩ := Option.bind_eq_some_iff.1 found
  obtain ⟨mad', here, eq⟩ := Option.map_eq_some_iff.1 there
  obtain ⟨rfl, rfl⟩ := Prod.mk.inj eq
  exact ⟨index, here⟩

lemma runs_of_all (running : ∀ d ∈ s.drivers, d.2 = true) {mad : Mad}
    (there : s.mads[m]? = some mad) : s.runs m = true := by
  rw [runs, there]
  exact running _ (List.mem_map_of_mem (List.mem_of_getElem? there))

/-- The states of the drivers when one changes. -/
lemma stateOf_set {mad mad' : Mad} (there : s.mads[m]? = some mad) (m' : Nat) :
    ({ s with mads := s.mads.set m mad' } : State).stateOf m' =
      if m' = m then some mad'.state else s.stateOf m' := by
  obtain ⟨inside, -⟩ := List.getElem?_eq_some_iff.1 there
  rw [stateOf]
  dsimp only
  by_cases here : m' = m
  · subst here
    rw [if_pos rfl, List.getElem?_set_self inside]
    rfl
  · rw [if_neg here, List.getElem?_set_ne (Ne.symm here)]
    rfl

/-- A driver whose state changes. -/
lemma drivers_set {mad : Mad} (there : s.mads[m]? = some mad) (state : MadState) :
    ({ s with mads := s.mads.set m { mad with state } } : State).drivers = s.drivers := by
  obtain ⟨inside, rfl⟩ := List.getElem?_eq_some_iff.1 there
  rw [drivers, drivers, List.map_set, ← List.getElem_map (fun mad : Mad => (mad.name, mad.running))
    (h := by simpa using inside)]
  exact List.set_getElem_self _

/-- A request is sent after its mark is set. -/
lemma send_turn {marked : State} (new : ¬s.asked r) (runs : s.runs r.mad = true)
    (active : marked.active = s.active + 1) (waiting : marked.waiting = s.waiting)
    (drivers : marked.drivers = s.drivers) (hosts : marked.hosts.length = s.hosts.length)
    (asked : ∀ r', marked.asked r' ↔ s.asked r' ∨ r' = r) : Turn conf s (marked.send r) := by
  have sent : marked.send r = { marked with waiting := marked.waiting ++ [r] } := by
    rw [send, runs_drivers, drivers, ← runs_drivers]
    exact if_pos runs
  rw [sent]
  have waiting : marked.waiting ++ [r] = s.waiting ++ [r] := congrArg (· ++ [r]) waiting
  refine ⟨.ask r new active waiting asked, drivers, fun r' mem => ?_, fun room => hosts.trans_le room⟩
  rw [waiting, List.mem_append, List.mem_singleton] at mem
  obtain before | rfl := mem
  · exact .inl before
  · exact .inr runs

/-- A driver is asked for its hosts. -/
lemma discover_turn (running : ∀ d ∈ s.drivers, d.2 = true) (name : List Char) :
    Turn conf s (s.gw_im_discover name) := by
  rw [gw_im_discover]
  cases found : s.get_mad_by_name name with
  | none => exact (Quiet.refl conf s).turn
  | some both =>
    obtain ⟨m, mad⟩ := both
    obtain ⟨index, there⟩ := get_mad_by_name_some found
    dsimp only
    by_cases busy : mad.state ≠ .idle
    · rw [if_pos busy]
      exact (Quiet.refl conf s).turn
    · rw [if_neg busy]
      have idle : s.stateOf m = some .idle := by
        rw [stateOf, there, Option.map_some, not_not.1 busy]
      have drivers := drivers_set there .discovering
      refine send_turn ?_ (runs_of_all running there) rfl rfl drivers rfl fun r' => ?_
      · rw [asked, idle]
        exact fun same => nomatch same
      · cases r' with
        | discover m' =>
          rw [Request.discover.injEq]
          by_cases here : m' = m
          · subst here
            refine iff_of_true ((stateOf_set there m').trans ?_) (.inr rfl)
            rw [if_pos rfl]
          · rw [or_iff_left here]
            refine asked_discover ((stateOf_set there m').trans ?_)
            rw [if_neg here]
        | monitor m' hid =>
          rw [or_iff_left fun same => nomatch same]
          exact asked_monitor (indexOf_drivers drivers) fun name => Iff.rfl

/-- The hosts whose drivers are asked for a report. -/
lemma monitor_turn (running : ∀ d ∈ s.drivers, d.2 = true) (hid : Nat) :
    Turn conf s (s.gw_im_monitor hid) := by
  rw [gw_im_monitor]
  cases there : s.hosts[hid]? with
  | none => exact (Quiet.refl conf s).turn
  | some h =>
    dsimp only
    by_cases busy : h.host.state ≠ .discovered ∧ h.host.state ≠ .monitored
    · rw [if_pos busy]
      exact (Quiet.refl conf s).turn
    · rw [if_neg busy]
      cases found : s.get_mad_by_name h.imMad with
      | none => exact (Quiet.refl conf s).turn
      | some both =>
        obtain ⟨m, mad⟩ := both
        obtain ⟨index, known⟩ := get_mad_by_name_some found
        have free : h.host.state ≠ .monitoring := by
          intro waits
          rw [waits] at busy
          exact busy ⟨nofun, nofun⟩
        have view : s.hostView hid = some (h.host.state, h.imMad) := by
          rw [hostView, there]
          rfl
        refine send_turn ?_ (runs_of_all running known) rfl rfl rfl setHost_length fun r' => ?_
        · rintro ⟨name, marked, -⟩
          rw [view] at marked
          exact free (Prod.mk.inj (Option.some.inj marked)).1
        · cases r' with
          | discover m' =>
            rw [or_iff_left fun same => nomatch same]
            exact Iff.rfl
          | monitor m' hid' =>
            rw [Request.monitor.injEq]
            by_cases here : hid = hid'
            · subst here
              have marked := setHost_hostView s hid { h.host with state := .monitoring } hid
              rw [if_pos rfl, view, Option.map_some] at marked
              rw [or_iff_right, and_iff_left rfl]
              · refine ⟨?_, fun same => ⟨h.imMad, marked, ?_⟩⟩
                · rintro ⟨name, named, rfl⟩
                  have same := Option.some.inj (marked.symm.trans named)
                  rw [← (Prod.mk.inj same).2]
                  exact congrArg (Option.getD · 0) index
                · exact same.trans (congrArg (Option.getD · 0) index).symm
              · rintro ⟨name, waits, -⟩
                rw [view] at waits
                exact free (Prod.mk.inj (Option.some.inj waits)).1
            · rw [or_iff_left fun same => here same.2.symm]
              have view' := setHost_hostView s hid { h.host with state := .monitoring } hid'
              rw [if_neg here] at view'
              exact asked_monitor rfl fun name => Eq.congr_left view'

/-- A host is checked. -/
lemma check_turns (running : ∀ d ∈ s.drivers, d.2 = true) (theTime : Time) (hid : Nat) :
    Turns conf s (s.check conf theTime hid) := by
  rw [check]
  cases there : s.hosts[hid]? with
  | none => exact .refl
  | some h =>
    dsimp only
    split
    · have noted : Quiet conf s
          { s.setHost hid { h.host with lastMonitoringTime := theTime } with lastChecked := hid } :=
        ⟨rfl, rfl, rfl, setHost_monitoring there Iff.rfl, setHost_length.trans_le⟩
      refine .tail (.single noted.turn) (monitor_turn ?_ hid)
      rw [noted.drivers]
      exact running
    · exact .refl

lemma checkFrom_turns (theTime : Time) (numHosts n : Nat) (hid : Nat)
    (running : ∀ d ∈ s.drivers, d.2 = true) :
    Turns conf s (s.checkFrom conf theTime numHosts n hid) := by
  induction n generalizing s hid with
  | zero => exact .refl
  | succ n ih =>
    rw [checkFrom]
    split
    · have first : Turns conf s _ := check_turns running theTime hid
      refine first.trans (ih _ ?_)
      rw [first.drivers]
      exact running
    · exact .refl

lemma discovers_turns (names : List (List Char)) (running : ∀ d ∈ s.drivers, d.2 = true) :
    Turns conf s (names.foldl gw_im_discover s) := by
  induction names generalizing s with
  | nil => exact .refl
  | cons name names ih =>
    have first : Turn conf s _ := discover_turn running name
    refine .head first (ih ?_)
    rw [first.drivers]
    exact running

lemma monitor_hosts_turns (running : ∀ d ∈ s.drivers, d.2 = true) (theTime : Time) :
    Turns conf s (s.gw_host_pool_monitor_hosts conf theTime) := by
  rw [gw_host_pool_monitor_hosts]
  split
  · exact .refl
  · exact checkFrom_turns theTime _ _ _ running

/-- A tick of the timer sends requests and marks what it asks for. -/
lemma timer_turns (running : ∀ d ∈ s.drivers, d.2 = true) (theTime : Time) :
    Turns conf s (s.gw_im_timer conf theTime) := by
  have discovered : Turns conf s
      (if theTime - s.lastDiscovery ≥ conf.discoveryInterval then
        conf.imMads.foldl gw_im_discover { s with lastDiscovery := theTime }
      else s) := by
    split
    · have noted : Quiet conf s { s with lastDiscovery := theTime } :=
        ⟨rfl, rfl, rfl, fun _ _ => .rfl, id⟩
      exact .head noted.turn (discovers_turns conf.imMads running)
    · exact .refl
  refine discovered.trans (monitor_hosts_turns ?_ theTime)
  rw [discovered.drivers]
  exact running

/-- Finding a host again leaves it marked or not. -/
lemma discover_monitoring (host : Host) :
    host.discover.state = .monitoring ↔ host.state = .monitoring := by
  rw [Host.discover]
  split
  · next unknown =>
    rw [unknown]
    exact iff_of_false (fun same => nomatch same) fun same => nomatch same
  · exact Iff.rfl

lemma updatePool_quiet (imMad hostname : List Char) :
    Quiet conf s (s.updatePool conf imMad hostname) := by
  rw [updatePool]
  cases found : s.hosts.findIdx? (·.hostname = hostname) with
  | none =>
    dsimp only
    rw [gw_host_pool_host_allocate]
    split
    · next room =>
      refine ⟨rfl, rfl, rfl, fun hid name => ?_, fun _ => ?_⟩
      · rw [hostView, hostView, List.getElem?_append]
        split
        · exact Iff.rfl
        · next outside =>
          rw [List.getElem?_eq_none (Nat.le_of_not_lt outside)]
          refine iff_of_false ?_ (fun none => nomatch none)
          cases hid - s.hosts.length with
          | zero => exact fun same => nomatch same
          | succ n => exact fun none => nomatch none
      · rw [List.length_append]
        exact room
    · exact .refl conf s
  | some hid =>
    obtain ⟨inside, -⟩ := List.findIdx?_eq_some_iff_getElem.1 found
    have there := List.getElem?_eq_getElem inside
    have same : s.hosts.modify hid (fun h => { h with host := h.host.discover }) =
        (s.setHost hid s.hosts[hid].host.discover).hosts := by
      refine List.ext_getElem? fun i => ?_
      rw [setHost, List.getElem?_modify, List.getElem?_modify]
      by_cases here : hid = i
      · rw [← here, there]
        rfl
      · simp only [here, if_false]
    dsimp only
    rw [same]
    exact ⟨rfl, rfl, rfl, setHost_monitoring there (discover_monitoring _), setHost_length.trans_le⟩

lemma pool_update_quiet (conf : Conf) (imMad hostnames : List Char) :
    Quiet conf s (s.gw_host_pool_update conf imMad hostnames) := by
  rw [gw_host_pool_update]
  generalize (hostnames.splitOn ' ').filter (· ≠ []) = names
  induction names generalizing s with
  | nil => exact .refl conf s
  | cons name names ih => exact (updatePool_quiet imMad name).trans ih

lemma map_modify_same {α β : Type} {f : α → α} {g : α → β} (same : ∀ a, g (f a) = g a) (as : List α)
    (i : Nat) : (as.modify i f).map g = as.map g := by
  refine List.ext_getElem? fun j => ?_
  rw [List.getElem?_map, List.getElem?_map, List.getElem?_modify]
  cases as[j]? with
  | none => rfl
  | some a =>
    by_cases here : i = j
    · simp only [here, if_true, Option.map_eq_map, Option.map_some, same]
    · simp only [here, if_false, Option.map_eq_map, Option.map_some]

/-- A driver is not asked for its hosts any more. -/
lemma idle_turn (waits : .discover m ∈ s.waiting)
    (quiet : Quiet conf
      { s with active := s.active - 1, waiting := s.waiting.erase (.discover m) } s') :
    Turn conf s { s' with mads := s'.mads.modify m fun mad => { mad with state := .idle } } := by
  have drivers : State.drivers
      { s' with mads := s'.mads.modify m fun mad => { mad with state := .idle } } = s.drivers := by
    rw [← show s'.drivers = s.drivers from quiet.drivers]
    rw [State.drivers, map_modify_same]
    · rfl
    · exact fun _ => rfl
  refine ⟨.answer (.discover m) waits quiet.active quiet.waiting fun r' => ?_, drivers,
    fun r' mem => .inl (List.mem_of_mem_erase (quiet.waiting ▸ mem)), quiet.room⟩
  cases r' with
  | discover m' =>
    rw [ne_eq, Request.discover.injEq]
    have state : State.stateOf
        { s' with mads := s'.mads.modify m fun mad => { mad with state := .idle } } m' =
          if m = m' then (s.stateOf m').map fun _ => .idle else s.stateOf m' := by
      rw [stateOf]
      dsimp only
      rw [List.getElem?_modify, Option.map_eq_map, quiet.mads, stateOf]
      cases s.mads[m']? with
      | none => exact (ite_self _).symm
      | some mad => split <;> rfl
    by_cases here : m = m'
    · subst here
      rw [if_pos rfl] at state
      refine iff_of_false (fun marked => ?_) fun both => both.2 rfl
      have idle := state.symm.trans marked
      cases none : s.stateOf m with
      | none =>
        rw [none] at idle
        cases idle
      | some before =>
        rw [none] at idle
        cases idle
    · rw [if_neg here] at state
      rw [and_iff_left (Ne.symm here)]
      exact asked_discover state
  | monitor m' hid =>
    rw [and_iff_left fun same => nomatch same]
    exact asked_monitor (indexOf_drivers drivers) (quiet.hosts hid)

/-- What a driver found. -/
lemma answer_discover {word result info : List Char} (waits : .discover m ∈ s.waiting)
    (named : word.head? = some '-' ∨ (s.get_host (hostIdOf word)).isSome) :
    ∃ s', (s.answered (some (.discover m))).answer conf m "DISCOVER".toList word result info = some s' ∧
      Turn conf s s' := by
  have known : ¬(word.head? ≠ some '-' ∧
      ((s.answered (some (.discover m))).get_host (hostIdOf word)).isNone) := by
    rintro ⟨plain, none⟩
    obtain dash | some := named
    · exact plain dash
    · exact Option.isSome_iff_ne_none.1 some (Option.isNone_iff_eq_none.1 none)
  rw [answer, if_neg known, if_pos rfl]
  refine ⟨_, rfl, idle_turn waits ?_⟩
  dsimp only
  split
  · split
    · exact pool_update_quiet ..
    · exact .refl conf _
  · exact .refl conf _

/-- A host is not asked for a report any more. -/
lemma unmark_turn {h : PoolHost} (kept : ledger.Kept s) (waits : .monitor m hid ∈ s.waiting)
    (there : s.hosts[hid]? = some h) (done : host.state ≠ .monitoring) :
    Turn conf s
      (State.setHost { s with
        active := s.active - 1
        waiting := s.waiting.erase (.monitor m hid) } hid host) := by
  have marked := (kept.asked (.monitor m hid)).2 waits
  refine ⟨.answer (.monitor m hid) waits rfl rfl fun r' => ?_, rfl,
    fun r' mem => .inl (List.mem_of_mem_erase mem), setHost_length.trans_le⟩
  cases r' with
  | discover m' =>
    rw [and_iff_left fun same => nomatch same]
    exact Iff.rfl
  | monitor m' hid' =>
    rw [ne_eq, Request.monitor.injEq]
    have view := setHost_hostView s hid host hid'
    by_cases here : hid = hid'
    · subst here
      rw [if_pos rfl, hostView.eq_def s, there] at view
      refine iff_of_false ?_ ?_
      · rintro ⟨name, monitoring, -⟩
        have same := Option.some.inj (view.symm.trans monitoring)
        exact done (Prod.mk.inj same).1
      · obtain ⟨name, view, rfl⟩ := marked
        rintro ⟨⟨name', view', rfl⟩, other⟩
        have same := Option.some.inj (view.symm.trans view')
        exact other ⟨by rw [(Prod.mk.inj same).2], rfl⟩
    · rw [if_neg here] at view
      rw [and_iff_left fun same => here same.2.symm]
      exact asked_monitor rfl fun name => Eq.congr_left view

lemma get_host_natCast (s : State) (hid : Nat) : s.get_host hid = s.hosts[hid]? :=
  if_pos (Int.natCast_nonneg hid)

lemma answered_hosts (s : State) (r : Request) : (s.answered (some r)).hosts = s.hosts := rfl

/-- A report about a host comes, or none does. -/
lemma answer_monitor {word result info : List Char} (kept : ledger.Kept s)
    (waits : .monitor m hid ∈ s.waiting) (named : hostIdOf word = hid)
    (fits : result = "SUCCESS".toList →
      ∀ h, s.hosts[hid]? = some h → (h.host.update (conf.tokens info)).isSome) :
    ∃ s', (s.answered (some (.monitor m hid))).answer conf m "MONITOR".toList word result info =
      some s' ∧ Turn conf s s' := by
  obtain ⟨name, view, -⟩ := (kept.asked (.monitor m hid)).2 waits
  obtain ⟨h, there, -⟩ := Option.map_eq_some_iff.1 view
  rw [answer, named, get_host_natCast, answered_hosts, there,
    if_neg fun unknown => Bool.false_ne_true unknown.2, if_neg (by decide), if_pos rfl]
  dsimp only
  by_cases success : result = "SUCCESS".toList
  · obtain ⟨host, updated⟩ := Option.isSome_iff_exists.1 (fits success h there)
    rw [if_pos success, gw_host_update, get_host_natCast]
    dsimp only
    rw [there]
    dsimp only
    rw [updated]
    refine ⟨_, rfl, unmark_turn kept waits there ?_⟩
    rw [Host.update] at updated
    obtain ⟨before, -, rfl⟩ := Option.map_eq_some_iff.1 updated
    dsimp only
    split <;> exact fun same => nomatch same
  · rw [if_neg success, gw_host_clear_dynamic_info, get_host_natCast]
    dsimp only
    rw [there]
    exact ⟨_, rfl, unmark_turn kept waits there fun same => nomatch same⟩

/-- A line that is what its process means it to be. -/
lemma line_turn {text : List Char} {answers : Option Request} (sound : s.Sound conf)
    (proper : s.Proper conf m text answers) :
    ∃ s', (s.answered answers).gw_im_listener conf m text = some s' ∧ Turn conf s s' := by
  cases proper with
  | none ignores =>
    refine ⟨s, ?_, (Quiet.refl conf s).turn⟩
    rw [answered, gw_im_listener]
    obtain stopped | ⟨words, info, scanned, unknown⟩ := ignores
    · rw [stopped]
      rfl
    · by_cases runs : s.runs m = true
      · rw [if_pos runs, scanned, Option.bind_some]
        dsimp only
        split
        · next action word result =>
          rw [answer]
          obtain lost | ⟨not_discover, not_monitor⟩ := unknown action word result rfl
          · rw [if_pos lost]
          · rw [if_neg not_discover, if_neg not_monitor, ite_self]
        · rfl
      · exact if_neg runs
  | discover word result info scanned named waits =>
    have runs : (s.answered (some (.discover m))).runs m = true := sound.running _ waits
    rw [gw_im_listener, if_pos runs, scanned]
    exact answer_discover waits named
  | monitor word result info hid scanned named fits waits =>
    have runs : (s.answered (some (.monitor m hid))).runs m = true := sound.running _ waits
    rw [gw_im_listener, if_pos runs, scanned]
    exact answer_monitor sound.kept waits named fits

/-- A driver that owes no answer is started again. -/
lemma reload_sound {started : Bool} (sound : s.Sound conf) (free : ∀ r ∈ s.waiting, r.mad ≠ m) :
    (s.gw_im_mad_reload m started).Sound conf := by
  rw [gw_im_mad_reload]
  split
  · have waiting : s.waiting.filter (·.mad ≠ m) = s.waiting :=
      List.filter_eq_self.2 fun r mem => decide_eq_true (free r mem)
    have move : ledger.Move s
        { s with
          mads := s.mads.modify m fun mad => { mad with running := started }
          waiting := s.waiting.filter (·.mad ≠ m) } := by
      refine .same rfl waiting (asked_same (indexOf_names ?_) ?_ fun _ _ => .rfl)
      · rw [map_modify_same]
        exact fun _ => rfl
      · apply stateOf_states
        rw [map_modify_same]
        exact fun _ => rfl
    refine ⟨move.kept sound.kept, fun r mem => ?_, sound.room⟩
    have mem : r ∈ s.waiting := waiting ▸ mem
    rw [← sound.running r mem, runs, runs]
    dsimp only
    rw [List.getElem?_modify_ne _ _ (free r mem).symm]
  · exact sound

/-- An orderly step is done, and keeps the accounts. -/
theorem step_sound {e : Event} (sound : s.Sound conf) (orderly : s.Orderly conf e) :
    ∃ s', s.step conf e = some s' ∧ s'.Sound conf := by
  cases e with
  | timer theTime =>
    refine ⟨_, rfl, (timer_turns ?_ theTime).sound sound⟩
    rintro d mem
    obtain ⟨mad, there, rfl⟩ := List.mem_map.1 mem
    exact orderly mad there
  | line m text answers =>
    obtain ⟨s', done, turn⟩ := line_turn sound orderly
    exact ⟨s', done, turn.sound sound⟩
  | reload m started => exact ⟨_, rfl, reload_sound sound orderly⟩

/-- The listener leaves what waits alone. -/
lemma listener_waiting {text : List Char} (done : s.gw_im_listener conf m text = some s') :
    s'.waiting = s.waiting := by
  rw [gw_im_listener] at done
  split at done
  · obtain ⟨⟨words, info⟩, -, done⟩ := Option.bind_eq_some_iff.1 done
    dsimp only at done
    split at done
    · next action word result =>
      rw [answer] at done
      split at done
      · cases done
        rfl
      · split at done
        · cases done
          dsimp only
          split
          · split
            · exact (pool_update_quiet conf _ _).waiting
            · rfl
          · rfl
        · split at done
          · dsimp only at done
            split at done
            · rw [gw_host_update] at done
              split at done
              · cases done
                rfl
              · obtain ⟨host, -, rfl⟩ := Option.map_eq_some_iff.1 done
                rfl
            · cases done
              rw [gw_host_clear_dynamic_info]
              split <;> rfl
          · cases done
            rfl
    · cases done
      rfl
  · cases done
    rfl

/-- A failure is reported. -/
def failureText (action word : List Char) : List Char :=
  [action, word, "FAILURE".toList].flatMap (· ++ [' '])

/-- The words of a report have no blank and no null character. -/
lemma clean_of_all {w : List Char}
    (all : (w.all fun c => !Scan.isSpace c && c.toNat != 0) = true) :
    ∀ c ∈ w, Scan.isSpace c = false ∧ c.toNat ≠ 0 := by
  intro c mem
  have clean := List.all_eq_true.1 all c mem
  rw [Bool.and_eq_true, Bool.not_eq_true', bne_iff_ne] at clean
  exact clean

lemma fields_failure {action word : List Char} (long : 0 < action.length ∧ action.length < 20)
    (short : 0 < word.length ∧ word.length < 5)
    (clean : ∀ c ∈ action ++ word, Scan.isSpace c = false ∧ c.toNat ≠ 0) :
    fields (failureText action word) = some ([action, word, "FAILURE".toList], none) := by
  have failure : ∀ c ∈ "FAILURE".toList, Scan.isSpace c = false ∧ c.toNat ≠ 0 :=
    clean_of_all (by decide)
  have all : ∀ w ∈ [action, word, "FAILURE".toList],
      w ≠ [] ∧ ∀ c ∈ w, Scan.isSpace c = false ∧ c.toNat ≠ 0 := by
    simp only [List.forall_mem_cons, List.not_mem_nil, false_implies, implies_true, and_true]
    refine ⟨⟨List.ne_nil_of_length_pos long.1, fun c mem => ?_⟩,
      ⟨List.ne_nil_of_length_pos short.1, fun c mem => ?_⟩, by decide, failure⟩
    · exact clean c (List.mem_append_left _ mem)
    · exact clean c (List.mem_append_right _ mem)
  have whole : ∀ c ∈ failureText action word, (c.toNat != 0) = true := by
    intro c mem
    obtain ⟨w, here, there⟩ := List.mem_flatMap.1 mem
    obtain char | blank := List.mem_append.1 there
    · exact bne_iff_ne.2 ((all w here).2 c char).2
    · rw [List.mem_singleton.1 blank]
      rfl
  have parts : Scan.parts 3 (failureText action word ++ []) =
      ([action, word, "FAILURE".toList], Scan.tail []) :=
    Scan.parts_words (fun w mem => (all w mem).1) fun w mem c here => ((all w mem).2 c here).1
  rw [List.append_nil] at parts
  rw [fields, Scan.cstr, List.takeWhile_eq_self_iff.2 whole, Scan.scan_eq (by decide) (by decide),
    show [20, 5, 10].length = 3 from rfl, parts]
  refine if_pos ?_
  simp [Scan.fits, long.2, short.2, Scan.tail]

/-- A request can be answered with a failure, when the number of its host has four digits. -/
lemma failure_proper (small : conf.maxHosts ≤ 10000) (sound : s.Sound conf) (waits : r ∈ s.waiting) :
    ∃ text, s.Proper conf r.mad text (some r) := by
  cases r with
  | discover m =>
    have scanned : fields (failureText "DISCOVER".toList ['-']) = _ :=
      fields_failure (by decide) (by decide) (clean_of_all (by decide))
    exact ⟨_, .discover _ _ none scanned (.inl rfl) waits⟩
  | monitor m hid =>
    obtain ⟨name, view, -⟩ := (sound.kept.asked _).2 waits
    obtain ⟨h, there, -⟩ := Option.map_eq_some_iff.1 view
    obtain ⟨inside, -⟩ := List.getElem?_eq_some_iff.1 there
    have four : (Nat.toDigits 10 hid).length < 5 :=
      Port.numeral_short.2 (inside.trans_le (sound.room.trans small))
    have clean : ∀ c ∈ "MONITOR".toList ++ Nat.toDigits 10 hid,
        Scan.isSpace c = false ∧ c.toNat ≠ 0 := by
      intro c mem
      obtain word | numeral := List.mem_append.1 mem
      · exact clean_of_all (w := "MONITOR".toList) (by decide) c word
      · exact numeral_clean numeral
    have scanned : fields (failureText "MONITOR".toList (Nat.toDigits 10 hid)) = _ :=
      fields_failure (by decide) ⟨List.length_pos_iff.2 Nat.toDigits_ne_nil, four⟩ clean
    refine ⟨_, .monitor _ _ none hid scanned ?_ (fun success => ?_) waits⟩
    · have plain : (Nat.toDigits 10 hid).head? ≠ some '-' := by
        intro dash
        exact absurd (numeral_digit (List.mem_of_mem_head? dash)) (by decide)
      rw [hostIdOf, if_neg plain, atoi_numeral]
    · exact absurd success (by decide)

lemma at_rest (sound : s.Sound conf) (none : s.waiting = []) : s.AtRest := by
  have free (r : Request) : ¬s.asked r := by
    intro marked
    have waits := (sound.kept.asked r).1 marked
    rw [show ledger.waiting s = [] from none] at waits
    exact absurd waits List.not_mem_nil
  refine ⟨?_, fun mad mem => ?_, fun h mem marked => ?_⟩
  · rw [show s.active = _ from sound.kept.count, show ledger.waiting s = [] from none]
    rfl
  · obtain ⟨m, there⟩ := List.getElem?_of_mem mem
    cases state : mad.state with
    | idle => rfl
    | discovering =>
      refine absurd ?_ (free (.discover m))
      rw [asked, stateOf, there, Option.map_some, state]
  · obtain ⟨hid, there⟩ := List.getElem?_of_mem mem
    refine free (.monitor _ hid) ⟨h.imMad, ?_, rfl⟩
    rw [hostView, there, Option.map_some, marked]

/-- The drivers can answer everything that waits, and then nothing is asked for. -/
lemma comes_to_rest (small : conf.maxHosts ≤ 10000) (sound : s.Sound conf) :
    ∃ s', Leads conf s s' ∧ s'.AtRest := by
  generalize size : s.waiting.length = n
  induction n generalizing s with
  | zero => exact ⟨s, .refl, at_rest sound (List.length_eq_zero_iff.1 size)⟩
  | succ n ih =>
    obtain ⟨r, mem⟩ := List.exists_mem_of_length_pos (by omega : 0 < s.waiting.length)
    obtain ⟨text, proper⟩ := failure_proper small sound mem
    obtain ⟨s1, done, sound1⟩ := step_sound (e := .line r.mad text (some r)) sound proper
    have fewer : s1.waiting.length = n := by
      rw [listener_waiting done]
      exact (List.length_erase_of_mem mem).trans (by rw [size, Nat.add_sub_cancel])
    obtain ⟨s', later, rest⟩ := ih sound1 fewer
    exact ⟨s', .head ⟨.line r.mad text (some r), proper, done⟩ later, rest⟩

lemma Sound.accounted (sound : s.Sound conf) : s.Accounted where
  active := sound.kept.count
  discovering m mad there marked := by
    refine (sound.kept.asked (.discover m)).1 ?_
    exact (congrArg (Option.map Mad.state) there).trans (congrArg some marked)
  monitoring hid h there marked := by
    refine ⟨_, (sound.kept.asked (.monitor _ hid)).1 ⟨h.imMad, ?_, rfl⟩⟩
    rw [hostView, there, Option.map_some, marked]

lemma start_sound (conf : Conf) (names : List (List Char)) : (start names).Sound conf := by
  refine ⟨⟨rfl, List.nodup_nil, fun r => iff_of_false ?_ List.not_mem_nil⟩,
    fun r mem => absurd mem List.not_mem_nil, Nat.zero_le _⟩
  cases r with
  | discover m =>
    intro marked
    obtain ⟨mad, there, state⟩ := Option.map_eq_some_iff.1 marked
    obtain ⟨name, -, rfl⟩ := List.mem_map.1 (List.mem_of_getElem? there)
    cases state
  | monitor m hid =>
    rintro ⟨name, view, -⟩
    cases view

lemma Leads.sound (leads : Leads conf s s') (sound : s.Sound conf) : s'.Sound conf := by
  induction leads with
  | refl => exact sound
  | tail _ step ih =>
    obtain ⟨e, orderly, done⟩ := step
    obtain ⟨next, done', sound'⟩ := step_sound ih orderly
    rw [done, Option.some_inj] at done'
    exact done' ▸ sound'

/-- Orderly runs keep the accounts, every orderly step can be done, and the drivers can bring the
information manager to rest. -/
theorem accounted_of_orderly (small : conf.maxHosts ≤ 10000) {names : List (List Char)}
    (leads : Leads conf (start names) s) :
    s.Accounted ∧ (∀ e, s.Orderly conf e → (s.step conf e).isSome) ∧
      ∃ s', Leads conf s s' ∧ s'.AtRest := by
  have sound := leads.sound (start_sound conf names)
  refine ⟨sound.accounted, fun e orderly => ?_, comes_to_rest small sound⟩
  obtain ⟨s', done, -⟩ := step_sound sound orderly
  exact Option.isSome_of_mem done

/-- A small site whose one driver is called `a`. -/
def site : Conf where
  discoveryInterval := 300
  monitoringInterval := 50
  maxActive := 4
  maxHosts := 100
  imMads := [['a']]
  priority _ _ := 1
  tokens _ := []

theorem accounted_discovery :
    ((start [['a']]).gw_im_timer site 1000).Accounted ∧
      (∀ e, ((start [['a']]).gw_im_timer site 1000).Orderly site e →
        (((start [['a']]).gw_im_timer site 1000).step site e).isSome) ∧
      ∃ s', Leads site ((start [['a']]).gw_im_timer site 1000) s' ∧ s'.AtRest := by
  have running : ∀ mad ∈ (start [['a']]).mads, mad.running = true := by decide
  exact accounted_of_orderly (by decide) (.single ⟨.timer 1000, running, rfl⟩)

/-- A driver that is started again while it looks for hosts, and one whose failure names a host that does
not exist. -/
theorem query_lost :
    (∃ s, run site (start [['a']]) [.timer 1000, .reload 0 true] = some s ∧ ¬s.Accounted) ∧
      ∃ s, run site (start [['a']])
        [.timer 1000, .line 0 "DISCOVER - SUCCESS node\n".toList (some (.discover 0)), .timer 1001,
          .line 0 "MONITOR 7 FAILURE -\n".toList (some (.monitor 0 0))] = some s ∧ ¬s.Accounted := by
  refine ⟨⟨_, rfl, fun accounted => ?_⟩, _, rfl, fun accounted => ?_⟩
  · exact absurd accounted.active (by decide)
  · exact absurd accounted.active (by decide)

end GridWay.Im.State
