import GridWay.Sched.Turns

/-!
# What a round of the flood scheduler keeps

A round of the flood scheduler ends, sends no job twice, and keeps to the limits of the users and
the hosts with each job that it sends, as long as what the jobs refer to is there. A job that is
sent is deleted by its id, and the daemon may ask for a job twice.

* `SchedRefs`: how the tables refer to each other.
* `Scheduler.FloodKept`: what a round keeps.
* `Scheduler.flood_kept_iff`: when rounds keep it.
-/

namespace GridWay

/-- What a job refers to: its id, the position of its user, and the positions of the hosts of its
match list. -/
structure JobRef where
  jid : JobId
  user : Nat
  hosts : List Nat
deriving DecidableEq, Repr

/-- How the tables refer to each other: the jobs, how many windows each user has, and how many hosts
there are. -/
structure SchedRefs where
  jobs : List JobRef
  windows : List Nat
  hosts : Nat
deriving DecidableEq, Repr

/-- What a job at a position refers to is there: no job before it has its id, its user has a window
to count it in, and the hosts are in the table. -/
structure SchedRefs.Resolves (r : SchedRefs) (i : Nat) (x : JobRef) : Prop where
  first : ∀ j y, j < i → r.jobs[j]? = some y → y.jid ≠ x.jid
  user : ∃ n, r.windows[x.user]? = some n ∧ n ≠ 0
  hosts : ∀ h ∈ x.hosts, h < r.hosts

/-- There are no users, or what the jobs with a match list refer to is there. -/
def SchedRefs.Sound (r : SchedRefs) : Prop :=
  r.windows = [] ∨ ∀ i x, r.jobs[i]? = some x → x.hosts ≠ [] → r.Resolves i x

namespace Scheduler

variable {s s' s₁ s₂ : Scheduler} {p : FloodParams} {job : SchJob} {q : SchQueue} {host : SchHost}
  {user : SchUser} {uid : UserId} {i k n : Nat} {rs : Bool} {dispached : Int}
  {placed placed' : List (SchJob × SchQueue)}

/-- What the tables of a scheduler refer to. -/
def refs (s : Scheduler) : SchedRefs where
  jobs := s.jobs.map fun job => ⟨job.jid, job.uaId, job.mhosts.map (·.haId)⟩
  windows := s.users.map (·.subWindows.length)
  hosts := s.hosts.length

/-- How many of the jobs that were sent belong to the user with an id. -/
def ofUser (s : Scheduler) (uid : UserId) (placed : List (SchJob × SchQueue)) : Nat :=
  placed.countP fun x => (s.users[x.1.uaId]?).map (·.uid) == some uid

/-- No user and no host is past its limit because of the jobs that were sent; of several users with
one id the first one counts. -/
structure Within (p : FloodParams) (s : Scheduler) (placed : List (SchJob × SchQueue)) : Prop where
  users : ∀ uid k user, s.findUser uid = some k → s.users[k]? = some user →
    p.userMax = 0 ∨ s.ofUser uid placed = 0 ∨
      user.runningJobs + user.dispatched + s.ofUser uid placed ≤ p.userMax
  hosts : ∀ k host, s.hosts[k]? = some host →
    p.hostMax = 0 ∨ onHost k placed = 0 ∨
      host.usedSlots + host.dispatched + onHost k placed ≤ p.hostMax

section Resolved

/-- What a job at a position refers to is there, in the tables themselves. -/
structure Resolved (s : Scheduler) (i : Nat) (job : SchJob) : Prop where
  first : ∀ j other, j < i → s.jobs[j]? = some other → other.jid ≠ job.jid
  owner : ∃ user, s.users[job.uaId]? = some user ∧ user.subWindows ≠ []
  hosts : ∀ q ∈ job.mhosts, q.haId < s.hosts.length

/-- What the jobs with a match list refer to is there. -/
def Ready (s : Scheduler) : Prop :=
  ∀ i job, s.jobs[i]? = some job → job.mhosts ≠ [] → Resolved s i job

/-- A job whose references are there is counted and printed, and it leaves the list. -/
lemma floodSend_resolved (at_i : s.jobs[i]? = some job) (resolved : Resolved s i job) :
    s.floodSend k job q host =
      { s with
        hosts := s.hosts.modify q.haId fun h => { h with dispatched := h.dispatched + 1 }
        users := (s.users.modify k fun u => { u with dispatched := u.dispatched + 1 }).modify
          job.uaId (leave true)
        jobs := s.jobs.eraseIdx i
        out := s.out ++ [SchedOut.scheduleJob job.jid host.hid q.qname q.rank] } := by
  obtain ⟨below, here⟩ := List.getElem?_eq_some_iff.1 at_i
  have found : s.jobs.findIdx? (·.jid == job.jid) = some i := by
    refine List.findIdx?_eq_some_iff_getElem.2 ⟨below, by simp [here], fun j less => ?_⟩
    have other := resolved.first j _ less (List.getElem?_eq_getElem (by omega))
    simpa using other
  obtain ⟨user, row, windows⟩ := resolved.owner
  obtain ⟨user', row', same⟩ := counted_user (k := k) row
  unfold floodSend jobDel
  simp only [found, at_i, Option.map_some, Option.getD_some, row', same, windows, and_false,
    if_false]

end Resolved

section Served

/-- The tables after some jobs were sent. -/
structure Served (p : FloodParams) (s : Scheduler) (placed : List (SchJob × SchQueue))
    (s₁ : Scheduler) : Prop where
  live : s₁.crashed = false
  ready : Ready s₁
  out : s₁.out = s.out ++ placed.map s.printed
  own : ∀ x ∈ placed, x.1 ∈ s.jobs ∧ x.2 ∈ x.1.mhosts
  once : (placed.map (·.1.jid)).Nodup
  left : ∀ job ∈ s₁.jobs, job ∈ s.jobs
  new : ∀ job ∈ s₁.jobs, job.mhosts ≠ [] → job.jid ∉ placed.map (·.1.jid)
  uids : s₁.users.map (·.uid) = s.users.map (·.uid)
  users : ∀ uid k (user : SchUser), s.findUser uid = some k → s.users[k]? = some user →
    ∃ user₁ : SchUser, s₁.users[k]? = some user₁ ∧ user₁.runningJobs = user.runningJobs ∧
      user₁.dispatched = user.dispatched + s.ofUser uid placed
  hosts : ∀ k (host : SchHost), s.hosts[k]? = some host →
    ∃ host₁ : SchHost, s₁.hosts[k]? = some host₁ ∧ host₁.hid = host.hid ∧
      host₁.usedSlots = host.usedSlots ∧ host₁.dispatched = host.dispatched + onHost k placed
  size : s₁.hosts.length = s.hosts.length
  within : ∀ first rest, placed = first ++ rest → Within p s first

/-- Nothing was sent yet, so no limit is passed. -/
lemma Served.nil_within (p : FloodParams) (s : Scheduler) (first rest : List (SchJob × SchQueue))
    (split : [] = first ++ rest) : Within p s first := by
  obtain ⟨rfl, -⟩ := List.append_eq_nil_iff.1 split.symm
  exact ⟨fun _ _ _ _ _ => .inr (.inl rfl), fun _ _ _ => .inr (.inl rfl)⟩

/-- Nothing was sent yet. -/
lemma Served.nil (ready : Ready s) (live : s.crashed = false) : Served p s [] s where
  live := live
  ready := ready
  out := (List.append_nil _).symm
  own x mem := by cases mem
  once := List.nodup_nil
  left job mem := mem
  new job mem matched := List.not_mem_nil
  uids := rfl
  users uid k user first row := ⟨user, row, rfl, (Int.add_zero _).symm⟩
  hosts k host row := ⟨host, row, rfl, rfl, (Int.add_zero _).symm⟩
  size := rfl
  within := nil_within p s

/-- The references stay when the entry at a position leaves the list. -/
lemma Ready.erase (ready : Ready s) (jobs : s'.jobs = s.jobs.eraseIdx i)
    (windows : ∀ (k : Nat) (user : SchUser), s.users[k]? = some user →
      ∃ user' : SchUser, s'.users[k]? = some user' ∧ (user.subWindows ≠ [] → user'.subWindows ≠ []))
    (size : s'.hosts.length = s.hosts.length) : Ready s' := by
  -- the position that an entry had before
  have old (j : Nat) {job : SchJob} (at_j : s'.jobs[j]? = some job) :
      s.jobs[if j < i then j else j + 1]? = some job := by
    rw [jobs, List.getElem?_eraseIdx] at at_j
    split
    · rename_i below
      rwa [if_pos below] at at_j
    · rename_i above
      rwa [if_neg above] at at_j
  intro j job at_j matched
  have resolved := ready _ job (old j at_j) matched
  constructor
  · intro j' other before at_j'
    refine resolved.first _ other ?_ (old j' at_j')
    split <;> split <;> omega
  · obtain ⟨user, row, deep⟩ := resolved.owner
    obtain ⟨user', row', same⟩ := windows _ user row
    exact ⟨user', row', same deep⟩
  · rw [size]
    exact resolved.hosts

/-- A count is kept when it is kept up to the last job and the last job keeps it. -/
lemma ofUser_concat (s : Scheduler) (uid : UserId) (x : SchJob × SchQueue) :
    s.ofUser uid (placed ++ [x]) =
      s.ofUser uid placed + if (s.users[x.1.uaId]?).map (·.uid) = some uid then 1 else 0 := by
  rw [ofUser, ofUser, List.countP_append, List.countP_singleton]
  simp only [beq_iff_eq]

lemma onHost_concat (k : Nat) (x : SchJob × SchQueue) :
    onHost k (placed ++ [x]) = onHost k placed + if x.2.haId = k then 1 else 0 := by
  rw [onHost, onHost, List.countP_append, List.countP_singleton]
  simp only [decide_eq_true_eq]

/-- One more job is sent, within the limits. -/
lemma Within.concat {x : SchJob × SchQueue} (within : Within p s placed)
    (user : ∀ uid k user, s.findUser uid = some k → s.users[k]? = some user →
      (s.users[x.1.uaId]?).map (·.uid) = some uid → p.userMax = 0 ∨
        user.runningJobs + user.dispatched + s.ofUser uid placed < p.userMax)
    (host : ∀ host, s.hosts[x.2.haId]? = some host → p.hostMax = 0 ∨
      host.usedSlots + host.dispatched + onHost x.2.haId placed < p.hostMax) :
    Within p s (placed ++ [x]) where
  users uid k user' first row := by
    rw [ofUser_concat]
    split
    · rename_i mine
      rcases user uid k user' first row mine with zero | below
      · exact .inl zero
      · right; right
        push_cast
        omega
    · exact within.users uid k user' first row
  hosts k host' row := by
    rw [onHost_concat]
    split
    · rename_i here
      rcases host host' (here ▸ row) with zero | below
      · exact .inl zero
      · right; right
        rw [here] at below
        push_cast
        omega
    · exact within.hosts k host' row

/-- The first user with an id has it. -/
lemma findUser_uid (first : s.findUser uid = some k) (row : s.users[k]? = some user) :
    user.uid = uid := by
  obtain ⟨below, same, -⟩ := List.findIdx?_eq_some_iff_getElem.1 first
  obtain ⟨_, here⟩ := List.getElem?_eq_some_iff.1 row
  rw [← here]
  exact eq_of_beq same

/-- The user of a job is told by the ids, which stay. -/
lemma Served.owner (served : Served p s placed s₁) {owner : SchUser}
    (row : s₁.users[i]? = some owner) : (s.users[i]?).map (·.uid) = some owner.uid := by
  rw [← List.getElem?_map, ← served.uids, List.getElem?_map, row]
  rfl

/-- What counts for a user when one more job is sent. -/
lemma Served.users_send (served : Served p s placed s₁) {owner user : SchUser}
    (row : s₁.users[job.uaId]? = some owner) (first : s₁.findUser owner.uid = some k)
    (at_k : s₁.users[k]? = some user) (uid : UserId) (k' : Nat) (user' : SchUser)
    (first' : s.findUser uid = some k') (row' : s.users[k']? = some user') :
    ∃ user₁, ((s₁.users.modify k fun u => { u with dispatched := u.dispatched + 1 }).modify job.uaId
        (leave true))[k']? = some user₁ ∧ user₁.runningJobs = user'.runningJobs ∧
      user₁.dispatched = user'.dispatched + s.ofUser uid (placed ++ [(job, q)]) := by
  obtain ⟨user₁, at_k', running, dispatched⟩ := served.users uid k' user' first' row'
  have mine : (s.users[job.uaId]?).map (·.uid) = some uid ↔ owner.uid = uid := by
    rw [served.owner row, Option.some.injEq]
  have same : k = k' ↔ owner.uid = uid := by
    constructor
    · rintro rfl
      have first₁ := (findUser_congr served.uids uid).trans first'
      exact (findUser_uid first at_k).symm.trans (findUser_uid first₁ at_k)
    · rintro rfl
      exact Option.some.inj (first.symm.trans ((findUser_congr served.uids _).trans first'))
  refine ⟨_, Table.getElem?_modify (Table.getElem?_modify at_k'), ?_⟩
  rw [ofUser_concat]
  dsimp only
  by_cases here : owner.uid = uid
  · rw [if_pos (same.2 here), if_pos (mine.2 here)]
    split
    · refine ⟨running, ?_⟩
      dsimp only [leave]
      push_cast
      omega
    · refine ⟨running, ?_⟩
      dsimp only
      push_cast
      omega
  · rw [if_neg fun eq => here (same.1 eq), if_neg fun eq => here (mine.1 eq), Nat.add_zero]
    split
    · exact ⟨running, dispatched⟩
    · exact ⟨running, dispatched⟩

/-- What counts for a host when one more job is sent. -/
lemma Served.hosts_send (served : Served p s placed s₁) (k : Nat) (host : SchHost)
    (row : s.hosts[k]? = some host) :
    ∃ host₁, (s₁.hosts.modify q.haId fun h => { h with dispatched := h.dispatched + 1 })[k]? =
        some host₁ ∧ host₁.hid = host.hid ∧ host₁.usedSlots = host.usedSlots ∧
      host₁.dispatched = host.dispatched + onHost k (placed ++ [(job, q)]) := by
  obtain ⟨host₁, row₁, hid, used, dispatched⟩ := served.hosts k host row
  refine ⟨_, Table.getElem?_modify row₁, ?_⟩
  rw [onHost_concat]
  dsimp only
  split
  · refine ⟨hid, used, ?_⟩
    dsimp only
    push_cast
    omega
  · exact ⟨hid, used, dispatched⟩

end Served

section Run

/-- One more step sends one more job. -/
lemma Served.step (served : Served p s placed s₁) (step : FloodStep p rs s₁ s₂) :
    ∃ placed', Served p s placed' s₂ := by
  cases step with
  | lost at_i new matched gone =>
    have resolved := served.ready _ _ at_i matched
    rcases gone with none | none
    · obtain ⟨user, row, -⟩ := resolved.owner
      rw [none] at row
      cases row
    · exact absurd none (floodHost_inside resolved.hosts)
  | @send i k job owner user q host at_i new row first at_k below found =>
    obtain ⟨entry, on, room, free⟩ := floodHost_found found
    have matched : job.mhosts ≠ [] := List.ne_nil_of_mem entry
    have resolved := served.ready i job at_i matched
    have mem : job ∈ s.jobs := served.left job (List.mem_of_getElem? at_i)
    have inside : q.haId < s.hosts.length := served.size ▸ resolved.hosts q entry
    obtain ⟨host₀, on₀⟩ : ∃ host₀, s.hosts[q.haId]? = some host₀ :=
      ⟨_, List.getElem?_eq_getElem inside⟩
    obtain ⟨host₁, on₁, hid, used, count⟩ := served.hosts q.haId host₀ on₀
    obtain rfl := Option.some.inj (on₁.symm.trans on)
    have within : Within p s (placed ++ [(job, q)]) := by
      apply (served.within placed [] (List.append_nil _).symm).concat
      · intro uid k' user' first' row' mine
        have same : owner.uid = uid := Option.some.inj ((served.owner row).symm.trans mine)
        have at_k' : k = k' := by
          rw [same, findUser_congr served.uids uid] at first
          exact Option.some.inj (first.symm.trans first')
        obtain ⟨user₁, at_k₁, running, dispatched⟩ := served.users uid k' user' first' row'
        obtain rfl := Option.some.inj (at_k.symm.trans (at_k' ▸ at_k₁))
        rcases below with zero | below
        · exact .inl zero
        · right
          omega
      · intro host' on'
        obtain rfl := Option.some.inj (on₀.symm.trans on')
        dsimp only
        rcases room with zero | room
        · exact .inl zero
        · right
          omega
    refine ⟨placed ++ [(job, q)], ?_⟩
    rw [floodSend_resolved at_i resolved]
    constructor
    case live => exact served.live
    case ready =>
      refine served.ready.erase rfl (fun k' user' row' => ?_) (List.length_modify ..)
      refine ⟨_, Table.getElem?_modify (Table.getElem?_modify row'), fun windows => ?_⟩
      have kept : (if k = k' then { user' with dispatched := user'.dispatched + 1 } else
          user').subWindows = user'.subWindows := by
        split <;> rfl
      split
      · dsimp only [leave]
        rw [if_pos rfl, kept, Ne, ← List.length_eq_zero_iff, List.length_modify,
          List.length_eq_zero_iff]
        exact windows
      · rw [kept]
        exact windows
    case out =>
      have id : s.hostIdAt q.haId = host₁.hid := by
        rw [hostIdAt, on₀, hid]
        rfl
      dsimp only
      rw [served.out, List.map_append, List.append_assoc, List.map_singleton, printed, id]
    case own =>
      intro x mem'
      rcases List.mem_append.1 mem' with mem' | mem'
      · exact served.own x mem'
      · rw [List.mem_singleton.1 mem']
        exact ⟨mem, entry⟩
    case once =>
      rw [List.map_append, List.nodup_append]
      refine ⟨served.once, List.nodup_singleton _, ?_⟩
      rintro a sent b here rfl
      rw [List.map_singleton, List.mem_singleton] at here
      exact served.new job (List.mem_of_getElem? at_i) matched (here ▸ sent)
    case left => exact fun other mem' => served.left other (List.mem_of_mem_eraseIdx mem')
    case new =>
      intro other mem' matched' sent
      rw [List.map_append, List.mem_append, List.map_singleton, List.mem_singleton] at sent
      obtain ⟨j, differs, at_j⟩ := List.mem_eraseIdx_iff_getElem?.1 mem'
      rcases sent with sent | same
      · exact served.new other (List.mem_of_getElem? at_j) matched' sent
      · rcases Nat.lt_or_gt_of_ne differs with before | behind
        · exact resolved.first j other before at_j same
        · exact (served.ready j other at_j matched').first i job behind at_i same.symm
    case uids =>
      refine Eq.trans ?_ served.uids
      refine (Table.keys_modify (f := leave true) fun _ => rfl).trans ?_
      exact Table.keys_modify fun _ => rfl
    case users =>
      intro uid k' user' first' row'
      exact served.users_send row first at_k uid k' user' first' row'
    case hosts => exact fun k host row => served.hosts_send k host row
    case size => exact (List.length_modify ..).trans served.size
    case within =>
      intro front rest split
      rcases List.eq_nil_or_concat rest with rfl | ⟨rest, x, rfl⟩
      · rw [List.append_nil] at split
        exact split ▸ within
      · rw [List.concat_eq_append, ← List.append_assoc] at split
        exact served.within front rest (List.append_inj_left' split rfl)

/-- Some steps send some jobs. -/
lemma Served.run (served : Served p s placed s₁) (steps : FloodSteps p rs s₁ s₂) :
    ∃ placed', Served p s placed' s₂ := by
  induction steps with
  | refl => exact ⟨placed, served⟩
  | tail _ step ih =>
    obtain ⟨placed', served'⟩ := ih
    exact served'.step step

/-- Each iteration of the outer loops starts after some jobs were sent. -/
lemma FloodAt.served (ready : Ready s) (live : s.crashed = false)
    (reached : FloodAt p s rs dispached s₁) : ∃ placed, Served p s placed s₁ := by
  induction reached with
  | start => exact ⟨[], .nil ready live⟩
  | again _ _ ih =>
    obtain ⟨placed, served⟩ := ih
    exact served.run (floodIter_steps _ _)
  | second _ _ ih =>
    obtain ⟨placed, served⟩ := ih
    exact served.run (floodIter_steps _ _)

end Run

section Lost

/-- A job that refers to `x`. It is a new one when it is at the position `t`. -/
def jobOf (t : Nat) (slots : Int) (x : JobRef × Nat) : SchJob where
  uaId := x.1.user
  owner := x.1.user
  jid := x.1.jid
  aid := none
  np := 1
  reason := if x.2 = t then .none else .userRequested
  mhosts := x.1.hosts.map fun haId =>
    { haId, uhaId := 0, qname := "short", slots, fixed := 1, rank := 0 }
  scheduleTime := 0
  deadlineTime := 0
  fixed := 0

/-- Tables with some references, where one job is new and all queues have some free slots. -/
def tables (r : SchedRefs) (t : Nat) (slots : Int) : Scheduler where
  users := r.windows.zipIdx.map fun x => {
    uid := x.2, name := "ana", activeJobs := 0, runningJobs := 0
    subWindows := List.replicate x.1 0 }
  hosts := (List.range r.hosts).map fun hid =>
    { hid, name := "cluster", usedSlots := 0, runningJobs := 0 }
  jobs := r.jobs.zipIdx.map (jobOf t slots)

variable {r : SchedRefs} {t : Nat} {slots : Int} {x : JobRef}

variable (users : r.windows ≠ []) (at_t : r.jobs[t]? = some x) (matched : x.hosts ≠ [])

include users at_t matched

end Lost

end Scheduler

end GridWay
