import GridWay.Lib.Greedy
import GridWay.Sched.Step

/-!
# Calls of `gw_sched_dispatch`

`gw_sched_dispatch` deletes entries of the list that it walks over. On tables that are in order a
call is a greedy pass over the jobs: a job of the kind that the call is for takes the first entry of
its match list with room, when its user has room.

* `Scheduler.Blocked`: neither the user nor the hosts let a job go.
* `Scheduler.schedDispatch_serve`: a call is a greedy pass.
-/

namespace GridWay

namespace Scheduler

open Greedy

variable {s s' : Scheduler} {job : SchJob} {q : SchQueue} {host : SchHost} {rs : Bool}

/-- The tables refer to each other by positions that are there, and the users have the windows of
the configuration. -/
structure Formed (s : Scheduler) : Prop where
  unique : (s.jobs.map (·.jid)).Nodup
  users : ∀ job ∈ s.jobs, job.uaId < s.users.length
  hosts : ∀ job ∈ s.jobs, ∀ q ∈ job.mhosts, q.haId < s.hosts.length
  windows : ∀ user ∈ s.users, user.subWindows.length = s.conf.windowDepth

/-- The user at a position has as many jobs as it may have. -/
def UserFull (s : Scheduler) (ua : Nat) : Prop :=
  ∃ user, s.users[ua]? = some user ∧ s.conf.maxUser ≠ 0 ∧
    user.runningJobs + user.dispatched ≥ s.conf.maxUser

/-- The host of an entry takes no more jobs, or has no free slot left. -/
def HostFull (s : Scheduler) (q : SchQueue) : Prop :=
  ∃ host, s.hosts[q.haId]? = some host ∧
    ((s.conf.maxResource ≠ 0 ∧ host.usedSlots + host.dispatched ≥ s.conf.maxResource) ∨
      q.slots - host.dispatched ≤ 0)

/-- A job cannot go: its user is at the limit, or every host of its match list is full. -/
def Blocked (s : Scheduler) (job : SchJob) : Prop :=
  s.UserFull job.uaId ∨ ∀ q ∈ job.mhosts, s.HostFull q

instance (s : Scheduler) (ua : Nat) : Decidable (s.UserFull ua) :=
  decidable_of_iff
    ((s.users[ua]?).any fun user : SchUser => decide (s.conf.maxUser ≠ 0 ∧
      user.runningJobs + user.dispatched ≥ s.conf.maxUser))
    (by simp only [UserFull, Option.any_eq_true, decide_eq_true_eq])

instance (s : Scheduler) (q : SchQueue) : Decidable (s.HostFull q) :=
  decidable_of_iff
    ((s.hosts[q.haId]?).any fun host : SchHost => decide ((s.conf.maxResource ≠ 0 ∧
      host.usedSlots + host.dispatched ≥ s.conf.maxResource) ∨ q.slots - host.dispatched ≤ 0))
    (by simp only [HostFull, Option.any_eq_true, decide_eq_true_eq])

instance (s : Scheduler) (job : SchJob) : Decidable (s.Blocked job) :=
  inferInstanceAs (Decidable (_ ∨ _))

/-- A call of `gw_sched_dispatch` is for the new jobs, or for those that were scheduled before. -/
def ofKind (reschedule : Bool) (job : SchJob) : Bool := (job.reason != .none) == reschedule

/-- The entry of its match list that a job takes in a pass. -/
def placeJob (reschedule : Bool) (s : Scheduler) (job : SchJob) : Option SchQueue :=
  match s.users[job.uaId]? with
  | none => none
  | some user =>
    if s.conf.maxUser ≠ 0 ∧ user.runningJobs + user.dispatched ≥ s.conf.maxUser then none
    else if ofKind reschedule job then
      match s.freeHost job.mhosts with
      | some (some (q, _)) => some q
      | _ => none
    else none

/-- The id of the host at a position. -/
def hostIdAt (s : Scheduler) (ha : Nat) : HostId := ((s.hosts[ha]?).map (·.hid)).getD 0

/-- What is printed for a job that is sent. -/
def printed (s : Scheduler) (x : SchJob × SchQueue) : SchedOut :=
  .scheduleJob x.1.jid (s.hostIdAt x.2.haId) x.2.qname x.2.rank

/-- A job is counted and printed. -/
def chargeJob (s : Scheduler) (job : SchJob) (q : SchQueue) : Scheduler :=
  { s with
    hosts := s.hosts.modify q.haId fun h => { h with dispatched := h.dispatched + 1 }
    users := s.users.modify job.uaId fun u => leave true { u with dispatched := u.dispatched + 1 }
    out := s.out ++ [s.printed (job, q)] }

/-- The tables without the list of jobs. -/
def core (s : Scheduler) : Scheduler := { s with jobs := [] }

section Hosts

lemma freeHost_congr (conf : s'.conf = s.conf) (hosts : s'.hosts = s.hosts) (qs : List SchQueue) :
    s'.freeHost qs = s.freeHost qs := by
  induction qs with
  | nil => rfl
  | cons q qs ih => rw [freeHost, freeHost, conf, hosts, ih]

/-- The entry that is found is one of the list, on a host with room. -/
lemma freeHost_found {qs : List SchQueue} (found : s.freeHost qs = some (some (q, host))) :
    q ∈ qs ∧ s.hosts[q.haId]? = some host ∧
      (s.conf.maxResource = 0 ∨ host.usedSlots + host.dispatched < s.conf.maxResource) ∧
      host.dispatched < q.slots := by
  induction qs with
  | nil => cases found
  | cons q' qs ih =>
    rw [freeHost] at found
    cases here : s.hosts[q'.haId]? with
    | none =>
      rw [here] at found
      cases found
    | some host' =>
      rw [here] at found
      dsimp only at found
      split at found
      · obtain ⟨mem, rest⟩ := ih found
        exact ⟨List.mem_cons_of_mem _ mem, rest⟩
      · split at found
        · rename_i below free
          cases found
          refine ⟨List.mem_cons_self, here, ?_, by omega⟩
          by_cases zero : s.conf.maxResource = 0
          · exact .inl zero
          · exact .inr (Int.not_le.1 fun full => below ⟨zero, full⟩)
        · obtain ⟨mem, rest⟩ := ih found
          exact ⟨List.mem_cons_of_mem _ mem, rest⟩

/-- No entry is found on hosts that are there exactly when all of them are full. -/
lemma freeHost_full {qs : List SchQueue} (inside : ∀ q ∈ qs, q.haId < s.hosts.length) :
    (s.freeHost qs = some none ∧ ∀ q ∈ qs, s.HostFull q) ∨
      ∃ q host, s.freeHost qs = some (some (q, host)) ∧ q ∈ qs ∧ ¬ s.HostFull q := by
  induction qs with
  | nil => exact .inl ⟨rfl, fun _ mem => by cases mem⟩
  | cons q qs ih =>
    obtain ⟨host, here⟩ : ∃ host, s.hosts[q.haId]? = some host :=
      ⟨_, List.getElem?_eq_getElem (inside q List.mem_cons_self)⟩
    have tail := ih fun q' mem => inside q' (List.mem_cons_of_mem q mem)
    rw [freeHost, here]
    dsimp only
    have step (full : s.HostFull q) :
        (s.freeHost qs = some none ∧ ∀ q' ∈ q :: qs, s.HostFull q') ∨
          ∃ q' host, s.freeHost qs = some (some (q', host)) ∧ q' ∈ q :: qs ∧ ¬ s.HostFull q' := by
      rcases tail with ⟨none, all⟩ | ⟨q', host', found, mem, free⟩
      · refine .inl ⟨none, fun q' mem => ?_⟩
        rcases List.mem_cons.1 mem with rfl | mem
        · exact full
        · exact all q' mem
      · exact .inr ⟨q', host', found, List.mem_cons_of_mem q mem, free⟩
    split
    · rename_i limit
      exact step ⟨host, here, .inl limit⟩
    · split
      · rename_i below free
        refine .inr ⟨q, host, rfl, List.mem_cons_self, ?_⟩
        rintro ⟨host', here', full⟩
        obtain rfl := Option.some.inj (here.symm.trans here')
        rcases full with full | full
        · exact below full
        · omega
      · rename_i taken
        exact step ⟨host, here, .inr (Int.not_lt.1 taken)⟩

end Hosts

section Place

lemma ofKind_iff : ofKind rs job = true ↔ ¬ ((job.reason == .none) == rs) = true := by
  unfold ofKind
  cases rs <;> cases here : job.reason == .none <;> simp [bne, here]

lemma placeJob_congr (conf : s'.conf = s.conf) (users : s'.users = s.users)
    (hosts : s'.hosts = s.hosts) (job : SchJob) : placeJob rs s' job = placeJob rs s job := by
  unfold placeJob
  rw [conf, users, freeHost_congr conf hosts]

/-- The job of a user with room takes an entry of its own list, on a host with room. -/
lemma placeJob_some (placed : placeJob rs s job = some q) :
    ofKind rs job = true ∧
    (∃ user, s.users[job.uaId]? = some user ∧
      (s.conf.maxUser = 0 ∨ user.runningJobs + user.dispatched < s.conf.maxUser)) ∧
    q ∈ job.mhosts ∧
    ∃ host, s.freeHost job.mhosts = some (some (q, host)) ∧ s.hosts[q.haId]? = some host ∧
      (s.conf.maxResource = 0 ∨ host.usedSlots + host.dispatched < s.conf.maxResource) ∧
      host.dispatched < q.slots := by
  unfold placeJob at placed
  cases here : s.users[job.uaId]? with
  | none =>
    rw [here] at placed
    cases placed
  | some user =>
    rw [here] at placed
    dsimp only at placed
    split at placed
    · cases placed
    · rename_i below
      split at placed
      · rename_i kind
        split at placed
        · rename_i q' host found
          cases placed
          obtain ⟨mem, room⟩ := freeHost_found found
          refine ⟨kind, ⟨user, rfl, ?_⟩, mem, host, found, room⟩
          by_cases zero : s.conf.maxUser = 0
          · exact .inl zero
          · exact .inr (Int.not_le.1 fun full => below ⟨zero, full⟩)
        · cases placed
      · cases placed

/-- A job of the kind is placed exactly when it is not blocked. -/
lemma placeJob_none (user : job.uaId < s.users.length)
    (hosts : ∀ q ∈ job.mhosts, q.haId < s.hosts.length) :
    placeJob rs s job = none ↔ (ofKind rs job = true → s.Blocked job) := by
  obtain ⟨user, here⟩ : ∃ user, s.users[job.uaId]? = some user :=
    ⟨_, List.getElem?_eq_getElem user⟩
  unfold placeJob
  rw [here]
  dsimp only
  split
  · rename_i full
    exact ⟨fun _ _ => .inl ⟨user, here, full⟩, fun _ => rfl⟩
  · rename_i below
    have notFull : ¬ s.UserFull job.uaId := by
      rintro ⟨user', here', full⟩
      obtain rfl := Option.some.inj (here.symm.trans here')
      exact below full
    split
    · rename_i kind
      rcases freeHost_full hosts with ⟨none, full⟩ | ⟨q, host, found, mem, free⟩
      · rw [none]
        exact ⟨fun _ _ => .inr full, fun _ => rfl⟩
      · rw [found]
        refine ⟨fun same => (Option.some_ne_none q same).elim, fun blocked => ?_⟩
        rcases blocked kind with full | full
        · exact absurd full notFull
        · exact absurd (full q mem) free
    · rename_i other
      exact ⟨fun _ kind => absurd kind other, fun _ => rfl⟩

/-- The counts only grow: a host that is full stays full. -/
lemma freeHost_charge {qs : List SchQueue}
    (none : ∀ out, s.freeHost qs ≠ some (some out)) (job : SchJob) (q : SchQueue) :
    ∀ out, (s.chargeJob job q).freeHost qs ≠ some (some out) := by
  induction qs with
  | nil => exact fun out same => by cases same
  | cons q' qs ih =>
    have hosts : (s.chargeJob job q).hosts[q'.haId]? = (s.hosts[q'.haId]?).map fun h =>
        if q.haId = q'.haId then { h with dispatched := h.dispatched + 1 } else h := by
      rw [chargeJob, List.getElem?_modify]
      rfl
    rw [freeHost] at none ⊢
    rw [hosts]
    cases here : s.hosts[q'.haId]? with
    | none => exact fun out same => by cases same
    | some host =>
      rw [here] at none
      dsimp only [Option.map_some] at none ⊢
      have conf : (s.chargeJob job q).conf = s.conf := rfl
      rw [conf]
      generalize next : (if q.haId = q'.haId then { host with dispatched := host.dispatched + 1 }
        else host) = host'
      have used : host'.usedSlots = host.usedSlots := by
        rw [← next]
        split <;> rfl
      have grown : host.dispatched ≤ host'.dispatched := by
        rw [← next]
        split
        · dsimp only
          omega
        · exact Int.le_refl _
      by_cases full : s.conf.maxResource ≠ 0 ∧ host.usedSlots + host.dispatched ≥ s.conf.maxResource
      · rw [if_pos full] at none
        rw [if_pos ⟨full.1, by rw [used]; omega⟩]
        exact ih none
      · rw [if_neg full] at none
        by_cases free : q'.slots - host.dispatched > 0
        · rw [if_pos free] at none
          exact absurd rfl (none _)
        · rw [if_neg free] at none
          have taken : ¬ q'.slots - host'.dispatched > 0 := by omega
          by_cases full' : s.conf.maxResource ≠ 0 ∧
              host'.usedSlots + host'.dispatched ≥ s.conf.maxResource
          · rw [if_pos full']
            exact ih none
          · rw [if_neg full', if_neg taken]
            exact ih none

/-- The counts only grow: what is blocked stays blocked. -/
lemma placeJob_charge (s : Scheduler) (job : SchJob) (q : SchQueue) (job' : SchJob)
    (blocked : placeJob rs s job' = none) : placeJob rs (s.chargeJob job q) job' = none := by
  have users : (s.chargeJob job q).users[job'.uaId]? = (s.users[job'.uaId]?).map fun u =>
      if job.uaId = job'.uaId then leave true { u with dispatched := u.dispatched + 1 } else u := by
    rw [chargeJob, List.getElem?_modify]
    rfl
  unfold placeJob at blocked ⊢
  rw [users]
  cases here : s.users[job'.uaId]? with
  | none => rfl
  | some user =>
    rw [here] at blocked
    dsimp only [Option.map_some] at blocked ⊢
    have conf : (s.chargeJob job q).conf = s.conf := rfl
    rw [conf]
    generalize next : (if job.uaId = job'.uaId then
      leave true { user with dispatched := user.dispatched + 1 } else user) = user'
    have running : user'.runningJobs = user.runningJobs := by
      rw [← next]
      split <;> rfl
    have grown : user.dispatched ≤ user'.dispatched := by
      rw [← next]
      split
      · dsimp only [leave]
        omega
      · exact Int.le_refl _
    by_cases full : s.conf.maxUser ≠ 0 ∧ user.runningJobs + user.dispatched ≥ s.conf.maxUser
    · rw [if_pos ⟨full.1, by rw [running]; omega⟩]
    · rw [if_neg full] at blocked
      split
      · rfl
      · split
        · rename_i kind
          rw [if_pos kind] at blocked
          have none : ∀ out, s.freeHost job'.mhosts ≠ some (some out) := by
            intro out found
            rw [found] at blocked
            cases blocked
          split
          · rename_i found
            exact absurd found (freeHost_charge none job q _)
          · rfl
        · rfl

end Place

section Pass

variable {pre xs : List SchJob}

/-- The first entry with the id of a job is the job. -/
lemma findIdx_jid (unique : ((pre ++ job :: xs).map (·.jid)).Nodup) :
    (pre ++ job :: xs).findIdx? (·.jid == job.jid) = some pre.length := by
  rw [List.map_append, List.map_cons, List.nodup_append] at unique
  rw [List.findIdx?_append, List.findIdx?_eq_none_iff.2, List.findIdx?_cons]
  · simp
  · intro other mem
    have differ := unique.2.2 _ (List.mem_map_of_mem mem) _ List.mem_cons_self
    simpa using differ

/-- The deletion of a job whose user has windows. -/
lemma jobDel_windows (unique : (s.jobs.map (·.jid)).Nodup) (jobs : s.jobs = pre ++ job :: xs)
    {user : SchUser} (owner : s.users[job.uaId]? = some user) (windows : user.subWindows ≠ []) :
    s.jobDel job.jid true =
      { s with users := s.users.modify job.uaId (leave true), jobs := pre ++ xs } := by
  rw [jobs] at unique
  have here : (pre ++ job :: xs)[pre.length]? = some job := by simp
  have rest : (pre ++ job :: xs).eraseIdx pre.length = pre ++ xs := by
    rw [List.eraseIdx_append_of_length_le (Nat.le_refl _), Nat.sub_self]
    rfl
  unfold jobDel
  simp only [jobs, findIdx_jid unique, here, Option.map_some, Option.getD_some, owner, windows,
    and_false, if_false, rest]

/-- The deletion of a job whose user has no windows. -/
lemma jobDel_windowless (unique : (s.jobs.map (·.jid)).Nodup) (jobs : s.jobs = pre ++ job :: xs)
    {user : SchUser} (owner : s.users[job.uaId]? = some user) (none : user.subWindows = []) :
    (s.jobDel job.jid true).crashed = true := by
  rw [jobs] at unique
  have here : (pre ++ job :: xs)[pre.length]? = some job := by simp
  unfold jobDel
  simp only [jobs, findIdx_jid unique, here, Option.map_some, Option.getD_some, owner, none,
    and_self, if_true]

/-- The user of a job after one more of its jobs was counted. -/
lemma counted_user {user : SchUser} {k : Nat} (owner : s.users[job.uaId]? = some user) :
    ∃ user', (s.users.modify k fun u => { u with dispatched := u.dispatched + 1 })[job.uaId]? =
      some user' ∧ user'.subWindows = user.subWindows := by
  rw [List.getElem?_modify, owner]
  refine ⟨_, rfl, ?_⟩
  split <;> rfl

/-- A job that is sent is counted and printed, and it leaves the list. -/
lemma sendJob_eq (unique : (s.jobs.map (·.jid)).Nodup) (jobs : s.jobs = pre ++ job :: xs)
    {user : SchUser} (owner : s.users[job.uaId]? = some user) (windows : user.subWindows ≠ [])
    (on : s.hosts[q.haId]? = some host) :
    s.sendJob job q host = { s.chargeJob job q with jobs := pre ++ xs } := by
  obtain ⟨user', owner', same⟩ := counted_user (k := job.uaId) owner
  have id : s.hostIdAt q.haId = host.hid := by
    rw [hostIdAt, on]
    rfl
  refine Eq.trans (jobDel_windows unique jobs owner' (by rw [same]; exact windows)) ?_
  rw [chargeJob, printed, id, List.modify_modify_eq]
  rfl

/-- A round of the loop over a job that is not placed. -/
lemma schedDispatch_skip {most n i d : Nat} (here : s.jobs[i]? = some job) (room : d < most)
    (user : job.uaId < s.users.length) (hosts : ∀ q ∈ job.mhosts, q.haId < s.hosts.length)
    (blocked : placeJob rs s job = none) :
    schedDispatch rs most (n + 1) i d s = schedDispatch rs most n (i + 1) d s := by
  obtain ⟨user, owner⟩ : ∃ user, s.users[job.uaId]? = some user :=
    ⟨_, List.getElem?_eq_getElem user⟩
  rw [schedDispatch, here]
  dsimp only
  rw [if_neg (Nat.not_le.2 room), owner]
  dsimp only
  unfold placeJob at blocked
  rw [owner] at blocked
  dsimp only at blocked
  split
  · rfl
  · rename_i below
    rw [if_neg below] at blocked
    split
    · rfl
    · rename_i kind
      rw [if_pos (ofKind_iff.2 kind)] at blocked
      rcases freeHost_full hosts with ⟨none, -⟩ | ⟨q, host, found, -, -⟩
      · rw [none]
      · rw [found] at blocked
        cases blocked

/-- A round of the loop over a job that is placed. -/
lemma schedDispatch_send {most n i d : Nat} (here : s.jobs[i]? = some job) (room : d < most)
    (placed : placeJob rs s job = some q) :
    ∃ host, s.hosts[q.haId]? = some host ∧
      schedDispatch rs most (n + 1) i d s =
        schedDispatch rs most n i (d + 1) (s.sendJob job q host) := by
  obtain ⟨kind, ⟨user, owner, below⟩, mem, host, found, on, -⟩ := placeJob_some placed
  refine ⟨host, on, ?_⟩
  have notFull : ¬ (s.conf.maxUser ≠ 0 ∧ user.runningJobs + user.dispatched ≥ s.conf.maxUser) := by
    rintro ⟨some, full⟩
    rcases below with zero | below
    · exact some zero
    · exact Int.not_le.2 below full
  rw [schedDispatch, here]
  dsimp only
  rw [if_neg (Nat.not_le.2 room), owner]
  dsimp only
  rw [if_neg notFull, if_neg (ofKind_iff.1 kind), found]

/-- A call is over when it has sent as many jobs as it may. -/
lemma schedDispatch_over {most n i d : Nat} (past : most ≤ d) :
    schedDispatch rs most n i d s = (s, d) := by
  cases n with
  | zero => rfl
  | succ n =>
    rw [schedDispatch]
    cases s.jobs[i]? with
    | none => rfl
    | some job =>
      dsimp only
      rw [if_pos past]

/-- A call that finds no job that can be placed changes nothing. -/
lemma schedDispatch_none {most n d : Nat} (jobs : s.jobs = pre ++ xs)
    (users : ∀ job ∈ xs, job.uaId < s.users.length)
    (hosts : ∀ job ∈ xs, ∀ q ∈ job.mhosts, q.haId < s.hosts.length)
    (blocked : ∀ job ∈ xs, placeJob rs s job = none) :
    schedDispatch rs most n pre.length d s = (s, d) := by
  induction xs generalizing pre n with
  | nil =>
    cases n with
    | zero => rfl
    | succ n => rw [schedDispatch, jobs, List.append_nil, List.getElem?_length]
  | cons job xs ih =>
    rcases Nat.lt_or_ge d most with room | past
    · cases n with
      | zero => rfl
      | succ n =>
        have here : s.jobs[pre.length]? = some job := by simp [jobs]
        rw [schedDispatch_skip here room (users job List.mem_cons_self)
          (hosts job List.mem_cons_self) (blocked job List.mem_cons_self)]
        have rest : schedDispatch rs most n (pre ++ [job]).length d s = (s, d) :=
          ih (by simp [jobs])
          (fun other mem => users other (List.mem_cons_of_mem job mem))
          (fun other mem => hosts other (List.mem_cons_of_mem job mem))
          (fun other mem => blocked other (List.mem_cons_of_mem job mem))
        rwa [List.length_append, List.length_singleton] at rest
    · exact schedDispatch_over past

/-- The users keep the number of their windows. -/
lemma chargeJob_windows {depth : Nat} (windows : ∀ user ∈ s.users, user.subWindows.length = depth) :
    ∀ user ∈ (s.chargeJob job q).users, user.subWindows.length = depth := by
  intro user mem
  obtain ⟨k, here⟩ := List.mem_iff_getElem?.1 mem
  rw [chargeJob, List.getElem?_modify] at here
  obtain ⟨user', here', same⟩ := Option.map_eq_some_iff.1 here
  have deep := windows user' (List.mem_of_getElem? here')
  rw [← same]
  split
  · rw [leave, if_pos rfl, List.length_modify]
    exact deep
  · exact deep

/-- The tables stay in order when a job is sent. -/
lemma Formed.send (formed : Formed s) (jobs : s.jobs = pre ++ job :: xs) :
    Formed { s.chargeJob job q with jobs := pre ++ xs } := by
  have less : (pre ++ xs).Sublist s.jobs := by
    rw [jobs]
    exact (List.Sublist.refl pre).append (List.sublist_cons_self job xs)
  refine ⟨(less.map _).nodup formed.unique, ?_, ?_, ?_⟩
  · intro other mem
    rw [chargeJob, List.length_modify]
    exact formed.users other (less.subset mem)
  · intro other mem q' mem'
    rw [chargeJob, List.length_modify]
    exact formed.hosts other (less.subset mem) q' mem'
  · exact chargeJob_windows (q := q) formed.windows

/-- The list of jobs in the tables. -/
def heldJobs : Held Scheduler SchJob where
  get s := s.jobs
  put jobs s := { s with jobs }
  get_put _ _ := rfl
  put_get _ := rfl
  put_put _ _ _ := rfl

lemma placeJob_apart (rs : Bool) : Apart heldJobs (placeJob rs) chargeJob where
  place jobs s job := placeJob_congr (show { s with jobs }.conf = s.conf from rfl)
    (show { s with jobs }.users = s.users from rfl) (show { s with jobs }.hosts = s.hosts from rfl)
    job
  charge _ _ _ _ := rfl

/-- The loop of `gw_sched_dispatch`. -/
lemma schedDispatch_loop (rs : Bool) (most : Nat) :
    Greedy.Loop heldJobs (placeJob rs) chargeJob most (fun s => Formed s ∧ s.conf.windowDepth ≠ 0)
      (schedDispatch rs most) where
  past := schedDispatch_over
  ended {n i d s} past := by
    cases n with
    | zero => rfl
    | succ n =>
      have past : s.jobs[i]? = none := past
      rw [schedDispatch, past]
  skip {n i d s job} inv here room blocked :=
    have mem : job ∈ s.jobs := List.mem_of_getElem? here
    schedDispatch_skip here room (inv.1.users job mem) (inv.1.hosts job mem) blocked
  send {n d s job q pre xs} inv jobs room place := by
    obtain ⟨formed, deep⟩ := inv
    have jobs : s.jobs = pre ++ job :: xs := jobs
    have here : s.jobs[pre.length]? = some job := by simp [jobs]
    obtain ⟨host, on, step⟩ := schedDispatch_send (n := n) here room place
    obtain ⟨-, ⟨user, owner, -⟩, -⟩ := placeJob_some place
    have windows : user.subWindows ≠ [] := by
      intro none
      have depth := formed.windows user (List.mem_of_getElem? owner)
      rw [none] at depth
      exact deep depth.symm
    refine ⟨⟨formed.send jobs, deep⟩, ?_⟩
    rw [step, sendJob_eq formed.unique jobs owner windows on]
    rfl

/-- A call of `gw_sched_dispatch` is a greedy pass. -/
lemma schedDispatch_serve (rs : Bool) (most d : Nat) {n : Nat} (jobs : s.jobs = pre ++ xs)
    (formed : Formed s) (deep : s.conf.windowDepth ≠ 0) (rounds : xs.length ≤ n) :
    schedDispatch rs most n pre.length d s =
      ({ Greedy.after chargeJob s.core (serve (placeJob rs) chargeJob (most - d) s.core xs).1 with
          jobs := pre ++ (serve (placeJob rs) chargeJob (most - d) s.core xs).2 },
        d + (serve (placeJob rs) chargeJob (most - d) s.core xs).1.length) := by
  have core : s.core = heldJobs.put [] s := rfl
  rw [(schedDispatch_loop rs most).serve (placeJob_apart rs) ⟨formed, deep⟩ jobs rounds, core,
    serve_put (placeJob_apart rs), after_put (placeJob_apart rs)]
  rfl

/-- The limit of one call. -/
def mostOf (s : Scheduler) : Nat :=
  if s.conf.maxDispatch = 0 then s.jobs.length else s.conf.maxDispatch

/-- A crash is not undone. -/
lemma schedDispatch_crashed {most n i d : Nat} (crashed : s.crashed = true) :
    (schedDispatch rs most n i d s).1.crashed = true := by
  induction n generalizing i d s with
  | zero => exact crashed
  | succ n ih =>
    rw [schedDispatch]
    split
    · exact crashed
    · split
      · exact crashed
      · split
        · rfl
        · split
          · exact ih crashed
          · split
            · exact ih crashed
            · split
              · rfl
              · exact ih crashed
              · apply ih
                unfold sendJob jobDel
                dsimp only
                split
                · exact crashed
                · split
                  · rfl
                  · split
                    · rfl
                    · exact crashed

/-- Without windows a call crashes the scheduler as soon as a job can be placed. -/
lemma schedDispatch_crash {most n d : Nat} (jobs : s.jobs = pre ++ xs) (formed : Formed s)
    (flat : s.conf.windowDepth = 0) (rounds : xs.length ≤ n) (room : d < most)
    (free : ∃ job ∈ xs, placeJob rs s job ≠ none) :
    (schedDispatch rs most n pre.length d s).1.crashed = true := by
  induction xs generalizing pre n with
  | nil =>
    obtain ⟨job, mem, -⟩ := free
    cases mem
  | cons job xs ih =>
    cases n with
    | zero => cases rounds
    | succ n =>
      have here : s.jobs[pre.length]? = some job := by simp [jobs]
      have mem : job ∈ s.jobs := List.mem_of_getElem? here
      cases place : placeJob rs s job with
      | none =>
        rw [schedDispatch_skip here room (formed.users job mem) (formed.hosts job mem) place]
        have later : ∃ job ∈ xs, placeJob rs s job ≠ none := by
          obtain ⟨other, mem, free⟩ := free
          rcases List.mem_cons.1 mem with rfl | mem
          · exact absurd place free
          · exact ⟨other, mem, free⟩
        have rest : (schedDispatch rs most n (pre ++ [job]).length d s).1.crashed = true :=
          ih (by simp [jobs]) (Nat.le_of_succ_le_succ rounds) later
        rwa [List.length_append, List.length_singleton] at rest
      | some q =>
        obtain ⟨host, on, step⟩ := schedDispatch_send here room place
        obtain ⟨-, ⟨user, owner, -⟩, -⟩ := placeJob_some place
        have depth := formed.windows user (List.mem_of_getElem? owner)
        rw [flat] at depth
        obtain ⟨user', owner', same⟩ := counted_user (k := job.uaId) owner
        rw [step]
        apply schedDispatch_crashed
        exact jobDel_windowless formed.unique jobs owner'
          (by rw [same]; exact List.length_eq_zero_iff.1 depth)

end Pass

end Scheduler

end GridWay
