import GridWay.Lib.Table
import GridWay.Sched.Step

/-!
# Integrity of the tables of the scheduler

A deletion moves the entries after the deleted one. Jobs refer to users by position and nothing
updates these references, so the deletion of a user keeps the tables in order only when every job
in the list belongs to a user stored before it.

* `Scheduler.Integrity`: the references and the counts of the tables.
* `Scheduler.keepsOrder`: the messages that keep the tables in order.
* `Scheduler.integrity_run`: every step of a run is sound if and only if every message keeps the
  tables in order.
-/

namespace GridWay

open Table

/-- What the tables know of a user. -/
def SchUser.face (u : SchUser) : UserId × Int := (u.uid, u.totalJobs)

/-- What the tables know of a job. -/
def SchJob.face (job : SchJob) : Nat × UserId := (job.uaId, job.owner)

namespace Scheduler

variable {s s' : Scheduler} {w : SchedWorld} {uid : UserId} {jid : JobId} {k : Nat}

/-- The tables are in order. -/
structure Integrity (s : Scheduler) : Prop where
  users : (s.users.map (·.uid)).Nodup
  hosts : (s.hosts.map (·.hid)).Nodup
  owners : ∀ job ∈ s.jobs, Refers (·.uid) s.users job.uaId job.owner
  matched : ∀ job ∈ s.jobs, ∀ q ∈ job.mhosts, q.haId < s.hosts.length
  counts : ∀ u ∈ s.users, u.totalJobs = s.jobs.countP (·.owner == u.uid)

/-- A deletion takes the entry of its id, nothing else, and nothing at all for an unknown id. -/
def DeletesExactly (s s' : Scheduler) : SchedMsg → Prop
  | .userDel uid =>
    if (s.findUser uid).isSome then s' = { s with users := s.users.eraseP (·.uid == uid) } else s' = s
  | .jobDel jid =>
    if s.jobs.any (·.jid == jid) then
      s'.jobs = s.jobs.eraseP (·.jid == jid) ∧ s'.hosts = s.hosts ∧
        s'.users.map (·.uid) = s.users.map (·.uid)
    else s' = s
  | _ => True

/-- A message is taken as it should be; a scheduler that crashes leaves no tables. -/
def StepSound (s : Scheduler) (e : SchedMsg × SchedWorld) : Prop :=
  (s.take e).crashed = false → Integrity (s.take e) ∧ DeletesExactly s (s.take e) e.1

/-- A user is deleted by a message only when the user is known, and when no job in the list belongs
to it or to a user stored after it. A scheduler that crashed takes no message. -/
def keepsOrder (s : Scheduler) : SchedMsg → Bool
  | .userDel uid =>
    s.crashed ||
      match s.findUser uid with
      | none => false
      | some k => s.jobs.all (·.uaId < k)
  | _ => true

/-- The invariant: the tables, and the lists of hosts of the users. -/
structure Inv (s : Scheduler) : Prop extends Integrity s where
  hostLists : ∀ u ∈ s.users, ∀ h ∈ u.hosts, h.haId < s.hosts.length
  deficit : s.deficit = 0

namespace Inv

/-- The references of a table are those of its keys. -/
lemma refers_iff {users : List SchUser} {i : Nat} :
    Refers (·.uid) users i uid ↔ (users.map (·.uid))[i]? = some uid :=
  refers_iff_keys

/-- Tables that differ outside of what is referred to and counted. -/
lemma congr (inv : Inv s) (users : s'.users.map SchUser.face = s.users.map SchUser.face)
    (hosts : s'.hosts.map (·.hid) = s.hosts.map (·.hid))
    (jobs : (s'.jobs.map SchJob.face).Perm (s.jobs.map SchJob.face))
    (matched : ∀ job ∈ s'.jobs, ∀ q ∈ job.mhosts, q.haId < s.hosts.length)
    (lists : ∀ u ∈ s'.users, ∀ h ∈ u.hosts, h.haId < s.hosts.length)
    (deficit : s'.deficit = s.deficit) : Inv s' := by
  have uids : s'.users.map (·.uid) = s.users.map (·.uid) := by
    simpa [SchUser.face, Function.comp_def] using congrArg (List.map Prod.fst) users
  have size : s'.hosts.length = s.hosts.length := by
    simpa using congrArg List.length hosts
  constructor
  · constructor
    · rw [uids]
      exact inv.users
    · rw [hosts]
      exact inv.hosts
    · intro job mem
      obtain ⟨old, old_mem, same⟩ := List.mem_map.1 (jobs.mem_iff.1 (List.mem_map_of_mem mem))
      obtain ⟨ua, owner⟩ := Prod.mk.inj same
      have refers := inv.owners old old_mem
      rw [refers_iff] at refers ⊢
      rw [uids, ← ua, ← owner]
      exact refers
    · rw [size]
      exact matched
    · intro u mem
      obtain ⟨old, old_mem, same⟩ := List.mem_map.1 (users ▸ List.mem_map_of_mem mem)
      obtain ⟨uid, total⟩ := Prod.mk.inj same
      have count := jobs.countP_eq fun face => face.2 == u.uid
      rw [List.countP_map, List.countP_map] at count
      rw [← total, inv.counts old old_mem, uid]
      exact_mod_cast count.symm
  · rw [size]
    exact lists
  · rw [deficit]
    exact inv.deficit

lemma init (conf : SchedConf) : Inv { conf } where
  users := List.nodup_nil
  hosts := List.nodup_nil
  owners _ mem := by cases mem
  matched _ mem := by cases mem
  counts _ mem := by cases mem
  hostLists _ mem := by cases mem
  deficit := rfl

end Inv

section Find

lemma findUser_some (known : s.findUser uid = some k) :
    ∃ u, s.users[k]? = some u ∧ u.uid = uid := by
  obtain ⟨below, here, -⟩ := List.findIdx?_eq_some_iff_getElem.1 known
  exact ⟨s.users[k], List.getElem?_eq_getElem below, by simpa using here⟩

lemma findUser_none (unknown : s.findUser uid = none) : uid ∉ s.users.map (·.uid) := by
  intro mem
  obtain ⟨u, here, rfl⟩ := List.mem_map.1 mem
  simpa using List.findIdx?_eq_none_iff.1 unknown u here

lemma findHost_none {hid : HostId} (unknown : s.findHost hid = none) :
    hid ∉ s.hosts.map (·.hid) := by
  intro mem
  obtain ⟨h, here, rfl⟩ := List.mem_map.1 mem
  simpa using List.findIdx?_eq_none_iff.1 unknown h here

end Find

namespace Inv

lemma nodup_modify {users : List SchUser} {f : SchUser → SchUser}
    (nodup : (users.map (·.uid)).Nodup) (same : ∀ u, (f u).uid = u.uid) :
    ((users.modify k f).map (·.uid)).Nodup := by
  rw [keys_modify same]
  exact nodup

/-- A change of one user outside of its id and its count. -/
lemma modifyUser {f : SchUser → SchUser} (inv : Inv s) (face : ∀ u, (f u).face = u.face)
    (lists : ∀ u ∈ s.users, ∀ h ∈ (f u).hosts, h.haId < s.hosts.length) :
    Inv { s with users := s.users.modify k f } := by
  refine inv.congr (keys_modify face) rfl (List.Perm.refl _) inv.matched ?_ rfl
  intro u mem h here
  obtain ⟨i, old, at_i, rfl⟩ := mem_modify mem
  have old_mem := List.mem_of_getElem? at_i
  split at here
  · exact lists old old_mem h here
  · exact inv.hostLists old old_mem h here

lemma addHost {hid uslots rjobs name} (inv : Inv s) : Inv (s.addHost hid uslots rjobs name) := by
  unfold Scheduler.addHost
  cases known : s.findHost hid with
  | some i =>
    exact inv.congr rfl (keys_modify fun _ => rfl) (List.Perm.refl _) inv.matched inv.hostLists rfl
  | none =>
    have fresh := findHost_none known
    dsimp only
    refine ⟨⟨?_, ?_, ?_, ?_, ?_⟩, ?_, inv.deficit⟩
    · simpa [Function.comp_def] using inv.users
    · rw [List.map_append, List.nodup_append]
      exact ⟨inv.hosts, List.nodup_singleton _, by
        rintro a mem b here rfl
        rw [List.map_singleton, List.mem_singleton] at here
        subst here
        exact fresh mem⟩
    · intro job mem
      exact (inv.owners job mem).map fun _ => rfl
    · intro job mem q here
      have below := inv.matched job mem q here
      simp only [List.length_append, List.length_singleton]
      omega
    · intro u mem
      obtain ⟨old, old_mem, rfl⟩ := List.mem_map.1 mem
      exact inv.counts old old_mem
    · intro u mem h here
      obtain ⟨old, old_mem, rfl⟩ := List.mem_map.1 mem
      simp only [List.length_append, List.length_singleton]
      rcases List.mem_append.1 here with before | new
      · have below := inv.hostLists old old_mem h before
        omega
      · rw [List.mem_singleton.1 new]
        exact Nat.lt_succ_self _

/-- No job belongs to a user that is not in the table. -/
lemma count_unknown (inv : Inv s) (fresh : uid ∉ s.users.map (·.uid)) :
    s.jobs.countP (·.owner == uid) = 0 := by
  refine List.countP_eq_zero.2 fun job mem same => fresh ?_
  obtain ⟨u, at_u, owner⟩ := inv.owners job mem
  rw [← beq_iff_eq.1 same, ← owner]
  exact List.mem_map_of_mem (List.mem_of_getElem? at_u)

lemma addUser {ajobs rjobs name} (inv : Inv s) : Inv (s.addUser uid ajobs rjobs name) := by
  unfold Scheduler.addUser
  cases known : s.findUser uid with
  | some i =>
    exact inv.modifyUser (f := fun u => { u with activeJobs := ajobs, runningJobs := rjobs })
      (fun _ => rfl) fun u mem => inv.hostLists u mem
  | none =>
    have fresh := findUser_none known
    dsimp only
    rw [if_neg (by rw [inv.deficit]; exact Nat.lt_irrefl 0)]
    refine ⟨⟨?_, inv.hosts, ?_, inv.matched, ?_⟩, ?_, inv.deficit⟩
    · rw [List.map_append, List.nodup_append]
      exact ⟨inv.users, List.nodup_singleton _, by
        rintro a mem b here rfl
        rw [List.map_singleton, List.mem_singleton] at here
        subst here
        exact fresh mem⟩
    · intro job mem
      exact (inv.owners job mem).append
    · intro u mem
      rcases List.mem_append.1 mem with old | new
      · exact inv.counts u old
      · rw [List.mem_singleton.1 new]
        dsimp only
        rw [inv.count_unknown fresh]
        rfl
    · intro u mem h here
      rcases List.mem_append.1 mem with old | new
      · exact inv.hostLists u old h here
      · rw [List.mem_singleton.1 new] at here
        obtain ⟨⟨host, j⟩, pair, rfl⟩ := List.mem_map.1 here
        have := List.mem_zipIdx pair
        dsimp only
        omega

lemma onUserHost {hid f} (inv : Inv s) (same : ∀ h : SchUserHost, (f h).haId = h.haId) :
    Inv (s.onUserHost uid hid f) := by
  unfold Scheduler.onUserHost
  split
  · exact inv
  · apply inv.modifyUser
    · intro u
      split <;> rfl
    · intro u mem h here
      split at here
      · exact inv.hostLists u mem h here
      · obtain ⟨i, old, at_i, rfl⟩ := mem_modify here
        have below := inv.hostLists u mem old (List.mem_of_getElem? at_i)
        split
        · rwa [same]
        · exact below

lemma jobFailed {now hid reason} (inv : Inv s) : Inv (s.jobFailed now hid uid reason) := by
  unfold Scheduler.jobFailed
  split
  · apply inv.onUserHost
    intro h
    unfold ban
    dsimp only
    repeat' split
    all_goals rfl
  · exact inv

lemma jobSuccess {hid txfr tsus texe} (inv : Inv s) :
    Inv (s.jobSuccess hid uid txfr tsus texe) :=
  inv.onUserHost fun _ => rfl

/-- The user at a position is the owner of a job exactly when the job refers to the position. -/
lemma owner_iff {u : SchUser} {i : Nat} (inv : Inv s) (at_k : Refers (·.uid) s.users k uid)
    (at_i : s.users[i]? = some u) : uid = u.uid ↔ k = i := by
  obtain ⟨v, at_v, rfl⟩ := at_k
  constructor
  · exact position_unique inv.users at_v at_i
  · rintro rfl
    rw [at_v] at at_i
    rw [Option.some.inj at_i]

lemma jobAdd {now aid reason status} (inv : Inv s) :
    Inv (s.jobAdd now jid aid reason uid status) := by
  unfold Scheduler.jobAdd
  cases known : s.findUser uid with
  | none => exact inv
  | some k =>
    have owner : Refers (·.uid) s.users k uid := findUser_some known
    dsimp only
    refine ⟨⟨?_, inv.hosts, ?_, ?_, ?_⟩, ?_, inv.deficit⟩
    · exact nodup_modify inv.users fun _ => rfl
    · intro job mem
      rcases List.mem_append.1 mem with old | new
      · exact (inv.owners job old).modify fun _ => rfl
      · rw [List.mem_singleton.1 new]
        exact owner.modify fun _ => rfl
    · intro job mem q here
      rcases List.mem_append.1 mem with old | new
      · exact inv.matched job old q here
      · rw [List.mem_singleton.1 new] at here
        cases here
    · intro u mem
      obtain ⟨i, old, at_i, rfl⟩ := mem_modify mem
      have count := inv.counts old (List.mem_of_getElem? at_i)
      have same := inv.owner_iff owner at_i
      by_cases here : k = i
      · simp [here, count, same.2 here]
      · simp [here, count, mt same.1 here]
    · intro u mem h here
      obtain ⟨i, old, at_i, rfl⟩ := mem_modify mem
      refine inv.hostLists old (List.mem_of_getElem? at_i) h ?_
      split at here <;> exact here

/-- The deletion of a known user takes its entry. -/
lemma delUser_known (known : s.findUser uid = some k) :
    s.delUser uid = { s with users := s.users.eraseIdx k } := by
  unfold Scheduler.delUser
  obtain ⟨u, at_k, -⟩ := findUser_some known
  by_cases single : s.users.length = 1
  · rw [if_pos single]
    obtain ⟨only, eq⟩ := List.length_eq_one_iff.1 single
    obtain ⟨below, -⟩ := List.getElem?_eq_some_iff.1 at_k
    have first : k = 0 := by omega
    rw [eq, first]
    rfl
  · rw [if_neg single, known]

lemma delUser (inv : Inv s) (known : s.findUser uid = some k)
    (before : ∀ job ∈ s.jobs, job.uaId < k) : Inv (s.delUser uid) := by
  rw [delUser_known known]
  refine ⟨⟨?_, inv.hosts, ?_, inv.matched, ?_⟩, ?_, inv.deficit⟩
  · exact inv.users.sublist ((List.eraseIdx_sublist _ _).map _)
  · intro job mem
    exact (refers_eraseIdx_iff inv.users (inv.owners job mem)).2 (before job mem)
  · intro u mem
    exact inv.counts u (List.mem_of_mem_eraseIdx mem)
  · intro u mem
    exact inv.hostLists u (List.mem_of_mem_eraseIdx mem)

/-- What the deletion of a job does: the job goes and is counted off at its user. -/
lemma jobDel_cases (inv : Inv s) (jid : JobId) (dispatched : Bool) :
    (s.jobDel jid dispatched = s ∧ s.jobs.findIdx? (·.jid == jid) = none) ∨
    s.jobDel jid dispatched = { s with crashed := true } ∨
    ∃ i job, s.jobs.findIdx? (·.jid == jid) = some i ∧ s.jobs[i]? = some job ∧
      s.jobDel jid dispatched =
        { s with users := s.users.modify job.uaId (leave dispatched), jobs := s.jobs.eraseIdx i } := by
  unfold Scheduler.jobDel
  cases known : s.jobs.findIdx? (·.jid == jid) with
  | none => exact .inl ⟨rfl, rfl⟩
  | some i =>
    right
    obtain ⟨below, -, -⟩ := List.findIdx?_eq_some_iff_getElem.1 known
    have at_i : s.jobs[i]? = some s.jobs[i] := List.getElem?_eq_getElem below
    obtain ⟨u, at_u, -⟩ := inv.owners s.jobs[i] (List.getElem_mem below)
    simp only [at_i, Option.map_some, Option.getD_some, at_u]
    split
    · exact .inl rfl
    · exact .inr ⟨i, _, rfl, at_i, rfl⟩

lemma jobDel (inv : Inv s) (jid : JobId) (dispatched : Bool) : Inv (s.jobDel jid dispatched) := by
  rcases inv.jobDel_cases jid dispatched with ⟨eq, -⟩ | eq | ⟨i, job, -, at_i, eq⟩
  · rwa [eq]
  · rw [eq]
    exact inv.congr rfl rfl (List.Perm.refl _) inv.matched inv.hostLists rfl
  · rw [eq]
    have owner := inv.owners job (List.mem_of_getElem? at_i)
    refine ⟨⟨?_, inv.hosts, ?_, ?_, ?_⟩, ?_, inv.deficit⟩
    · exact nodup_modify inv.users fun _ => rfl
    · intro job' mem
      exact (inv.owners job' (List.mem_of_mem_eraseIdx mem)).modify fun _ => rfl
    · intro job' mem
      exact inv.matched job' (List.mem_of_mem_eraseIdx mem)
    · intro u mem
      obtain ⟨j, old, at_j, rfl⟩ := mem_modify mem
      have count := inv.counts old (List.mem_of_getElem? at_j)
      have erased := countP_eraseIdx (p := fun job => job.owner == old.uid) at_i
      have same := inv.owner_iff owner at_j
      by_cases here : job.uaId = j
      · rw [if_pos here]
        simp only [same.2 here, beq_self_eq_true, if_true] at erased
        simp only [leave, count]
        omega
      · rw [if_neg here]
        rw [if_neg (by simpa using mt same.1 here)] at erased
        simp only [count]
        omega
    · intro u mem h here
      obtain ⟨j, old, at_j, rfl⟩ := mem_modify mem
      refine inv.hostLists old (List.mem_of_getElem? at_j) h ?_
      split at here <;> exact here

end Inv

section Match

variable {α : Type*} {conf : SchedConf} {uhosts : List SchUserHost} {job : SchJob} {q : SchQueue}
  {n : Nat}

lemma entries_range (xs : List α) (n : Nat) : (List.range n).filterMap (xs[·]?) = xs.take n := by
  induction n with
  | zero => rfl
  | succ n ih =>
    rw [List.range_succ, List.filterMap_append, ih, List.take_add_one, List.filterMap_cons]
    cases xs[n]? <;> rfl

lemma permute_perm (order : List Nat) (xs : List α) : (permute order xs).Perm xs := by
  unfold permute
  split
  · next perm =>
    have moved := perm.filterMap (xs[·]?)
    rwa [entries_range, List.take_length] at moved
  · exact .refl _

/-- The entries of a match list name the hosts of the user. -/
lemma mem_matchList {ms : List Match} (mem : q ∈ matchList conf w uhosts job ms) :
    ∃ uh ∈ uhosts, q.haId = uh.haId := by
  have chosen : q ∈ filterSelectQueues w uhosts job ms := by
    unfold matchList at mem
    split at mem
    · exact mem
    · exact (permute_perm _ _).mem_iff.1 mem
  obtain ⟨m, -, entry⟩ := List.mem_filterMap.1 chosen
  unfold queueOf at entry
  simp only [Option.bind_eq_bind, Option.bind_eq_some_iff, Option.pure_def, Option.some.injEq]
    at entry
  obtain ⟨l, -, uh, at_l, p, -, rfl⟩ := entry
  exact ⟨uh, List.mem_of_getElem? at_l, rfl⟩

lemma mem_userHostsOf {users : List SchUser} {uh : SchUserHost} (mem : uh ∈ userHostsOf users job) :
    ∃ u ∈ users, uh ∈ u.hosts := by
  unfold userHostsOf at mem
  cases at_ua : users[job.uaId]? with
  | none =>
    rw [at_ua] at mem
    cases mem
  | some u =>
    rw [at_ua] at mem
    exact ⟨u, List.mem_of_getElem? at_ua, mem⟩

/-- One round of the loop over the jobs: the match list of the job, which the next round starts
from, is empty, made for the job, or the one before. -/
lemma matchFrom_cons (conf : SchedConf) (w : SchedWorld) (users : List SchUser) (job : SchJob)
    (jobs : List SchJob) (last : Option Nat) (before : List SchQueue) :
    ∃ next mhosts,
      (matchFrom conf w users last before (job :: jobs)).jobs =
        { job with mhosts } :: (matchFrom conf w users next mhosts jobs).jobs ∧
      (mhosts = [] ∨ mhosts = before ∨
        ∃ ms, mhosts = matchList conf w (userHostsOf users job) job ms) := by
  rw [matchFrom]
  split
  · split
    · exact ⟨last, [], rfl, .inl rfl⟩
    · exact ⟨last, [], rfl, .inl rfl⟩
    · exact ⟨_, _, rfl, .inr (.inr ⟨_, rfl⟩)⟩
  · exact ⟨last, before, rfl, .inr (.inl rfl)⟩

/-- The match lists are the only thing that the loop over the jobs changes. -/
lemma matchFrom_faces (conf : SchedConf) (w : SchedWorld) (users : List SchUser)
    (jobs : List SchJob) (last : Option Nat) (before : List SchQueue) :
    (matchFrom conf w users last before jobs).jobs.map SchJob.face = jobs.map SchJob.face := by
  induction jobs generalizing last before with
  | nil => rfl
  | cons job jobs ih =>
    obtain ⟨next, mhosts, eq, -⟩ := matchFrom_cons conf w users job jobs last before
    rw [eq, List.map_cons, List.map_cons, ih]
    rfl

lemma matchFrom_matched (conf : SchedConf) (w : SchedWorld) {users : List SchUser}
    (lists : ∀ u ∈ users, ∀ h ∈ u.hosts, h.haId < n) (jobs : List SchJob) (last : Option Nat)
    (before : List SchQueue) (old : ∀ q ∈ before, q.haId < n) :
    ∀ job ∈ (matchFrom conf w users last before jobs).jobs, ∀ q ∈ job.mhosts, q.haId < n := by
  induction jobs generalizing last before with
  | nil =>
    intro job mem
    cases mem
  | cons job jobs ih =>
    obtain ⟨next, mhosts, eq, made⟩ := matchFrom_cons conf w users job jobs last before
    have listed : ∀ q ∈ mhosts, q.haId < n := by
      intro q mem
      rcases made with rfl | rfl | ⟨ms, rfl⟩
      · cases mem
      · exact old q mem
      · obtain ⟨uh, here, same⟩ := mem_matchList mem
        obtain ⟨u, known, there⟩ := mem_userHostsOf here
        rw [same]
        exact lists u known uh there
    rw [eq]
    intro job' mem
    rcases List.mem_cons.1 mem with rfl | later
    · exact listed
    · exact ih next mhosts listed job' later

end Match

namespace Inv

lemma crash (inv : Inv s) : Inv { s with crashed := true } :=
  inv.congr rfl rfl (.refl _) inv.matched inv.hostLists rfl

lemma matchingArrays (inv : Inv s) (w : SchedWorld) : Inv (s.matchingArrays w) :=
  inv.congr rfl rfl (.of_eq (matchFrom_faces ..))
    (matchFrom_matched _ _ inv.hostLists _ _ _ fun q mem => by cases mem) inv.hostLists rfl

lemma clearDispatched (inv : Inv s) : Inv s.clearDispatched := by
  refine inv.congr ?_ ?_ (.refl _) inv.matched ?_ rfl
  · simp [Scheduler.clearDispatched, SchUser.face, Function.comp_def]
  · simp [Scheduler.clearDispatched, Function.comp_def]
  · intro u mem h here
    obtain ⟨old, old_mem, rfl⟩ := List.mem_map.1 mem
    exact inv.hostLists old old_mem h here

lemma jobPolicies (inv : Inv s) (w : SchedWorld) : Inv (s.jobPolicies w) := by
  unfold Scheduler.jobPolicies
  split
  · exact inv
  · have perm := permute_perm (w.jobPolicies s.users s.jobs) s.jobs
    exact inv.congr rfl rfl (perm.map _) (fun job mem => inv.matched job (perm.mem_iff.1 mem))
      inv.hostLists rfl

lemma sendJob {job q host} (inv : Inv s) : Inv (s.sendJob job q host) := by
  apply jobDel
  refine inv.congr (keys_modify fun _ => rfl) (keys_modify fun _ => rfl) (.refl _) inv.matched ?_ rfl
  intro u mem h here
  obtain ⟨i, old, at_i, rfl⟩ := mem_modify mem
  refine inv.hostLists old (List.mem_of_getElem? at_i) h ?_
  split at here <;> exact here

lemma schedDispatch {reschedule maxDsp} (inv : Inv s) (n i dispatched : Nat) :
    Inv (s.schedDispatch reschedule maxDsp n i dispatched).1 := by
  induction n generalizing s i dispatched with
  | zero => exact inv
  | succ n ih =>
    unfold Scheduler.schedDispatch
    repeat' split
    all_goals first
      | exact inv
      | exact inv.crash
      | exact ih inv ..
      | exact ih inv.sendJob ..

lemma userUpdateWindows (inv : Inv s) : Inv s.userUpdateWindows := by
  unfold Scheduler.userUpdateWindows
  split
  · exact inv
  · refine inv.congr ?_ rfl (.refl _) inv.matched ?_ rfl
    · simp [SchUser.face, Function.comp_def]
    · intro u mem h here
      obtain ⟨old, old_mem, rfl⟩ := List.mem_map.1 mem
      exact inv.hostLists old old_mem h here

lemma schedule (inv : Inv s) (w : SchedWorld) : Inv (s.schedule w) := by
  have sent : Inv (if s.hosts ≠ [] ∧ s.users ≠ [] ∧ s.jobs ≠ [] then
      ((s.clearDispatched.matchingArrays w).jobPolicies w).gwSched else s) := by
    split
    · exact (((inv.clearDispatched.matchingArrays w).jobPolicies w).schedDispatch ..).schedDispatch ..
    · exact inv
  have ended : ∀ t : Scheduler, Inv t → Inv { t with out := t.out ++ [SchedOut.scheduleEnd] } :=
    fun t inv => inv.congr rfl rfl (.refl _) inv.matched inv.hostLists rfl
  unfold Scheduler.schedule
  apply ended
  split
  · exact sent.userUpdateWindows
  · exact sent

/-- Every message that keeps the order of the users keeps the invariant. -/
lemma take {e : SchedMsg × SchedWorld} (inv : Inv s) (keeps : s.keepsOrder e.1 = true) :
    Inv (s.take e) := by
  obtain ⟨msg, w⟩ := e
  unfold Scheduler.take
  split
  · exact inv
  · next running =>
    cases msg with
    | hostMonitor hid uslots rjobs name => exact inv.addHost
    | userAdd uid ajobs rjobs name => exact inv.addUser
    | userDel uid =>
      simp only [keepsOrder, running, Bool.false_or] at keeps
      cases known : s.findUser uid with
      | none =>
        rw [known] at keeps
        cases keeps
      | some k =>
        rw [known] at keeps
        exact inv.delUser known (by simpa using keeps)
    | jobDel jid => exact inv.jobDel jid false
    | jobFailed hid uid reason =>
      cases uid with
      | none => exact inv
      | some uid => exact inv.jobFailed
    | jobSuccess hid uid xfr sus exe =>
      cases uid with
      | none => exact inv
      | some uid => exact inv.jobSuccess
    | jobSchedule jid aid uid reason =>
      cases uid with
      | none => exact inv
      | some uid => exact inv.jobAdd
    | schedule => exact inv.schedule w

end Inv

section Deletes

lemma delUser_exact (known : s.findUser uid = some k) :
    DeletesExactly s (s.delUser uid) (.userDel uid) := by
  have position : s.users.findIdx? (·.uid == uid) = some k := known
  rw [DeletesExactly, known, Option.isSome_some, if_pos rfl, Inv.delUser_known known,
    List.eraseP_eq_eraseIdx, position]

/-- The deletion of an unknown user always deletes something. -/
lemma delUser_unknown (unknown : s.findUser uid = none) :
    ¬ DeletesExactly s (s.delUser uid) (.userDel uid) := by
  rw [DeletesExactly, unknown]
  intro same
  replace same : s.delUser uid = s := by simpa using same
  unfold delUser at same
  rw [unknown] at same
  split at same
  · next single =>
    have users := congrArg (fun s => s.users.length) same
    dsimp only at users
    rw [single] at users
    cases users
  · dsimp only at same
    split at same
    · have deficit := congrArg Scheduler.deficit same
      dsimp only at deficit
      omega
    · next some =>
      have users := congrArg (fun s => s.users.length) same
      have size := List.length_pos_iff.2 some
      rw [List.length_dropLast] at users
      omega

lemma jobDel_exact (inv : Inv s) (running : (s.jobDel jid false).crashed = false) :
    DeletesExactly s (s.jobDel jid false) (.jobDel jid) := by
  rcases inv.jobDel_cases jid false with ⟨eq, unknown⟩ | eq | ⟨i, job, known, -, eq⟩
  · have absent : s.jobs.any (·.jid == jid) = false := by
      simpa using List.findIdx?_eq_none_iff.1 unknown
    rw [DeletesExactly, absent, eq]
    rfl
  · rw [eq] at running
    cases running
  · obtain ⟨below, here, -⟩ := List.findIdx?_eq_some_iff_getElem.1 known
    have present : s.jobs.any (·.jid == jid) = true :=
      List.any_eq_true.2 ⟨_, List.getElem_mem below, here⟩
    rw [DeletesExactly, present, if_pos rfl, eq, List.eraseP_eq_eraseIdx, known]
    exact ⟨rfl, rfl, keys_modify fun _ => rfl⟩

end Deletes

lemma delUser_crashed : (s.delUser uid).crashed = s.crashed := by
  unfold delUser
  repeat' split
  all_goals rfl

/-- The deletion of a user that a reference points to, or points behind, breaks the reference. -/
lemma delUser_breaks {job : SchJob} (inv : Inv s) (known : s.findUser uid = some k)
    (mem : job ∈ s.jobs) (after : k ≤ job.uaId) : ¬ Integrity (s.delUser uid) := by
  intro sound
  rw [Inv.delUser_known known] at sound
  have below := (refers_eraseIdx_iff inv.users (inv.owners job mem)).1 (sound.owners job mem)
  omega

/-- A message is taken as it should be if and only if it keeps the order of the users. -/
lemma stepSound_iff (inv : Inv s) (e : SchedMsg × SchedWorld) :
    StepSound s e ↔ s.keepsOrder e.1 = true := by
  obtain ⟨msg, w⟩ := e
  constructor
  · intro sound
    cases msg with
    | userDel uid =>
      simp only [keepsOrder, Bool.or_eq_true]
      refine (Bool.eq_false_or_eq_true s.crashed).imp_right fun running => ?_
      have taken : s.take (.userDel uid, w) = s.delUser uid := by
        rw [take, running]
        rfl
      rw [StepSound, taken, delUser_crashed] at sound
      obtain ⟨integrity, exact⟩ := sound running
      cases known : s.findUser uid with
      | none => exact absurd exact (delUser_unknown known)
      | some k =>
        refine List.all_eq_true.2 fun job mem => decide_eq_true ?_
        by_contra after
        exact delUser_breaks inv known mem (Nat.le_of_not_lt after) integrity
    | _ => rfl
  · intro keeps running
    refine ⟨(inv.take keeps).toIntegrity, ?_⟩
    unfold take at running ⊢
    dsimp only at running ⊢
    split
    · next crashed =>
      rw [if_pos crashed] at running
      exact absurd running (by simp [crashed])
    · next live =>
      rw [if_neg live] at running
      cases msg with
      | userDel uid =>
        simp only [keepsOrder, live, Bool.false_or] at keeps
        cases known : s.findUser uid with
        | none =>
          rw [known] at keeps
          cases keeps
        | some k => exact delUser_exact known
      | jobDel jid => exact jobDel_exact inv running
      | _ => trivial

/-- **Referential integrity of the scheduler.** Every message of a run is taken as it should be if
and only if every deletion of a user names a user that is known and that no job of the list refers
to or behind. -/
theorem integrity_run (conf : SchedConf) (evs : List (SchedMsg × SchedWorld)) :
    Machine.Guarded take StepSound { conf } evs ↔
      Machine.Guarded take (fun s e => s.keepsOrder e.1 = true) { conf } evs := by
  have inv := Inv.init conf
  generalize ({ conf } : Scheduler) = s at inv
  induction evs generalizing s with
  | nil => exact Iff.rfl
  | cons e evs ih =>
    rw [Machine.Guarded, Machine.Guarded, stepSound_iff inv]
    exact and_congr_right fun keeps => ih _ (inv.take keeps)

/-- The first of two users is deleted, and the job of the second one refers to nobody. -/
theorem integrity_lost : ¬ ∀ (conf : SchedConf) (evs : List (SchedMsg × SchedWorld)),
    Machine.Guarded take StepSound { conf } evs := by
  intro sound
  have run := sound {} [(.userAdd 1 0 0 "a", {}), (.userAdd 2 0 0 "b", {}),
    (.jobSchedule 0 none (some 2) .none, {}), (.userDel 1, {})]
  have integrity := (run.2.2.2.1 rfl).1
  obtain ⟨u, at_u, -⟩ := integrity.owners _ (List.mem_singleton.2 rfl)
  cases at_u

end Scheduler

end GridWay
