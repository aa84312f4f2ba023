import GridWay.Sched.Integrity
import GridWay.Sched.Lists
import GridWay.Sched.Pass

/-!
# Excluded hosts

A host of priority zero is not to be used at all, and a banned host is not to be used for the jobs
of a user. The ban is tested for every job; the priority is not, when the reason of a job asks for
its history.

* `Scheduler.Excluded`: a host is not to be used for the jobs of a user.
* `Scheduler.Excludes`: a round uses no such host.
* `Scheduler.excludes_run`: the rounds of a run that use no such host.
-/

namespace GridWay

open Table

namespace Scheduler

/-- The entry that a failure of a job of a user on a host bans. -/
def banEntry (users : List SchUser) (uid : UserId) (hid : HostId) : Option SchUserHost :=
  (users.find? (·.uid == uid)).bind fun u => u.hosts.find? (·.hid == hid)

/-- A host is banned for a user, and the ban has not ended. -/
def Banned (w : SchedWorld) (users : List SchUser) (uid : UserId) (hid : HostId) : Prop :=
  ∃ uh, banEntry users uid hid = some uh ∧ w.now ≤ uh.banned

/-- The administrator gave a host the priority zero. -/
def Closed (w : SchedWorld) (hid : HostId) : Prop :=
  ∃ row, w.view.hosts[hid]? = some (some row) ∧ row.fixedPriority = 0

/-- A host is not to be used for the jobs of a user. -/
def Excluded (w : SchedWorld) (users : List SchUser) (uid : UserId) (hid : HostId) : Prop :=
  Closed w hid ∨ Banned w users uid hid

/-- The match lists that a round makes. -/
def listed (s : Scheduler) (w : SchedWorld) : List SchJob :=
  (s.clearDispatched.matchingArrays w).jobs

/-- A round uses no excluded host: neither in the list of a job nor for a job that it sends. -/
structure Excludes (s : Scheduler) (w : SchedWorld) : Prop where
  entries : ∀ job ∈ s.listed w, ∀ q ∈ job.mhosts, ∀ host, s.hosts[q.haId]? = some host →
    ¬ Excluded w s.users job.owner host.hid
  sent : ∀ jid hid qname rank,
    SchedOut.scheduleJob jid hid qname rank ∈ (s.schedule w).out.drop s.out.length →
      ∃ job ∈ s.jobs, job.jid = jid ∧ ¬ Excluded w s.users job.owner hid

/-- The jobs, each with the job that its match list is made for. -/
def sourcesFrom (w : SchedWorld) : Option Nat → SchJob → List SchJob → List (SchJob × SchJob)
  | _, _, [] => []
  | last, p, job :: jobs =>
    if isMatched last job then
      (job, job) :: sourcesFrom w (if answered w job then job.mark else last) job jobs
    else (job, p) :: sourcesFrom w last p jobs

/-- The list of the first job is always made. -/
def sources (w : SchedWorld) (jobs : List SchJob) : List (SchJob × SchJob) :=
  jobs.head?.elim [] fun job => sourcesFrom w none job jobs

/-- The hosts that the daemon offers to a job. -/
def offered (w : SchedWorld) (job : SchJob) : List Match := (w.view.reply job.jid job.aid).getD []

/-- A host of a list is not banned. -/
def Open (w : SchedWorld) (uhosts : List SchUserHost) (hid : HostId) : Prop :=
  ∃ uh, uhosts.find? (·.hid == hid) = some uh ∧ uh.banned < w.now

/-- The history of a job lets it go to a host, where the reason of the job asks for the history. -/
def Allowed (w : SchedWorld) (job : SchJob) (m : Match) : Prop :=
  match job.selection with
  | .priority => True
  | .history => ∃ h, w.history job.jid = some h ∧ isInHistory m.hostId h = false
  | .rank =>
    ∃ h, w.history job.jid = some h ∧ isInHistory m.hostId h = false ∧
      ∃ q ∈ m.queues, newestRank h < q.rank

/-- The condition on a job and the job that its list is made for. -/
structure Spared (w : SchedWorld) (users : List SchUser) (job p : SchJob) : Prop where
  /-- The priority is not tested for a job whose history is asked for. -/
  priority : p.selection ≠ .priority → ∀ m ∈ offered w p, m.fixedPriority = 0 →
    Open w (userHostsOf users p) m.hostId → ¬ Allowed w p m
  /-- The bans that are tested are those of the user at the position of the other job. -/
  bans : users.find? (·.uid == job.owner) ≠ users[p.uaId]? → ∀ m ∈ offered w p,
    Banned w users job.owner m.hostId → Open w (userHostsOf users p) m.hostId → Allowed w p m →
      p.selection = .priority ∧ m.fixedPriority = 0

section Filter

variable {w : SchedWorld} {users : List SchUser} {uhosts : List SchUserHost} {job p : SchJob}
  {m : Match} {q : SchQueue} {conf : SchedConf}

lemma isClosed_of {row : HostRow} (here : w.view.hosts[m.hostId]? = some (some row))
    (priority : m.fixedPriority = row.fixedPriority) :
    Closed w m.hostId ↔ m.fixedPriority = 0 := by
  constructor
  · intro closed
    obtain ⟨row', here', zero⟩ := closed
    rw [here] at here'
    cases here'
    rw [priority, zero]
  · intro zero
    exact ⟨row, here, by rw [← priority, zero]⟩

/-- What the filter tests. -/
lemma passes_iff : passes w uhosts job m = true ↔
    Open w uhosts m.hostId ∧ Allowed w job m ∧
      (job.selection = .priority → m.fixedPriority ≠ 0) := by
  rw [passes_eq]
  unfold Open Allowed
  cases uhosts.find? (·.hid == m.hostId) with
  | none => simp
  | some uh =>
    by_cases banned : w.now ≤ uh.banned
    · have closed : ¬ uh.banned < w.now := Int.not_lt.2 banned
      simp [banned, closed]
    · have passed : uh.banned < w.now := Int.not_le.1 banned
      cases job.selection <;> simp [banned, passed, Option.any_eq_true]

/-- The selection ends on a queue of the message. -/
lemma foldl_betterQueue_lt (qs : List MatchQueue) (k : Nat) (best : Nat × Int × Int)
    (below : best.1 < k) :
    ((qs.zipIdx k).foldl (fun best (q, j) => betterQueue best q j) best).1 < k + qs.length := by
  induction qs generalizing k best with
  | nil => exact below
  | cons q qs ih =>
    have next : (betterQueue best q k).1 < k + 1 := by
      unfold betterQueue
      dsimp only
      split
      · exact Nat.lt_succ_self k
      · split
        · exact Nat.lt_succ_self k
        · exact Nat.lt_succ_of_lt below
    have rest := ih (k + 1) (betterQueue best q k) next
    rw [List.zipIdx_cons, List.foldl_cons, List.length_cons]
    exact Nat.lt_of_lt_of_eq rest (by omega)

lemma selectQueue_lt {queues : List MatchQueue} (some : queues ≠ []) :
    selectQueue queues < queues.length := by
  cases queues with
  | nil => cases some rfl
  | cons q qs =>
    have below := foldl_betterQueue_lt qs 1 (0, q.rank, q.slots) Nat.zero_lt_one
    rw [selectQueue, List.length_cons]
    exact Nat.lt_of_lt_of_eq below (Nat.add_comm 1 qs.length)

/-- A host that the daemon offers is in its pool, with a queue. -/
lemma mem_matchHosts {v : MatchView} {reqs rank : Option String}
    (mem : m ∈ v.matchHosts reqs rank) :
    ∃ row, v.hosts[m.hostId]? = some (some row) ∧ m.fixedPriority = row.fixedPriority ∧
      m.queues ≠ [] := by
  obtain ⟨pair, at_hid, found⟩ := List.mem_filterMap.1 mem
  obtain ⟨host, hid⟩ := pair
  have here := List.mem_zipIdx_iff_getElem?.1 at_hid
  cases host with
  | none => cases found
  | some row =>
    simp only [Option.bind_some, MatchView.matchHost] at found
    split at found
    · rename_i matched
      cases found
      refine ⟨row, here, rfl, fun empty => ?_⟩
      dsimp only at empty
      rw [empty] at matched
      cases matched
    · cases found

lemma mem_offered (mem : m ∈ offered w job) :
    ∃ row, w.view.hosts[m.hostId]? = some (some row) ∧ m.fixedPriority = row.fixedPriority ∧
      m.queues ≠ [] := by
  rw [offered, reply_eq] at mem
  cases asked : w.view.asked job with
  | none =>
    rw [asked] at mem
    cases mem
  | some wish =>
    rw [asked] at mem
    exact mem_matchHosts mem

/-- The list that is made for a job has the hosts that pass. -/
lemma listFor_offered :
    listFor conf w users p (w.view.asked p) =
      matchList conf w (userHostsOf users p) p (offered w p) := by
  rw [listFor, offered, reply_eq]
  cases w.view.asked p with
  | none => exact matchList_nil.symm
  | some wish => rfl

lemma mem_matchList_iff {ms : List Match} : q ∈ matchList conf w uhosts job ms ↔
    ∃ m ∈ ms, passes w uhosts job m = true ∧ queueOf uhosts m = some q := by
  have same : q ∈ matchList conf w uhosts job ms ↔ q ∈ filterSelectQueues w uhosts job ms := by
    unfold matchList
    split
    · rfl
    · exact (permute_perm _ _).mem_iff
  rw [same, filterSelectQueues, List.mem_filterMap]
  simp only [List.mem_filter, and_assoc]

/-- The entry of a host that passes. -/
lemma queueOf_some (entry : queueOf uhosts m = some q) :
    ∃ uh ∈ uhosts, uh.hid = m.hostId ∧ q.haId = uh.haId := by
  unfold queueOf at entry
  simp only [Option.bind_eq_bind, Option.bind_eq_some_iff, Option.pure_def, Option.some.injEq]
    at entry
  obtain ⟨l, found, uh, at_l, x, -, rfl⟩ := entry
  obtain ⟨below, same, -⟩ := List.findIdx?_eq_some_iff_getElem.1 found
  obtain ⟨below', rfl⟩ := List.getElem?_eq_some_iff.1 at_l
  exact ⟨_, List.getElem_mem below, by simpa using same, rfl⟩

/-- A host with a queue that the user knows has an entry. -/
lemma exists_queueOf (known : Open w uhosts m.hostId) (some : m.queues ≠ []) :
    ∃ q, queueOf uhosts m = Option.some q := by
  obtain ⟨uh, found, -⟩ := known
  have same := List.find?_some found
  obtain ⟨l, here⟩ : ∃ l, uhosts.findIdx? (·.hid == m.hostId) = Option.some l := by
    rw [← Option.isSome_iff_exists, List.findIdx?_isSome, List.any_eq_true]
    exact ⟨uh, List.mem_of_find?_eq_some found, same⟩
  obtain ⟨below, -⟩ := List.findIdx?_eq_some_iff_getElem.1 here
  have chosen := selectQueue_lt some
  unfold queueOf
  rw [here, Option.bind_eq_bind, Option.bind_some, List.getElem?_eq_getElem below,
    Option.bind_eq_bind, Option.bind_some, List.getElem?_eq_getElem chosen]
  exact ⟨_, rfl⟩

/-- The lists of a round, each by the job that it is made for. -/
lemma matchFrom_sources {last : Option Nat} {before : List SchQueue} (jobs : List SchJob)
    (copied : last = none ∨ before = listFor conf w users p (w.view.asked p)) :
    (matchFrom conf w users last before jobs).jobs = (sourcesFrom w last p jobs).map fun x =>
      { x.1 with mhosts := listFor conf w users x.2 (w.view.asked x.2) } := by
  induction jobs generalizing last before p with
  | nil => rfl
  | cons job jobs ih =>
    refine (matchFrom_step (last, before) jobs).trans ?_
    rw [round, sourcesFrom]
    dsimp only
    split
    · rw [List.map_cons, ← ih (.inr rfl)]
    · rename_i copy
      rcases copied with rfl | rfl
      · simp [isMatched_iff] at copy
        cases mark : job.mark <;> simp [mark] at copy
      · rw [List.map_cons, ← ih (.inr rfl)]

lemma matchFrom_all (jobs : List SchJob) :
    (matchFrom conf w users none [] jobs).jobs = (sources w jobs).map fun x =>
      { x.1 with mhosts := listFor conf w users x.2 (w.view.asked x.2) } := by
  cases jobs with
  | nil => rfl
  | cons job jobs => exact matchFrom_sources _ (.inl rfl)

end Filter

section Aligned

variable {s s' : Scheduler} {w : SchedWorld}

/-- The entries of the users name the hosts of the table. -/
structure Aligned (s : Scheduler) : Prop where
  refers : ∀ u ∈ s.users, ∀ uh ∈ u.hosts, Refers (·.hid) s.hosts uh.haId uh.hid

/-- A table whose entries are those of another one. -/
lemma Aligned.congr (aligned : Aligned s)
    (users : ∀ u' ∈ s'.users, ∃ u ∈ s.users, ∀ uh' ∈ u'.hosts, ∃ uh ∈ u.hosts,
      uh.haId = uh'.haId ∧ uh.hid = uh'.hid)
    (hosts : ∀ k hid, Refers (·.hid) s.hosts k hid → Refers (·.hid) s'.hosts k hid) :
    Aligned s' := by
  refine ⟨fun u' mem uh' mem' => ?_⟩
  obtain ⟨u, old, entries⟩ := users u' mem
  obtain ⟨uh, old', position, id⟩ := entries uh' mem'
  rw [← position, ← id]
  exact hosts _ _ (aligned.refers u old uh old')

/-- The users keep their lists of hosts. -/
lemma Aligned.sub (aligned : Aligned s) (users : ∀ u' ∈ s'.users, ∃ u ∈ s.users, u'.hosts = u.hosts)
    (hosts : ∀ k hid, Refers (·.hid) s.hosts k hid → Refers (·.hid) s'.hosts k hid) :
    Aligned s' := by
  apply aligned.congr _ hosts
  intro u' mem
  obtain ⟨u, old, same⟩ := users u' mem
  rw [same]
  exact ⟨u, old, fun uh here => ⟨uh, here, rfl, rfl⟩⟩

lemma hosts_of_modify {users : List SchUser} {k : Nat} {f : SchUser → SchUser}
    (same : ∀ u, (f u).hosts = u.hosts) :
    ∀ u' ∈ users.modify k f, ∃ u ∈ users, u'.hosts = u.hosts := by
  intro u' mem
  obtain ⟨i, u, old, rfl⟩ := mem_modify mem
  refine ⟨u, List.mem_of_getElem? old, ?_⟩
  split
  · exact same u
  · rfl

lemma Aligned.addHost {hid uslots rjobs name} (aligned : Aligned s) :
    Aligned (s.addHost hid uslots rjobs name) := by
  unfold Scheduler.addHost
  split
  · refine aligned.sub (fun u mem => ?_) fun _ _ refers => refers.modify fun _ => rfl
    exact ⟨u, mem, rfl⟩
  · refine ⟨fun u' mem uh mem' => ?_⟩
    obtain ⟨u, old, rfl⟩ := List.mem_map.1 mem
    rcases List.mem_append.1 mem' with old' | new
    · exact (aligned.refers u old uh old').append
    · obtain rfl := List.mem_singleton.1 new
      exact ⟨_, List.getElem?_concat_length, rfl⟩

lemma Aligned.addUser {uid ajobs rjobs name} (aligned : Aligned s) :
    Aligned (s.addUser uid ajobs rjobs name) := by
  unfold Scheduler.addUser
  split
  · exact aligned.sub (hosts_of_modify fun _ => rfl) fun _ _ refers => refers
  · dsimp only
    split
    · exact ⟨aligned.refers⟩
    · refine ⟨fun u mem uh mem' => ?_⟩
      rcases List.mem_append.1 mem with old | new
      · exact aligned.refers u old uh mem'
      · obtain rfl := List.mem_singleton.1 new
        obtain ⟨pair, here, rfl⟩ := List.mem_map.1 mem'
        obtain ⟨host, k⟩ := pair
        exact ⟨host, List.mem_zipIdx_iff_getElem?.1 here, rfl⟩

lemma Aligned.delUser {uid} (aligned : Aligned s) : Aligned (s.delUser uid) := by
  unfold Scheduler.delUser
  split
  · exact ⟨fun u mem => by cases mem⟩
  · split
    · exact aligned.sub (fun u mem => ⟨u, List.mem_of_mem_eraseIdx mem, rfl⟩)
        fun _ _ refers => refers
    · split
      · exact ⟨aligned.refers⟩
      · exact aligned.sub (fun u mem => ⟨u, List.dropLast_subset _ mem, rfl⟩)
          fun _ _ refers => refers

lemma Aligned.onUserHost {uid hid f} (aligned : Aligned s)
    (same : ∀ h : SchUserHost, (f h).haId = h.haId ∧ (f h).hid = h.hid) :
    Aligned (s.onUserHost uid hid f) := by
  unfold Scheduler.onUserHost
  split
  · exact aligned
  · refine aligned.congr (fun u' mem => ?_) fun _ _ refers => refers
    obtain ⟨i, u, old, rfl⟩ := mem_modify mem
    refine ⟨u, List.mem_of_getElem? old, fun uh' mem' => ?_⟩
    split at mem'
    · split at mem'
      · exact ⟨uh', mem', rfl, rfl⟩
      · obtain ⟨j, uh, old', rfl⟩ := mem_modify mem'
        refine ⟨uh, List.mem_of_getElem? old', ?_⟩
        split
        · exact ⟨(same uh).1.symm, (same uh).2.symm⟩
        · exact ⟨rfl, rfl⟩
    · exact ⟨uh', mem', rfl, rfl⟩

lemma ban_place (conf : SchedConf) (now : Time) (h : SchUserHost) :
    (ban conf now h).haId = h.haId ∧ (ban conf now h).hid = h.hid := by
  unfold ban
  dsimp only
  repeat' split
  all_goals exact ⟨rfl, rfl⟩

lemma Aligned.jobDel {jid} {dispatched : Bool} (aligned : Aligned s) :
    Aligned (s.jobDel jid dispatched) := by
  unfold Scheduler.jobDel
  split
  · exact aligned
  · dsimp only
    split
    · exact ⟨aligned.refers⟩
    · split
      · exact ⟨aligned.refers⟩
      · exact aligned.sub (hosts_of_modify fun _ => rfl) fun _ _ refers => refers

lemma Aligned.sendJob {job q host} (aligned : Aligned s) : Aligned (s.sendJob job q host) := by
  apply Aligned.jobDel
  exact aligned.sub (hosts_of_modify fun _ => rfl) fun _ _ refers => refers.modify fun _ => rfl

lemma Aligned.clearDispatched (aligned : Aligned s) : Aligned s.clearDispatched := by
  refine aligned.sub (fun u' mem => ?_) fun _ _ refers => refers.map fun _ => rfl
  obtain ⟨u, old, rfl⟩ := List.mem_map.1 mem
  exact ⟨u, old, rfl⟩

lemma Aligned.schedDispatch {reschedule maxDsp} (aligned : Aligned s) (n i dispatched : Nat) :
    Aligned (s.schedDispatch reschedule maxDsp n i dispatched).1 := by
  induction n generalizing s i dispatched with
  | zero => exact aligned
  | succ n ih =>
    unfold Scheduler.schedDispatch
    repeat' split
    all_goals first
      | exact ⟨aligned.refers⟩
      | exact ih aligned ..
      | exact ih aligned.sendJob ..

lemma jobPolicies_same : (s.jobPolicies w).users = s.users ∧ (s.jobPolicies w).hosts = s.hosts ∧
    (s.jobPolicies w).out = s.out ∧ (s.jobPolicies w).jobs.Perm s.jobs := by
  unfold Scheduler.jobPolicies
  split
  · exact ⟨rfl, rfl, rfl, .refl _⟩
  · exact ⟨rfl, rfl, rfl, permute_perm _ _⟩

lemma Aligned.schedule (aligned : Aligned s) (w : SchedWorld) : Aligned (s.schedule w) := by
  have listed : Aligned ((s.clearDispatched.matchingArrays w).jobPolicies w) := by
    obtain ⟨users, hosts, -⟩ := jobPolicies_same (s := s.clearDispatched.matchingArrays w) (w := w)
    constructor
    rw [users, hosts]
    exact aligned.clearDispatched.refers
  have sent : Aligned (if s.hosts ≠ [] ∧ s.users ≠ [] ∧ s.jobs ≠ [] then
      ((s.clearDispatched.matchingArrays w).jobPolicies w).gwSched else s) := by
    split
    · exact (listed.schedDispatch ..).schedDispatch ..
    · exact aligned
  have moved : ∀ t : Scheduler, Aligned t → Aligned t.userUpdateWindows := by
    intro t kept
    unfold Scheduler.userUpdateWindows
    split
    · exact kept
    · refine kept.sub (fun u' mem => ?_) fun _ _ refers => refers
      obtain ⟨u, old, rfl⟩ := List.mem_map.1 mem
      exact ⟨u, old, rfl⟩
  unfold Scheduler.schedule
  dsimp only
  split
  · exact ⟨(moved _ sent).refers⟩
  · exact ⟨sent.refers⟩

/-- Every message keeps the entries. -/
lemma Aligned.take (aligned : Aligned s) (e : SchedMsg × SchedWorld) : Aligned (s.take e) := by
  obtain ⟨msg, w⟩ := e
  unfold Scheduler.take
  split
  · exact aligned
  cases msg with
  | hostMonitor => exact aligned.addHost
  | userAdd => exact aligned.addUser
  | userDel => exact aligned.delUser
  | jobDel => exact aligned.jobDel
  | jobFailed hid uid reason =>
    cases uid with
    | none => exact aligned
    | some uid =>
      simp only [live, Scheduler.jobFailed]
      split
      · exact aligned.onUserHost (ban_place _ _)
      · exact aligned
  | jobSuccess hid uid =>
    cases uid with
    | none => exact aligned
    | some uid => exact aligned.onUserHost fun _ => ⟨rfl, rfl⟩
  | jobSchedule jid aid uid reason =>
    cases uid with
    | none => exact aligned
    | some uid =>
      simp only [live, Scheduler.jobAdd]
      split
      · exact aligned
      · exact aligned.sub (hosts_of_modify fun _ => rfl) fun _ _ refers => refers
  | schedule => exact aligned.schedule w

end Aligned

section Sends

variable {s t t' t'' : Scheduler} {w : SchedWorld}

/-- A line that is printed for a job of the list names the host of an entry of the job. -/
def Named (t : Scheduler) (line : SchedOut) : Prop :=
  ∀ jid hid qname rank, line = .scheduleJob jid hid qname rank →
    ∃ job ∈ t.jobs, job.jid = jid ∧ ∃ q ∈ job.mhosts, Refers (·.hid) t.hosts q.haId hid

/-- Jobs are sent, each to a host of its list. -/
structure Sends (t t' : Scheduler) : Prop where
  jobs : t'.jobs ⊆ t.jobs
  hosts : ∀ k hid, Refers (·.hid) t'.hosts k hid → Refers (·.hid) t.hosts k hid
  out : ∃ lines, t'.out = t.out ++ lines ∧ ∀ line ∈ lines, Named t line

lemma Sends.refl (t : Scheduler) : Sends t t where
  jobs := List.Subset.refl _
  hosts _ _ refers := refers
  out := ⟨[], (List.append_nil _).symm, fun _ mem => by cases mem⟩

lemma Sends.trans (first : Sends t t') (second : Sends t' t'') : Sends t t'' where
  jobs := List.Subset.trans second.jobs first.jobs
  hosts k hid refers := first.hosts k hid (second.hosts k hid refers)
  out := by
    obtain ⟨lines, out, named⟩ := first.out
    obtain ⟨more, out', named'⟩ := second.out
    refine ⟨lines ++ more, by rw [out', out, List.append_assoc], fun line mem => ?_⟩
    rcases List.mem_append.1 mem with early | late
    · exact named line early
    · intro jid hid qname rank eq
      obtain ⟨job, here, id, q, entry, refers⟩ := named' line late jid hid qname rank eq
      exact ⟨job, first.jobs here, id, q, entry, first.hosts _ _ refers⟩

lemma Sends.jobDel (sends : Sends t t') (jid : JobId) (dispatched : Bool) :
    Sends t (t'.jobDel jid dispatched) := by
  unfold Scheduler.jobDel
  split
  · exact sends
  · dsimp only
    split
    · exact ⟨sends.jobs, sends.hosts, sends.out⟩
    · split
      · exact ⟨sends.jobs, sends.hosts, sends.out⟩
      · exact ⟨fun job mem => sends.jobs (List.mem_of_mem_eraseIdx mem), sends.hosts, sends.out⟩

lemma Sends.sendJob {job : SchJob} {q : SchQueue} {host : SchHost} (listed : job ∈ t.jobs)
    (entry : q ∈ job.mhosts) (on : t.hosts[q.haId]? = some host) :
    Sends t (t.sendJob job q host) := by
  apply Sends.jobDel
  refine ⟨List.Subset.refl _, fun k hid refers => ?_, _, rfl, ?_⟩
  · have before : Refers (·.hid)
        (t.hosts.modify q.haId fun h => { h with dispatched := h.dispatched + 1 }) k hid := refers
    exact Refers.of_modify (f := fun h => { h with dispatched := h.dispatched + 1 })
      (fun _ => rfl) before
  intro line mem jid hid qname rank eq
  obtain rfl := List.mem_singleton.1 mem
  cases eq
  exact ⟨job, listed, rfl, q, entry, host, on, rfl⟩

/-- Every round of the dispatch sends jobs to hosts of their lists. -/
lemma schedDispatch_sends {reschedule : Bool} {maxDsp : Nat} (n i dispatched : Nat) :
    Sends t (t.schedDispatch reschedule maxDsp n i dispatched).1 := by
  induction n generalizing t i dispatched with
  | zero => exact .refl t
  | succ n ih =>
    have crashed : Sends t { t with crashed := true } :=
      ⟨List.Subset.refl _, fun _ _ refers => refers, (Sends.refl t).out⟩
    unfold Scheduler.schedDispatch
    split
    · exact .refl t
    · rename_i job here
      repeat' split
      any_goals exact .refl t
      any_goals exact crashed
      any_goals exact ih ..
      rename_i q host found
      obtain ⟨entry, on, -⟩ := freeHost_found found
      exact (Sends.sendJob (List.mem_of_getElem? here) entry on).trans (ih ..)

lemma gwSched_sends (t : Scheduler) : Sends t t.gwSched :=
  (schedDispatch_sends ..).trans (schedDispatch_sends ..)

/-- The loop over the jobs prints no line of a job that is sent. -/
lemma matchFrom_out {conf : SchedConf} {users : List SchUser} (last : Option Nat)
    (before : List SchQueue) (jobs : List SchJob) :
    ∀ line ∈ (matchFrom conf w users last before jobs).out, ∃ jid, line = .scheduleFailed jid := by
  induction jobs generalizing last before with
  | nil =>
    intro line mem
    cases mem
  | cons job jobs ih =>
    rw [matchFrom]
    split
    · split
      · exact ih _ _
      · exact ih _ _
      · intro line mem
        rcases List.mem_append.1 mem with failed | later
        · split at failed
          · exact ⟨job.jid, List.mem_singleton.1 failed⟩
          · cases failed
        · exact ih _ _ line later
    · exact ih _ _

end Sends

section Round

variable {s : Scheduler} {w : SchedWorld} {job p : SchJob}

lemma sourcesFrom_fst (last : Option Nat) (p : SchJob) (jobs : List SchJob) :
    (sourcesFrom w last p jobs).map Prod.fst = jobs := by
  induction jobs generalizing last p with
  | nil => rfl
  | cons job jobs ih =>
    rw [sourcesFrom]
    split
    · rw [List.map_cons, ih]
    · rw [List.map_cons, ih]

lemma sources_fst (jobs : List SchJob) : (sources w jobs).map Prod.fst = jobs := by
  cases jobs with
  | nil => rfl
  | cons job jobs => exact sourcesFrom_fst none job (job :: jobs)

lemma userHostsOf_clear : userHostsOf s.clearDispatched.users job = userHostsOf s.users job := by
  unfold userHostsOf Scheduler.clearDispatched
  rw [List.getElem?_map]
  cases s.users[job.uaId]? <;> rfl

/-- The lists of a round: the hosts that pass for the job that a list is made for. -/
lemma listed_eq : s.listed w = (sources w s.jobs).map fun x =>
    { x.1 with mhosts := matchList s.conf w (userHostsOf s.users x.2) x.2 (offered w x.2) } := by
  refine (matchFrom_all s.jobs).trans (List.map_congr_left fun x _ => ?_)
  rw [listFor_offered, userHostsOf_clear]
  rfl

/-- A ban of the user whose list of hosts is tested is seen. -/
lemma not_banned (own : s.users.find? (·.uid == job.owner) = s.users[p.uaId]?) {hid : HostId}
    (free : Open w (userHostsOf s.users p) hid) : ¬ Banned w s.users job.owner hid := by
  intro banned
  obtain ⟨uh, found, ended⟩ := free
  obtain ⟨uh', found', still⟩ := banned
  rw [banEntry, own] at found'
  rw [userHostsOf] at found
  cases here : s.users[p.uaId]? with
  | none =>
    rw [here] at found'
    cases found'
  | some u =>
    rw [here] at found found'
    have same : some uh = some uh' := found.symm.trans found'
    cases same
    exact absurd ended (Int.not_lt.2 still)

/-- What a job is spared is what the filter lets pass. -/
lemma spared_iff : Spared w s.users job p ↔
    ∀ m ∈ offered w p, passes w (userHostsOf s.users p) p m = true →
      ¬ Excluded w s.users job.owner m.hostId := by
  constructor
  · intro spared m mem pass excluded
    obtain ⟨free, allowed, tested⟩ := passes_iff.1 pass
    obtain ⟨row, here, priority, -⟩ := mem_offered mem
    rcases excluded with closed | banned
    · have zero := (isClosed_of here priority).1 closed
      by_cases asks : p.selection = .priority
      · exact tested asks zero
      · exact spared.priority asks m mem zero free allowed
    · by_cases own : s.users.find? (·.uid == job.owner) = s.users[p.uaId]?
      · exact not_banned own free banned
      · obtain ⟨asks, zero⟩ := spared.bans own m mem banned free allowed
        exact tested asks zero
  · intro kept
    constructor
    · intro asks m mem zero free allowed
      obtain ⟨row, here, priority, -⟩ := mem_offered mem
      have pass := passes_iff.2 ⟨free, allowed, fun tested => absurd tested asks⟩
      exact kept m mem pass (.inl ((isClosed_of here priority).2 zero))
    · intro _ m mem banned free allowed
      by_contra passing
      refine kept m mem (passes_iff.2 ⟨free, allowed, fun asks zero => ?_⟩) (.inr banned)
      exact passing ⟨asks, zero⟩

/-- The lists of a round have no excluded host exactly when the condition holds of each job. -/
lemma entries_iff (aligned : Aligned s) :
    (∀ job ∈ s.listed w, ∀ q ∈ job.mhosts, ∀ host, s.hosts[q.haId]? = some host →
      ¬ Excluded w s.users job.owner host.hid) ↔
      ∀ x ∈ sources w s.jobs, Spared w s.users x.1 x.2 := by
  rw [listed_eq]
  constructor
  · intro entries x mem
    rw [spared_iff]
    intro m offer pass
    obtain ⟨-, -, -, queues⟩ := mem_offered offer
    obtain ⟨q, entry⟩ := exists_queueOf (passes_iff.1 pass).1 queues
    obtain ⟨uh, listed, id, position⟩ := queueOf_some entry
    obtain ⟨u, known, here⟩ := mem_userHostsOf listed
    obtain ⟨host, on, same⟩ := aligned.refers u known uh here
    have kept := entries _ (List.mem_map_of_mem mem) q
      (mem_matchList_iff.2 ⟨m, offer, pass, entry⟩) host (by rw [position]; exact on)
    rw [← id, ← same]
    exact kept
  · intro spared job mem q entry host on
    obtain ⟨x, source, rfl⟩ := List.mem_map.1 mem
    obtain ⟨m, offer, pass, made⟩ := mem_matchList_iff.1 entry
    obtain ⟨uh, listed, id, position⟩ := queueOf_some made
    obtain ⟨u, known, here⟩ := mem_userHostsOf listed
    obtain ⟨host', on', same⟩ := aligned.refers u known uh here
    rw [position, on'] at on
    cases on
    dsimp only at same
    rw [same, id]
    exact spared_iff.1 (spared x source) m offer pass

/-- A job that a round sends goes to a host of its list. -/
lemma schedule_sent {jid : JobId} {hid : HostId} {qname : String} {rank : Int}
    (sent : SchedOut.scheduleJob jid hid qname rank ∈ (s.schedule w).out.drop s.out.length) :
    ∃ job ∈ s.listed w, job.jid = jid ∧ ∃ q ∈ job.mhosts, Refers (·.hid) s.hosts q.haId hid := by
  have windows (t : Scheduler) : t.userUpdateWindows.out = t.out := by
    unfold Scheduler.userUpdateWindows
    split <;> rfl
  have printed : SchedOut.scheduleJob jid hid qname rank ∈
      ((if s.hosts ≠ [] ∧ s.users ≠ [] ∧ s.jobs ≠ [] then
        ((s.clearDispatched.matchingArrays w).jobPolicies w).gwSched else s).out ++
          [SchedOut.scheduleEnd]).drop s.out.length := by
    unfold Scheduler.schedule at sent
    dsimp only at sent
    split at sent
    · rwa [windows] at sent
    · exact sent
  clear sent
  split at printed
  · obtain ⟨-, hosts, out, perm⟩ :=
      jobPolicies_same (s := s.clearDispatched.matchingArrays w) (w := w)
    have sends := gwSched_sends ((s.clearDispatched.matchingArrays w).jobPolicies w)
    obtain ⟨lines, eq, named⟩ := sends.out
    have before : (s.clearDispatched.matchingArrays w).out = s.out ++
        (matchFrom s.conf w s.clearDispatched.users none [] s.jobs).out := rfl
    rw [eq, out, before, List.append_assoc, List.append_assoc, List.drop_left] at printed
    simp only [List.mem_append, List.mem_singleton, reduceCtorEq, or_false] at printed
    rcases printed with failed | line
    · obtain ⟨jid', eq'⟩ := matchFrom_out _ _ _ _ failed
      cases eq'
    · obtain ⟨job, here, id, q, entry, refers⟩ := named _ line jid hid qname rank rfl
      have ids : (s.clearDispatched.matchingArrays w).hosts.map (·.hid) = s.hosts.map (·.hid) := by
        simp [Scheduler.matchingArrays, Scheduler.clearDispatched, Function.comp_def]
      rw [hosts, refers_iff_keys, ids] at refers
      exact ⟨job, perm.mem_iff.1 here, id, q, entry, refers_iff_keys.2 refers⟩
  · rw [List.drop_left] at printed
    cases List.mem_singleton.1 printed

/-- A round uses no excluded host exactly when the condition holds of each job of the round. -/
lemma excludes_iff (aligned : Aligned s) :
    Excludes s w ↔ ∀ x ∈ sources w s.jobs, Spared w s.users x.1 x.2 := by
  rw [← entries_iff aligned]
  constructor
  · exact Excludes.entries
  · intro entries
    refine ⟨entries, fun jid hid qname rank sent => ?_⟩
    obtain ⟨job, here, id, q, entry, host, on, rfl⟩ := schedule_sent sent
    have kept := entries job here q entry host on
    rw [listed_eq] at here
    obtain ⟨x, source, rfl⟩ := List.mem_map.1 here
    refine ⟨x.1, ?_, id, kept⟩
    have known := List.mem_map_of_mem (f := Prod.fst) source
    rwa [sources_fst] at known

end Round

/-- **Excluded hosts.** Every round of a run keeps away from the excluded hosts if and only if the
daemon offers no host of priority zero to a job whose history is asked for and lets it go there, and
no list is made with the bans of another user than the owner of a job. -/
theorem excludes_run (conf : SchedConf) (evs : List (SchedMsg × SchedWorld)) :
    Machine.Guarded take
        (fun s e => e.1 = .schedule → s.crashed = false → Excludes s e.2) { conf } evs ↔
      Machine.Guarded take
        (fun s e => e.1 = .schedule → s.crashed = false →
          ∀ x ∈ sources e.2 s.jobs, Spared e.2 s.users x.1 x.2) { conf } evs := by
  have init : Aligned { conf } := ⟨fun u mem => by cases mem⟩
  apply Machine.guarded_iff Aligned _ _ init
  · intro s e aligned _
    exact aligned.take e
  · intro s e aligned
    rw [excludes_iff aligned]

/-- A host that the administrator closed, with a free slot for a job that ran on another one. -/
def closedHost : SchedWorld where
  now := 1
  view := {
    requirements := fun _ => some none
    hosts := [some ⟨0, [some ⟨"short", 0, 0, 1, 0⟩]⟩] }
  history := fun _ => some { rows := [⟨1, 0⟩] }

/-- A user asks for another host, and the job goes to the closed one. -/
theorem excludes_violated : ¬ ∀ (conf : SchedConf) (evs : List (SchedMsg × SchedWorld)),
    Machine.Guarded take
      (fun s e => e.1 = .schedule → s.crashed = false → Excludes s e.2) { conf } evs := by
  intro excludes
  have run := excludes {} [(.hostMonitor 0 0 0 "cluster", {}), (.userAdd 0 1 0 "ana", {}),
    (.jobSchedule 0 none (some 0) .userRequested, {}), (.schedule, closedHost)]
  obtain ⟨job, -, -, kept⟩ := (run.2.2.2.1 rfl rfl).sent 0 0 "short" 0 (by decide)
  exact kept (.inl ⟨_, rfl, rfl⟩)

end Scheduler

end GridWay
