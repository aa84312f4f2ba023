import GridWay.Sched.Pass

/-!
# A round of the scheduler

A round is two greedy passes, one for the new jobs and one for those that were scheduled before,
with counters that both of them raise.

* `Scheduler.Account`: the counters after some jobs were sent.
* `Scheduler.gwSched_serve`: a round is two greedy passes.
* `Scheduler.gwSched_limits_iff`: when a round keeps to the limits.
-/

namespace GridWay

namespace Scheduler

open Greedy

variable {s s' : Scheduler} {job : SchJob} {q : SchQueue} {rs : Bool}

/-- The pass for the new jobs. -/
def firstPass (s : Scheduler) : List (SchJob × SchQueue) × List SchJob :=
  serve (placeJob false) chargeJob s.mostOf s.core s.jobs

/-- The tables between the two passes, without the jobs. -/
def between (s : Scheduler) : Scheduler := Greedy.after chargeJob s.core s.firstPass.1

/-- How many jobs the second pass may send: the limit is computed anew from the jobs that are left,
and the jobs that the first pass sent count against it. -/
def leftOver (s : Scheduler) : Nat :=
  (if s.conf.maxDispatch = 0 then s.firstPass.2.length else s.conf.maxDispatch) -
    s.firstPass.1.length

/-- The pass for the jobs that were scheduled before. -/
def secondPass (s : Scheduler) : List (SchJob × SchQueue) × List SchJob :=
  serve (placeJob true) chargeJob s.leftOver s.between s.firstPass.2

/-- What a round sends. -/
def sent (s : Scheduler) : List (SchJob × SchQueue) := s.firstPass.1 ++ s.secondPass.1

lemma after_jobs (s : Scheduler) (placed : List (SchJob × SchQueue)) :
    (Greedy.after chargeJob s placed).jobs = s.jobs := by
  induction placed generalizing s with
  | nil => rfl
  | cons x placed ih => exact ih (s.chargeJob x.1 x.2)

section Account

variable {placed : List (SchJob × SchQueue)} {k : Nat}

/-- How many jobs of the user at a position were sent. -/
def onUser (k : Nat) (placed : List (SchJob × SchQueue)) : Nat :=
  placed.countP fun x => decide (x.1.uaId = k)

/-- How many jobs were sent to the host at a position. -/
def onHost (k : Nat) (placed : List (SchJob × SchQueue)) : Nat :=
  placed.countP fun x => decide (x.2.haId = k)

/-- A user of which `n` jobs were sent. -/
structure UserSent (n : Nat) (limit : Nat) (user user' : SchUser) : Prop where
  running : user'.runningJobs = user.runningJobs
  dispatched : user'.dispatched = user.dispatched + n
  total : user'.totalJobs = user.totalJobs - n
  limit : limit = 0 ∨ n = 0 ∨ user'.runningJobs + user'.dispatched ≤ limit

/-- A host to which `n` jobs were sent. -/
structure HostSent (n : Nat) (limit : Nat) (host host' : SchHost) : Prop where
  hid : host'.hid = host.hid
  used : host'.usedSlots = host.usedSlots
  dispatched : host'.dispatched = host.dispatched + n
  limit : limit = 0 ∨ n = 0 ∨ host'.usedSlots + host'.dispatched ≤ limit

/-- The counters after the jobs were sent. -/
structure Account (s s' : Scheduler) (placed : List (SchJob × SchQueue)) : Prop where
  conf : s'.conf = s.conf
  crashed : s'.crashed = s.crashed
  out : s'.out = s.out ++ placed.map s.printed
  own : ∀ x ∈ placed, x.2 ∈ x.1.mhosts
  users : ∀ k user, s.users[k]? = some user →
    ∃ user', s'.users[k]? = some user' ∧ UserSent (onUser k placed) s.conf.maxUser user user'
  hosts : ∀ k host, s.hosts[k]? = some host →
    ∃ host', s'.hosts[k]? = some host' ∧ HostSent (onHost k placed) s.conf.maxResource host host'
  sizes : s'.users.length = s.users.length ∧ s'.hosts.length = s.hosts.length

lemma Account.refl (s : Scheduler) : Account s s [] where
  conf := rfl
  crashed := rfl
  out := by simp
  own x mem := by cases mem
  users k user here := ⟨user, here, rfl, by simp [onUser], by simp [onUser], .inr (.inl rfl)⟩
  hosts k host here := ⟨host, here, rfl, rfl, by simp [onHost], .inr (.inl rfl)⟩
  sizes := ⟨rfl, rfl⟩

/-- One more job is sent. -/
lemma Account.send {s₁ : Scheduler} (account : Account s s₁ placed)
    (place : placeJob rs s₁ job = some q) :
    Account s (s₁.chargeJob job q) (placed ++ [(job, q)]) := by
  obtain ⟨-, ⟨user₁, owner, userRoom⟩, mem, host₁, -, on, hostRoom, -⟩ := placeJob_some place
  rw [account.conf] at userRoom hostRoom
  refine ⟨account.conf, account.crashed, ?_, ?_, ?_, ?_, ?_⟩
  · obtain ⟨host, here⟩ : ∃ host, s.hosts[q.haId]? = some host := by
      obtain ⟨below, -⟩ := List.getElem?_eq_some_iff.1 on
      exact ⟨_, List.getElem?_eq_getElem (account.sizes.2 ▸ below)⟩
    obtain ⟨host', on', sent⟩ := account.hosts q.haId host here
    have id : s₁.hostIdAt q.haId = s.hostIdAt q.haId := by
      rw [hostIdAt, hostIdAt, here, on', Option.map_some, Option.map_some, sent.hid]
    rw [chargeJob, account.out, List.map_append, List.append_assoc]
    rw [List.map_singleton, printed, printed, id]
  · intro x mem'
    rcases List.mem_append.1 mem' with mem' | mem'
    · exact account.own x mem'
    · rw [List.mem_singleton.1 mem']
      exact mem
  · intro k user here
    obtain ⟨user', here', sent⟩ := account.users k user here
    rw [chargeJob, List.getElem?_modify, here', Option.map_eq_map, Option.map_some]
    refine ⟨_, rfl, ?_⟩
    by_cases same : job.uaId = k
    · obtain rfl := Option.some.inj (owner.symm.trans (same ▸ here'))
      have count : onUser k (placed ++ [(job, q)]) = onUser k placed + 1 := by simp [onUser, same]
      rw [if_pos same, count]
      refine ⟨sent.running, ?_, ?_, ?_⟩
      · simp only [leave, sent.dispatched]
        omega
      · simp only [leave, sent.total]
        omega
      · rcases userRoom with zero | below
        · exact .inl zero
        · refine .inr (.inr ?_)
          simp only [leave]
          omega
    · have count : onUser k (placed ++ [(job, q)]) = onUser k placed := by simp [onUser, same]
      rw [if_neg same, count]
      exact sent
  · intro k host here
    obtain ⟨host', here', sent⟩ := account.hosts k host here
    rw [chargeJob, List.getElem?_modify, here', Option.map_eq_map, Option.map_some]
    refine ⟨_, rfl, ?_⟩
    by_cases same : q.haId = k
    · obtain rfl := Option.some.inj (on.symm.trans (same ▸ here'))
      have count : onHost k (placed ++ [(job, q)]) = onHost k placed + 1 := by simp [onHost, same]
      rw [if_pos same, count]
      refine ⟨sent.hid, sent.used, ?_, ?_⟩
      · simp only [sent.dispatched]
        omega
      · rcases hostRoom with zero | below
        · exact .inl zero
        · refine .inr (.inr ?_)
          dsimp only
          omega
    · have count : onHost k (placed ++ [(job, q)]) = onHost k placed := by simp [onHost, same]
      rw [if_neg same, count]
      exact sent
  · rw [chargeJob, List.length_modify, List.length_modify]
    exact account.sizes

/-- A pass sends jobs and counts them. -/
lemma Account.serve {s₁ : Scheduler} {budget : Nat} {xs : List SchJob}
    (account : Account s s₁ placed) :
    Account s (Greedy.after chargeJob s₁ (Greedy.serve (placeJob rs) chargeJob budget s₁ xs).1)
      (placed ++ (Greedy.serve (placeJob rs) chargeJob budget s₁ xs).1) :=
  serve_invariant (P := Account s) (fun _ _ _ _ _ account place => account.send place) account

/-- The counters after the first pass. -/
lemma account_between (s : Scheduler) : Account s.core s.between s.firstPass.1 :=
  (Account.refl s.core).serve

/-- The counters after a round. -/
lemma account_sent (s : Scheduler) :
    Account s.core (Greedy.after chargeJob s.between s.secondPass.1) s.sent :=
  (account_between s).serve

end Account

/-- The tables between the two passes are in order. -/
lemma Formed.between (formed : Formed s) : Formed { s.between with jobs := s.firstPass.2 } := by
  have account := account_between s
  have less : s.firstPass.2.Sublist s.jobs := serve_sublist.2
  have windows : ∀ (placed : List (SchJob × SchQueue)) (s₁ : Scheduler),
      (∀ user ∈ s₁.users, user.subWindows.length = s.conf.windowDepth) →
      ∀ user ∈ (Greedy.after chargeJob s₁ placed).users,
        user.subWindows.length = s.conf.windowDepth := by
    intro placed
    induction placed with
    | nil => exact fun _ start => start
    | cons x placed ih => exact fun s₁ start => ih _ (chargeJob_windows start)
  refine ⟨(less.map _).nodup formed.unique, ?_, ?_, ?_⟩
  · intro job mem
    rw [account.sizes.1]
    exact formed.users job (less.subset mem)
  · intro job mem q mem'
    rw [account.sizes.2]
    exact formed.hosts job (less.subset mem) q mem'
  · rw [account.conf]
    exact windows s.firstPass.1 s.core formed.windows

/-- A round is two greedy passes. -/
theorem gwSched_serve (formed : Formed s) (deep : s.conf.windowDepth ≠ 0) :
    s.gwSched = { Greedy.after chargeJob s.core s.sent with jobs := s.secondPass.2 } := by
  have first : s.dispatchPass false 0 =
      ({ s.between with jobs := s.firstPass.2 }, s.firstPass.1.length) := by
    have pass := schedDispatch_serve false s.mostOf 0 (List.nil_append s.jobs).symm formed deep
      (Nat.le_refl _)
    rw [Nat.sub_zero, Nat.zero_add] at pass
    exact pass
  have conf : s.between.conf = s.conf := (account_between s).conf
  have second : dispatchPass true s.firstPass.1.length { s.between with jobs := s.firstPass.2 } =
      ({ Greedy.after chargeJob s.between s.secondPass.1 with jobs := s.secondPass.2 },
        s.firstPass.1.length + s.secondPass.1.length) := by
    have pass := schedDispatch_serve true
      (if s.conf.maxDispatch = 0 then s.firstPass.2.length else s.conf.maxDispatch)
      s.firstPass.1.length (s := { s.between with jobs := s.firstPass.2 })
      (List.nil_append s.firstPass.2).symm formed.between (by rw [conf]; exact deep) (Nat.le_refl _)
    have core : ({ s.between with jobs := s.firstPass.2 } : Scheduler).core = s.between := by
      have none : s.between.jobs = [] := after_jobs s.core s.firstPass.1
      rw [Scheduler.core, ← none]
    rw [core] at pass
    rw [dispatchPass, conf]
    exact pass
  rw [gwSched, first]
  dsimp only
  rw [second, sent, Greedy.after_append]
  rfl

/-- What a round sends and what it leaves are the jobs. -/
lemma sent_perm (s : Scheduler) : (s.sent.map Prod.fst ++ s.secondPass.2).Perm s.jobs := by
  have first : (s.firstPass.1.map Prod.fst ++ s.firstPass.2).Perm s.jobs := serve_perm
  have second : (s.secondPass.1.map Prod.fst ++ s.secondPass.2).Perm s.firstPass.2 := serve_perm
  rw [sent, List.map_append, List.append_assoc]
  exact (second.append_left _).trans first

/-- What a round leaves are the jobs in their order, without those that it sends. -/
lemma secondPass_left (unique : (s.jobs.map (·.jid)).Nodup) :
    s.secondPass.2 = s.jobs.filter fun job => decide (job.jid ∉ s.sent.map (·.1.jid)) := by
  have perm := s.sent_perm
  have less : s.secondPass.2.Sublist s.jobs :=
    (serve_sublist.2 : s.secondPass.2.Sublist s.firstPass.2).trans serve_sublist.2
  have ids := (perm.map (·.jid)).nodup_iff.2 unique
  rw [List.map_append, List.nodup_append, List.map_map] at ids
  have left : ∀ job ∈ s.secondPass.2, job.jid ∉ s.sent.map (·.1.jid) := by
    intro job mem sent
    exact ids.2.2 _ sent _ (List.mem_map_of_mem mem) rfl
  have kept : s.secondPass.2.Sublist
      (s.jobs.filter fun job => decide (job.jid ∉ s.sent.map (·.1.jid))) := by
    have all := List.filter_eq_self.2 fun job mem => decide_eq_true (left job mem)
    rw [← all]
    exact less.filter _
  refine kept.eq_of_length_le (List.Nodup.length_le_of_subset ?_ ?_)
  · exact (List.Nodup.of_map _ unique).filter _
  · intro job mem
    obtain ⟨mem, out⟩ := List.mem_filter.1 mem
    rcases List.mem_append.1 (perm.mem_iff.2 mem) with sent | rest
    · obtain ⟨x, mem', rfl⟩ := List.mem_map.1 sent
      exact absurd (List.mem_map_of_mem mem') (of_decide_eq_true out)
    · exact rest

/-- A round that sends the jobs `placed`, each once, within the limits. -/
structure Limits (s s' : Scheduler) (placed : List (SchJob × SchQueue)) : Prop where
  live : s'.crashed = false
  out : s'.out = s.out ++ placed.map s.printed
  own : ∀ x ∈ placed, x.1 ∈ s.jobs ∧ x.2 ∈ x.1.mhosts
  once : (placed.map (·.1.jid)).Nodup
  chunk : placed.length ≤ s.conf.maxDispatch
  users : ∀ k user, s.users[k]? = some user →
    ∃ user', s'.users[k]? = some user' ∧ UserSent (onUser k placed) s.conf.maxUser user user'
  hosts : ∀ k host, s.hosts[k]? = some host →
    ∃ host', s'.hosts[k]? = some host' ∧ HostSent (onHost k placed) s.conf.maxResource host host'
  jobs : s'.jobs = s.jobs.filter fun job => decide (job.jid ∉ placed.map (·.1.jid))

/-- With windows, a round keeps to the limits. -/
lemma gwSched_limits (formed : Formed s) (live : s.crashed = false)
    (deep : s.conf.windowDepth ≠ 0) (chunk : s.conf.maxDispatch ≠ 0) :
    Limits s s.gwSched s.sent := by
  have account : Account s.core (Greedy.after chargeJob s.core s.sent) s.sent := by
    have both := account_sent s
    rw [sent, Greedy.after_append]
    exact both
  have perm := s.sent_perm
  rw [gwSched_serve formed deep]
  refine ⟨account.crashed.trans live, account.out, fun x mem => ⟨?_, account.own x mem⟩, ?_, ?_,
    account.users, account.hosts, secondPass_left formed.unique⟩
  · exact perm.mem_iff.1 (List.mem_append_left _ (List.mem_map_of_mem mem))
  · have ids := (perm.map (·.jid)).nodup_iff.2 formed.unique
    rw [List.map_append, List.map_map] at ids
    exact (List.nodup_append.1 ids).1
  · have first : s.firstPass.1.length ≤ s.mostOf := serve_length_le
    have second : s.secondPass.1.length ≤ s.leftOver := serve_length_le
    rw [mostOf, if_neg chunk] at first
    rw [leftOver, if_neg chunk] at second
    rw [sent, List.length_append]
    omega

/-- When all jobs are blocked, a round does nothing. -/
lemma gwSched_blocked (formed : Formed s) (blocked : ∀ job ∈ s.jobs, s.Blocked job) :
    s.gwSched = s := by
  have pass (rs : Bool) (most n d : Nat) : schedDispatch rs most n 0 d s = (s, d) :=
    schedDispatch_none (List.nil_append s.jobs).symm formed.users formed.hosts fun job mem =>
      (placeJob_none (formed.users job mem) (formed.hosts job mem)).2 fun _ => blocked job mem
  rw [gwSched, dispatchPass, pass]
  dsimp only
  rw [dispatchPass, pass]

/-- Without windows a round crashes the scheduler as soon as a job is not blocked. -/
lemma gwSched_crash (formed : Formed s) (flat : s.conf.windowDepth = 0)
    (free : ∃ job ∈ s.jobs, ¬ s.Blocked job) : s.gwSched.crashed = true := by
  obtain ⟨job, mem, free⟩ := free
  have placeable : placeJob (job.reason != .none) s job ≠ none := by
    rw [Ne, placeJob_none (formed.users job mem) (formed.hosts job mem)]
    exact fun blocked => free (blocked (by simp [ofKind]))
  have some : 0 < s.mostOf := by
    unfold mostOf
    split
    · exact List.length_pos_of_mem mem
    · rename_i chunk
      exact Nat.pos_of_ne_zero chunk
  have crash (rs : Bool) (placeable : ∃ job ∈ s.jobs, placeJob rs s job ≠ none) :
      (s.dispatchPass rs 0).1.crashed = true :=
    schedDispatch_crash (List.nil_append s.jobs).symm formed flat (Nat.le_refl _) some placeable
  by_cases first : ∃ job ∈ s.jobs, placeJob false s job ≠ none
  · rw [gwSched]
    exact schedDispatch_crashed (crash false first)
  · push Not at first
    have pass : s.dispatchPass false 0 = (s, 0) :=
      schedDispatch_none (List.nil_append s.jobs).symm formed.users formed.hosts first
    rw [gwSched, pass]
    refine crash true ⟨job, mem, ?_⟩
    cases kind : job.reason != Reason.none with
    | false =>
      rw [kind] at placeable
      exact absurd (first job mem) placeable
    | true => rwa [kind] at placeable

/-- A round sends each job at most once, within the limits, to an entry of its own list, and leaves
the others in order, exactly when the users have windows to count the job in, or every job is
blocked. -/
theorem gwSched_limits_iff (s : Scheduler) (formed : Formed s) (live : s.crashed = false)
    (chunk : s.conf.maxDispatch ≠ 0) :
    (∃ placed, Limits s s.gwSched placed) ↔
      s.conf.windowDepth ≠ 0 ∨ ∀ job ∈ s.jobs, s.Blocked job := by
  constructor
  · rintro ⟨placed, limits⟩
    by_contra neither
    push Not at neither
    obtain ⟨flat, free⟩ := neither
    have dead := gwSched_crash formed flat free
    rw [limits.live] at dead
    cases dead
  · rintro (deep | blocked)
    · exact ⟨s.sent, gwSched_limits formed live deep chunk⟩
    · rw [gwSched_blocked formed blocked]
      have account := Account.refl s
      exact ⟨[], live, account.out, (fun _ mem => by cases mem), List.nodup_nil, Nat.zero_le _,
        account.users, account.hosts, by simp⟩

/-- Two jobs of one user for one host, and one dispatch a round. -/
def twoJobs (windowDepth : Nat) : Scheduler where
  conf := { windowDepth, maxDispatch := 1 }
  users := [{
    uid := 0, name := "ana", activeJobs := 2, runningJobs := 0, totalJobs := 2
    subWindows := List.replicate windowDepth 0 }]
  hosts := [{ hid := 0, name := "cluster", usedSlots := 0, runningJobs := 0 }]
  jobs := [1, 2].map fun jid => {
    uaId := 0, owner := 0, jid, aid := none, np := 1, reason := .none
    mhosts := [{ haId := 0, uhaId := 0, qname := "short", slots := 4, fixed := 1, rank := 0 }]
    scheduleTime := 0, deadlineTime := 0, fixed := 0 }

theorem gwSched_limits_two :
    (Formed (twoJobs 5) ∧ (twoJobs 5).crashed = false ∧ (twoJobs 5).conf.maxDispatch ≠ 0) ∧
    ((∃ placed, Limits (twoJobs 5) (twoJobs 5).gwSched placed) ↔
      (twoJobs 5).conf.windowDepth ≠ 0 ∨ ∀ job ∈ (twoJobs 5).jobs, (twoJobs 5).Blocked job) := by
  have formed : Formed (twoJobs 5) := by
    constructor <;> decide
  exact ⟨⟨formed, rfl, by decide⟩, gwSched_limits_iff (twoJobs 5) formed rfl (by decide)⟩

/-- Without windows the first dispatch writes to a table that is not there. -/
theorem gwSched_windowless :
    Formed (twoJobs 0) ∧ ¬ ∃ placed, Limits (twoJobs 0) (twoJobs 0).gwSched placed := by
  refine ⟨by constructor <;> decide, ?_⟩
  rintro ⟨placed, limits⟩
  have dead : (twoJobs 0).gwSched.crashed = true := by decide
  rw [limits.live] at dead
  cases dead

end Scheduler

end GridWay
