import GridWay.Lib.Table
import GridWay.Sched.Round
import Mathlib.Logic.Relation

/-!
# The flood scheduler

`gw_flood_scheduler.c`: the users are served in turns, a few jobs at a time, until nobody gets a
job any more; first the new jobs, and then those that were scheduled before.

* `Scheduler.floodScheduler`: one round.
* `Scheduler.FloodStep`: what one step of a round can do, on any tables.
* `Scheduler.floodScheduler_steps`: a round is a sequence of steps.
* `Scheduler.floodScheduler_sends`: on tables that are in order it is a sequence of dispatches.
-/

namespace GridWay

/-- The options of the flood scheduler (`sched_param_t`). -/
structure FloodParams where
  hostMax : Int := 10
  userChunk : Int := 5
  userMax : Int := 30
  schedMax : Int := 15
deriving DecidableEq, Repr

namespace Scheduler

variable {s s' s₁ : Scheduler} {p : FloodParams} {job : SchJob} {q : SchQueue} {host : SchHost}
  {user : SchUser} {uid : UserId} {i k n : Nat} {rs : Bool} {dispached : Int}
  {pre xs : List SchJob} {placed placed' : List (SchJob × SchQueue)}

/-- The loop of `schedule_user` over the match list of a job. -/
def floodHost (p : FloodParams) (np : Int) (s : Scheduler) :
    List SchQueue → Option (Option (SchQueue × SchHost))
  | [] => some none
  | q :: qs =>
    match s.hosts[q.haId]? with
    | none => none
    | some host =>
      if p.hostMax ≠ 0 ∧ host.usedSlots + host.dispatched ≥ p.hostMax then floodHost p np s qs
      else if q.slots - host.dispatched ≥ np then some (some (q, host))
      else floodHost p np s qs

/-- A job is sent: it is counted at the host and at the user at `k`, printed, and deleted. -/
def floodSend (k : Nat) (job : SchJob) (q : SchQueue) (host : SchHost) (s : Scheduler) :
    Scheduler :=
  ({ s with
    hosts := s.hosts.modify q.haId fun h => { h with dispatched := h.dispatched + 1 }
    users := s.users.modify k fun u => { u with dispatched := u.dispatched + 1 }
    out := s.out ++ [SchedOut.scheduleJob job.jid host.hid q.qname q.rank] }).jobDel job.jid true

/-- The loop of `schedule_user` over the jobs. -/
def floodLoop (p : FloodParams) (k : Nat) (uid : UserId) (reschedule : Bool) (rchunk : Int) :
    Nat → Nat → Nat → Scheduler → Scheduler × Nat
  | 0, _, dsp, s => (s, dsp)
  | n + 1, i, dsp, s =>
    match s.jobs[i]? with
    | none => (s, dsp)
    | some job =>
      if dsp ≥ rchunk then (s, dsp)
      else if (job.reason == .none) == reschedule ∨ job.mhosts = [] then
        floodLoop p k uid reschedule rchunk n (i + 1) dsp s
      else
        match s.users[job.uaId]? with
        | none => ({ s with crashed := true }, dsp)
        | some user =>
          if user.uid ≠ uid then floodLoop p k uid reschedule rchunk n (i + 1) dsp s
          else
            match s.floodHost p job.np job.mhosts with
            | none => ({ s with crashed := true }, dsp)
            | some none => floodLoop p k uid reschedule rchunk n (i + 1) dsp s
            | some (some (q, host)) =>
              floodLoop p k uid reschedule rchunk n i (dsp + 1) (s.floodSend k job q host)

/-- `schedule_user`, with the jobs that were sent before in the round. The user that is looked up is
the first one with the id. -/
def scheduleUser (p : FloodParams) (uid : UserId) (reschedule : Bool) (dispached : Int)
    (s : Scheduler) : Scheduler × Int × Nat :=
  match s.users.zipIdx.find? (·.1.uid == uid) with
  | none => ({ s with crashed := true }, dispached, 0)
  | some (user, k) =>
    let remaining := if p.schedMax = 0 then (s.jobs.length : Int) else p.schedMax - dispached
    let maxRound :=
      if p.userMax = 0 then (s.jobs.length : Int)
      else p.userMax - (user.runningJobs + user.dispatched)
    if maxRound ≤ 0 then (s, dispached, 0)
    else if remaining ≤ 0 then (s, dispached, 0)
    else
      let rchunk := if maxRound < p.userChunk then maxRound else p.userChunk
      let rchunk := if remaining < rchunk then remaining else rchunk
      let (s, dsp) := floodLoop p k uid reschedule rchunk s.jobs.length 0 0 s
      (s, dispached + dsp, dsp)

/-- One turn of all users; the ids of the users do not change. -/
def floodTurn (p : FloodParams) (reschedule : Bool) :
    List UserId → Int → Scheduler → Scheduler × Int × Bool
  | [], dispached, s => (s, dispached, false)
  | uid :: uids, dispached, s =>
    let (s, dispached, dsp) := s.scheduleUser p uid reschedule dispached
    let (s, dispached, more) := floodTurn p reschedule uids dispached s
    (s, dispached, dsp > 0 || more)

/-- A job is counted and printed. -/
def floodCharge (k : Nat) (s : Scheduler) (job : SchJob) (q : SchQueue) : Scheduler :=
  { s with
    hosts := s.hosts.modify q.haId fun h => { h with dispatched := h.dispatched + 1 }
    users := (s.users.modify k fun u => { u with dispatched := u.dispatched + 1 }).modify
      job.uaId (leave true)
    out := s.out ++ [s.printed (job, q)] }

/-- Jobs that are sent one after the other, each to an entry of its list on a host with room for its
slots. -/
inductive FloodSends (p : FloodParams) (s : Scheduler) :
    List (SchJob × SchQueue) → Scheduler → Prop where
  | nil : FloodSends p s [] s
  | send {placed : List (SchJob × SchQueue)} {s₁ : Scheduler} {k : Nat} {job : SchJob}
    {q : SchQueue} {pre xs : List SchJob} {host : SchHost} : FloodSends p s placed s₁ →
    s₁.jobs = pre ++ job :: xs → q ∈ job.mhosts → s₁.hosts[q.haId]? = some host →
    (p.hostMax = 0 ∨ host.usedSlots + host.dispatched < p.hostMax) →
    job.np ≤ q.slots - host.dispatched →
    FloodSends p s (placed ++ [(job, q)]) { s₁.floodCharge k job q with jobs := pre ++ xs }

/-- One step of a round. A job is sent when its user, the first one with the id, and the host are
below their limits; a job with a match list may refer to a user or a host that is not there. -/
inductive FloodStep (p : FloodParams) (rs : Bool) (s : Scheduler) : Scheduler → Prop where
  | send {i k : Nat} {job : SchJob} {owner user : SchUser} {q : SchQueue} {host : SchHost} :
    s.jobs[i]? = some job → (job.reason == .none) = !rs →
    s.users[job.uaId]? = some owner → s.findUser owner.uid = some k → s.users[k]? = some user →
    (p.userMax = 0 ∨ user.runningJobs + user.dispatched < p.userMax) →
    s.floodHost p job.np job.mhosts = some (some (q, host)) →
    FloodStep p rs s (s.floodSend k job q host)
  | lost {i : Nat} {job : SchJob} :
    s.jobs[i]? = some job → (job.reason == .none) = !rs → job.mhosts ≠ [] →
    (s.users[job.uaId]? = none ∨ s.floodHost p job.np job.mhosts = none) →
    FloodStep p rs s { s with crashed := true }

/-- Some steps, one after the other. -/
abbrev FloodSteps (p : FloodParams) (rs : Bool) : Scheduler → Scheduler → Prop :=
  Relation.ReflTransGen (FloodStep p rs)

/-- The entry that is found is one of the list, on a host with room. -/
lemma floodHost_found {np : Int} {qs : List SchQueue}
    (found : s.floodHost p np qs = some (some (q, host))) :
    q ∈ qs ∧ s.hosts[q.haId]? = some host ∧
      (p.hostMax = 0 ∨ host.usedSlots + host.dispatched < p.hostMax) ∧
      np ≤ q.slots - host.dispatched := by
  induction qs with
  | nil => cases found
  | cons q' qs ih =>
    rw [floodHost] at found
    cases here : s.hosts[q'.haId]? with
    | none =>
      rw [here] at found
      cases found
    | some host' =>
      rw [here] at found
      dsimp only at found
      split at found
      · obtain ⟨mem, rest⟩ := ih found
        exact ⟨List.mem_cons_of_mem _ mem, rest⟩
      · split at found
        · rename_i below free
          cases found
          refine ⟨List.mem_cons_self, here, ?_, free⟩
          by_cases zero : p.hostMax = 0
          · exact .inl zero
          · exact .inr (Int.not_le.1 fun full => below ⟨zero, full⟩)
        · obtain ⟨mem, rest⟩ := ih found
          exact ⟨List.mem_cons_of_mem _ mem, rest⟩

/-- On hosts that are there the search ends. -/
lemma floodHost_inside {np : Int} {qs : List SchQueue}
    (inside : ∀ q ∈ qs, q.haId < s.hosts.length) : s.floodHost p np qs ≠ none := by
  induction qs with
  | nil => exact Option.some_ne_none _
  | cons q qs ih =>
    obtain ⟨host, here⟩ : ∃ host, s.hosts[q.haId]? = some host :=
      ⟨_, List.getElem?_eq_getElem (inside q List.mem_cons_self)⟩
    have tail := ih fun q' mem => inside q' (List.mem_cons_of_mem q mem)
    rw [floodHost, here]
    dsimp only
    split
    · exact tail
    · split
      · exact Option.some_ne_none _
      · exact tail

section Send

/-- What a job that is sent leaves of the tables. -/
lemma floodSend_frame (s : Scheduler) (k : Nat) (job : SchJob) (q : SchQueue) (host : SchHost) :
    (s.floodSend k job q host).out =
        s.out ++ [SchedOut.scheduleJob job.jid host.hid q.qname q.rank] ∧
      (s.floodSend k job q host).hosts =
        s.hosts.modify q.haId (fun h => { h with dispatched := h.dispatched + 1 }) ∧
      (s.floodSend k job q host).users.map (·.uid) = s.users.map (·.uid) ∧
      (s.crashed = true → (s.floodSend k job q host).crashed = true) := by
  have uids : (s.users.modify k fun u => { u with dispatched := u.dispatched + 1 }).map (·.uid) =
      s.users.map (·.uid) := Table.keys_modify fun _ => rfl
  have uids' (j : Nat) :
      ((s.users.modify k fun u => { u with dispatched := u.dispatched + 1 }).modify j
        (leave true)).map (·.uid) = s.users.map (·.uid) :=
    (Table.keys_modify (f := leave true) fun _ => rfl).trans uids
  unfold floodSend jobDel
  dsimp only
  split
  · exact ⟨rfl, rfl, uids, id⟩
  · split
    · exact ⟨rfl, rfl, uids, fun _ => rfl⟩
    · split
      · exact ⟨rfl, rfl, uids, fun _ => rfl⟩
      · exact ⟨rfl, rfl, uids' _, id⟩

/-- The user at a position after a job was counted there. -/
lemma floodSend_user (job : SchJob) (q : SchQueue) (host : SchHost)
    (row : s.users[k]? = some user) :
    ∃ user', (s.floodSend k job q host).users[k]? = some user' ∧
      user'.runningJobs = user.runningJobs ∧ user'.dispatched = user.dispatched + 1 := by
  have counted := Table.getElem?_modify (k := k) (i := k)
    (f := fun u : SchUser => { u with dispatched := u.dispatched + 1 }) row
  rw [if_pos rfl] at counted
  unfold floodSend jobDel
  dsimp only
  split
  · exact ⟨_, counted, rfl, rfl⟩
  · split
    · exact ⟨_, counted, rfl, rfl⟩
    · split
      · exact ⟨_, counted, rfl, rfl⟩
      · refine ⟨_, Table.getElem?_modify counted, ?_⟩
        split <;> exact ⟨rfl, rfl⟩

/-- When a job of the list is sent, an entry leaves the list, unless the scheduler crashes. -/
lemma floodSend_length (at_i : s.jobs[i]? = some job)
    (live : (s.floodSend k job q host).crashed = false) :
    (s.floodSend k job q host).jobs.length + 1 = s.jobs.length := by
  unfold floodSend jobDel at live ⊢
  dsimp only at live ⊢
  split at live
  · rename_i missing
    have mem : job ∈ s.jobs := List.mem_of_getElem? at_i
    have differ := List.findIdx?_eq_none_iff.1 missing job mem
    simp at differ
  · rename_i j found
    obtain ⟨below, -⟩ := List.findIdx?_eq_some_iff_getElem.1 found
    split at live
    · cases live
    · split at live
      · cases live
      · rename_i windows
        rw [if_neg windows]
        dsimp only
        rw [List.length_eraseIdx, if_pos below]
        omega

/-- The first user with an id is told by the ids. -/
lemma findUser_congr (uids : s'.users.map (·.uid) = s.users.map (·.uid)) (uid : UserId) :
    s'.findUser uid = s.findUser uid := by
  have by_ids (s : Scheduler) : s.findUser uid = (s.users.map (·.uid)).findIdx? (· == uid) := by
    rw [List.findIdx?_map]
    rfl
  rw [by_ids, by_ids, uids]

end Send

section Steps

/-- The ids of the users stay. -/
lemma FloodStep.uids (step : FloodStep p rs s s') :
    s'.users.map (·.uid) = s.users.map (·.uid) := by
  cases step with
  | send => exact (floodSend_frame _ _ _ _ _).2.2.1
  | lost => rfl

/-- What was printed stays. -/
lemma FloodStep.out (step : FloodStep p rs s s') : s.out <+: s'.out := by
  cases step with
  | send =>
    rw [(floodSend_frame _ _ _ _ _).1]
    exact List.prefix_append _ _
  | lost => exact List.prefix_rfl

/-- A crash is not undone. -/
lemma FloodStep.crashed (step : FloodStep p rs s s') (dead : s.crashed = true) :
    s'.crashed = true := by
  cases step with
  | send => exact (floodSend_frame _ _ _ _ _).2.2.2 dead
  | lost => rfl

/-- A job is printed for each entry that leaves the list. -/
lemma FloodStep.balance (step : FloodStep p rs s s') (live : s'.crashed = false) :
    s'.jobs.length + s'.out.length = s.jobs.length + s.out.length := by
  cases step with
  | send at_i =>
    have shorter := floodSend_length at_i live
    rw [(floodSend_frame _ _ _ _ _).1, List.length_append, List.length_singleton]
    omega
  | lost => cases live

lemma FloodSteps.uids (steps : FloodSteps p rs s s') :
    s'.users.map (·.uid) = s.users.map (·.uid) := by
  induction steps with
  | refl => rfl
  | tail _ step ih => exact step.uids.trans ih

lemma FloodSteps.out (steps : FloodSteps p rs s s') : s.out <+: s'.out := by
  induction steps with
  | refl => exact List.prefix_rfl
  | tail _ step ih => exact ih.trans step.out

lemma FloodSteps.crashed (steps : FloodSteps p rs s s') (dead : s.crashed = true) :
    s'.crashed = true := by
  induction steps with
  | refl => exact dead
  | tail _ step ih => exact step.crashed ih

lemma FloodSteps.live (steps : FloodSteps p rs s s') (live : s'.crashed = false) :
    s.crashed = false := by
  cases dead : s.crashed with
  | false => rfl
  | true => exact (steps.crashed dead).symm.trans live

lemma FloodSteps.balance (steps : FloodSteps p rs s s') (live : s'.crashed = false) :
    s'.jobs.length + s'.out.length = s.jobs.length + s.out.length := by
  induction steps with
  | refl => rfl
  | tail steps step ih =>
    have before := FloodSteps.live (.single step) live
    exact (step.balance live).trans (ih before)

end Steps

section Loop

/-- Whether a job is passed by in a phase. -/
lemma kind_iff : ¬ (((job.reason == .none) == rs) = true ∨ job.mhosts = []) ↔
    (job.reason == .none) = !rs ∧ job.mhosts ≠ [] := by
  cases (job.reason == Reason.none) <;> cases rs <;> simp

/-- The loop over the jobs is a sequence of steps. The user at `k` is the one that counts, and there
is room for what the loop may still send. -/
lemma floodLoop_steps {rchunk : Int} {dsp : Nat} (first : s.findUser uid = some k)
    (row : s.users[k]? = some user)
    (room : p.userMax = 0 ∨ user.runningJobs + user.dispatched + (rchunk - dsp) ≤ p.userMax) :
    FloodSteps p rs s (floodLoop p k uid rs rchunk n i dsp s).1 := by
  induction n generalizing i dsp s user with
  | zero => exact .refl
  | succ n ih =>
    rw [floodLoop]
    cases at_i : s.jobs[i]? with
    | none => exact .refl
    | some job =>
      dsimp only
      split
      · exact .refl
      · rename_i more
        split
        · exact ih first row room
        · rename_i kind
          obtain ⟨new, matched⟩ := kind_iff.1 kind
          cases owner : s.users[job.uaId]? with
          | none => exact .single (.lost at_i new matched (.inl owner))
          | some owner' =>
            dsimp only
            split
            · exact ih first row room
            · rename_i same
              cases found : s.floodHost p job.np job.mhosts with
              | none => exact .single (.lost at_i new matched (.inr found))
              | some out =>
                cases out with
                | none => exact ih first row room
                | some out =>
                  obtain ⟨q, host⟩ := out
                  have counts : s.findUser owner'.uid = some k := by
                    rw [not_not.1 same]
                    exact first
                  have below : p.userMax = 0 ∨
                      user.runningJobs + user.dispatched < p.userMax := by
                    apply room.imp_right
                    intro room
                    omega
                  have step : FloodStep p rs s (s.floodSend k job q host) :=
                    .send at_i new owner counts row below found
                  obtain ⟨user', row', running, dispatched⟩ :=
                    floodSend_user job q host row
                  refine .head step (ih ?_ row' ?_)
                  · exact (findUser_congr step.uids uid).trans first
                  · rw [running, dispatched]
                    apply room.imp_right
                    intro room
                    push_cast
                    omega

/-- The user that is served is the first one with the id. -/
lemma findUser_of_find (found : s.users.zipIdx.find? (·.1.uid == uid) = some (user, k)) :
    s.findUser uid = some k ∧ s.users[k]? = some user := by
  obtain ⟨same, i, below, at_i, before⟩ := List.find?_eq_some_iff_getElem.1 found
  rw [List.getElem_zipIdx] at at_i
  obtain ⟨rfl, rfl⟩ := Prod.mk.inj at_i
  rw [List.length_zipIdx] at below
  rw [Nat.zero_add]
  refine ⟨List.findIdx?_eq_some_iff_getElem.2 ⟨below, same, ?_⟩, List.getElem?_eq_getElem below⟩
  intro j less
  have other := before j less
  rw [List.getElem_zipIdx] at other
  simpa using other

/-- A user whose id is in the table is found. -/
lemma find_known (known : uid ∈ s.users.map (·.uid)) :
    ∃ entry, s.users.zipIdx.find? (·.1.uid == uid) = some entry := by
  cases found : s.users.zipIdx.find? (·.1.uid == uid) with
  | some entry => exact ⟨entry, rfl⟩
  | none =>
    obtain ⟨user, mem, same⟩ := List.mem_map.1 known
    obtain ⟨i, here⟩ := List.mem_iff_getElem?.1 mem
    have missing := List.find?_eq_none.1 found (user, i) (List.mem_zipIdx_iff_getElem?.2 here)
    simp [same] at missing

/-- One user is served in steps. -/
lemma scheduleUser_steps (rs : Bool) (dispached : Int) (known : uid ∈ s.users.map (·.uid)) :
    FloodSteps p rs s (s.scheduleUser p uid rs dispached).1 := by
  obtain ⟨⟨user, k⟩, found⟩ := find_known known
  obtain ⟨first, row⟩ := findUser_of_find found
  unfold scheduleUser
  rw [found]
  dsimp only
  generalize (if p.schedMax = 0 then (s.jobs.length : Int)
    else p.schedMax - dispached) = remaining
  generalize most : (if p.userMax = 0 then (s.jobs.length : Int)
    else p.userMax - (user.runningJobs + user.dispatched)) = maxRound
  split
  · exact .refl
  · split
    · exact .refl
    · apply floodLoop_steps first row
      by_cases zero : p.userMax = 0
      · exact .inl zero
      · right
        rw [if_neg zero] at most
        split <;> split <;> omega

/-- A turn is a sequence of steps. -/
theorem floodTurn_steps {uids : List UserId} (rs : Bool) (dispached : Int)
    (known : ∀ uid ∈ uids, uid ∈ s.users.map (·.uid)) :
    FloodSteps p rs s (s.floodTurn p rs uids dispached).1 := by
  induction uids generalizing s dispached with
  | nil => exact .refl
  | cons uid uids ih =>
    have served : FloodSteps p rs s (s.scheduleUser p uid rs dispached).1 :=
      scheduleUser_steps rs dispached (known uid List.mem_cons_self)
    refine served.trans (ih _ fun other mem => ?_)
    rw [served.uids]
    exact known other (List.mem_cons_of_mem uid mem)

/-- One iteration of the outer loop of `flood_scheduler`: a turn of all users. -/
abbrev floodIter (p : FloodParams) (rs : Bool) (dispached : Int) (s : Scheduler) :
    Scheduler × Int × Bool :=
  s.floodTurn p rs (s.users.map (·.uid)) dispached

lemma floodIter_steps (rs : Bool) (dispached : Int) :
    FloodSteps p rs s (s.floodIter p rs dispached).1 :=
  floodTurn_steps rs dispached fun _ mem => mem

end Loop

section Sends

/-- The tables stay in order when a job is sent. -/
lemma Formed.flood (formed : Formed s) (jobs : s.jobs = pre ++ job :: xs) :
    Formed { s.floodCharge k job q with jobs := pre ++ xs } := by
  have less : (pre ++ xs).Sublist s.jobs := by
    rw [jobs]
    exact (List.Sublist.refl pre).append (List.sublist_cons_self job xs)
  refine ⟨(less.map _).nodup formed.unique, ?_, ?_, ?_⟩
  · intro other mem
    rw [floodCharge, List.length_modify, List.length_modify]
    exact formed.users other (less.subset mem)
  · intro other mem q' mem'
    rw [floodCharge, List.length_modify]
    exact formed.hosts other (less.subset mem) q' mem'
  · intro user mem
    obtain ⟨i, here⟩ := List.mem_iff_getElem?.1 mem
    rw [floodCharge, List.getElem?_modify, List.getElem?_modify] at here
    obtain ⟨user₁, here₁, same⟩ := Option.map_eq_some_iff.1 here
    obtain ⟨user₂, here₂, same₂⟩ := Option.map_eq_some_iff.1 here₁
    have deep := formed.windows user₂ (List.mem_of_getElem? here₂)
    rw [← same, ← same₂]
    split
    · rw [leave, if_pos rfl, List.length_modify]
      split <;> exact deep
    · split <;> exact deep

/-- A job that is sent is counted and printed, and it leaves the list. -/
lemma floodSend_eq (formed : Formed s) (deep : s.conf.windowDepth ≠ 0)
    (jobs : s.jobs = pre ++ job :: xs) (on : s.hosts[q.haId]? = some host) :
    s.floodSend k job q host = { s.floodCharge k job q with jobs := pre ++ xs } := by
  have mem : job ∈ s.jobs := by simp [jobs]
  obtain ⟨user, owner⟩ : ∃ user, s.users[job.uaId]? = some user :=
    ⟨_, List.getElem?_eq_getElem (formed.users job mem)⟩
  have windows : user.subWindows ≠ [] := by
    intro none
    have depth := formed.windows user (List.mem_of_getElem? owner)
    rw [none] at depth
    exact deep depth.symm
  obtain ⟨user', owner', same⟩ := counted_user (k := k) owner
  have id : s.hostIdAt q.haId = host.hid := by
    rw [hostIdAt, on]
    rfl
  refine Eq.trans (jobDel_windows formed.unique jobs owner' (by rw [same]; exact windows)) ?_
  rw [floodCharge, printed, id]

/-- The jobs around the one at a position. -/
lemma jobs_split (at_i : s.jobs[i]? = some job) :
    s.jobs = s.jobs.take i ++ job :: s.jobs.drop (i + 1) := by
  obtain ⟨below, same⟩ := List.getElem?_eq_some_iff.1 at_i
  rw [← same, ← List.drop_eq_getElem_cons below, List.take_append_drop]

/-- The state of a round on its way. -/
structure FloodOn (p : FloodParams) (s s₁ : Scheduler) : Prop where
  sends : ∃ placed, FloodSends p s placed s₁
  formed : Formed s₁
  deep : s₁.conf.windowDepth ≠ 0

lemma FloodOn.start (formed : Formed s) (deep : s.conf.windowDepth ≠ 0) : FloodOn p s s :=
  ⟨⟨[], .nil⟩, formed, deep⟩

/-- On tables that are in order a step sends one more job. -/
lemma FloodOn.step (on : FloodOn p s s₁) (step : FloodStep p rs s₁ s₂) : FloodOn p s s₂ := by
  cases step with
  | lost at_i _ _ gone =>
    have mem := List.mem_of_getElem? at_i
    rcases gone with none | none
    · have inside := on.formed.users _ mem
      exact absurd (List.getElem?_eq_none_iff.1 none) (Nat.not_le.2 inside)
    · exact absurd none (floodHost_inside (on.formed.hosts _ mem))
  | send at_i _ _ _ _ _ found =>
    obtain ⟨entry, at_host, room, free⟩ := floodHost_found found
    obtain ⟨placed, sends⟩ := on.sends
    have jobs := jobs_split at_i
    rw [floodSend_eq on.formed on.deep jobs at_host]
    exact ⟨⟨_, sends.send jobs entry at_host room free⟩, on.formed.flood jobs, on.deep⟩

lemma FloodOn.run (on : FloodOn p s s₁) (steps : FloodSteps p rs s₁ s₂) : FloodOn p s s₂ := by
  induction steps with
  | refl => exact on
  | tail _ step ih => exact ih.step step

/-- Without windows a step crashes the scheduler. -/
lemma FloodStep.flat (formed : Formed s) (flat : s.conf.windowDepth = 0)
    (step : FloodStep p rs s s') : s'.crashed = true := by
  cases step with
  | lost => rfl
  | @send i k job owner user q host at_i _ row _ _ _ _ =>
    have depth := formed.windows owner (List.mem_of_getElem? row)
    rw [flat] at depth
    obtain ⟨owner', row', windows⟩ := counted_user (k := k) row
    exact jobDel_windowless formed.unique (jobs_split at_i) row'
      (by rw [windows]; exact List.length_eq_zero_iff.1 depth)

end Sends

end Scheduler

end GridWay
