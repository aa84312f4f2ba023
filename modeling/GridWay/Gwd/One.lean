import GridWay.Gwd.Above
import GridWay.Gwd.Pool

/-!
# One job

What a step of the daemon can do to one job: nothing that its lifecycle sees, a release from `HOLD`
by the end of another job, a handler of the Dispatch Manager for the job itself, a dispatch, or the
entry of its stage again after a reload of the transfer driver.

* `Gwd.Acted`: a handler of the Dispatch Manager ran for the job.
* `Gwd.job_cases`: the five cases.
* `Gwd.gone_step`: a job that is gone does not come back.
-/

namespace GridWay

open Lifecycle

namespace Gwd

variable {w : World} {s s' : Gwd} {i j : JobId} {job : Job} {e : Event}

/-- The state of a job, when it exists. -/
def state (s : Gwd) (j : JobId) : Option JobState := (s.jobs j).map Job.jobState

/-- The number of records of a job. -/
def records (s : Gwd) (j : JobId) : Nat := ((s.jobs j).map fun job => job.history.length).getD 0

section Deps

/-- A job has dependencies that are still open. -/
def openDeps (s : Gwd) (j : JobId) : Bool := (s.deps j).any fun ds => ds.any (· ≠ -4)

lemma clearDep_closed {met : Bool} {ds : List Int} (closed : ds.any (· ≠ -4) = false) :
    (clearDep j met ds).any (· ≠ -4) = false := by
  rw [List.any_eq_false] at closed ⊢
  intro d mem
  obtain ⟨d', mem', rfl⟩ := List.mem_map.1 mem
  have same : d' = -4 := by simpa using closed d' mem'
  have other : ¬ ((-4 : Int) = j ∧ met = true) := by omega
  simp [same]

/-- A job without open dependencies is not touched by the end of another job. -/
lemma depCheckOne_closed (w : World) (j : JobId) (code : Int) (k : JobId) (closed : s.openDeps i = false) :
    (depCheckOne w j code s k).jobs i = s.jobs i ∧
      (depCheckOne w j code s k).openDeps i = false := by
  unfold depCheckOne
  cases deps : s.deps k with
  | none => exact ⟨rfl, closed⟩
  | some ds =>
    dsimp only
    cases here : s.jobs k with
    | none => exact ⟨rfl, closed⟩
    | some job =>
      dsimp only
      by_cases same : i = k
      · subst same
        have none : ds.any (· ≠ -4) = false := by simpa [openDeps, deps] using closed
        have still : ¬ (ds.any (fun d => d = (j : Int)) = true) := by
          rw [List.any_eq_true]
          rintro ⟨d, mem, eq⟩
          have minus : d = -4 := by simpa using List.any_eq_false.1 none d mem
          have plus : d = (j : Int) := by simpa using eq
          omega
        split
        · rw [if_neg fun h => still h.1]
          exact ⟨rfl, by simpa [openDeps] using clearDep_closed none⟩
        · exact ⟨rfl, closed⟩
      · have kept (deps' : Option (List Int)) :
            ({ s with deps := Function.update s.deps k deps' } : Gwd).openDeps i = false := by
          simpa [openDeps, same] using closed
        split
        · split
          · refine ⟨by simp [same], ?_⟩
            simpa [openDeps, same] using closed
          · exact ⟨rfl, kept _⟩
        · exact ⟨rfl, closed⟩

lemma depCheck_closed {code : Int} (closed : s.openDeps i = false) :
    (s.depCheck w j code).jobs i = s.jobs i ∧ (s.depCheck w j code).openDeps i = false := by
  unfold depCheck
  generalize List.range s.conf.numberOfJobs = ks
  induction ks generalizing s with
  | nil => exact ⟨rfl, closed⟩
  | cons k ks ih =>
    obtain ⟨jobs, closed'⟩ := depCheckOne_closed w j code k closed
    obtain ⟨jobs', closed''⟩ := ih closed'
    exact ⟨jobs'.trans jobs, closed''⟩

lemma call_closed (c : Call) (closed : s.openDeps i = false) :
    (call w j s c).openDeps i = false := by
  cases c
  case depCheck code => exact (depCheck_closed closed).2
  case free =>
    unfold call jobPoolFree
    by_cases same : i = j
    · cases s.jobs j <;> simp [openDeps, same]
    · cases s.jobs j <;> simpa [openDeps, same, decJobs] using closed
  all_goals simpa [call, openDeps, incRunningJobs, decRunningJobs] using closed

/-- A job without open dependencies does not get open ones by a reply. -/
lemma reply_closed {r : Reply} (closed : s.openDeps i = false) :
    (reply w j r s).openDeps i = false := by
  have all (cs : List Call) (s : Gwd) (closed : s.openDeps i = false) :
      (cs.foldl (call w j) s).openDeps i = false := by
    induction cs generalizing s with
    | nil => exact closed
    | cons c cs ih => exact ih _ (call_closed c closed)
  exact all r.calls _ closed

/-- A job without open dependencies is left alone by the replies for other jobs. -/
lemma reply_other_closed {r : Reply} (other : i ≠ j) (closed : s.openDeps i = false) :
    (reply w j r s).jobs i = s.jobs i := by
  have all (cs : List Call) (s : Gwd) (closed : s.openDeps i = false) :
      (cs.foldl (call w j) s).jobs i = s.jobs i := by
    induction cs generalizing s with
    | nil => rfl
    | cons c cs ih =>
      rw [List.foldl_cons, ih _ (call_closed c closed)]
      by_cases ends : ∃ code, c = .depCheck code
      · obtain ⟨code, rfl⟩ := ends
        exact (depCheck_closed closed).1
      · exact call_other_calm other fun code same => ends ⟨code, same⟩
  simpa [other, reply] using
    all r.calls { s with jobs := Function.update s.jobs j (some r.job) } closed

end Deps

section Granted

/-- The requests that marks grant. -/
def grantsIn (ms : List Mark) : List RmAction :=
  ms.filterMap fun
    | .grant a => some a
    | _ => none

/-- The requests that were granted for a job, oldest first. -/
def grantedTo (s : Gwd) (j : JobId) : List RmAction :=
  s.granted.filterMap fun x => if x.2 = j then some x.1 else none

lemma call_granted (w : World) (j : JobId) (s : Gwd) (c : Call) :
    (call w j s c).granted = s.granted ++ (grantsIn c.mark?.toList).map (·, j) := by
  cases c
  case rm a => cases h : a.grants <;> simp [call, granted, grantsIn, h]
  all_goals simp [call, granted, grantsIn, incRunningJobs, decRunningJobs]

/-- A reply grants what its marks say. -/
lemma reply_granted (w : World) (j : JobId) (r : Reply) (s : Gwd) :
    (reply w j r s).granted = s.granted ++ (grantsIn (trace r.calls)).map (·, j) := by
  have all (cs : List Call) (s : Gwd) :
      (cs.foldl (call w j) s).granted = s.granted ++ (grantsIn (trace cs)).map (·, j) := by
    induction cs generalizing s with
    | nil => simp [grantsIn]
    | cons c cs ih =>
      rw [List.foldl_cons, ih, call_granted, trace_cons, List.append_assoc, ← List.map_append]
      simp [grantsIn]
  exact all r.calls _

lemma reply_grantedTo (w : World) (j : JobId) (r : Reply) (s : Gwd) :
    (reply w j r s).grantedTo j = s.grantedTo j ++ grantsIn (trace r.calls) := by
  have self (as : List RmAction) :
      (as.map (·, j)).filterMap (fun x => if x.2 = j then some x.1 else none) = as := by
    induction as with
    | nil => rfl
    | cons a as ih => simp
  rw [grantedTo, reply_granted, List.filterMap_append, self]
  rfl

lemma reply_grantedTo_other (w : World) (r : Reply) (s : Gwd) (other : i ≠ j) :
    (reply w j r s).grantedTo i = s.grantedTo i := by
  have none (as : List RmAction) :
      (as.map (·, j)).filterMap (fun x => if x.2 = i then some x.1 else none) = [] := by
    induction as with
    | nil => rfl
    | cons a as ih => simp [Ne.symm other]
  rw [grantedTo, reply_granted, List.filterMap_append, none, List.append_nil]
  rfl

end Granted

/-- The lifecycle of a job is left alone. -/
structure Untouched (s s' : Gwd) (j : JobId) (job : Job) : Prop where
  job : ∃ job', s'.jobs j = some job' ∧ job'.face = job.face
  moves : s'.moves j = s.moves j
  grants : s'.grantedTo j = s.grantedTo j

/-- The job is released from `HOLD` by the end of another job. -/
structure Unlocked (s s' : Gwd) (j : JobId) (job : Job) : Prop where
  hold : job.jobState = .hold
  deps : s.openDeps j = true
  job : s'.jobs j = some (job.setState .pending)
  moves : s'.moves j = s.moves j
  grants : s'.grantedTo j = s.grantedTo j

/-- The handler of an action ran for the job, with one of its effects. -/
structure Acted (s s' : Gwd) (j : JobId) (job : Job) (a : DmAction) (rest : List DmItem)
    (eff : Effect) (r : Reply) : Prop where
  queue : s.dmQueue = .job a j :: rest
  mem : eff ∈ effects a job.jobState (job.emState == .done)
  real : Realises eff job r
  core : r.job.core = job.core
  jobs : s'.jobs j = if eff.frees then none else some r.job
  moves : s'.moves j =
    ({ s with dmQueue := rest } : Gwd).moves j ++ eff.queued.filter DmAction.isTransition
  grants : ∃ staged, s'.grantedTo j = s.grantedTo j ++
    grantsIn (Dm.marks a job.jobState (job.emState == .done) staged)

/-- A handler that does not crash acts on its job. -/
lemma acted {a : DmAction} {rest : List DmItem} {wS : SubmitWorld}
    (queue : s.dmQueue = .job a j :: rest)
    (live : (reply wS.world j (Dm.handle a (s.world wS.world) job)
      { s with dmQueue := rest }).crashed = false) :
    ∃ eff, Acted s (reply wS.world j (Dm.handle a (s.world wS.world) job) { s with dmQueue := rest })
      j job a rest eff (Dm.handle a (s.world wS.world) job) := by
  obtain ⟨eff, mem, real⟩ := Dm.handle_effect (reply_live live).2
  have state : (Dm.handle a (s.world wS.world) job).job.jobState ≠ .hold ∨
      ∀ code, Call.depCheck code ∉ (Dm.handle a (s.world wS.world) job).calls := by
    by_cases ends : eff.next = .zombie
    · exact .inl (by rw [real.next, ends]; decide)
    · exact .inr fun code mem => ends (real.ends code mem)
  refine ⟨eff, queue, mem, real, Dm.handle_core a _ job, ?_, ?_, wS.world.environment, ?_⟩
  · rw [reply_self state]
    by_cases frees : eff.frees
    · rw [if_pos (real.frees.2 frees), if_pos frees]
    · rw [if_neg fun mem => frees (real.frees.1 mem), if_neg frees]
  · rw [reply_moves_self, real.queued]
  · rw [reply_grantedTo, Dm.handle_trace (reply_live live).2]
    rfl

/-- What a step can do to a job. -/
theorem job_cases (here : s.jobs j = some job) (live : (s.step e).crashed = false)
    (pool : Pool s) :
    Untouched s (s.step e) j job ∨
    Unlocked s (s.step e) j job ∨
    (∃ wS a rest eff, e = .dm wS ∧
      s.step e = reply wS.world j (Dm.handle a (s.world wS.world) job) { s with dmQueue := rest } ∧
      Acted s (s.step e) j job a rest eff (Dm.handle a (s.world wS.world) job)) ∨
    (∃ hid queue rank w host, e = .scheduleJob j hid queue rank w ∧ s.hosts hid = some host ∧
      s.step e = reply w j (Dm.dispatchJob hid host rank queue (s.world w) job) s) ∨
    ∃ w, e = .tmReload j w ∧ s.step e = reply w j (Tm.recover (s.world w) job) s := by
  have alive := step_alive live
  have other {w : World} {r : Reply} {i : JobId} {q : List DmItem} (ne : j ≠ i)
      (eq : s.step e = reply w i r { s with dmQueue := q })
      (moves : ({ s with dmQueue := q } : Gwd).moves j = s.moves j) :
      Untouched s (s.step e) j job ∨ Unlocked s (s.step e) j job := by
    have grants : (s.step e).grantedTo j = s.grantedTo j := by
      rw [eq, reply_grantedTo_other w r _ ne]
      rfl
    have same : (s.step e).moves j = s.moves j := by
      rw [eq, reply_moves_other w r _ ne, moves]
    have released : Released (s.jobs j) ((s.step e).jobs j) := eq ▸ reply_other ne
    rcases released with kept | ⟨job', before, hold, after⟩
    · exact .inl ⟨⟨job, kept.trans here, rfl⟩, same, grants⟩
    · rw [here] at before
      cases before
      refine .inr ⟨hold, ?_, after, same, grants⟩
      by_contra closed
      have kept : (s.step e).jobs j = s.jobs j :=
        eq ▸ reply_other_closed ne (by simpa [openDeps] using closed)
      rw [after, here] at kept
      have same := congrArg Job.jobState (Option.some.inj kept)
      rw [hold] at same
      cases same
  rcases step_cases alive live with ⟨quiet, -⟩ | ⟨wS, a, i, rest, job', he, queue, here', eq⟩ |
    ⟨wS, msg, rest, he, queue, eq⟩ |
    ⟨i, hid, queue, rank, w, host, job', he, there, here', eq⟩ | ⟨i, w, job', he, here', eq⟩
  · obtain ⟨job', after, face⟩ := quiet.job_after here
    exact .inl ⟨⟨job', after, face⟩, quiet.moves j (by rw [here]; rfl),
      by simp only [grantedTo, quiet.granted]⟩
  · by_cases same : j = i
    · subst same
      rw [here] at here'
      cases here'
      rw [eq] at live ⊢
      obtain ⟨eff, act⟩ := acted queue live
      exact .inr (.inr (.inl ⟨wS, a, rest, eff, he, rfl, act⟩))
    · rcases other same eq (moves_taken_other queue same) with kept | released
      · exact .inl kept
      · exact .inr (.inl released)
  · rw [eq] at live ⊢
    obtain ⟨js, grown, -⟩ := allocate_spec live
    have old : j ∉ js := fun mem =>
      Nat.not_lt.2 (grown.fresh j mem).1 (pool.below here)
    have above := allocate_above (s := { s with dmQueue := rest }) wS msg pool.fresh
    refine .inl ⟨⟨job, (grown.old j old).trans here, rfl⟩, ?_, ?_⟩
    · simp only [Gwd.moves, grown.dmQueue]
      exact moves_pop queue rfl
    · simp only [grantedTo, granted, above.out.1]
  · by_cases same : j = i
    · subst same
      rw [here] at here'
      cases here'
      exact .inr (.inr (.inr (.inl ⟨hid, queue, rank, w, host, he, there, eq⟩)))
    · rcases other (q := s.dmQueue) same eq rfl with kept | released
      · exact .inl kept
      · exact .inr (.inl released)
  · by_cases same : j = i
    · subst same
      rw [here] at here'
      cases here'
      exact .inr (.inr (.inr (.inr ⟨w, he, eq⟩)))
    · rcases other (q := s.dmQueue) same eq rfl with kept | released
      · exact .inl kept
      · exact .inr (.inl released)

/-- A dispatch leaves the state of the job, and grants nothing. -/
lemma dispatch_state {hid : HostId} {host : Host} {rank : Int} {queue : String}
    (here : s.jobs j = some job)
    (live : (reply w j (Dm.dispatchJob hid host rank queue (s.world w) job) s).crashed = false) :
    ∃ job', (reply w j (Dm.dispatchJob hid host rank queue (s.world w) job) s).jobs j = some job' ∧
      job'.jobState = job.jobState ∧
      (reply w j (Dm.dispatchJob hid host rank queue (s.world w) job) s).grantedTo j =
        s.grantedTo j := by
  rcases Dm.dispatchJob_cases hid host rank queue (s.world w) job with
    ⟨neutral, -⟩ | ⟨-, ⟨-, eq⟩ | ⟨-, -, eq⟩ | ⟨-, -, eq⟩⟩
  · have quiet := quiet_reply here neutral (by simp) live
    obtain ⟨job', after, face⟩ := quiet.job_after here
    exact ⟨job', after, congrArg Face.state face, by simp only [grantedTo, quiet.granted]⟩
  all_goals
    rw [eq]
    exact ⟨_, reply_write (by simp) (by simp), rfl, by rw [reply_grantedTo]; simp [grantsIn]⟩

/-- A reload of the transfer driver leaves the job, and grants nothing. -/
lemma reload_state (job : Job) :
    (reply w j (Tm.recover (s.world w) job) s).jobs j = some { job with tmState := .init } ∧
      (reply w j (Tm.recover (s.world w) job) s).grantedTo j = s.grantedTo j := by
  rcases recover_cases (s.world w) job with eq | ⟨a, -, -, -, -, eq⟩
  all_goals
    rw [eq]
    exact ⟨reply_write (by simp) (by simp), by rw [reply_grantedTo]; simp [grantsIn]⟩

/-- Nothing is granted for a job that is not there. -/
lemma grantedTo_absent (absent : s.jobs j = none) (pool : Pool s)
    (live : (s.step e).crashed = false) : (s.step e).grantedTo j = s.grantedTo j := by
  have reply_other {w : World} {r : Reply} {i : JobId} {q : List DmItem} {job : Job}
      (here : s.jobs i = some job) (eq : s.step e = reply w i r { s with dmQueue := q }) :
      (s.step e).grantedTo j = s.grantedTo j := by
    have ne : j ≠ i := by rintro rfl; rw [absent] at here; cases here
    rw [eq, reply_grantedTo_other w r _ ne]
    rfl
  rcases step_cases (step_alive live) live with ⟨quiet, -⟩ |
    ⟨wS, a, i, rest, job, -, -, here, eq⟩ | ⟨wS, msg, rest, -, -, eq⟩ |
    ⟨i, hid, queue, rank, w, host, job, -, -, here, eq⟩ | ⟨i, w, job, -, here, eq⟩
  · simp only [grantedTo, quiet.granted]
  · exact reply_other here eq
  · have above := allocate_above (s := { s with dmQueue := rest }) wS msg pool.fresh
    rw [eq]
    simp only [grantedTo, granted, above.out.1]
  · exact reply_other (q := s.dmQueue) here eq
  · exact reply_other (q := s.dmQueue) here eq

/-- A job without open dependencies does not get open ones. -/
lemma closed_step (below : j < s.nextJobId) (pool : Pool s) (closed : s.openDeps j = false)
    (live : (s.step e).crashed = false) : (s.step e).openDeps j = false := by
  rcases step_cases (step_alive live) live with ⟨quiet, -⟩ |
    ⟨wS, a, i, rest, job, he, queue, here, eq⟩ | ⟨wS, msg, rest, he, queue, eq⟩ |
    ⟨i, hid, queue, rank, w, host, job, he, there, here, eq⟩ | ⟨i, w, job, he, here, eq⟩
  · simpa only [openDeps, quiet.deps] using closed
  · rw [eq]
    exact reply_closed closed
  · rw [eq]
    have above := allocate_above (s := { s with dmQueue := rest }) wS msg pool.fresh
    have same : (allocate wS msg { s with dmQueue := rest }).deps j = s.deps j := above.deps j below
    simpa only [openDeps, same] using closed
  · rw [eq]
    exact reply_closed closed
  · rw [eq]
    exact reply_closed closed

/-- A job that is gone does not come back: ids are given once. -/
lemma gone_step (gone : s.jobs j = none) (below : j < s.nextJobId)
    (live : (s.step e).crashed = false) :
    (s.step e).jobs j = none ∧ j < (s.step e).nextJobId := by
  have reply_gone {w : World} {r : Reply} {i : JobId} {q : List DmItem} {job : Job}
      (here : s.jobs i = some job) (eq : s.step e = reply w i r { s with dmQueue := q }) :
      (s.step e).jobs j = none ∧ j < (s.step e).nextJobId := by
    have ne : j ≠ i := by rintro rfl; rw [gone] at here; cases here
    have released : Released (s.jobs j) ((s.step e).jobs j) := eq ▸ reply_other ne
    rw [gone] at released
    exact ⟨released.none, by rw [eq, (reply_frame ..).2.2.1]; exact below⟩
  rcases step_cases (step_alive live) live with ⟨quiet, -⟩ |
    ⟨wS, a, i, rest, job, he, queue, here, eq⟩ | ⟨wS, msg, rest, he, queue, eq⟩ |
    ⟨i, hid, queue, rank, w, host, job, he, there, here, eq⟩ | ⟨i, w, job, he, here, eq⟩
  · have same := quiet.isSome j
    rw [gone] at same
    exact ⟨by simpa using same, by rw [quiet.nextJobId]; exact below⟩
  · exact reply_gone here eq
  · rw [eq] at live ⊢
    obtain ⟨js, grown, -⟩ := allocate_spec live
    have old : j ∉ js := fun mem => Nat.not_lt.2 (grown.fresh j mem).1 below
    exact ⟨(grown.old j old).trans gone, Nat.lt_of_lt_of_le below grown.nextJobId⟩
  · exact reply_gone (q := s.dmQueue) here eq
  · exact reply_gone (q := s.dmQueue) here eq

/-- A job that appears is a new one. -/
lemma born_step (absent : s.jobs j = none) (pool : Pool s) (live : (s.step e).crashed = false)
    (here : (s.step e).jobs j = some job) :
    NewJob j job ∧ (s.step e).moves j = [] ∧ s.nextJobId ≤ j := by
  have above : s.nextJobId ≤ j := by
    by_contra below
    rw [(gone_step absent (Nat.lt_of_not_le below) live).1] at here
    cases here
  have reply_gone {w : World} {r : Reply} {i : JobId} {q : List DmItem} {job' : Job}
      (there : s.jobs i = some job') (eq : s.step e = reply w i r { s with dmQueue := q }) :
      NewJob j job ∧ (s.step e).moves j = [] ∧ s.nextJobId ≤ j := by
    have ne : j ≠ i := by rintro rfl; rw [absent] at there; cases there
    have released : Released (s.jobs j) ((s.step e).jobs j) := eq ▸ reply_other ne
    rw [absent] at released
    rw [released.none] at here
    cases here
  rcases step_cases (step_alive live) live with ⟨quiet, -⟩ |
    ⟨wS, a, i, rest, job', he, queue, there, eq⟩ | ⟨wS, msg, rest, he, queue, eq⟩ |
    ⟨i, hid, queue, rank, w, host, job', he, -, there, eq⟩ | ⟨i, w, job', he, there, eq⟩
  · have same := quiet.isSome j
    rw [absent, here] at same
    cases same
  · exact reply_gone there eq
  · rw [eq] at live here ⊢
    obtain ⟨js, grown, -⟩ := allocate_spec live
    by_cases mem : j ∈ js
    · obtain ⟨job', here', new⟩ := grown.new j mem
      rw [here] at here'
      cases here'
      have still : ({ s with dmQueue := rest } : Gwd).moves j = [] :=
        (moves_pop queue rfl).trans (pool.idle j above)
      refine ⟨new, ?_, above⟩
      simp only [Gwd.moves, grown.dmQueue]
      exact still
    · rw [grown.old j mem] at here
      rw [absent] at here
      cases here
  · exact reply_gone (q := s.dmQueue) there eq
  · exact reply_gone (q := s.dmQueue) there eq

end Gwd

end GridWay
