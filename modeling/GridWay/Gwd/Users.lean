import GridWay.Gwd.Pool
import GridWay.Gwd.Recover
import GridWay.Lib.Tally
import Mathlib.Algebra.BigOperators.Ring.Finset

/-!
# User counters

The active jobs of a user are its jobs in the pool, the running jobs are those that are dispatched.
A submission and a dispatch raise the counters; the transitions back to a resting state and the end
of a job lower them.

* `Gwd.balancedStep`: the events that keep the counters.
* `Gwd.UserInv`: the invariant; `Gwd.userInv_life`: one step.
* `Gwd.users_exact`: the counters after a run.
-/

namespace GridWay

open Lifecycle

namespace Lifecycle

/-- A job is dispatched: it has left the resting states, or its prolog waits. -/
def dispatched (st : JobState) (prolog : Bool) : Bool := !resting st || prolog

/-- An action that keeps the running jobs of the user in step with the dispatches, in the state of
a job and with its prolog waiting or not: a kill does not meet a dispatched job unless it closes the
dispatch, a job is brought back to a resting state once, and no other transition comes in a resting
state. -/
def balanced (a : DmAction) (st : JobState) (prolog : Bool) : Bool :=
  match a with
  | .kill => !(resting st && prolog)
  | .killHard => !dispatched st prolog
  | .pending | .failed | .stopped => !resting st && !prolog
  | .zombie => st != .epilog || !prolog
  | .prolog | .migrCancel => true
  | a => !a.isTransition || dispatched st prolog

/-- A balanced action closes the dispatch for the user when the job is no longer dispatched. -/
theorem effects_balance : ∀ a st done prolog prolog',
    prolog = (a == .prolog || prolog') → balanced a st prolog → ∀ eff ∈ effects a st done,
      .prolog ∉ eff.queued ∧
      (if eff.frees then 0 else (dispatched eff.next prolog').toInt) =
        (dispatched st prolog).toInt - if eff.closes then 1 else 0 := by
  decide

end Lifecycle

namespace Gwd

variable {w : World} {s s' : Gwd} {i j : JobId} {u : UserId}

/-- The prolog of a job waits. -/
def prologWaits (s : Gwd) (j : JobId) : Bool := (s.moves j).contains .prolog

/-- A job counts for its user. -/
def owns (s : Gwd) (u : UserId) (j : JobId) : Int :=
  ((s.jobs j).any fun job => job.userId == some u).toInt

/-- A dispatched job counts as running for its user. -/
def runs (s : Gwd) (u : UserId) (j : JobId) : Int :=
  ((s.jobs j).any fun job =>
    job.userId == some u && dispatched job.jobState (s.prologWaits j)).toInt

/-- A recovery registers no user: no directory is read up to its owner. -/
def registersNone (w : RecoverWorld) (s : Gwd) : Bool :=
  !w.userInit || w.order.all fun j => !w.template j || (s.dirs j).all fun dir => dir.conf.isNone

/-- The events that keep the counters of the users. -/
def balancedStep (s : Gwd) : Event → Bool
  | .dm w =>
    match s.dmQueue with
    | [] => true
    | .job a j :: _ => (s.jobs j).all fun job => balanced a job.jobState (s.prologWaits j)
    | .allocate msg :: _ => !s.registers w msg || s.submitFits w msg
  | .scheduleJob j _ _ _ w => (s.jobs j).all fun job =>
      !(Dm.dispatches w job && w.historyFile && job.jobState == .pending) || !s.prologWaits j
  | _ => true

/-- The events and restarts that keep the counters of the users. -/
def balancedLife (s : Gwd) : Life → Bool
  | .event e => s.balancedStep e
  | .restart w => s.registersNone w

section Counters

/-- What a list of changes to running jobs adds up to for a user. -/
def runningChange (cs : List (Option UserId × Int)) (u : UserId) : Int :=
  (cs.map fun c => if c.1 = some u then c.2 else 0).sum

@[simp] lemma runningChange_nil (u : UserId) : runningChange [] u = 0 := rfl

@[simp] lemma runningChange_cons (c : Option UserId × Int) (cs : List (Option UserId × Int))
    (u : UserId) :
    runningChange (c :: cs) u = (if c.1 = some u then c.2 else 0) + runningChange cs u := rfl

@[simp] lemma runningChange_append (cs cs' : List (Option UserId × Int)) (u : UserId) :
    runningChange (cs ++ cs') u = runningChange cs u + runningChange cs' u := by
  simp [runningChange]

/-- A user that is in the pool stays in it. -/
lemma userOp_isSome (s : Gwd) (v : Option UserId) (f : User → User) (u : UserId) :
    ((s.userOp v f).users u).isSome = (s.users u).isSome := by
  unfold userOp
  cases v with
  | none => rfl
  | some uid =>
    dsimp only
    cases here : s.users uid with
    | none => rfl
    | some user => by_cases same : u = uid <;> simp_all

/-- A counter update of a user that is in the pool. -/
lemma userOp_count {v : Option UserId} {f : User → User} (π : User → Int) (n : Int)
    (change : ∀ user, π (f user) = π user + n) (there : (s.users u).isSome) :
    (((s.userOp v f).users u).map π).getD 0 =
      ((s.users u).map π).getD 0 + if v = some u then n else 0 := by
  obtain ⟨user, present⟩ := Option.isSome_iff_exists.1 there
  unfold userOp
  cases v with
  | none => simp
  | some uid =>
    dsimp only
    by_cases same : uid = u
    · subst same
      simp [present, change]
    · cases s.users uid <;> simp [same, Ne.symm same]

lemma jobPoolFree_isSome (s : Gwd) (j : JobId) (u : UserId) :
    ((s.jobPoolFree j).users u).isSome = (s.users u).isSome := by
  unfold jobPoolFree
  cases s.jobs j with
  | none => rfl
  | some job => exact userOp_isSome ..

lemma decJobs_running (v : Option UserId) (there : (s.users u).isSome) :
    (s.decJobs v).running u = s.running u := by
  refine (userOp_count (f := fun user => { user with idle := 0, activeJobs := user.activeJobs - 1 })
    User.runningJobs 0 (fun _ => by simp) there).trans ?_
  simp [running]

lemma decJobs_active (v : Option UserId) (there : (s.users u).isSome) :
    (s.decJobs v).active u = s.active u - if v = some u then 1 else 0 := by
  refine (userOp_count (f := fun user => { user with idle := 0, activeJobs := user.activeJobs - 1 })
    User.activeJobs (-1) (fun _ => rfl) there).trans ?_
  unfold active
  split <;> simp [Int.sub_eq_add_neg]

lemma jobPoolFree_running (there : (s.users u).isSome) :
    (s.jobPoolFree j).running u = s.running u := by
  unfold jobPoolFree
  cases s.jobs j with
  | none => rfl
  | some job => exact decJobs_running job.userId (s := { s with toSched := _ }) there

lemma jobPoolFree_active {job : Job} (here : s.jobs j = some job) (there : (s.users u).isSome) :
    (s.jobPoolFree j).active u = s.active u - if job.userId = some u then 1 else 0 := by
  unfold jobPoolFree
  simp only [here]
  exact decJobs_active job.userId (s := { s with toSched := _ }) there

lemma call_users_isSome (w : World) (j : JobId) (s : Gwd) (c : Call) (u : UserId) :
    ((call w j s c).users u).isSome = (s.users u).isSome := by
  cases c <;> simp [call, incRunningJobs, decRunningJobs, userOp_isSome, jobPoolFree_isSome]

lemma reply_users_isSome (w : World) (j : JobId) (r : Reply) (s : Gwd) (u : UserId) :
    ((reply w j r s).users u).isSome = (s.users u).isSome :=
  foldl_frame (π := fun s => (s.users u).isSome) (fun s c => call_users_isSome w j s c u) _ _

lemma call_running {c : Call} (there : (s.users u).isSome) :
    (call w j s c).running u = s.running u + runningChange c.running?.toList u := by
  cases c
  case incRunning v n =>
    refine (userOp_count User.runningJobs n (fun _ => rfl) there).trans ?_
    simp [running]
  case decRunning v =>
    refine (userOp_count User.runningJobs (-1) (fun _ => rfl) there).trans ?_
    simp [running]
  case free => simp [call, jobPoolFree_running there]
  all_goals simp [call, running]

/-- The running jobs of a user move by what the calls add up to. -/
lemma reply_running {r : Reply} (there : (s.users u).isSome) :
    (reply w j r s).running u = s.running u + runningChange (runningCalls r.calls) u := by
  have all (cs : List Call) (s : Gwd) (there : (s.users u).isSome) :
      (cs.foldl (call w j) s).running u = s.running u + runningChange (runningCalls cs) u := by
    induction cs generalizing s with
    | nil => simp
    | cons c cs ih =>
      rw [List.foldl_cons, ih _ (by rw [call_users_isSome]; exact there), call_running there,
        runningCalls_cons, runningChange_append, Int.add_assoc]
  exact all r.calls _ there

lemma call_active {c : Call} (stays : c ≠ .free) (there : (s.users u).isSome) :
    (call w j s c).active u = s.active u := by
  cases c
  case incRunning v n =>
    exact (userOp_count User.activeJobs 0 (fun _ => by simp) there).trans (by simp [active])
  case decRunning v =>
    exact (userOp_count User.activeJobs 0 (fun _ => by simp) there).trans (by simp [active])
  case free => exact absurd rfl stays
  all_goals simp [call, active]

/-- A job that is freed no longer counts as active, and it is freed once. -/
lemma reply_active {r : Reply} (there : (s.users u).isSome) :
    (reply w j r s).active u =
      s.active u - if .free ∈ r.calls ∧ r.job.userId = some u then 1 else 0 := by
  have gone (cs : List Call) (s : Gwd) (gone : s.jobs j = none) (there : (s.users u).isSome) :
      (cs.foldl (call w j) s).active u = s.active u := by
    induction cs generalizing s with
    | nil => rfl
    | cons c cs ih =>
      have gone' : (call w j s c).jobs j = none :=
        show ([c].foldl (call w j) s).jobs j = none from calls_gone gone
      rw [List.foldl_cons, ih _ gone' (by rw [call_users_isSome]; exact there)]
      by_cases free : c = .free
      · simp [free, call, jobPoolFree, gone, active]
      · exact call_active free there
  have all (cs : List Call) (s : Gwd) (v : Option UserId)
      (here : (s.jobs j).map Job.userId = some v) (there : (s.users u).isSome) :
      (cs.foldl (call w j) s).active u =
        s.active u - if .free ∈ cs ∧ v = some u then 1 else 0 := by
    induction cs generalizing s with
    | nil => simp
    | cons c cs ih =>
      obtain ⟨job, here', rfl⟩ := Option.map_eq_some_iff.1 here
      have there' : ((call w j s c).users u).isSome := by rw [call_users_isSome]; exact there
      by_cases free : c = .free
      · subst free
        rw [List.foldl_cons, gone _ _ (by simp [call]) there', call, jobPoolFree_active here' there]
        simp
      · have owner : ((call w j s c).jobs j).map Job.userId = some job.userId := by
          rcases call_self (w := w) (s := s) (j := j) c free with same | ⟨job', before, -, same⟩
          · rw [same, here']; rfl
          · rw [here'] at before
            cases before
            rw [same]; rfl
        rw [List.foldl_cons, ih _ owner there', call_active free there]
        simp [Ne.symm free]
  exact all r.calls _ r.job.userId (by simp) there

end Counters

/-- The counters of the users are exact. -/
structure UserInv (s : Gwd) : Prop extends Pool s where
  owned : ∀ i job, s.jobs i = some job → ∃ u, job.userId = some u ∧ (s.users u).isSome
  active : ∀ u, (s.users u).isSome →
    s.active u = ∑ i ∈ Finset.range s.conf.numberOfJobs, s.owns u i
  running : ∀ u, (s.users u).isSome →
    s.running u = ∑ i ∈ Finset.range s.conf.numberOfJobs, s.runs u i

lemma toInt_nonneg (b : Bool) : 0 ≤ b.toInt := by cases b <;> decide

lemma owns_nonneg (s : Gwd) (u : UserId) (i : JobId) : 0 ≤ s.owns u i := by
  unfold owns
  exact toInt_nonneg _

lemma runs_nonneg (s : Gwd) (u : UserId) (i : JobId) : 0 ≤ s.runs u i := by
  unfold runs
  exact toInt_nonneg _

lemma owns_eq {job : Job} (here : s.jobs i = some job) :
    s.owns u i = if job.userId = some u then 1 else 0 := by
  by_cases owner : job.userId = some u <;> simp [owns, here, owner, beq_false_of_ne]

lemma runs_eq {job : Job} (here : s.jobs i = some job) :
    s.runs u i =
      if job.userId = some u then (dispatched job.jobState (s.prologWaits i)).toInt else 0 := by
  by_cases owner : job.userId = some u <;>
    cases out : dispatched job.jobState (s.prologWaits i) <;>
    simp [runs, here, owner, out, beq_false_of_ne]

/-- What a job counts for depends on its owner, its state and its transitions. -/
lemma counts_congr (jobs : (s'.jobs i).map Job.face = (s.jobs i).map Job.face)
    (moves : (s.jobs i).isSome → s'.moves i = s.moves i) :
    s'.owns u i = s.owns u i ∧ s'.runs u i = s.runs u i := by
  cases here : s.jobs i with
  | none =>
    rw [here, Option.map_none, Option.map_eq_none_iff] at jobs
    simp [owns, runs, here, jobs]
  | some job =>
    rw [here, Option.map_some] at jobs
    obtain ⟨job', here', face⟩ := Option.map_eq_some_iff.1 jobs
    have state : job'.jobState = job.jobState := congrArg Face.state face
    have owner : job'.userId = job.userId := congrArg (·.core.userId) face
    have same := moves (by rw [here]; rfl)
    rw [owns_eq here, owns_eq here', runs_eq here, runs_eq here']
    simp only [owner, state, prologWaits, same, and_self]

namespace UserInv

/-- A user without active jobs owns no job. -/
lemma free (inv : UserInv s) (there : (s.users u).isSome) (none : s.active u = 0) {job : Job}
    (here : s.jobs i = some job) : job.userId ≠ some u := by
  intro owner
  have zero := (inv.active u there).symm.trans none
  have each := (Finset.sum_eq_zero_iff_of_nonneg fun i _ => owns_nonneg s u i).1 zero i
    (Finset.mem_range.2 (inv.inside here))
  simp [owns_eq here, owner] at each

lemma quiet (inv : UserInv s) (quiet : Quiet s s') (users : s'.users = s.users) : UserInv s' where
  toPool := inv.toPool.quiet quiet
  owned i job' here := by
    obtain ⟨job, before, face⟩ := quiet.job_before here
    have owner : job'.userId = job.userId := congrArg (·.core.userId) face
    rw [owner, users]
    exact inv.owned i job before
  active u there := by
    rw [users] at there
    rw [show s'.active u = s.active u by simp only [Gwd.active, users], inv.active u there,
      quiet.conf]
    exact Finset.sum_congr rfl fun i _ => (counts_congr (quiet.jobs i) (quiet.moves i)).1.symm
  running u there := by
    rw [users] at there
    rw [show s'.running u = s.running u by simp only [Gwd.running, users], inv.running u there,
      quiet.conf]
    exact Finset.sum_congr rfl fun i _ => (counts_congr (quiet.jobs i) (quiet.moves i)).2.symm

/-- A user is freed when it has no job, and an idle user keeps its counters. -/
lemma checkUser (inv : UserInv s) (period : Int) (v : UserId) :
    UserInv (s.checkUser period v) := by
  unfold Gwd.checkUser
  cases here : s.users v with
  | none => exact inv
  | some user =>
    dsimp only
    by_cases idle : user.activeJobs = 0
    · have zero : s.active v = 0 := by simp [Gwd.active, here, idle]
      have other {i : JobId} {job : Job} (there : s.jobs i = some job) : job.userId ≠ some v :=
        inv.free (by simp [here]) zero there
      rw [if_pos idle]
      split
      · refine
        { toPool := inv.toPool.quiet (quiet_of_eq rfl rfl rfl (fun _ => rfl) rfl rfl rfl rfl rfl)
          owned := fun i job there => ?_
          active := fun u there => ?_
          running := fun u there => ?_ }
        · obtain ⟨u, owner, present⟩ := inv.owned i job there
          have ne : u ≠ v := by rintro rfl; exact other there owner
          exact ⟨u, owner, by simpa [ne] using present⟩
        all_goals
          have ne : u ≠ v := by rintro rfl; simp at there
          have before : (s.users u).isSome := by simpa [ne] using there
        · exact Eq.trans (by simp [Gwd.active, ne]) (inv.active u before)
        · exact Eq.trans (by simp [Gwd.running, ne]) (inv.running u before)
      · have present (u : UserId) :
            ((Function.update s.users v (some { user with idle := user.idle + period })) u).isSome =
              (s.users u).isSome := by
          by_cases same : u = v <;> simp_all
        refine
        { toPool := inv.toPool.quiet (quiet_of_eq rfl rfl rfl (fun _ => rfl) rfl rfl rfl rfl rfl)
          owned := fun i job there => ?_
          active := fun u there => ?_
          running := fun u there => ?_ }
        · obtain ⟨u, owner, before⟩ := inv.owned i job there
          exact ⟨u, owner, (present u).trans before⟩
        all_goals
          have before : (s.users u).isSome := (present u).symm.trans there
        · refine Eq.trans ?_ (inv.active u before)
          by_cases same : u = v <;> simp_all [Gwd.active]
        · refine Eq.trans ?_ (inv.running u before)
          by_cases same : u = v <;> simp_all [Gwd.running]
    · rw [if_neg idle]
      exact inv

/-- A user that is not in the pool owns no job. -/
lemma owns_absent (inv : UserInv s) (absent : s.users u = none) (i : JobId) :
    s.owns u i = 0 ∧ s.runs u i = 0 := by
  cases here : s.jobs i with
  | none => simp [owns, runs, here]
  | some job =>
    obtain ⟨v, owner, there⟩ := inv.owned i job here
    have ne : job.userId ≠ some u := by rintro mine; simp_all
    rw [owns_eq here, runs_eq here, if_neg ne, if_neg ne]
    exact ⟨rfl, rfl⟩

/-- A reply keeps the counters when it keeps them for its own job. -/
lemma reply (inv : UserInv s) {q : List DmItem} {job : Job} {r : Reply}
    (here : s.jobs j = some job)
    (others : ∀ i ≠ j, ({ s with dmQueue := q } : Gwd).moves i = s.moves i)
    (state : r.job.jobState ≠ .hold ∨ ∀ code, Call.depCheck code ∉ r.calls)
    (owner : r.job.userId = job.userId)
    (balance : ∀ u, (Gwd.reply w j r { s with dmQueue := q }).runs u j =
      s.runs u j + runningChange (runningCalls r.calls) u) :
    UserInv (Gwd.reply w j r { s with dmQueue := q }) := by
  have self := reply_self (w := w) (s := { s with dmQueue := q }) (j := j) state
  have other {i : JobId} (ne : i ≠ j) :
      Released (s.jobs i) ((Gwd.reply w j r { s with dmQueue := q }).jobs i) := reply_other ne
  have present (u : UserId) :
      ((Gwd.reply w j r { s with dmQueue := q }).users u).isSome = (s.users u).isSome :=
    reply_users_isSome ..
  have inside := Finset.mem_range.2 (inv.inside here)
  have same {i : JobId} (ne : i ≠ j) (u : UserId) :
      (Gwd.reply w j r { s with dmQueue := q }).owns u i = s.owns u i ∧
      (Gwd.reply w j r { s with dmQueue := q }).runs u i = s.runs u i := by
    have moves : (Gwd.reply w j r { s with dmQueue := q }).moves i = s.moves i :=
      (reply_moves_other w r _ ne).trans (others i ne)
    rcases other ne with eq | ⟨job₀, before, hold, eq⟩
    · exact ⟨by simp only [owns, eq], by simp only [runs, prologWaits, eq, moves]⟩
    · rw [owns_eq eq, owns_eq before, runs_eq eq, runs_eq before]
      simp [prologWaits, moves, hold, dispatched, resting]
  refine { toPool := inv.toPool.reply here others, owned := ?owned, active := ?active, running := ?running }
  case owned =>
    intro i job' after
    by_cases ne : i = j
    · subst ne
      obtain ⟨u, mine, there⟩ := inv.owned i job here
      rw [self] at after
      split at after
      · cases after
      · cases after
        exact ⟨u, owner.trans mine, (present u).trans there⟩
    · rcases other ne with eq | ⟨job₀, before, -, eq⟩
      · obtain ⟨u, mine, there⟩ := inv.owned i job' (eq.symm.trans after)
        exact ⟨u, mine, (present u).trans there⟩
      · rw [after] at eq
        cases eq
        obtain ⟨u, mine, there⟩ := inv.owned i job₀ before
        exact ⟨u, mine, (present u).trans there⟩
  case active =>
    intro u there
    rw [present u] at there
    rw [reply_active (s := { s with dmQueue := q }) there, (reply_frame ..).1, Tally.sum_change inside fun i _ ne => (same ne u).1,
      ← inv.active u there, owns_eq here]
    have mine : (Gwd.reply w j r { s with dmQueue := q }).owns u j =
        if .free ∈ r.calls then 0 else if job.userId = some u then 1 else 0 := by
      by_cases free : .free ∈ r.calls
      · simp [owns, self, free]
      · rw [if_neg free] at self ⊢
        rw [owns_eq self, owner]
    rw [mine, owner]
    have active : ({ s with dmQueue := q } : Gwd).active u = s.active u := rfl
    rw [active]
    by_cases free : .free ∈ r.calls <;> by_cases mine : job.userId = some u <;>
      simp [free, mine, Int.sub_eq_add_neg]
  case running =>
    intro u there
    rw [present u] at there
    rw [reply_running (s := { s with dmQueue := q }) there, (reply_frame ..).1,
      Tally.sum_change inside fun i _ ne => (same ne u).2, ← inv.running u there, balance u]
    simp [Gwd.running]

/-- A balanced action keeps the counters. -/
lemma act (inv : UserInv s) {a : DmAction} {rest : List DmItem} {job : Job} {w' : World}
    (queue : s.dmQueue = .job a j :: rest) (here : s.jobs j = some job)
    (balance : balanced a job.jobState (s.prologWaits j))
    (live : (Gwd.reply w j (Dm.handle a w' job) { s with dmQueue := rest }).crashed = false) :
    UserInv (Gwd.reply w j (Dm.handle a w' job) { s with dmQueue := rest }) := by
  obtain ⟨eff, mem, real⟩ := Dm.handle_effect (reply_live live).2
  have waited : s.prologWaits j =
      (a == .prolog || ({ s with dmQueue := rest } : Gwd).prologWaits j) := by
    unfold prologWaits
    rw [moves_of_queue queue]
    by_cases move : a.isTransition
    · simp [move, Bool.beq_eq_decide_eq, eq_comm]
    · have other : a ≠ .prolog := by rintro rfl; exact move rfl
      simp [move, other]
  obtain ⟨still, count⟩ := effects_balance a job.jobState (job.emState == .done) _ _ waited balance
    eff mem
  have owner : (Dm.handle a w' job).job.userId = job.userId :=
    congrArg Job.Core.userId (Dm.handle_core a w' job)
  have state : (Dm.handle a w' job).job.jobState ≠ .hold ∨
      ∀ code, Call.depCheck code ∉ (Dm.handle a w' job).calls := by
    by_cases ends : eff.next = .zombie
    · exact .inl (by rw [real.next, ends]; decide)
    · exact .inr fun code mem => ends (real.ends code mem)
  refine inv.reply here (fun i other => moves_taken_other queue other) state owner fun u => ?_
  have waits : (Gwd.reply w j (Dm.handle a w' job) { s with dmQueue := rest }).prologWaits j =
      ({ s with dmQueue := rest } : Gwd).prologWaits j := by
    have none : .prolog ∉ eff.queued.filter DmAction.isTransition :=
      fun mem => still (List.mem_filter.1 mem).1
    unfold prologWaits
    rw [reply_moves_self, real.queued]
    simp [none]
  rw [runs_eq here, real.closes]
  have self := reply_self (w := w) (s := { s with dmQueue := rest }) (j := j) state
  by_cases frees : eff.frees
  · rw [if_pos (real.frees.2 frees)] at self
    simp only [runs, self, frees, if_true] at count ⊢
    by_cases mine : job.userId = some u <;> cases closes : eff.closes <;>
      simp_all [Int.sub_eq_add_neg]
  · have stays : .free ∉ (Dm.handle a w' job).calls := fun mem => frees (real.frees.1 mem)
    rw [if_neg stays] at self
    rw [runs_eq self, waits, real.next, owner]
    by_cases mine : job.userId = some u <;> cases closes : eff.closes <;>
      simp_all [Int.sub_eq_add_neg]

/-- A dispatch counts a pending job as running, when its prolog does not wait already. -/
lemma dispatch (inv : UserInv s) {hid : HostId} {host : Host} {rank : Int} {queue : String}
    {job : Job} {w' : World} (here : s.jobs j = some job)
    (single : Dm.dispatches w' job → w'.historyFile → job.jobState = .pending →
      s.prologWaits j = false)
    (live : (Gwd.reply w j (Dm.dispatchJob hid host rank queue w' job) s).crashed = false) :
    UserInv (Gwd.reply w j (Dm.dispatchJob hid host rank queue w' job) s) := by
  rcases Dm.dispatchJob_cases hid host rank queue w' job with
    ⟨neutral, -⟩ | ⟨made, ⟨-, eq⟩ | ⟨file, st, eq⟩ | ⟨-, st, eq⟩⟩
  · exact inv.quiet (quiet_reply here neutral (by simp) live) (neutral_users neutral)
  · rw [eq]
    refine inv.reply (q := s.dmQueue) here (fun _ _ => rfl) (.inr (by simp)) rfl fun u => ?_
    rw [runs_eq here, runs_eq (reply_write (by simp) (by simp))]
    simp [prologWaits, reply_moves_self, Dm.linked]
  · rw [eq]
    refine inv.reply (q := s.dmQueue) here (fun _ _ => rfl) (.inr (by simp)) rfl fun u => ?_
    rw [runs_eq here, runs_eq (reply_write (by simp) (by simp)), single made file st, st]
    simp [prologWaits, reply_moves_self, Dm.linked, DmAction.isTransition, dispatched, resting]
  · rw [eq]
    refine inv.reply (q := s.dmQueue) here (fun _ _ => rfl) (.inr (by simp)) rfl fun u => ?_
    rw [runs_eq here, runs_eq (reply_write (by simp) (by simp)), st]
    have out (prolog : Bool) : dispatched .wrapper prolog = true := rfl
    simp [Dm.linked, out, st]

/-- A reloaded transfer driver queues transitions of dispatched jobs only. -/
lemma reload (inv : UserInv s) {job : Job} {w' : World} (here : s.jobs j = some job)
    (live : (Gwd.reply w j (Tm.recover w' job) s).crashed = false) :
    UserInv (Gwd.reply w j (Tm.recover w' job) s) := by
  rcases recover_cases w' job with eq | ⟨a, again, -, -, -, eq⟩
  · rw [eq] at live ⊢
    have neutral : Neutral [] job ⟨{ job with tmState := .init }, []⟩ := ⟨rfl, rfl, rfl, rfl⟩
    exact inv.quiet (quiet_reply here neutral (by simp) live) (neutral_users neutral)
  · rw [eq]
    have out : resting job.jobState = false := by
      revert again
      cases job.jobState <;> decide
    refine inv.reply (q := s.dmQueue) here (fun _ _ => rfl) (.inr (by simp)) rfl fun u => ?_
    rw [runs_eq here, runs_eq (reply_write (by simp) (by simp))]
    simp [dispatched, out]

/-- A submission that adds nothing. -/
lemma still (inv : UserInv s) (grown : Grown [] s s') (users : s'.users = s.users) :
    UserInv s' := by
  have same (u : UserId) (i : JobId) : s'.owns u i = s.owns u i ∧ s'.runs u i = s.runs u i :=
    counts_congr (by rw [grown.old i List.not_mem_nil]) fun _ => by
      simp only [Gwd.moves, grown.dmQueue]
  refine { toPool := inv.toPool.grown grown, owned := ?owned, active := ?active, running := ?running }
  case owned =>
    intro i job here
    rw [users]
    exact inv.owned i job ((grown.old i List.not_mem_nil).symm.trans here)
  all_goals
    intro u there
    rw [users] at there
    rw [grown.conf]
  case active =>
    rw [Finset.sum_congr rfl fun i _ => (same u i).1, ← inv.active u there]
    simp only [Gwd.active, users]
  case running =>
    rw [Finset.sum_congr rfl fun i _ => (same u i).2, ← inv.running u there]
    simp only [Gwd.running, users]

/-- New jobs count as active for their user, and not as running. -/
lemma grown (inv : UserInv s) {js : List JobId} (grown : Grown js s s') {v : UserId}
    (owned : Owned v js s') (charged : Charged v js.length s s') : UserInv s' := by
  have old {i : JobId} (out : i ∉ js) (u : UserId) :
      s'.owns u i = s.owns u i ∧ s'.runs u i = s.runs u i := by
    have moves : s'.moves i = s.moves i := by simp only [Gwd.moves, grown.dmQueue]
    exact counts_congr (by rw [grown.old i out]) fun _ => moves
  have new {i : JobId} (mem : i ∈ js) (u : UserId) :
      s'.owns u i = (if u = v then 1 else 0) ∧ s'.runs u i = 0 ∧
        s.owns u i = 0 ∧ s.runs u i = 0 := by
    obtain ⟨job, here, mine⟩ := owned i mem
    obtain ⟨job', here', fresh⟩ := grown.new i mem
    rw [here] at here'
    cases here'
    have above := (grown.fresh i mem).1
    have gone := inv.fresh i above
    have still : s'.prologWaits i = false := by
      unfold prologWaits
      rw [show s'.moves i = s.moves i by simp only [Gwd.moves, grown.dmQueue], inv.idle i above]
      rfl
    rw [owns_eq here, runs_eq here, mine, still]
    simp [owns, runs, gone, dispatched, fresh.resting, eq_comm]
  have count : (js.length : Int) =
      ∑ i ∈ Finset.range s.conf.numberOfJobs, if i ∈ js.toFinset then 1 else 0 := by
    have sub : js.toFinset ⊆ Finset.range s.conf.numberOfJobs := fun i mem =>
      Finset.mem_range.2 (grown.fresh i (List.mem_toFinset.1 mem)).2.2
    rw [Finset.sum_boole, Finset.filter_mem_eq_inter, Finset.inter_eq_right.2 sub,
      List.toFinset_card_of_nodup grown.nodup]
  have known {u : UserId} (ne : u ≠ v) : s'.users u = s.users u := charged.others u ne
  refine { toPool := inv.toPool.grown grown, owned := ?owned, active := ?active, running := ?running }
  case owned =>
    intro i job here
    by_cases mem : i ∈ js
    · obtain ⟨job', here', mine⟩ := owned i mem
      rw [here] at here'
      cases here'
      exact ⟨v, mine, charged.present⟩
    · obtain ⟨u, mine, there⟩ := inv.owned i job ((grown.old i mem).symm.trans here)
      by_cases same : u = v
      · exact ⟨v, same ▸ mine, charged.present⟩
      · exact ⟨u, mine, (known same).symm ▸ there⟩
  case active =>
    intro u _
    have before : s.active u = ∑ i ∈ Finset.range s.conf.numberOfJobs, s.owns u i := by
      cases there : s.users u with
      | none => simp [Gwd.active, there, (inv.owns_absent there _).1]
      | some user => exact inv.active u (by rw [there]; rfl)
    have each (i : JobId) : s'.owns u i =
        s.owns u i + if u = v then (if i ∈ js.toFinset then 1 else 0) else 0 := by
      by_cases mem : i ∈ js
      · simp [(new mem u).1, (new mem u).2.2.1, mem]
      · simp [(old mem u).1, mem]
    rw [charged.active u, before, grown.conf, Finset.sum_congr rfl fun i _ => each i,
      Finset.sum_add_distrib]
    by_cases same : u = v
    · simp only [same, if_true, count]
    · simp [same]
  case running =>
    intro u _
    have before : s.running u = ∑ i ∈ Finset.range s.conf.numberOfJobs, s.runs u i := by
      cases there : s.users u with
      | none => simp [Gwd.running, there, (inv.owns_absent there _).2]
      | some user => exact inv.running u (by rw [there]; rfl)
    rw [charged.running u, before, grown.conf]
    refine Finset.sum_congr rfl fun i _ => ?_
    by_cases mem : i ∈ js
    · rw [(new mem u).2.1, (new mem u).2.2.2]
    · rw [(old mem u).2]

end UserInv

/-- Every balanced event keeps the counters. -/
lemma userInv_step {e : Event} (inv : UserInv s) (balance : s.balancedStep e = true)
    (live : (s.step e).crashed = false) : UserInv (s.step e) := by
  have alive := step_alive live
  rcases step_cases alive live with ⟨quiet, users | ⟨u, period, rfl⟩⟩ |
    ⟨wS, a, j, rest, job, rfl, queue, here, eq⟩ | ⟨wS, msg, rest, rfl, queue, eq⟩ |
    ⟨j, hid, queue, rank, w, host, job, rfl, there, here, eq⟩ | ⟨j, w, job, rfl, here, eq⟩
  · exact inv.quiet quiet users
  · simp only [step, alive]
    exact inv.checkUser period u
  · simp only [balancedStep, queue, here, Option.all_some] at balance
    rw [eq] at live ⊢
    exact inv.act queue here balance live
  · simp only [balancedStep, queue] at balance
    rw [eq] at live ⊢
    have popped := inv.quiet (quiet_taken queue) rfl
    obtain ⟨js, grown, ⟨rfl, users⟩ | ⟨rfl, news, full⟩ | ⟨u, owned, charged⟩⟩ :=
      allocate_spec live
    · exact popped.still grown users
    · have full' : s.submitFits wS msg = false := by
        refine Eq.trans ?_ full
        exact submitFits_congr wS msg rfl rfl rfl rfl rfl rfl
      have news' : s.registers wS msg = true := news
      simp [news', full'] at balance
    · exact popped.grown grown owned charged
  · simp only [balancedStep, here, Option.all_some] at balance
    rw [eq] at live ⊢
    refine inv.dispatch here (fun made file st => ?_) live
    have made' : Dm.dispatches w job = true := made
    have file' : w.historyFile = true := file
    simpa [made', file', st] using balance
  · rw [eq] at live ⊢
    exact inv.reload here live

section Restart

/-- A daemon without jobs and users, over the job directories `dirs`. -/
structure Blank (dirs : JobId → Option JobDir) (s : Gwd) : Prop where
  jobs : ∀ i, s.jobs i = none
  users : ∀ u, s.users u = none
  dmQueue : s.dmQueue = []
  dirs : s.dirs = dirs

lemma Blank.inv {dirs : JobId → Option JobDir} (blank : Blank dirs s) : UserInv s where
  fresh i _ := blank.jobs i
  bound i _ := blank.jobs i
  idle i _ := by simp [Gwd.moves, blank.dmQueue]
  owned i job here := by simp [blank.jobs i] at here
  active u there := by simp [blank.users u] at there
  running u there := by simp [blank.users u] at there

lemma userAllocate_fails (wS : SubmitWorld) (name proxyPath : String)
    (unable : wS.userInit = false) :
    ∃ crashed, s.userAllocate wS name proxyPath = ({ s with crashed }, none) := by
  unfold userAllocate
  dsimp only
  rw [unable]
  repeat' split
  · exact ⟨s.crashed, rfl⟩
  · exact ⟨true, rfl⟩
  · contradiction
  · exact ⟨s.crashed, rfl⟩

/-- A recovery that fails before the owner is known leaves nothing. -/
lemma jobRecover_registersNone {wR : RecoverWorld} {dir : JobDir} (job : Job)
    (blank : ∀ u, s.users u = none)
    (fails : !wR.userInit || !wR.template job.id || dir.conf.isNone) :
    ∃ job' crashed, s.jobRecover wR dir job = some ({ s with crashed }, job', false) ∧
      job'.userId = job.userId := by
  unfold jobRecover
  by_cases template : wR.template job.id
  · rw [if_pos template]
    rcases conf : dir.conf with _ | conf'
    · exact ⟨_, s.crashed, rfl, rfl⟩
    · have unable : wR.userInit = false := by simpa [template, conf] using fails
      have unknown : s.userExists conf'.owner conf'.proxyPath = none := by
        simp [userExists, blank]
      obtain ⟨crashed, eq⟩ := userAllocate_fails (s := s)
        { world := wR.world, userInit := wR.userInit } conf'.owner conf'.proxyPath unable
      simp only [recoverUser, unknown, eq]
      exact ⟨_, crashed, rfl, rfl⟩
  · rw [if_neg template]
    exact ⟨_, s.crashed, rfl, rfl⟩

/-- A directory that cannot be read up to its owner leaves no job. -/
lemma Blank.recoverDir {wR : RecoverWorld} {dirs : JobId → Option JobDir} (blank : Blank dirs s)
    (fails : !wR.userInit || !wR.template j || (dirs j).all fun dir => dir.conf.isNone) :
    Blank dirs (recoverDir wR s j) := by
  unfold Gwd.recoverDir
  split
  · exact blank
  · rw [show s.dirs j = dirs j by rw [blank.dirs]]
    cases here : dirs j with
    | none => exact blank
    | some dir =>
      dsimp only
      split
      · exact blank
      · obtain ⟨job', crashed, eq, owner⟩ := jobRecover_registersNone
          (s := { s with
            jobs := Function.update s.jobs j (some (jobInit wR.world j))
            jobCount := s.jobCount + 1
            nextJobId := s.nextJobId + 1 })
          (jobInit wR.world j) blank.users
          (by simpa [here, jobInit] using fails)
        rw [eq]
        have nobody : job'.userId = none := owner
        refine ⟨fun i => ?_, fun u => ?_, ?_, ?_⟩
        · by_cases same : i = j <;> simp [same, blank.jobs]
        · simp [jobPoolFree, decJobs, userOp, nobody, blank.users]
        · simp [blank.dmQueue]
        · simp [blank.dirs]

/-- A recovery that registers no user starts with nothing. -/
lemma blank_restart {wR : RecoverWorld} (none : s.registersNone wR = true) :
    Blank s.dirs (s.restart wR) := by
  have start : Blank s.dirs { Gwd.start s.conf with dirs := s.dirs } :=
    ⟨fun _ => rfl, fun _ => rfl, rfl, rfl⟩
  have read (js : List JobId) (s₁ : Gwd) (blank : Blank s.dirs s₁)
      (fails : ∀ j ∈ js, !wR.userInit || !wR.template j ||
        (s.dirs j).all fun dir => dir.conf.isNone) :
      Blank s.dirs (js.foldl (recoverDir wR) s₁) := by
    induction js generalizing s₁ with
    | nil => exact blank
    | cons j js ih =>
      exact ih _ (blank.recoverDir (fails j List.mem_cons_self)) fun i mem =>
        fails i (List.mem_cons_of_mem _ mem)
  have all := read wR.order _ start fun j mem => by
    simp only [registersNone, Bool.or_eq_true, List.all_eq_true] at none
    rcases none with unable | each
    · simp [unable]
    · have fails := each j mem
      simp only [Bool.or_eq_true] at fails ⊢
      exact fails.elim (fun h => .inl (.inr h)) .inr
  unfold restart recoverState
  dsimp only
  split
  · exact all
  · have rest (is : List JobId) (s₁ : Gwd) (blank : Blank s.dirs s₁) :
        is.foldl (depConsistencyOne wR.world) s₁ = s₁ := by
      induction is with
      | nil => rfl
      | cons i is ih =>
        have one : depConsistencyOne wR.world s₁ i = s₁ := by
          unfold depConsistencyOne
          rw [blank.jobs i]
          cases s₁.deps i <;> rfl
        rw [List.foldl_cons, one, ih]
    unfold depConsistency
    rw [rest _ _ all]
    exact all

end Restart

/-- Every balanced event or restart keeps the counters. -/
lemma userInv_life {e : Life} (inv : s.crashed = false → UserInv s)
    (balance : s.balancedLife e = true) (live : (s.life e).crashed = false) :
    UserInv (s.life e) := by
  cases e with
  | event e => exact userInv_step (inv (step_alive live)) balance live
  | restart w => exact (blank_restart balance).inv

/-- The counters of every user are those of its jobs, and the user is freed without jobs only. -/
structure UsersExact (s : Gwd) : Prop where
  active : ∀ u user, s.users u = some user →
    user.activeJobs = ∑ i ∈ Finset.range s.conf.numberOfJobs, s.owns u i
  running : ∀ u user, s.users u = some user →
    user.runningJobs = ∑ i ∈ Finset.range s.conf.numberOfJobs, s.runs u i
  nonneg : ∀ u user, s.users u = some user → 0 ≤ user.activeJobs ∧ 0 ≤ user.runningJobs
  freed : ∀ u period, (s.users u).isSome → (s.checkUser period u).users u = none →
    ∀ i job, s.jobs i = some job → job.userId ≠ some u

/-- A user that is freed has no active jobs. -/
lemma active_of_freed {period : Int} (there : (s.users u).isSome)
    (freed : (s.checkUser period u).users u = none) : s.active u = 0 := by
  obtain ⟨user, here⟩ := Option.isSome_iff_exists.1 there
  by_contra busy
  have jobs : user.activeJobs ≠ 0 := by simpa [active, here] using busy
  simp [checkUser, here, jobs] at freed

lemma UserInv.exact (inv : UserInv s) : UsersExact s := by
  have active {u : UserId} {user : User} (here : s.users u = some user) :
      user.activeJobs = ∑ i ∈ Finset.range s.conf.numberOfJobs, s.owns u i := by
    rw [← inv.active u (by rw [here]; rfl)]
    simp [Gwd.active, here]
  have running {u : UserId} {user : User} (here : s.users u = some user) :
      user.runningJobs = ∑ i ∈ Finset.range s.conf.numberOfJobs, s.runs u i := by
    rw [← inv.running u (by rw [here]; rfl)]
    simp [Gwd.running, here]
  refine ⟨fun u user => active, fun u user => running, fun u user here => ⟨?_, ?_⟩,
    fun u period there freed i job here => inv.free there (active_of_freed there freed) here⟩
  · rw [active here]
    exact Finset.sum_nonneg fun i _ => owns_nonneg s u i
  · rw [running here]
    exact Finset.sum_nonneg fun i _ => runs_nonneg s u i

/-- The counters of the users are exact in every run of balanced events and restarts. -/
theorem users_exact (conf : Conf) (es : List Life)
    (balance : Machine.Guarded life (fun s e => s.balancedLife e = true) (Gwd.start conf) es)
    (live : (Machine.run life (Gwd.start conf) es).crashed = false) :
    UsersExact (Machine.run life (Gwd.start conf) es) := by
  have start : Blank (fun _ => none) (Gwd.start conf) := ⟨fun _ => rfl, fun _ => rfl, rfl, rfl⟩
  have inv := Machine.run_induction (fun s => s.crashed = false → UserInv s)
    (fun _ _ inv balance live => userInv_life inv balance live) (fun _ => start.inv) balance live
  exact inv.exact

/-- A host and a job, for runs on fixed inputs. -/
def submitLife : List Life :=
  [.event (.hostAllocate 0 { hostname := "host", emMad := "em", tmMad := "tm", imMad := "im" }),
    .event (.submit { owner := "user", template := { executable := some "exe" } }),
    .event (.dm {})]

/-- A job is dispatched and its prolog fails. -/
theorem users_exact_prologFailed :
    UsersExact (Machine.run life (Gwd.start ⟨4, 4, 4, 4⟩) (submitLife ++
      [.event (.scheduleJob 0 0 "default" 0 {}), .event (.dm {}),
        .event (.tmMsg 0 { verb := .start, failure := true } {}), .event (.dm {}), .event (.dm {})])) := by
  apply users_exact
  · decide
  · decide

/-- A count that is not the number of jobs. -/
lemma not_exact {n : Int} (count : (s.users u).map (·.activeJobs) = some n)
    (jobs : ∑ i ∈ Finset.range s.conf.numberOfJobs, s.owns u i ≠ n) : ¬ UsersExact s := by
  intro exact
  obtain ⟨user, here, active⟩ := Option.map_eq_some_iff.1 count
  exact jobs ((exact.active u user here).symm.trans active)

/-- The user of a recovered job is registered with one active job, and the job is counted again. -/
theorem users_miscounted : ¬ ∀ (conf : Conf) (es : List Life),
    (Machine.run life (Gwd.start conf) es).crashed = false →
      UsersExact (Machine.run life (Gwd.start conf) es) := by
  intro exact
  refine not_exact (u := 0) (n := 2) ?_ ?_
    (exact ⟨4, 4, 4, 4⟩ (submitLife ++ [.restart { order := [0] }]) ?_)
  all_goals decide

end Gwd

end GridWay
