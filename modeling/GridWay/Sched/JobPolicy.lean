import GridWay.Sched.HostPolicy
import Mathlib.Algebra.Order.BigOperators.Group.List

/-!
# The policies of the jobs

`gw_scheduler_job_policies`: the jobs are sorted by the weighted sum of a fixed, a waiting and a
deadline term. Then the share policy deals ranks to the jobs of every user, in that order, and they
are sorted again with the share term added. Floating point numbers are read as the rationals they
stand for, and `exp` is any function with positive values.

* `Scheduler.loadConf`: the assignments of `sched.conf`.
* `Scheduler.schedulerJobPolicies`: the two sorts.
* `Scheduler.jobPolicies_fair_iff`: the configurations that share as they should.
-/

namespace GridWay

namespace Scheduler

/-- The job policies in the configuration (`gw_sch_conf_t`). -/
structure PolicyConf where
  wfixed : ℚ := 1
  wwaiting : ℚ := 0
  wdeadline : ℚ := 1
  wshare : ℚ := 1
  dlHalf : Int
  windowDepth : Int := 5
  ushareDefault : Int := 5
  ushare : List (String × Int) := []
deriving DecidableEq

/-- The variables of `sched.conf` that the job policies read. -/
inductive SchVar where
  | fpWeight | wtWeight | dlWeight | dlHalf | shWeight | shWindowDepth | shUser
deriving DecidableEq, Repr

/-- An assignment of `sched.conf`. -/
inductive Assign where
  | var (name : SchVar) (val : ℚ)
  | svar (name : SchVar) (str : String) (val : Int)
deriving DecidableEq

/-- The conversion of C to `int`. -/
def trunc (x : ℚ) : Int := x.num.tdiv x.den

/-- `gw_sch_set_var`. -/
def setVar (name : SchVar) (val : ℚ) (conf : PolicyConf) : PolicyConf :=
  match name with
  | .fpWeight => { conf with wfixed := val }
  | .wtWeight => { conf with wwaiting := val }
  | .dlWeight => { conf with wdeadline := val }
  | .dlHalf => { conf with dlHalf := trunc val }
  | .shWeight => { conf with wshare := val }
  | .shWindowDepth => { conf with windowDepth := if val > 10 then 10 else trunc val }
  | .shUser => conf

/-- `gw_sch_set_user_share`. -/
def setUserShare (user : String) (share : Int) (conf : PolicyConf) : PolicyConf :=
  if user = "DEFAULT" then { conf with ushareDefault := share }
  else
    match conf.ushare.findIdx? (·.1 == user) with
    | some i => { conf with ushare := conf.ushare.modify i fun e => (e.1, share) }
    | none => { conf with ushare := conf.ushare ++ [(user, share)] }

/-- `gw_sch_set_svar`. -/
def setSvar (name : SchVar) (str : String) (val : Int) (conf : PolicyConf) : PolicyConf :=
  match name with
  | .shUser => setUserShare str val conf
  | _ => conf

/-- `gw_sch_loadconf` after `gw_sch_conf_init`, which leaves `dl_half` as it is. -/
def loadConf (dlHalf : Int) (file : List Assign) : PolicyConf :=
  file.foldl (fun conf assign =>
    match assign with
    | .var name val => setVar name val conf
    | .svar name str val => setSvar name str val conf) { dlHalf }

/-- `gw_sch_get_user_share`. -/
def getUserShare (conf : PolicyConf) (user : String) : Int :=
  ((conf.ushare.find? (·.1 == user)).map (·.2)).getD conf.ushareDefault

/-- The exponential function of the C library. -/
structure Expo where
  exp : ℚ → ℚ
  pos : ∀ x, 0 < exp x

/-- A job with its terms. -/
structure RatedJob extends SchJob where
  priority : ℚ := 0
  nfixed : ℚ := 0
  waiting : Int := 0
  nwaiting : ℚ := 0
  deadline : Int := 0
  ndeadline : ℚ := 0
  share : Int := 0
  nshare : ℚ := 0
deriving DecidableEq

/-- The share of a user and the rank of its next job. -/
structure ShareUser where
  share : Int
  nextUjid : Int
deriving DecidableEq, Repr

/-- `job_cmp`. -/
def jobCmp (j1 j2 : RatedJob) : Int :=
  if j1.fixed = 20 ∧ j2.fixed ≠ 20 then -1
  else if j2.fixed = 20 ∧ j1.fixed ≠ 20 then 1
  else if j2.fixed = 20 ∧ j1.fixed = 20 then 0
  else if j1.priority < j2.priority then 1
  else if j1.priority > j2.priority then -1
  else 0

/-- `gw_scheduler_user_past_jobs`; `none` when it reads behind the windows of the user. -/
def userPastJobs (e : Expo) (user : SchUser) (depth : Int) : Option Int :=
  ((List.range depth.toNat).mapM fun (i : Nat) =>
    (user.subWindows[i]?).map fun n => trunc (n * e.exp (-(i / (7 / 2) : ℚ)))).map List.sum

/-- One round of the first loop; `none` when the deadline is divided by zero. -/
def stampJob (e : Expo) (conf : PolicyConf) (now : Time) (job : RatedJob) : Option RatedJob := do
  let cHalf : ℚ := -(3 / 2) * conf.dlHalf * 86400
  let deadline ←
    if job.deadlineTime ≠ 0 then
      let dt := job.deadlineTime - now
      if dt ≤ 0 then some 100
      else (quotient dt cHalf).map fun x => trunc (100 * e.exp x)
    else some 0
  return { job with waiting := now - job.scheduleTime, deadline }

/-- A term, normalised by the largest one. -/
def term (val max : Int) : ℚ := if max = 0 then 0 else val / max

/-- The largest value of a field, from `0` on. -/
def largest (field : RatedJob → Int) (jobs : List RatedJob) : Int :=
  jobs.foldl (fun max job => if field job > max then field job else max) 0

/-- One round of the second loop. -/
def weighJob (conf : PolicyConf) (maxFixed maxWaiting maxDeadline : Int) (job : RatedJob) :
    RatedJob :=
  let nfixed := term job.fixed maxFixed
  let nwaiting := term job.waiting maxWaiting
  let ndeadline := term job.deadline maxDeadline
  { job with
    nfixed, nwaiting, ndeadline
    priority := conf.wfixed * nfixed + conf.wwaiting * nwaiting + conf.wdeadline * ndeadline }

/-- One round of the loop over the users: its share and first rank, and the quotient of its last
rank; `none` when the share is zero. -/
def shareUser (e : Expo) (conf : PolicyConf) (user : SchUser) : Option (ShareUser × Int) := do
  let share := getUserShare conf user.name
  let past ← userPastJobs e user conf.windowDepth
  if share = 0 then none
  else return ({ share, nextUjid := past }, (user.totalJobs + past - 1).tdiv share)

/-- The largest quotient, at least `1`. -/
def maxShare (quots : List Int) : Int :=
  let max := quots.foldl (fun max quot => if quot > max then quot else max) 0
  if max = 0 then 1 else max

/-- One round of the last loop, for the rank that the job is dealt. -/
def shareJob (conf : PolicyConf) (max : Int) (user : ShareUser) (job : RatedJob) : RatedJob :=
  let share := max - user.nextUjid.tdiv user.share
  let nshare : ℚ := share / max
  { job with share, nshare, priority := job.priority + conf.wshare * nshare }

/-- The last loop. -/
def dealShares (conf : PolicyConf) (max : Int) :
    List ShareUser → List RatedJob → Option (List RatedJob)
  | _, [] => some []
  | users, job :: jobs =>
    match users[job.uaId]? with
    | none => none
    | some user =>
      if user.share = 0 then none
      else
        (dealShares conf max
          (users.modify job.uaId fun u => { u with nextUjid := u.nextUjid + 1 }) jobs).map
          (shareJob conf max user job :: ·)

/-- `gw_scheduler_job_policies`. -/
def schedulerJobPolicies (e : Expo) (sort : Qsort jobCmp) (conf : PolicyConf) (now : Time)
    (users : List SchUser) (jobs : List RatedJob) : Option (List RatedJob) := do
  let stamped ← jobs.mapM (stampJob e conf now)
  let weighed := stamped.map (weighJob conf (largest (·.fixed) stamped)
    (largest (·.waiting) stamped) (largest (·.deadline) stamped))
  let sorted := sort.sort weighed
  if conf.wshare > 0 then
    let shares ← users.mapM (shareUser e conf)
    let dealt ← dealShares conf (maxShare (shares.map (·.2))) (shares.map (·.1)) sorted
    return sort.sort dealt
  else return sorted

/-- The weighted sum of the first three terms. -/
def weightedSum (conf : PolicyConf) (job : RatedJob) : ℚ :=
  conf.wfixed * job.nfixed + conf.wwaiting * job.nwaiting + conf.wdeadline * job.ndeadline

/-- Of two jobs of a user that are not urgent the first one has no lower sum. -/
def InOrder (conf : PolicyConf) (a b : RatedJob) : Prop :=
  a.uaId = b.uaId → a.fixed ≠ 20 → b.fixed ≠ 20 → weightedSum conf b ≤ weightedSum conf a

/-- What the policies should leave. -/
structure Fair (conf : PolicyConf) (jobs out : List RatedJob) : Prop where
  perm : (out.map (·.toSchJob)).Perm (jobs.map (·.toSchJob))
  /-- The urgent jobs come first. -/
  urgent : out.Pairwise fun a b => b.fixed = 20 → a.fixed = 20
  unit : ∀ job ∈ out, 0 ≤ job.nshare ∧ job.nshare ≤ 1
  order : out.Pairwise (InOrder conf)

/-- The jobs that a user dispatched within its windows. -/
def windowSum (e : Expo) (conf : PolicyConf) (user : SchUser) : Int :=
  ((List.range conf.windowDepth.toNat).map fun (i : Nat) =>
    trunc (((user.subWindows[i]?).getD 0 : Int) * e.exp (-(i / (7 / 2) : ℚ)))).sum

/-- The ranks of a user are shared as they should be: by a positive share, or by a negative one that
none of the ranks reaches. -/
def SharesWell (e : Expo) (conf : PolicyConf) (user : SchUser) : Prop :=
  0 < getUserShare conf user.name ∨ getUserShare conf user.name < 0 ∧
    (user.totalJobs = 0 ∨ user.totalJobs + windowSum e conf user ≤ -getUserShare conf user.name)

/-- The configuration is good for the users and the jobs. -/
structure Shared (e : Expo) (conf : PolicyConf) (now : Time) (users : List SchUser)
    (jobs : List RatedJob) : Prop where
  /-- No job waits for a deadline where the half-life is zero. -/
  half : ∀ job ∈ jobs, job.deadlineTime ≠ 0 → now < job.deadlineTime → conf.dlHalf ≠ 0
  shares : 0 < conf.wshare → ∀ user ∈ users, SharesWell e conf user
  /-- A share term that is not computed is what it was. -/
  idle : conf.wshare ≤ 0 → ∀ job ∈ jobs, 0 ≤ job.nshare ∧ job.nshare ≤ 1

/-- The windows of a user are as many as the configuration has, and count jobs. -/
def Windows (conf : PolicyConf) (user : SchUser) : Prop :=
  user.subWindows.length = conf.windowDepth.toNat ∧ ∀ n ∈ user.subWindows, 0 ≤ n

/-- A fair list is in one of the orders that the scheduler takes for the policies. -/
lemma Fair.permuted {conf : PolicyConf} {jobs out : List RatedJob} (fair : Fair conf jobs out) :
    ∃ order, permute order (jobs.map (·.toSchJob)) = out.map (·.toSchJob) :=
  permute_of_perm fair.perm

variable {e : Expo} {conf : PolicyConf} {now : Time} {user : SchUser} {users : List SchUser}
variable {jobs out : List RatedJob} {a b job : RatedJob}

lemma jobCmp_le (a b : RatedJob) :
    jobCmp a b ≤ 0 ↔ a.fixed = 20 ∨ b.fixed ≠ 20 ∧ b.priority ≤ a.priority := by
  rw [jobCmp]
  by_cases ua : a.fixed = 20
  · by_cases ub : b.fixed = 20 <;> simp [ua, ub]
  · by_cases ub : b.fixed = 20
    · simp [ua, ub]
    · obtain less | equal | more := lt_trichotomy a.priority b.priority
      · simp [ua, ub, less]
      · simp [ua, ub, equal]
      · simp [ua, ub, more, more.not_gt, more.le]

/-- A sort of the jobs. -/
def jobSort : Qsort jobCmp :=
  .merge
    (fun a b c first second => by
      rw [jobCmp_le] at *
      obtain urgent | ⟨plain, le⟩ := first
      · exact .inl urgent
      · obtain urgent | ⟨plain', le'⟩ := second
        · exact absurd urgent plain
        · exact .inr ⟨plain', le'.trans le⟩)
    (fun a b => by
      rw [jobCmp_le, jobCmp_le]
      by_cases ua : a.fixed = 20
      · exact .inl (.inl ua)
      · by_cases ub : b.fixed = 20
        · exact .inr (.inl ub)
        · exact (le_total b.priority a.priority).imp (fun le => .inr ⟨ub, le⟩)
            fun le => .inr ⟨ua, le⟩)

lemma trunc_nonneg {x : ℚ} (low : 0 ≤ x) : 0 ≤ trunc x :=
  Int.tdiv_nonneg (Rat.num_nonneg.2 low) (Int.natCast_nonneg _)

lemma windowSum_nonneg (e : Expo) (windows : Windows conf user) : 0 ≤ windowSum e conf user := by
  apply List.sum_nonneg
  intro x mem
  obtain ⟨i, -, rfl⟩ := List.mem_map.1 mem
  apply trunc_nonneg
  apply mul_nonneg _ (e.pos _).le
  cases entry : user.subWindows[i]? with
  | none => simp
  | some n => simpa using windows.2 n (List.mem_of_getElem? entry)

lemma userPastJobs_eq (windows : Windows conf user) :
    userPastJobs e user conf.windowDepth = some (windowSum e conf user) := by
  rw [userPastJobs, windowSum, mapM_some (g := fun (i : Nat) =>
    trunc (((user.subWindows[i]?).getD 0 : Int) * e.exp (-(i / (7 / 2) : ℚ))))]
  · rfl
  · intro i mem
    have within : i < user.subWindows.length := windows.1 ▸ List.mem_range.1 mem
    simp [List.getElem?_eq_getElem within]

/-- A job after the first loop, when no deadline is in the way. -/
def stamped (e : Expo) (conf : PolicyConf) (now : Time) (job : RatedJob) : RatedJob :=
  let dt := job.deadlineTime - now
  { job with
    waiting := now - job.scheduleTime
    deadline :=
      if job.deadlineTime = 0 then 0
      else if dt ≤ 0 then 100
      else trunc (100 * e.exp (dt / (-(3 / 2) * conf.dlHalf * 86400))) }

/-- The only quotient of the first loop that may be by zero is that of a deadline to come. -/
lemma stampJob_eq : stampJob e conf now job =
    if (job.deadlineTime ≠ 0 ∧ now < job.deadlineTime) ∧ conf.dlHalf = 0 then none
    else some (stamped e conf now job) := by
  rw [stampJob, stamped]
  by_cases free : job.deadlineTime = 0
  · simp [free]
  · by_cases missed : job.deadlineTime - now ≤ 0
    · have missed' : ¬ now < job.deadlineTime := by
        unfold Time at *
        omega
      simp [free, missed, missed']
    · have ahead : now < job.deadlineTime := by
        unfold Time at *
        omega
      by_cases none : conf.dlHalf = 0
      · simp [free, missed, ahead, none, quotient]
      · simp [free, missed, ahead, none, quotient]

/-- What the first two loops keep of a job. -/
def RatedJob.kept (job : RatedJob) : SchJob × ℚ := (job.toSchJob, job.nshare)

/-- What the last loop keeps of a job. -/
def RatedJob.rated (job : RatedJob) : RatedJob :=
  { job with priority := 0, share := 0, nshare := 0 }

/-- The first two loops weigh every job, unless they divide by zero. -/
lemma weigh_all
    (half : ∀ job ∈ jobs, job.deadlineTime ≠ 0 → now < job.deadlineTime → conf.dlHalf ≠ 0) :
    jobs.mapM (stampJob e conf now) = some (jobs.map (stamped e conf now)) := by
  apply mapM_some
  intro job mem
  rw [stampJob_eq, if_neg]
  rintro ⟨⟨set, ahead⟩, zero⟩
  exact half job mem set ahead zero

/-- The jobs before the first sort. -/
def weighed (e : Expo) (conf : PolicyConf) (now : Time) (jobs : List RatedJob) : List RatedJob :=
  let js := jobs.map (stamped e conf now)
  js.map (weighJob conf (largest (·.fixed) js) (largest (·.waiting) js) (largest (·.deadline) js))

lemma weighed_kept (e : Expo) (conf : PolicyConf) (now : Time) (jobs : List RatedJob) :
    (weighed e conf now jobs).map RatedJob.kept = jobs.map RatedJob.kept := by
  rw [weighed, List.map_map, List.map_map]
  rfl

lemma weighed_sum (mem : job ∈ weighed e conf now jobs) : job.priority = weightedSum conf job := by
  obtain ⟨j, -, rfl⟩ := List.mem_map.1 mem
  rfl

/-- The urgent jobs come first in every sort. -/
lemma sort_urgent (sort : Qsort jobCmp) :
    (sort.sort jobs).Pairwise fun a b => b.fixed = 20 → a.fixed = 20 := by
  apply sort.order
  intro a b le urgent
  obtain first | ⟨plain, -⟩ := (jobCmp_le a b).1 le
  · exact first
  · exact absurd urgent plain

/-- The first sort is by the weighted sum. -/
lemma sort_order (sort : Qsort jobCmp)
    (sums : ∀ job ∈ jobs, job.priority = weightedSum conf job) :
    (sort.sort jobs).Pairwise (InOrder conf) := by
  apply (sort.sorted jobs).imp_of_mem
  intro a b mem_a mem_b le same plain_a plain_b
  obtain urgent | ⟨-, le⟩ := (jobCmp_le a b).1 le
  · exact absurd urgent plain_a
  · rwa [sums a (sort.mem.1 mem_a), sums b (sort.mem.1 mem_b)] at le

section deal

variable {max : Int} {shares : List ShareUser} {u : ShareUser} {n : Nat} {k : Nat}

/-- The quotients of the next ranks of a user rise, and are between `0` and the largest one. -/
def Steady (max : Int) (u : ShareUser) (n : Nat) : Prop :=
  u.share ≠ 0 ∧ ∀ i j, u.nextUjid ≤ i → i ≤ j → j < u.nextUjid + n →
    0 ≤ i.tdiv u.share ∧ i.tdiv u.share ≤ j.tdiv u.share ∧ j.tdiv u.share ≤ max

lemma Steady.next (steady : Steady max u (n + 1)) :
    Steady max { u with nextUjid := u.nextUjid + 1 } n := by
  refine ⟨steady.1, fun i j low le high => ?_⟩
  dsimp only at low high ⊢
  exact steady.2 i j (by omega) le (by push_cast; omega)

/-- What the last loop makes of a job. -/
structure Dealt (conf : PolicyConf) (max : Int) (job : RatedJob) : Prop where
  sum : job.priority = weightedSum conf job + conf.wshare * job.nshare
  share : 0 ≤ job.share ∧ job.share ≤ max
  nshare : job.nshare = job.share / max

/-- Of two jobs of a user the later one has no larger share. -/
def Falling (a b : RatedJob) : Prop := a.uaId = b.uaId → b.share ≤ a.share

/-- The count of the jobs of a user. -/
def jobsOf (k : Nat) (jobs : List RatedJob) : Nat := jobs.countP (·.uaId == k)

lemma jobsOf_cons : jobsOf k (job :: jobs) = jobsOf k jobs + if job.uaId = k then 1 else 0 := by
  simp [jobsOf, List.countP_cons]

/-- The users of the jobs are those of the jobs they come from. -/
lemma jobsOf_pos (same : out.map RatedJob.rated = jobs.map RatedJob.rated) (mem : job ∈ out) :
    0 < jobsOf job.uaId jobs := by
  have rated : job.rated ∈ jobs.map RatedJob.rated := same ▸ List.mem_map_of_mem mem
  obtain ⟨j, mem_j, equal⟩ := List.mem_map.1 rated
  have user : j.uaId = job.uaId := congrArg (·.uaId) equal
  exact List.countP_pos_iff.2 ⟨j, mem_j, by simpa using user⟩

/-- The jobs of every user are steady. -/
def AllSteady (max : Int) (shares : List ShareUser) (jobs : List RatedJob) : Prop :=
  ∀ k u, shares[k]? = some u → Steady max u (jobsOf k jobs)

/-- The users after a rank of one of them is dealt. -/
def nextRank (k : Nat) (shares : List ShareUser) : List ShareUser :=
  shares.modify k fun u => { u with nextUjid := u.nextUjid + 1 }

lemma nextRank_self (found : shares[k]? = some u) :
    (nextRank k shares)[k]? = some { u with nextUjid := u.nextUjid + 1 } := by
  simp [nextRank, found]

lemma nextRank_other {i : Nat} (other : k ≠ i) : (nextRank k shares)[i]? = shares[i]? := by
  simp [nextRank, other]

lemma AllSteady.next (steady : AllSteady max shares (job :: jobs)) :
    AllSteady max (nextRank job.uaId shares) jobs := by
  intro k v found
  rw [nextRank, List.getElem?_modify] at found
  obtain ⟨u, before, rfl⟩ := Option.map_eq_some_iff.1 found
  have steady := steady k u before
  rw [jobsOf_cons] at steady
  split
  case isTrue same =>
    rw [if_pos same] at steady
    exact steady.next
  case isFalse other =>
    rwa [if_neg other] at steady

/-- The shares of the jobs that are left are at most that of the next rank. -/
def AtMost (max : Int) (shares : List ShareUser) (out : List RatedJob) : Prop :=
  ∀ job ∈ out, ∀ u, shares[job.uaId]? = some u → job.share ≤ max - u.nextUjid.tdiv u.share

/-- The last loop deals every job a share. -/
lemma dealShares_steady (known : ∀ job ∈ jobs, job.uaId < shares.length)
    (steady : AllSteady max shares jobs)
    (sums : ∀ job ∈ jobs, job.priority = weightedSum conf job) :
    ∃ out, dealShares conf max shares jobs = some out ∧
      out.map RatedJob.rated = jobs.map RatedJob.rated ∧
      (∀ job ∈ out, Dealt conf max job) ∧ out.Pairwise Falling ∧ AtMost max shares out := by
  induction jobs generalizing shares with
  | nil => exact ⟨[], rfl, rfl, by simp, .nil, by simp [AtMost]⟩
  | cons job jobs ih =>
    obtain ⟨u, found⟩ : ∃ u, shares[job.uaId]? = some u :=
      ⟨_, List.getElem?_eq_getElem (known job (by simp))⟩
    obtain ⟨out, ran, same, dealt, falling, most⟩ := @ih (nextRank job.uaId shares)
      (by simpa [nextRank] using fun j mem => known j (by simp [mem])) steady.next
      fun j mem => sums j (by simp [mem])
    have own := steady job.uaId u found
    rw [jobsOf_cons, if_pos rfl] at own
    have first := own.2 u.nextUjid u.nextUjid (le_refl _) (le_refl _) (by omega)
    -- a job of the same user that is left has the next rank or a later one
    have later : ∀ j ∈ out, j.uaId = job.uaId → j.share ≤ max - u.nextUjid.tdiv u.share := by
      intro j mem same_user
      have left := jobsOf_pos same mem
      have rank := most j mem { u with nextUjid := u.nextUjid + 1 }
        (by rw [same_user, nextRank_self found])
      rw [same_user] at left
      have step := own.2 u.nextUjid (u.nextUjid + 1) (le_refl _) (by omega) (by omega)
      dsimp only at rank
      omega
    refine ⟨shareJob conf max u job :: out, ?_, ?_, ?_, ?_, ?_⟩
    · rw [dealShares, found]
      simp only [own.1, if_false]
      rw [← nextRank, ran]
      rfl
    · rw [List.map_cons, List.map_cons, same]
      rfl
    · refine List.forall_mem_cons.2 ⟨⟨?_, ?_, rfl⟩, dealt⟩
      · simp only [shareJob, weightedSum, sums job (by simp)]
      · dsimp only [shareJob]
        omega
    · refine List.pairwise_cons.2 ⟨fun j mem same_user => later j mem same_user.symm, falling⟩
    · refine List.forall_mem_cons.2 ⟨?_, fun j mem v before => ?_⟩
      · intro v before
        obtain rfl := Option.some.inj (found.symm.trans before)
        exact le_refl _
      · by_cases same_user : j.uaId = job.uaId
        · rw [same_user] at before
          obtain rfl := Option.some.inj (found.symm.trans before)
          exact later j mem same_user
        · exact most j mem v (by rw [nextRank_other (Ne.symm same_user), before])

/-- The last job of a user has the last of its ranks. -/
lemma dealShares_last (ran : dealShares conf max shares jobs = some out)
    (found : shares[k]? = some u) (some : 0 < jobsOf k jobs) :
    ∃ job ∈ out, job.share = max - (u.nextUjid + jobsOf k jobs - 1).tdiv u.share ∧
      job.nshare = job.share / max := by
  induction jobs generalizing shares out u with
  | nil => simp [jobsOf] at some
  | cons job jobs ih =>
    rw [dealShares] at ran
    split at ran
    case h_1 => cases ran
    case h_2 v at_job =>
      split at ran
      case isTrue => cases ran
      case isFalse =>
        obtain ⟨rest, left, rfl⟩ := Option.map_eq_some_iff.1 ran
        rw [jobsOf_cons] at some ⊢
        by_cases more : 0 < jobsOf k jobs
        · by_cases same : job.uaId = k
          · subst same
            obtain ⟨j, mem, share, nshare⟩ := ih left (nextRank_self found) more
            refine ⟨j, List.mem_cons_of_mem _ mem, ?_, nshare⟩
            rw [share, if_pos rfl]
            congr 2
            push_cast
            omega
          · obtain ⟨j, mem, share, nshare⟩ := ih left ((nextRank_other same).trans found) more
            refine ⟨j, List.mem_cons_of_mem _ mem, ?_, nshare⟩
            rw [share, if_neg same]
            rfl
        · -- the job at hand is the last one of the user
          have same : job.uaId = k := by
            by_contra other
            rw [if_neg other] at some
            exact more some
          subst same
          obtain rfl := Option.some.inj (at_job.symm.trans found)
          refine ⟨_, List.mem_cons_self, ?_, rfl⟩
          have none : jobsOf job.uaId jobs = 0 := by omega
          simp [shareJob, none]

end deal

lemma tdiv_le {i j m : Int} (low : 0 ≤ i) (le : i ≤ j) (pos : 0 < m) : i.tdiv m ≤ j.tdiv m := by
  rw [Int.tdiv_eq_ediv_of_nonneg low, Int.tdiv_eq_ediv_of_nonneg (low.trans le)]
  exact Int.ediv_le_ediv pos le

lemma neg_tdiv_of_le {m share : Int} (neg : share < 0) (le : -share ≤ m) : m.tdiv share < 0 := by
  have pos : 0 < -share := by omega
  rw [← neg_neg share, Int.tdiv_neg, Int.tdiv_eq_ediv_of_nonneg (by omega)]
  have one : 1 ≤ m / -share := (Int.le_ediv_iff_mul_le pos).2 (by omega)
  omega

/-- A user that shares as it should has steady ranks. -/
lemma SharesWell.steady {max : Int} {n : Nat} (good : SharesWell e conf user) (windows : Windows conf user)
    (exact : user.totalJobs = n) (room : 0 ≤ max)
    (quot : (user.totalJobs + windowSum e conf user - 1).tdiv (getUserShare conf user.name) ≤ max) :
    Steady max ⟨getUserShare conf user.name, windowSum e conf user⟩ n := by
  have past := windowSum_nonneg e windows
  obtain pos | ⟨neg, few⟩ := good
  · refine ⟨pos.ne', fun i j low le high => ?_⟩
    dsimp only at low high ⊢
    refine ⟨Int.tdiv_nonneg (by omega) pos.le, tdiv_le (by omega) le pos, ?_⟩
    exact (tdiv_le (by omega) (by omega) pos).trans quot
  · refine ⟨neg.ne, fun i j low le high => ?_⟩
    dsimp only at low high ⊢
    have zero {m : Int} (low : 0 ≤ m) (high : m < -getUserShare conf user.name) :
        m.tdiv (getUserShare conf user.name) = 0 := by
      rw [← neg_neg (getUserShare conf user.name), Int.tdiv_neg, Int.tdiv_eq_zero_of_lt low high]
      rfl
    obtain none | few := few
    · omega
    · rw [zero (by omega) (by omega), zero (by omega) (by omega)]
      exact ⟨le_refl 0, le_refl 0, room⟩

/-- The only division of the loop over the users is by the share. -/
lemma shareUser_eq (windows : Windows conf user) : shareUser e conf user =
    if getUserShare conf user.name = 0 then none
    else some (⟨getUserShare conf user.name, windowSum e conf user⟩,
      (user.totalJobs + windowSum e conf user - 1).tdiv (getUserShare conf user.name)) := by
  rw [shareUser, userPastJobs_eq windows]
  rfl

lemma maxShare_spec (quots : List Int) :
    0 < maxShare quots ∧ ∀ quot ∈ quots, quot ≤ maxShare quots := by
  have fold (most : Int) :
      most ≤ quots.foldl (fun max quot => if quot > max then quot else max) most ∧
        ∀ quot ∈ quots,
          quot ≤ quots.foldl (fun max quot => if quot > max then quot else max) most := by
    induction quots generalizing most with
    | nil => simp
    | cons q quots ih =>
      have grow : most ≤ (if q > most then q else most) ∧ q ≤ if q > most then q else most := by
        split <;> omega
      obtain ⟨least, all⟩ := ih (if q > most then q else most)
      exact ⟨grow.1.trans least, List.forall_mem_cons.2 ⟨grow.2.trans least, all⟩⟩
  obtain ⟨least, all⟩ := fold 0
  rw [maxShare]
  split
  case isTrue zero =>
    rw [zero] at all
    exact ⟨by omega, fun quot mem => (all quot mem).trans (by omega)⟩
  case isFalse other => exact ⟨by omega, all⟩

/-- The second sort keeps the order that the first one gave to the jobs of a user: a later job has
no larger share. -/
lemma resort_order {max : Int} (sort : Qsort jobCmp) (pos : 0 < max) (weight : 0 < conf.wshare)
    (dealt : ∀ job ∈ jobs, Dealt conf max job)
    (order : jobs.Pairwise (InOrder conf)) (falling : jobs.Pairwise Falling) :
    (sort.sort jobs).Pairwise (InOrder conf) := by
  have both := order.and falling
  have either : ∀ ⦃a⦄, a ∈ jobs → ∀ ⦃b⦄, b ∈ jobs →
      InOrder conf a b ∧ Falling a b ∨ InOrder conf b a ∧ Falling b a := by
    apply List.Pairwise.forall_of_forall_of_flip
    · exact fun a mem => .inl ⟨fun _ _ _ => le_refl _, fun _ => le_refl _⟩
    · exact both.imp Or.inl
    · exact both.imp Or.inr
  apply (sort.sorted jobs).imp_of_mem
  intro a b mem_a mem_b le same plain_a plain_b
  obtain urgent | ⟨-, le⟩ := (jobCmp_le a b).1 le
  · exact absurd urgent plain_a
  obtain ⟨first, -⟩ | ⟨-, fall⟩ := either (sort.mem.1 mem_a) (sort.mem.1 mem_b)
  · exact first same plain_a plain_b
  · have da := dealt a (sort.mem.1 mem_a)
    have db := dealt b (sort.mem.1 mem_b)
    have pos' : (0 : ℚ) < max := Int.cast_pos.2 pos
    have share : (a.share : ℚ) ≤ b.share := Int.cast_le.2 (fall same.symm)
    have term : a.nshare ≤ b.nshare := by
      rw [da.nshare, db.nshare]
      exact div_le_div_of_nonneg_right share pos'.le
    have gain := mul_le_mul_of_nonneg_left term weight.le
    rw [da.sum, db.sum] at le
    linarith

lemma jobsOf_kept {k : Nat} {xs ys : List RatedJob}
    (perm : (xs.map RatedJob.kept).Perm (ys.map RatedJob.kept)) : jobsOf k xs = jobsOf k ys := by
  have count := perm.countP_eq fun x => x.1.uaId == k
  rwa [List.countP_map, List.countP_map] at count

/-- The jobs after the first sort. -/
def presorted (e : Expo) (sort : Qsort jobCmp) (conf : PolicyConf) (now : Time)
    (jobs : List RatedJob) : List RatedJob := sort.sort (weighed e conf now jobs)

lemma presorted_kept (e : Expo) (sort : Qsort jobCmp) (conf : PolicyConf) (now : Time)
    (jobs : List RatedJob) :
    ((presorted e sort conf now jobs).map RatedJob.kept).Perm (jobs.map RatedJob.kept) := by
  rw [← weighed_kept e conf now jobs]
  exact (sort.perm _).map _

lemma presorted_sum {sort : Qsort jobCmp} (mem : job ∈ presorted e sort conf now jobs) :
    job.priority = weightedSum conf job := weighed_sum (sort.mem.1 mem)

/-- The shares that the loop over the users sets. -/
def userShares (e : Expo) (conf : PolicyConf) (users : List SchUser) : List ShareUser :=
  users.map fun user => ⟨getUserShare conf user.name, windowSum e conf user⟩

/-- The largest quotient of the users. -/
def topShare (e : Expo) (conf : PolicyConf) (users : List SchUser) : Int :=
  maxShare (users.map fun user =>
    (user.totalJobs + windowSum e conf user - 1).tdiv (getUserShare conf user.name))

section

variable {sort : Qsort jobCmp} (windows : ∀ user ∈ users, Windows conf user)
include windows

/-- With a share for every user the last loop runs. -/
lemma schedulerJobPolicies_eq
    (half : ∀ job ∈ jobs, job.deadlineTime ≠ 0 → now < job.deadlineTime → conf.dlHalf ≠ 0)
    (some : 0 < conf.wshare → ∀ user ∈ users, getUserShare conf user.name ≠ 0) :
    schedulerJobPolicies e sort conf now users jobs =
      if conf.wshare > 0 then
        (dealShares conf (topShare e conf users) (userShares e conf users)
          (presorted e sort conf now jobs)).map sort.sort
      else .some (presorted e sort conf now jobs) := by
  have shares (weight : 0 < conf.wshare) : users.mapM (shareUser e conf) =
      .some (users.map fun user => (⟨getUserShare conf user.name, windowSum e conf user⟩,
        (user.totalJobs + windowSum e conf user - 1).tdiv (getUserShare conf user.name))) := by
    apply mapM_some
    intro user mem
    rw [shareUser_eq (windows user mem), if_neg (some weight user mem)]
  rw [schedulerJobPolicies, weigh_all half, Option.bind_eq_bind, Option.bind_some]
  split
  case isTrue weight =>
    rw [shares weight, Option.bind_eq_bind, Option.bind_some, List.map_map, List.map_map,
      Option.map_eq_bind]
    rfl
  case isFalse => rfl

/-- A configuration that is good is fair. -/
lemma fair_of_shared (known : ∀ job ∈ jobs, job.uaId < users.length)
    (exact : ∀ (k : Nat) user, users[k]? = some user → user.totalJobs = jobsOf k jobs)
    (good : Shared e conf now users jobs) :
    ∃ out, schedulerJobPolicies e sort conf now users jobs = some out ∧ Fair conf jobs out := by
  have some_share (weight : 0 < conf.wshare) (user) (mem : user ∈ users) :
      getUserShare conf user.name ≠ 0 := by
    obtain pos | ⟨neg, -⟩ := good.shares weight user mem
    · exact pos.ne'
    · exact neg.ne
  have kept := presorted_kept e sort conf now jobs
  have first : (presorted e sort conf now jobs).Pairwise (InOrder conf) :=
    sort_order sort fun j mem => weighed_sum mem
  rw [schedulerJobPolicies_eq windows good.half some_share]
  split
  case isFalse off =>
    refine ⟨_, rfl, ?_, sort_urgent sort, ?_, first⟩
    · have perm := kept.map Prod.fst
      rwa [List.map_map, List.map_map] at perm
    · intro job mem
      obtain ⟨j, mem_j, same⟩ := List.mem_map.1 (kept.mem_iff.1 (List.mem_map_of_mem mem))
      have nshare : j.nshare = job.nshare := congrArg Prod.snd same
      exact nshare ▸ good.idle (not_lt.1 off) j mem_j
  case isTrue weight =>
    have top := maxShare_spec (users.map fun user =>
      (user.totalJobs + windowSum e conf user - 1).tdiv (getUserShare conf user.name))
    have steady : AllSteady (topShare e conf users) (userShares e conf users)
        (presorted e sort conf now jobs) := by
      intro k u found
      rw [userShares, List.getElem?_map] at found
      obtain ⟨user, at_k, rfl⟩ := Option.map_eq_some_iff.1 found
      have mem := List.mem_of_getElem? at_k
      rw [jobsOf_kept kept]
      exact (good.shares weight user mem).steady (windows user mem) (exact k user at_k) top.1.le
        (top.2 _ (List.mem_map_of_mem mem))
    have known' : ∀ job ∈ presorted e sort conf now jobs,
        job.uaId < (userShares e conf users).length := by
      intro job mem
      obtain ⟨j, mem_j, same⟩ := List.mem_map.1 (kept.mem_iff.1 (List.mem_map_of_mem mem))
      have user : j.uaId = job.uaId := congrArg (·.1.uaId) same
      simpa [userShares, ← user] using known j mem_j
    obtain ⟨dealt, ran, same, all, falling, -⟩ := dealShares_steady known' steady
      fun job mem => presorted_sum mem
    rw [ran]
    refine ⟨_, rfl, ?_, sort_urgent sort, ?_, ?_⟩
    · have names : dealt.map (·.toSchJob) = (presorted e sort conf now jobs).map (·.toSchJob) := by
        have names := congrArg (List.map (·.toSchJob)) same
        rwa [List.map_map, List.map_map] at names
      have perm := kept.map Prod.fst
      rw [List.map_map, List.map_map] at perm
      exact ((sort.perm dealt).map _).trans (names ▸ perm)
    · intro job mem
      have terms := all job (sort.mem.1 mem)
      rw [terms.nshare]
      exact Normal.unit (Int.cast_nonneg terms.share.1) (Int.cast_le.2 terms.share.2)
    · apply resort_order sort top.1 weight all _ falling
      have order : ((presorted e sort conf now jobs).map RatedJob.rated).Pairwise (InOrder conf) :=
        List.pairwise_map.2 first
      rw [← same] at order
      exact (List.pairwise_map.1 order).imp fun {_ _} => id

omit windows in
/-- The first loop divided by no zero. -/
lemma half_of_ran (ran : schedulerJobPolicies e sort conf now users jobs = some out) :
    ∀ job ∈ jobs, job.deadlineTime ≠ 0 → now < job.deadlineTime → conf.dlHalf ≠ 0 := by
  obtain ⟨js, stamps, -⟩ := Option.bind_eq_some_iff.1 ran
  intro job mem set ahead zero
  have stamp := mapM_each stamps job mem
  rw [stampJob_eq, if_pos ⟨⟨set, ahead⟩, zero⟩] at stamp
  cases stamp

/-- The loop over the users divided by no zero. -/
lemma some_of_ran (ran : schedulerJobPolicies e sort conf now users jobs = some out)
    (weight : 0 < conf.wshare) : ∀ user ∈ users, getUserShare conf user.name ≠ 0 := by
  obtain ⟨js, -, ran⟩ := Option.bind_eq_some_iff.1 ran
  dsimp only at ran
  rw [if_pos weight] at ran
  obtain ⟨pairs, shares, -⟩ := Option.bind_eq_some_iff.1 ran
  intro user mem zero
  have share := mapM_each shares user mem
  rw [shareUser_eq (windows user mem), if_pos zero] at share
  cases share

/-- Only a configuration that is good is fair. -/
lemma shared_of_fair
    (exact : ∀ (k : Nat) user, users[k]? = some user → user.totalJobs = jobsOf k jobs)
    (ran : schedulerJobPolicies e sort conf now users jobs = some out)
    (fair : Fair conf jobs out) : Shared e conf now users jobs := by
  have kept := presorted_kept e sort conf now jobs
  have half := half_of_ran ran
  have some_share := some_of_ran windows ran
  rw [schedulerJobPolicies_eq windows half some_share] at ran
  split at ran
  case isFalse off =>
    obtain rfl := Option.some.inj ran
    refine ⟨half, fun weight => absurd weight off, fun _ job mem => ?_⟩
    obtain ⟨j, mem_j, same⟩ := List.mem_map.1 (kept.symm.mem_iff.1 (List.mem_map_of_mem mem))
    have nshare : j.nshare = job.nshare := congrArg Prod.snd same
    exact nshare ▸ fair.unit j mem_j
  case isTrue weight =>
    obtain ⟨dealt, deals, rfl⟩ := Option.map_eq_some_iff.1 ran
    refine ⟨half, fun _ user mem => ?_, fun off => absurd weight (not_lt.2 off)⟩
    have past := windowSum_nonneg e (windows user mem)
    obtain ⟨k, at_k⟩ := List.mem_iff_getElem?.1 mem
    have total := exact k user at_k
    by_contra bad
    rw [SharesWell, not_or, not_and_or, not_or] at bad
    have share := some_share weight user mem
    have found : (userShares e conf users)[k]? =
        some ⟨getUserShare conf user.name, windowSum e conf user⟩ := by
      rw [userShares, List.getElem?_map, at_k]
      rfl
    have top := (maxShare_spec (users.map fun user =>
      (user.totalJobs + windowSum e conf user - 1).tdiv (getUserShare conf user.name))).1
    -- the last job of the user reaches the negative share, and its term is above one
    obtain ⟨job, mem_job, last, term⟩ := dealShares_last deals found
      (by rw [jobsOf_kept kept]; omega)
    have unit := (fair.unit job (sort.mem.2 mem_job)).2
    rw [jobsOf_kept kept, ← total] at last
    have below :
        (user.totalJobs + windowSum e conf user - 1).tdiv (getUserShare conf user.name) < 0 :=
      neg_tdiv_of_le (by omega) (by omega)
    rw [term, div_le_one (Int.cast_pos.2 top), Int.cast_le] at unit
    dsimp only at last
    rw [show windowSum e conf user + user.totalJobs - 1 =
      user.totalJobs + windowSum e conf user - 1 by omega] at last
    change job.share ≤ topShare e conf users at unit
    omega

end

/-- The policies do not divide by zero and leave a fair list if and only if the configuration is
good for the users and the jobs. -/
theorem jobPolicies_fair_iff (e : Expo) (sort : Qsort jobCmp) (conf : PolicyConf) (now : Time)
    (users : List SchUser) (jobs : List RatedJob)
    (known : ∀ job ∈ jobs, job.uaId < users.length)
    (exact : ∀ (k : Nat) user, users[k]? = some user → user.totalJobs = jobsOf k jobs)
    (windows : ∀ user ∈ users, Windows conf user) :
    (∃ out, schedulerJobPolicies e sort conf now users jobs = some out ∧ Fair conf jobs out) ↔
      Shared e conf now users jobs := by
  constructor
  · rintro ⟨out, ran, fair⟩
    exact shared_of_fair windows exact ran fair
  · exact fair_of_shared windows known exact

/-- A user with a job and no windows behind it, and the default configuration. -/
theorem jobPolicies_fair_single :
    let e : Expo := ⟨fun _ => 1, fun _ => one_pos⟩
    let user : SchUser :=
      { uid := 7, name := "alice", activeJobs := 0, runningJobs := 0, totalJobs := 1
        subWindows := List.replicate 5 0 }
    let job : RatedJob :=
      { uaId := 0, owner := 7, jid := 3, aid := none, np := 1, reason := .none
        scheduleTime := 100, deadlineTime := 0, fixed := 0 }
    (∃ out, schedulerJobPolicies e jobSort (loadConf 1 []) 160 [user] [job] = some out ∧
      Fair (loadConf 1 []) [job] out) ↔ Shared e (loadConf 1 []) 160 [user] [job] := by
  apply jobPolicies_fair_iff
  · decide
  · intro k user found
    obtain rfl | later := Nat.eq_zero_or_pos k
    · obtain rfl := Option.some.inj found
      rfl
    · rw [List.getElem?_eq_none (show [_].length ≤ k from later)] at found
      cases found
  · intro user mem
    obtain rfl := List.mem_singleton.1 mem
    exact ⟨rfl, by decide⟩

/-- A user without a share stops the scheduler. -/
theorem zero_share :
    let e : Expo := ⟨fun _ => 1, fun _ => one_pos⟩
    let conf := loadConf 1 [.svar .shUser "alice" 0]
    let user : SchUser :=
      { uid := 7, name := "alice", activeJobs := 0, runningJobs := 0, totalJobs := 1
        subWindows := List.replicate 5 0 }
    let job : RatedJob :=
      { uaId := 0, owner := 7, jid := 3, aid := none, np := 1, reason := .none
        scheduleTime := 100, deadlineTime := 0, fixed := 0 }
    ¬ ∃ out, schedulerJobPolicies e jobSort conf 160 [user] [job] = some out ∧
      Fair conf [job] out := by
  intro e conf user job
  rintro ⟨out, ran, -⟩
  refine some_of_ran ?_ ran ?_ _ (List.mem_singleton.2 rfl) ?_
  · intro user mem
    obtain rfl := List.mem_singleton.1 mem
    exact ⟨rfl, by decide⟩
  · decide
  · decide

end Scheduler

end GridWay
