import GridWay.Gwd.Frame
import GridWay.Lib.Machine

/-!
# The slots of the job pool (`gw_job_pool.c`)

The array of `number_of_jobs` slots, the id that the next search starts after, and the counter of
the jobs. A search goes up from the last id and does not come back to the start of the array: it
reads beyond the end once the slots above the last id are taken.

* `JobPool.allocations_sound_iff`: in which runs every allocation is right and the counter is exact.
* `Gwd.jobPoolAllocate_pool`, `Gwd.jobPoolFree_pool`: the daemon works on such a pool.
-/

namespace GridWay

/-- `gw_job_pool_t`. -/
structure JobPool where
  pool : List (Option Job)
  numberOfJobs : Int := 0
  lastJobId : Int := -1
deriving DecidableEq

namespace JobPool

open Machine

/-- `gw_job_pool_init`, for `gw_conf.number_of_jobs` slots. -/
def init (n : Nat) : JobPool := { pool := List.replicate n none }

/-- How the search of a slot ends. -/
inductive Search where
  | found (jobId : Nat)
  | full
  | outside
deriving DecidableEq, Repr

/-- The loop of `gw_job_pool_allocate`, with the tries that are left. -/
def search (pool : List (Option Job)) : Nat → Nat → Search
  | 0, _ => .full
  | tries + 1, jobId =>
    match pool[jobId]? with
    -- the id is not compared with the size of the array
    | none => .outside
    | some none => .found jobId
    | some (some _) => search pool tries (jobId + 1)

/-- `gw_job_pool_allocate`; `none` when the search reads outside of the array. -/
def allocate (w : World) (p : JobPool) : Option (Int × JobPool) :=
  match search p.pool p.pool.length (p.lastJobId + 1).toNat with
  | .outside => none
  | .full => some (-1, p)
  | .found jobId =>
    some (jobId,
      { pool := p.pool.set jobId (some (Gwd.jobInit w jobId))
        numberOfJobs := p.numberOfJobs + 1
        lastJobId := jobId })

/-- `gw_job_pool_allocate_by_id`. -/
def allocateById (w : World) (jobId : Int) (p : JobPool) : Int × JobPool :=
  if jobId < 0 ∨ (p.pool.length : Int) ≤ jobId then (-1, p)
  else
    match p.pool[jobId.toNat]? with
    | some none =>
      (jobId,
        { pool := p.pool.set jobId.toNat (some (Gwd.jobInit w jobId.toNat))
          numberOfJobs := p.numberOfJobs + 1
          lastJobId := p.lastJobId + 1 })
    | _ => (-1, p)

/-- `gw_job_pool_free`, on the pool. -/
def free (jobId : Int) (p : JobPool) : JobPool :=
  -- the line that lowers `number_of_jobs` is commented out
  if 0 ≤ jobId ∧ jobId < p.pool.length then { p with pool := p.pool.set jobId.toNat none } else p

/-- What happens to the pool. -/
inductive Event where
  | allocate (w : World)
  | allocateById (w : World) (jobId : Int)
  | free (jobId : Int)

/-- The pool after an event. After a search that leaves the array nothing is known of it. -/
def step (p : JobPool) : Event → JobPool
  | .allocate w => (p.allocate w).elim p Prod.snd
  | .allocateById w jobId => (p.allocateById w jobId).2
  | .free jobId => p.free jobId

/-- An id of an empty slot. -/
def Free (p : JobPool) (jobId : Int) : Prop := 0 ≤ jobId ∧ p.pool[jobId.toNat]? = some none

/-- An id of a slot with a job. -/
def Occupied (p : JobPool) (jobId : Int) : Prop :=
  0 ≤ jobId ∧ ∃ job, p.pool[jobId.toNat]? = some (some job)

/-- The counter is the number of the occupied slots. -/
def Counted (p : JobPool) : Prop := p.numberOfJobs = p.pool.countP Option.isSome

/-- The event does what it is for: an allocation gives an empty slot, one that asks for no slot
fails only when there is none, one that asks for a slot fails only when that slot is not there to
be had; no search leaves the array; and the counter is exact afterwards. -/
def Sound (p : JobPool) : Event → Prop
  | .allocate w => ∃ r p', p.allocate w = some (r, p') ∧ (r ≠ -1 → p.Free r) ∧
      (r = -1 ↔ ∀ jobId, ¬p.Free jobId) ∧ p'.Counted
  | .allocateById w jobId => ∃ r p', p.allocateById w jobId = (r, p') ∧ (r ≠ -1 → p.Free r) ∧
      (r = -1 ↔ ¬p.Free jobId) ∧ p'.Counted
  | .free jobId => (p.free jobId).Counted

/-- The event does not meet a defect: there is an empty slot above the last id, or no id was given
yet; a freed slot had no job. -/
def Allowed (p : JobPool) : Event → Prop
  | .allocate _ => p.lastJobId = -1 ∨ ∃ jobId, p.lastJobId < jobId ∧ p.Free jobId
  | .allocateById _ _ => True
  | .free jobId => ¬p.Occupied jobId

variable {p : JobPool} {w : World}

lemma search_spec (pool : List (Option Job)) (tries jobId : Nat) :
    match search pool tries jobId with
    | .found j => jobId ≤ j ∧ pool[j]? = some none
    | .full => ∀ k, jobId ≤ k → k < jobId + tries → ∃ job, pool[k]? = some (some job)
    | .outside => pool.length < jobId + tries ∧ ∀ k, jobId ≤ k → pool[k]? ≠ some none := by
  induction tries generalizing jobId with
  | zero =>
    intro k low high
    omega
  | succ tries ih =>
    have next := ih (jobId + 1)
    rw [search]
    cases here : pool[jobId]? with
    | none =>
      have beyond := List.getElem?_eq_none_iff.1 here
      refine ⟨by omega, fun k low => ?_⟩
      rw [List.getElem?_eq_none_iff.2 (by omega)]
      nofun
    | some slot =>
      cases slot with
      | none => exact ⟨Nat.le_refl _, here⟩
      | some job =>
        dsimp only
        cases ended : search pool tries (jobId + 1) with
        | found j =>
          rw [ended] at next
          exact ⟨by have := next.1; omega, next.2⟩
        | full =>
          rw [ended] at next
          intro k low high
          obtain rfl | above := Nat.eq_or_lt_of_le low
          · exact ⟨job, here⟩
          · exact next k above (by omega)
        | outside =>
          rw [ended] at next
          refine ⟨by have := next.1; omega, fun k low => ?_⟩
          obtain rfl | above := Nat.eq_or_lt_of_le low
          · rw [here]
            nofun
          · exact next.2 k above

/-- What the searches rely on. -/
structure Inv (p : JobPool) : Prop where
  counted : p.Counted
  last : -1 ≤ p.lastJobId
  unused : p.pool = [] → p.lastJobId = -1

lemma inv_init (n : Nat) : Inv (init n) where
  counted := by simp [Counted, init, List.countP_replicate]
  last := Int.le_refl _
  unused _ := rfl

/-- A job in an empty slot counts. -/
lemma counted_fill (counted : p.Counted) {jobId : Nat} (empty : p.pool[jobId]? = some none) (job : Job)
    (last : Int) : Counted ⟨p.pool.set jobId (some job), p.numberOfJobs + 1, last⟩ := by
  obtain ⟨inside, slot⟩ := List.getElem?_eq_some_iff.1 empty
  rw [Counted, List.countP_set inside, slot, counted]
  simp

/-- The counter is too high when a job is freed. -/
lemma counted_free (counted : p.Counted) (jobId : Int) :
    (p.free jobId).Counted ↔ ¬p.Occupied jobId := by
  by_cases range : 0 ≤ jobId ∧ jobId < p.pool.length
  · have inside : jobId.toNat < p.pool.length := by omega
    have slots : p.Occupied jobId ↔ (p.pool[jobId.toNat]).isSome = true := by
      rw [Occupied, List.getElem?_eq_getElem inside, Option.isSome_iff_exists]
      simp [range.1]
    rw [free, if_pos range, Counted, List.countP_set inside, slots, counted]
    cases taken : (p.pool[jobId.toNat]).isSome with
    | false => simp
    | true =>
      have some_job : 0 < p.pool.countP Option.isSome :=
        List.countP_pos_iff.2 ⟨_, List.getElem_mem inside, taken⟩
      simp
      omega
  · rw [free, if_neg range]
    refine iff_of_true counted ?_
    rintro ⟨low, job, there⟩
    have := (List.getElem?_eq_some_iff.1 there).1
    omega

/-- An allocation is right when there is a slot above the last id, or no id was given. -/
lemma sound_allocate (inv : Inv p) : p.Sound (.allocate w) ↔ p.Allowed (.allocate w) := by
  have spec := search_spec p.pool p.pool.length (p.lastJobId + 1).toNat
  have last := inv.last
  rw [Sound, allocate]
  cases ended : search p.pool p.pool.length (p.lastJobId + 1).toNat with
  | found j =>
    rw [ended] at spec
    have there : p.Free j := ⟨Int.natCast_nonneg j, spec.2⟩
    apply iff_of_true
    · refine ⟨j, _, rfl, fun _ => there, ?_, counted_fill inv.counted spec.2 _ _⟩
      exact iff_of_false (by omega) fun none_free => none_free _ there
    · exact .inr ⟨j, by have := spec.1; omega, there⟩
  | full =>
    rw [ended] at spec
    have taken (jobId : Int) (above : p.lastJobId < jobId) : ¬p.Free jobId := by
      rintro ⟨low, empty⟩
      have inside := (List.getElem?_eq_some_iff.1 empty).1
      obtain ⟨job, there⟩ := spec jobId.toNat (by omega) (by omega)
      rw [empty] at there
      cases there
    have start : p.lastJobId = -1 := by
      cases empty : p.pool with
      | nil => exact inv.unused empty
      | cons slot slots =>
        rw [empty, List.length_cons] at spec
        obtain ⟨job, there⟩ := spec ((p.lastJobId + 1).toNat + slots.length) (by omega) (by omega)
        have := (List.getElem?_eq_some_iff.1 there).1
        simp only [List.length_cons] at this
        omega
    refine iff_of_true ⟨-1, p, rfl, fun no => absurd rfl no, ?_, inv.counted⟩ (.inl start)
    refine iff_of_true rfl fun jobId there => taken jobId ?_ there
    have := there.1
    omega
  | outside =>
    rw [ended] at spec
    apply iff_of_false
    · rintro ⟨r, p', none_left, -⟩
      cases none_left
    · rintro (start | ⟨jobId, above, low, empty⟩)
      · have := spec.1
        omega
      · exact spec.2 jobId.toNat (by omega) empty

lemma sound_allocateById (inv : Inv p) (jobId : Int) : p.Sound (.allocateById w jobId) := by
  rw [Sound, allocateById]
  by_cases range : jobId < 0 ∨ (p.pool.length : Int) ≤ jobId
  · rw [if_pos range]
    refine ⟨-1, p, rfl, fun no => absurd rfl no, iff_of_true rfl ?_, inv.counted⟩
    rintro ⟨low, empty⟩
    have := (List.getElem?_eq_some_iff.1 empty).1
    omega
  · rw [if_neg range]
    split
    case h_1 empty =>
      have there : p.Free jobId := ⟨by omega, empty⟩
      refine ⟨jobId, _, rfl, fun _ => there, ?_, counted_fill inv.counted empty _ _⟩
      exact iff_of_false (by omega) (not_not_intro there)
    case h_2 taken =>
      refine ⟨-1, p, rfl, fun no => absurd rfl no, iff_of_true rfl ?_, inv.counted⟩
      rintro ⟨low, empty⟩
      exact taken empty

lemma sound_event (inv : Inv p) (e : Event) : p.Sound e ↔ p.Allowed e := by
  cases e with
  | allocate w => exact sound_allocate inv
  | allocateById w jobId => exact iff_of_true (sound_allocateById inv jobId) trivial
  | free jobId => exact counted_free inv.counted jobId

lemma inv_step (inv : Inv p) (e : Event) (sound : p.Sound e) : Inv (p.step e) := by
  cases e with
  | allocate w =>
    obtain ⟨r, p', got, -, -, counted⟩ := sound
    rw [step, got, Option.elim_some]
    rw [allocate] at got
    split at got
    case h_1 => cases got
    case h_2 => cases got; exact inv
    case h_3 jobId found =>
      cases got
      refine ⟨counted, ?_, ?_⟩
      · dsimp only
        omega
      · intro none_left
        have spec := search_spec p.pool p.pool.length (p.lastJobId + 1).toNat
        rw [found, (List.set_eq_nil_iff _ _).1 none_left] at spec
        cases spec.2
  | allocateById w jobId =>
    obtain ⟨r, p', got, -, -, counted⟩ := sound
    rw [step, got]
    rw [allocateById] at got
    split at got
    case isTrue => cases got; exact inv
    case isFalse =>
      split at got
      case h_2 => cases got; exact inv
      case h_1 empty =>
        cases got
        refine ⟨counted, ?_, ?_⟩
        · have := inv.last
          dsimp only
          omega
        · intro none_left
          rw [(List.set_eq_nil_iff _ _).1 none_left] at empty
          cases empty
  | free jobId =>
    rw [step]
    refine ⟨sound, ?_, ?_⟩
    · rw [free]
      split <;> exact inv.last
    · rw [free]
      split
      · intro none_left
        exact inv.unused ((List.set_eq_nil_iff _ _).1 none_left)
      · exact inv.unused

/-- The pool keeps what it promises in exactly the runs that free no job and that ask for a slot
only while there is one above the last id. -/
theorem allocations_sound_iff (n : Nat) (evs : List Event) :
    Guarded step Sound (init n) evs ↔ Guarded step Allowed (init n) evs := by
  apply guarded_iff Inv _ _ (inv_init n)
  · intro p e inv sound
    exact inv_step inv e sound
  · intro p e inv
    exact sound_event inv e

/-- In a pool of one slot, the second allocation looks for a slot behind the array, and a job that
is freed is counted on. -/
theorem pool_unsound :
    (¬Guarded step Sound (init 1) [.allocate {}, .allocate {}]) ∧
      ¬Guarded step Sound (init 1) [.allocate {}, .free 0] := by
  constructor
  · rintro ⟨-, ⟨r, p', got, -⟩, -⟩
    have outside : allocate {} (step (init 1) (.allocate {})) = none := rfl
    rw [outside] at got
    cases got
  · rintro ⟨-, counted, -⟩
    have high : free 0 (step (init 1) (.allocate {})) =
      { pool := [none], numberOfJobs := 1, lastJobId := 0 } := rfl
    rw [Sound, high] at counted
    cases counted

end JobPool

namespace Gwd

open JobPool

/-- The pool of the daemon. -/
def jobPool (s : Gwd) : JobPool where
  pool := (List.range s.conf.numberOfJobs).map s.jobs
  numberOfJobs := s.jobCount
  lastJobId := s.nextJobId - 1

variable {s : Gwd} {w : World}

/-- The search of the daemon, when there is no job behind the array. -/
lemma search_jobPool (none_behind : ∀ j, s.conf.numberOfJobs ≤ j → s.jobs j = none)
    (tries next : Nat) :
    search s.jobPool.pool tries next =
      match s.freeJob tries next with
      | none => .full
      | some j => if s.conf.numberOfJobs ≤ j then .outside else .found j := by
  induction tries generalizing next with
  | zero => rfl
  | succ tries ih =>
    rw [search, freeJob, jobPool]
    dsimp only
    rw [List.getElem?_map]
    by_cases inside : next < s.conf.numberOfJobs
    · rw [List.getElem?_range inside, Option.map_some]
      cases slot : s.jobs next with
      | none =>
        rw [Option.isNone_none, if_pos rfl]
        exact (if_neg (Nat.not_le.2 inside)).symm
      | some job =>
        rw [Option.isNone_some, if_neg Bool.false_ne_true]
        exact ih (next + 1)
    · have behind := Nat.not_lt.1 inside
      rw [List.getElem?_eq_none (by rwa [List.length_range]), none_behind next behind]
      exact (if_pos behind).symm

/-- A slot of the pool, written in the array. -/
lemma slots_update {α : Type} {n : Nat} (slots : Nat → α) (j : Nat) (slot : α) :
    (List.range n).map (Function.update slots j slot) = ((List.range n).map slots).set j slot := by
  apply List.ext_getElem
  · simp
  · intro i _ _
    rw [List.getElem_map, List.getElem_range, List.getElem_set, Function.update_apply]
    simp [eq_comm]

/-- The daemon allocates a slot of its pool, and crashes where the search leaves the array. -/
theorem jobPoolAllocate_pool (live : s.crashed = false)
    (none_behind : ∀ j, s.conf.numberOfJobs ≤ j → s.jobs j = none) :
    s.jobPool.allocate w =
      if (jobPoolAllocate w s).1.crashed then none
      else some ((jobPoolAllocate w s).2.elim (-1) Nat.cast, (jobPoolAllocate w s).1.jobPool) := by
  have start : (s.jobPool.lastJobId + 1).toNat = s.nextJobId := by
    rw [jobPool, Int.sub_add_cancel, Int.toNat_natCast]
  have size : s.jobPool.pool.length = s.conf.numberOfJobs := by
    rw [jobPool, List.length_map, List.length_range]
  rw [JobPool.allocate, start, size, search_jobPool none_behind, jobPoolAllocate]
  cases s.freeJob s.conf.numberOfJobs s.nextJobId with
  | none => simp [live]
  | some j =>
    by_cases behind : s.conf.numberOfJobs ≤ j
    · simp [behind]
    · simp [behind, live, jobPool, slots_update]

/-- The daemon frees a slot of its pool. -/
theorem jobPoolFree_pool (j : JobId) : (s.jobPoolFree j).jobPool = s.jobPool.free j := by
  have cleared : s.jobPool.free j =
      { s.jobPool with pool := (List.range s.conf.numberOfJobs).map (Function.update s.jobs j none) } := by
    rw [slots_update, JobPool.free]
    split
    case isTrue => rfl
    case isFalse behind =>
      rw [List.set_eq_of_length_le]
      · rfl
      · change (s.jobPool.pool).length ≤ j
        omega
  rw [cleared, jobPoolFree]
  cases slot : s.jobs j with
  | none =>
    dsimp only
    rw [← slot, Function.update_eq_self]
    rfl
  | some job =>
    dsimp only
    simp [jobPool, decJobs]

end Gwd

end GridWay
