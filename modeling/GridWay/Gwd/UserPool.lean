import GridWay.Gwd.JobPool

/-!
# The slots of the user pool (`gw_user_pool.c`)

The array of `number_of_users` slots and the counter of the users. An allocation compares the
counter with the size of the array and then takes the first empty slot; the counter is lowered
when a user is freed, and nothing raises it.

* `UserPool.allocations_sound_iff`: in which runs every allocation is right and the counter is exact.
* `Gwd.userAllocate_pool`, `Gwd.checkUser_pool`: the daemon works on such a pool.
-/

namespace GridWay

/-- `gw_user_pool_t`. -/
structure UserPool where
  pool : List (Option User)
  numberOfUsers : Int := 0
deriving DecidableEq, Repr

namespace UserPool

open Machine

/-- `gw_user_pool_init`, for `gw_conf.number_of_users` slots. -/
def init (n : Nat) : UserPool := { pool := List.replicate n none }

/-- How an allocation ends: with an id, with the `-1` of a full pool, with the code of
`gw_user_init`, or with a write outside of the array. -/
inductive Outcome where
  | allocated (uid : Nat)
  | full
  | failed
  | outside
deriving DecidableEq, Repr

/-- The loop of `gw_user_pool_user_allocate`: the first empty slot, or the index after the last. -/
def freeSlot (p : UserPool) : Nat := (p.pool.findIdx? Option.isNone).getD p.pool.length

/-- `gw_user_pool_user_allocate`. -/
def allocate (name proxyPath : String) (userInit : Bool) (p : UserPool) : Outcome × UserPool :=
  if p.numberOfUsers = p.pool.length then (.full, p)
  else if p.freeSlot = p.pool.length then (.outside, p)
  else if userInit then
    -- the counter stays as it is
    (.allocated p.freeSlot,
      { p with pool := p.pool.set p.freeSlot (some { name, proxyPath, activeJobs := 1 }) })
  else (.failed, p)

/-- A user leaves its slot. -/
def drop (i : Nat) (p : UserPool) : UserPool where
  pool := p.pool.set i none
  numberOfUsers := p.numberOfUsers - 1

/-- `gw_user_pool_user_free`. -/
def free (uid : Int) (p : UserPool) : UserPool :=
  if 0 ≤ uid ∧ uid < p.pool.length then
    match p.pool[uid.toNat]? with
    | some (some _) => p.drop uid.toNat
    | _ => p
  else p

/-- One round of the loop of `gw_user_pool_check_users`. -/
def checkUser (period : Int) (p : UserPool) (i : Nat) : UserPool :=
  match p.pool[i]? with
  | some (some user) =>
    if user.activeJobs = 0 then
      if user.idle + period ≥ Gwd.maxIdleTime then p.drop i
      else { p with pool := p.pool.set i (some { user with idle := user.idle + period }) }
    else p
  | _ => p

/-- `gw_user_pool_check_users`. -/
def checkUsers (period : Int) (p : UserPool) : UserPool :=
  (List.range p.pool.length).foldl (checkUser period) p

/-- A change of the jobs of a user, when the user is there: `gw_user_pool_inc_jobs` and
`gw_user_pool_dec_jobs`. -/
def addJobs (uid jobs : Int) (p : UserPool) : UserPool :=
  if 0 ≤ uid ∧ uid < p.pool.length then
    match p.pool[uid.toNat]? with
    | some (some user) =>
      { p with
        pool := p.pool.set uid.toNat
          (some { user with idle := 0, activeJobs := user.activeJobs + jobs }) }
    | _ => p
  else p

/-- What happens to the pool. -/
inductive Event where
  | allocate (name proxyPath : String) (userInit : Bool)
  | free (uid : Int)
  | check (period : Int)
  | jobs (uid jobs : Int)
deriving DecidableEq, Repr

/-- The pool after an event. After a write outside of the array nothing is known of it. -/
def step (p : UserPool) : Event → UserPool
  | .allocate name proxyPath userInit => (p.allocate name proxyPath userInit).2
  | .free uid => p.free uid
  | .check period => p.checkUsers period
  | .jobs uid jobs => p.addJobs uid jobs

/-- All slots are occupied. -/
def Occupied (p : UserPool) : Prop := ∀ slot ∈ p.pool, slot.isSome

/-- The counter is the number of the occupied slots. -/
def Counted (p : UserPool) : Prop := p.numberOfUsers = p.pool.countP Option.isSome

/-- The event does what it is for: an allocation writes inside of the array and finds the pool full
exactly when it is; and the counter is exact afterwards. -/
def Sound (p : UserPool) : Event → Prop
  | .allocate name proxyPath userInit =>
    (p.allocate name proxyPath userInit).1 ≠ .outside ∧
      ((p.allocate name proxyPath userInit).1 = .full ↔ p.Occupied) ∧
      (p.allocate name proxyPath userInit).2.Counted
  | e => (p.step e).Counted

/-- The event does not meet the defect: an allocation is refused, or it fails. -/
def Allowed (p : UserPool) : Event → Prop
  | .allocate _ _ userInit => userInit = false ∨ p.Occupied
  | _ => True

variable {p : UserPool} {i : Nat}

lemma counted_drop (counted : p.Counted) {user : User} (here : p.pool[i]? = some (some user)) :
    (p.drop i).Counted := by
  obtain ⟨inside, slot⟩ := List.getElem?_eq_some_iff.1 here
  have some_user : 0 < p.pool.countP Option.isSome :=
    List.countP_pos_iff.2 ⟨_, List.getElem_mem inside, by rw [slot]; rfl⟩
  rw [Counted, drop, List.countP_set inside, slot, counted]
  simp
  omega

/-- A user that changes is counted as before. -/
lemma counted_change (counted : p.Counted) {user user' : User}
    (here : p.pool[i]? = some (some user)) :
    Counted { p with pool := p.pool.set i (some user') } := by
  obtain ⟨inside, slot⟩ := List.getElem?_eq_some_iff.1 here
  have some_user : 0 < p.pool.countP Option.isSome :=
    List.countP_pos_iff.2 ⟨_, List.getElem_mem inside, by rw [slot]; rfl⟩
  rw [Counted, List.countP_set inside, slot, counted]
  simp
  omega

lemma counted_checkUser (counted : p.Counted) (period : Int) (i : Nat) :
    (p.checkUser period i).Counted := by
  rw [checkUser]
  split
  case h_1 user here =>
    split
    · split
      · exact counted_drop counted here
      · exact counted_change counted here
    · exact counted
  case h_2 => exact counted

lemma counted_checkUsers (counted : p.Counted) (period : Int) : (p.checkUsers period).Counted := by
  rw [checkUsers]
  generalize List.range p.pool.length = is
  induction is generalizing p with
  | nil => exact counted
  | cons i is ih => exact ih (counted_checkUser counted period i)

/-- The events that allocate no user keep the counter exact. -/
lemma counted_step (counted : p.Counted) {e : Event}
    (other : ∀ name proxyPath userInit, e ≠ .allocate name proxyPath userInit) :
    (p.step e).Counted := by
  cases e with
  | allocate name proxyPath userInit => exact absurd rfl (other name proxyPath userInit)
  | free uid =>
    rw [step, free]
    split
    · split
      case h_1 user here => exact counted_drop counted here
      case h_2 => exact counted
    · exact counted
  | check period => exact counted_checkUsers counted period
  | jobs uid jobs =>
    rw [step, addJobs]
    split
    · split
      case h_1 user here => exact counted_change counted here
      case h_2 => exact counted
    · exact counted

/-- The counter of a pool is the size of the array when all slots are occupied. -/
lemma full_iff (counted : p.Counted) : p.numberOfUsers = p.pool.length ↔ p.Occupied := by
  rw [counted, Occupied, ← List.countP_eq_length]
  omega

/-- There is an empty slot when not all of them are occupied. -/
lemma freeSlot_spec (room : ¬p.Occupied) : p.pool[p.freeSlot]? = some none := by
  rw [freeSlot]
  cases found : p.pool.findIdx? Option.isNone with
  | none =>
    refine absurd (fun slot mem => ?_) room
    have taken := List.findIdx?_eq_none_iff.1 found slot mem
    rwa [Option.isNone_eq_false_iff] at taken
  | some i =>
    obtain ⟨inside, empty, -⟩ := List.findIdx?_eq_some_iff_getElem.1 found
    rw [Option.getD_some, List.getElem?_eq_getElem inside, Option.isNone_iff_eq_none.1 empty]

/-- An allocation is right when it allocates nothing. -/
lemma sound_allocate (counted : p.Counted) (name proxyPath : String) (userInit : Bool) :
    p.Sound (.allocate name proxyPath userInit) ↔ p.Allowed (.allocate name proxyPath userInit) := by
  rw [Sound, Allowed, allocate]
  by_cases full : p.Occupied
  · rw [if_pos ((full_iff counted).2 full)]
    exact iff_of_true ⟨nofun, iff_of_true rfl full, counted⟩ (.inr full)
  · have empty := freeSlot_spec full
    have inside := (List.getElem?_eq_some_iff.1 empty).1
    rw [if_neg (mt (full_iff counted).1 full), if_neg (Nat.ne_of_lt inside)]
    cases userInit with
    | false => exact iff_of_true ⟨nofun, iff_of_false nofun full, counted⟩ (.inl rfl)
    | true =>
      -- one more slot is occupied, and the counter is as it was
      apply iff_of_false
      · rintro ⟨-, -, counted'⟩
        obtain ⟨_, slot⟩ := List.getElem?_eq_some_iff.1 empty
        rw [if_pos rfl, Counted, List.countP_set inside, slot, counted] at counted'
        simp at counted'
      · rintro (failed | occupied)
        · cases failed
        · exact full occupied

lemma sound_event (counted : p.Counted) (e : Event) : p.Sound e ↔ p.Allowed e := by
  cases e with
  | allocate name proxyPath userInit => exact sound_allocate counted name proxyPath userInit
  | free uid => exact iff_of_true (counted_step counted nofun) trivial
  | check period => exact iff_of_true (counted_step counted nofun) trivial
  | jobs uid jobs => exact iff_of_true (counted_step counted nofun) trivial

lemma counted_sound (counted : p.Counted) (e : Event) (sound : p.Sound e) : (p.step e).Counted := by
  cases e with
  | allocate name proxyPath userInit => exact sound.2.2
  | free uid => exact counted_step counted nofun
  | check period => exact counted_step counted nofun
  | jobs uid jobs => exact counted_step counted nofun

lemma counted_init (n : Nat) : (init n).Counted := by
  simp [Counted, init, List.countP_replicate]

/-- The pool keeps what it promises in exactly the runs in which no user is allocated. -/
theorem user_allocations_sound_iff (n : Nat) (evs : List Event) :
    Guarded step Sound (init n) evs ↔ Guarded step Allowed (init n) evs := by
  apply guarded_iff Counted _ _ (counted_init n)
  · intro p e counted sound
    exact counted_sound counted e sound
  · intro p e counted
    exact sound_event counted e

/-- In a pool of one slot the first user is not counted, and the second one is written behind the
array. -/
theorem user_pool_unsound :
    let evs := [Event.allocate "a" "" true, .allocate "b" "" true]
    ¬Guarded step Sound (init 1) evs ∧
      ((run step (init 1) (evs.take 1)).allocate "b" "" true).1 = .outside := by
  constructor
  · rintro ⟨⟨-, -, counted⟩, -⟩
    cases counted
  · rfl

end UserPool

namespace Gwd

open UserPool

/-- The user pool of the daemon. -/
def userPool (s : Gwd) : UserPool where
  pool := (List.range s.conf.numberOfUsers).map s.users
  numberOfUsers := s.userCount

variable {s : Gwd}

lemma freeUser_pool : s.userPool.freeSlot = s.freeUser := by
  rw [freeSlot, freeUser, userPool]
  dsimp only
  rw [List.findIdx?_map, List.length_map, List.length_range]
  cases found : (List.range s.conf.numberOfUsers).findIdx? (Option.isNone ∘ s.users) with
  | none =>
    rw [List.find?_eq_none.2]
    intro u mem empty
    have taken := List.findIdx?_eq_none_iff.1 found u mem
    rw [Function.comp_apply, empty] at taken
    cases taken
  | some u =>
    obtain ⟨inside, empty, first⟩ := List.findIdx?_eq_some_iff_getElem.1 found
    simp only [List.getElem_range, Function.comp_apply, List.length_range] at inside empty first
    rw [List.find?_range_eq_some.2]
    refine ⟨empty, List.mem_range.2 inside, fun v before => ?_⟩
    rw [eq_false_of_ne_true (first v before)]
    rfl

/-- The daemon allocates a slot of its pool, and crashes where the write leaves the array. -/
theorem userAllocate_pool (live : s.crashed = false) (wS : SubmitWorld) (name proxyPath : String) :
    let (s', uid) := userAllocate wS name proxyPath s
    s'.userPool = (s.userPool.allocate name proxyPath wS.userInit).2 ∧
      match (s.userPool.allocate name proxyPath wS.userInit).1 with
      | .allocated u => uid = some u ∧ s'.crashed = false
      | .outside => uid = none ∧ s'.crashed = true
      | .full | .failed => uid = none ∧ s'.crashed = false := by
  have size : s.userPool.pool.length = s.conf.numberOfUsers := by
    rw [userPool, List.length_map, List.length_range]
  rw [userAllocate, UserPool.allocate, size, freeUser_pool]
  by_cases full : s.userCount = s.conf.numberOfUsers
  · simp [full, userPool, live]
  · have open_pool : s.userPool.numberOfUsers ≠ s.conf.numberOfUsers := full
    rw [if_neg full, if_neg open_pool]
    by_cases behind : s.freeUser = s.conf.numberOfUsers
    · simp [behind, userPool]
    · rw [if_neg behind, if_neg behind]
      cases wS.userInit with
      | false => simp [live]
      | true => simp [live, userPool, slots_update]

/-- The daemon visits a slot of its pool. -/
theorem checkUser_pool (period : Int) {u : UserId} (inside : u < s.conf.numberOfUsers) :
    (checkUser period s u).userPool = s.userPool.checkUser period u := by
  have slot : s.userPool.pool[u]? = some (s.users u) := by
    rw [userPool, List.getElem?_map, List.getElem?_range inside]
    rfl
  rw [checkUser, UserPool.checkUser, slot]
  cases s.users u with
  | none => rfl
  | some user =>
    dsimp only
    split
    · split
      · simp [userPool, UserPool.drop, slots_update]
      · simp [userPool, slots_update]
    · rfl

end Gwd

end GridWay
