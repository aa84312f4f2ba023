import Mathlib.Data.List.Nodup
import Mathlib.Logic.Function.Basic

/-!
# The session table

The library keeps the ids of the jobs of a session in an array, the oldest first (`gw_drmaa.c`). The free
entries hold -1. An index outside the array is outside of what the language defines: the result is `none`
then.

* `Session.rmSessionId`, `Session.store`, `Session.copy`: the accesses to the table.
* `Session.Holds`: the table holds a list of jobs; `Holds.rm`, `Holds.store`, `Holds.copy`: what the
  accesses do to it.
-/

namespace GridWay.Drmaa

/-- `DRMAA_GW_SESSION_JOBS`. -/
@[irreducible] def sessionJobs : Nat := 2048

/-- `drmaa_gw_session_t`. -/
structure Session where
  sessionId : Option Nat := none
  numberOfJobs : Int := 0
  jobIds : Nat → Int := fun _ => 0

namespace Session

/-- Reads an entry. -/
def read (s : Session) (i : Int) : Option Int :=
  if 0 ≤ i ∧ i < sessionJobs then some (s.jobIds i.toNat) else none

/-- Writes an entry. -/
def write (s : Session) (i : Int) (jid : Int) : Option Session :=
  if 0 ≤ i ∧ i < sessionJobs then some { s with jobIds := Function.update s.jobIds i.toNat jid }
  else none

/-- The first entry with an id. -/
def find (s : Session) (jid : Int) : Option Nat :=
  (List.range sessionJobs).find? fun i => s.jobIds i = jid

/-- The loop that moves the entries behind one to the front, up to the number of jobs. -/
def moveUp (s : Session) : List Nat → Option Session
  | [] => some s
  | j :: js => do
    let next ← s.read (j + 1)
    let s ← s.write j next
    s.moveUp js

/-- `gw_drmaa_rm_session_id`. -/
def rmSessionId (s : Session) (jid : Int) : Option Session :=
  match s.find jid with
  | none => some s
  | some i => do
    let s := { s with numberOfJobs := s.numberOfJobs - 1 }
    let s ← s.moveUp (List.range' i (s.numberOfJobs - i).toNat)
    s.write s.numberOfJobs (-1)

/-- Writes the id of a new job behind the others. -/
def store (s : Session) (jid : Int) : Option Session := do
  let s ← s.write s.numberOfJobs jid
  return { s with numberOfJobs := s.numberOfJobs + 1 }

/-- Copies the entries of the jobs and the one behind them. -/
def copy (s : Session) : Option (List Int) :=
  (List.range (s.numberOfJobs + 1).toNat).mapM fun i : Nat => s.read i

/-- An empty table. -/
def clear (s : Session) (pid : Option Nat) : Session where
  sessionId := pid
  numberOfJobs := 0
  jobIds i := if i < sessionJobs then -1 else s.jobIds i

/-- Stores the ids of an array. -/
def storeAll (s : Session) (ids : List Int) : Option Session := ids.foldlM store s

/-- Removes the ids of an array. -/
def rmAll (s : Session) (ids : List Int) : Option Session := ids.foldlM rmSessionId s

/-- The table holds the ids of a list, and is free behind it. -/
structure Holds (s : Session) (live : List Int) : Prop where
  number : s.numberOfJobs = live.length
  room : live.length ≤ sessionJobs
  nodup : live.Nodup
  ids : -1 ∉ live
  entries : ∀ i < sessionJobs, s.jobIds i = live[i]?.getD (-1)

/-- The ids of new jobs are not those of jobs that the session has. -/
structure New (live ids : List Int) : Prop where
  nodup : ids.Nodup
  fresh : ∀ jid ∈ ids, jid ∉ live ∧ jid ≠ -1

variable {s s' : Session} {live : List Int} {jid : Int} {i j : Nat}

/-- A cleared table holds no jobs. -/
lemma clear_holds (s : Session) (pid : Option Nat) : (s.clear pid).Holds [] where
  number := rfl
  room := Nat.zero_le _
  nodup := List.nodup_nil
  ids := List.not_mem_nil
  entries _ inside := if_pos inside

lemma read_eq (below : i < sessionJobs) : s.read i = some (s.jobIds i) := by
  rw [read, if_pos ⟨Int.natCast_nonneg i, Int.ofNat_lt.2 below⟩]
  rfl

lemma write_eq (below : i < sessionJobs) :
    s.write i jid = some { s with jobIds := Function.update s.jobIds i jid } := by
  rw [write, if_pos ⟨Int.natCast_nonneg i, Int.ofNat_lt.2 below⟩]
  rfl

lemma write_none {i : Int} (outside : ¬(0 ≤ i ∧ i < sessionJobs)) : s.write i jid = none :=
  if_neg outside

/-- The loop moves every entry from one to the last but one. -/
lemma moveUp_eq (n : Nat) (inside : i + n < sessionJobs) :
    s.moveUp (List.range' i n) = some { s with
      jobIds := fun k => if i ≤ k ∧ k < i + n then s.jobIds (k + 1) else s.jobIds k } := by
  induction n generalizing s i with
  | zero =>
    have same : (fun k => if i ≤ k ∧ k < i + 0 then s.jobIds (k + 1) else s.jobIds k) = s.jobIds := by
      funext k
      rw [if_neg (by omega)]
    rw [List.range'_zero, moveUp, same]
  | succ n ih =>
    have next : s.read (i + 1) = some (s.jobIds (i + 1)) := read_eq (i := i + 1) (by omega)
    rw [List.range'_succ, moveUp, next, Option.bind_eq_bind, Option.bind_some,
      write_eq (by omega), Option.bind_eq_bind, Option.bind_some, ih (by omega)]
    refine congrArg (fun f => some ({ s with jobIds := f } : Session)) (funext fun k => ?_)
    dsimp only
    by_cases here : k = i
    · subst here
      rw [if_neg (by omega), if_pos (by omega), Function.update_self]
    · rw [Function.update_of_ne here]
      by_cases within : i + 1 ≤ k ∧ k < i + 1 + n
      · rw [if_pos within, if_pos (by omega), Function.update_of_ne (by omega)]
      · rw [if_neg within, if_neg (by omega)]

namespace Holds

/-- An id that is not -1 is found where the list has it. -/
lemma find (holds : s.Holds live) (job : jid ≠ -1) :
    s.find jid = if jid ∈ live then some (live.idxOf jid) else none := by
  rw [Session.find]
  by_cases mem : jid ∈ live
  · rw [if_pos mem]
    have below : live.idxOf jid < live.length := List.idxOf_lt_length_iff.2 mem
    have inside {i : Nat} (le : i ≤ live.idxOf jid) : i < live.length ∧ i < sessionJobs :=
      ⟨Nat.lt_of_le_of_lt le below, Nat.lt_of_lt_of_le (Nat.lt_of_le_of_lt le below) holds.room⟩
    have entry {i : Nat} (le : i ≤ live.idxOf jid) : s.jobIds i = live.get ⟨i, (inside le).1⟩ := by
      rw [holds.entries i (inside le).2, List.getElem?_eq_getElem (inside le).1]
      rfl
    rw [List.find?_range_eq_some]
    refine ⟨?_, List.mem_range.2 (inside (Nat.le_refl _)).2, fun j before => ?_⟩
    · rw [entry (Nat.le_refl _)]
      exact decide_eq_true (List.getElem_idxOf below)
    · rw [entry (Nat.le_of_lt before), Bool.not_eq_true', decide_eq_false_iff_not]
      intro same
      exact Bool.eq_false_iff.1 (List.not_of_lt_findIdx before) (beq_iff_eq.2 same)
  · rw [if_neg mem, List.find?_eq_none]
    intro i inside
    rw [decide_eq_true_iff, holds.entries i (List.mem_range.1 inside)]
    intro same
    cases there : live[i]? with
    | none =>
      rw [there] at same
      exact job same.symm
    | some k =>
      rw [there] at same
      exact mem (same ▸ List.mem_of_getElem? there)

/-- A job is taken out of the list; one that is not there changes nothing. -/
theorem rm (holds : s.Holds live) (job : jid ≠ -1) :
    ∃ s', s.rmSessionId jid = some s' ∧ s'.Holds (live.erase jid) ∧ s'.sessionId = s.sessionId := by
  rw [rmSessionId, holds.find job]
  by_cases mem : jid ∈ live
  · rw [if_pos mem]
    have below : live.idxOf jid < live.length := List.idxOf_lt_length_iff.2 mem
    have length : (live.erase jid).length = live.length - 1 := List.length_erase_of_mem mem
    have room := holds.room
    have fewer : s.numberOfJobs - 1 = (live.length - 1 : Nat) := by
      rw [holds.number]
      omega
    dsimp only
    rw [fewer, show ((live.length - 1 : Nat) - live.idxOf jid : Int).toNat =
      live.length - 1 - live.idxOf jid by omega]
    have moved := moveUp_eq (s := { s with numberOfJobs := (live.length - 1 : Nat) })
      (i := live.idxOf jid) (live.length - 1 - live.idxOf jid) (by omega)
    rw [moved, Option.bind_eq_bind, Option.bind_some, write_eq (by omega)]
    refine ⟨_, rfl, ⟨?_, ?_, holds.nodup.erase jid, ?_, fun i inside => ?_⟩, rfl⟩
    · exact congrArg Nat.cast length.symm
    · omega
    · exact fun h => holds.ids (List.mem_of_mem_erase h)
    · dsimp only
      rw [List.erase_eq_eraseIdx_of_idxOf rfl, List.getElem?_eraseIdx]
      by_cases last : i = live.length - 1
      · subst last
        rw [Function.update_self, if_neg (by omega), List.getElem?_eq_none (by omega)]
        rfl
      · rw [Function.update_of_ne last]
        by_cases before : i < live.idxOf jid
        · rw [if_neg (by omega), if_pos before, holds.entries i inside]
        · rw [if_neg before]
          by_cases within : i < live.length - 1
          · rw [if_pos (by omega), holds.entries (i + 1) (by omega)]
          · rw [if_neg (by omega), holds.entries i inside, List.getElem?_eq_none (by omega),
              List.getElem?_eq_none (by omega)]
  · rw [if_neg mem, List.erase_of_not_mem mem]
    exact ⟨s, rfl, holds, rfl⟩

/-- The id -1 is that of the first free entry, and the number of jobs goes down. -/
lemma find_free (holds : s.Holds live) (room : live.length < sessionJobs) :
    s.find (-1) = some live.length := by
  rw [Session.find, List.find?_range_eq_some]
  refine ⟨?_, List.mem_range.2 room, fun j before => ?_⟩
  · rw [holds.entries _ room, List.getElem?_eq_none (Nat.le_refl _)]
    rfl
  · rw [Bool.not_eq_true', decide_eq_false_iff_not, holds.entries j (Nat.lt_trans before room),
      List.getElem?_eq_getElem before]
    intro same
    exact holds.ids (same ▸ List.getElem_mem before)

lemma find_full (holds : s.Holds live) (full : live.length = sessionJobs) : s.find (-1) = none := by
  rw [Session.find, List.find?_eq_none]
  intro i inside
  have below : i < live.length := full ▸ List.mem_range.1 inside
  rw [decide_eq_true_iff, holds.entries i (List.mem_range.1 inside), List.getElem?_eq_getElem below]
  intro same
  exact holds.ids (same ▸ List.getElem_mem below)

/-- A full table has no free entry that could be taken for a job. -/
lemma rm_full (holds : s.Holds live) (full : live.length = sessionJobs) :
    s.rmSessionId (-1) = some s := by
  rw [rmSessionId, holds.find_full full]

/-- A free entry is taken for a job, and the last job is dropped. -/
theorem rm_free (holds : s.Holds live) (room : live.length < sessionJobs) :
    ∀ s', s.rmSessionId (-1) = some s' → s'.numberOfJobs = live.length - 1 := by
  intro s' done
  rw [rmSessionId, holds.find_free room] at done
  dsimp only at done
  rw [holds.number, show (live.length - 1 - live.length : Int).toNat = 0 by omega, List.range'_zero,
    moveUp, Option.bind_eq_bind, Option.bind_some, write] at done
  split at done
  · cases done
    rfl
  · cases done

/-- A new job is put behind the others. -/
theorem store (holds : s.Holds live) (room : live.length < sessionJobs) (fresh : jid ∉ live)
    (job : jid ≠ -1) :
    ∃ s', s.store jid = some s' ∧ s'.Holds (live ++ [jid]) ∧ s'.sessionId = s.sessionId := by
  rw [Session.store, holds.number, write_eq room, Option.bind_eq_bind, Option.bind_some]
  refine ⟨_, rfl, ⟨?_, ?_, ?_, ?_, fun i inside => ?_⟩, rfl⟩
  · show s.numberOfJobs + 1 = _
    rw [holds.number, List.length_append]
    rfl
  · rw [List.length_append]
    exact room
  · rw [List.nodup_append]
    refine ⟨holds.nodup, List.nodup_singleton jid, ?_⟩
    rintro k mem _ one rfl
    exact fresh (List.mem_singleton.1 one ▸ mem)
  · rw [List.mem_append, List.mem_singleton]
    exact fun h => h.elim holds.ids fun same => job same.symm
  · dsimp only
    by_cases last : i = live.length
    · subst last
      rw [Function.update_self, List.getElem?_append_right (Nat.le_refl _), Nat.sub_self]
      rfl
    · rw [Function.update_of_ne last, holds.entries i inside]
      by_cases before : i < live.length
      · rw [List.getElem?_append_left before]
      · rw [List.getElem?_eq_none (Nat.le_of_not_lt before), List.getElem?_eq_none]
        rw [List.length_append, List.length_singleton]
        omega

/-- There is no entry for a new job in a full table. -/
lemma store_full (holds : s.Holds live) (full : live.length = sessionJobs) : s.store jid = none := by
  rw [Session.store, write_none]
  · rfl
  · rw [holds.number, full]
    omega

lemma reads (l : List Nat) (inside : ∀ i ∈ l, i < sessionJobs) :
    l.mapM (fun i : Nat => s.read i) = some (l.map s.jobIds) := by
  induction l with
  | nil => rfl
  | cons i l ih =>
    obtain ⟨first, rest⟩ := List.forall_mem_cons.1 inside
    rw [List.mapM_cons, read_eq first, ih rest]
    rfl

/-- The copy is the list of the jobs with the id -1 behind it. -/
theorem copy (holds : s.Holds live) (room : live.length < sessionJobs) :
    s.copy = some (live ++ [-1]) := by
  rw [Session.copy, holds.number, show (live.length + 1 : Int).toNat = live.length + 1 by omega,
    reads _ fun i mem => Nat.lt_of_lt_of_le (List.mem_range.1 mem) room]
  refine congrArg some (List.ext_getElem? fun i => ?_)
  rw [List.getElem?_map]
  obtain before | last | after := Nat.lt_trichotomy i live.length
  · rw [List.getElem?_range (Nat.lt_succ_of_lt before), List.getElem?_append_left before,
      Option.map_some, holds.entries i (Nat.lt_trans before room), List.getElem?_eq_getElem before]
    rfl
  · subst last
    rw [List.getElem?_range (Nat.lt_succ_self _), List.getElem?_append_right (Nat.le_refl _),
      Nat.sub_self, Option.map_some, holds.entries _ room, List.getElem?_eq_none (Nat.le_refl _)]
    rfl
  · rw [List.getElem?_eq_none, List.getElem?_eq_none]
    · rfl
    · rw [List.length_append]
      exact after
    · rw [List.length_range]
      exact after

/-- The copy of a full table reads behind it. -/
lemma copy_full (holds : s.Holds live) (full : live.length = sessionJobs) : s.copy = none := by
  rw [Session.copy, holds.number, show (live.length + 1 : Int).toNat = live.length + 1 by omega,
    List.range_succ, List.mapM_append, List.mapM_cons]
  have last : s.read live.length = none := by
    rw [Session.read, if_neg]
    rw [full]
    omega
  rw [last]
  cases (List.range live.length).mapM fun i : Nat => s.read i <;> rfl

/-- The jobs of an array are put behind the others. -/
theorem storeAll (holds : s.Holds live) (ids : List Int) (room : live.length + ids.length ≤ sessionJobs)
    (new : New live ids) :
    ∃ s', s.storeAll ids = some s' ∧ s'.Holds (live ++ ids) := by
  induction ids generalizing s live with
  | nil =>
    rw [List.append_nil]
    exact ⟨s, rfl, holds⟩
  | cons jid ids ih =>
    obtain ⟨notIn, nodup⟩ := List.nodup_cons.1 new.nodup
    obtain ⟨⟨fresh, job⟩, rest⟩ := List.forall_mem_cons.1 new.fresh
    rw [List.length_cons] at room
    obtain ⟨s₁, stored, holds₁, -⟩ := holds.store (by omega) fresh job
    have new₁ : New (live ++ [jid]) ids := by
      refine ⟨nodup, fun k mem => ⟨fun old => ?_, (rest k mem).2⟩⟩
      obtain old | same := List.mem_append.1 old
      · exact (rest k mem).1 old
      · exact notIn (List.mem_singleton.1 same ▸ mem)
    have room₁ : (live ++ [jid]).length + ids.length ≤ sessionJobs := by
      rw [List.length_append, List.length_singleton]
      omega
    obtain ⟨s', done, holds'⟩ := ih holds₁ room₁ new₁
    refine ⟨s', ?_, ?_⟩
    · rw [Session.storeAll, List.foldlM_cons, stored]
      exact done
    · rw [List.append_assoc] at holds'
      exact holds'

/-- The jobs of an array are taken out of the list. -/
theorem rmAll (holds : s.Holds live) (ids : List Int) (jobs : -1 ∉ ids) :
    ∃ s', s.rmAll ids = some s' ∧ s'.Holds (ids.foldl List.erase live) := by
  induction ids generalizing s live with
  | nil => exact ⟨s, rfl, holds⟩
  | cons jid ids ih =>
    have job : jid ≠ -1 := fun same => jobs (same ▸ List.mem_cons_self)
    obtain ⟨s₁, removed, holds₁, -⟩ := holds.rm job
    obtain ⟨s', done, holds'⟩ := ih holds₁ fun mem => jobs (List.mem_cons_of_mem jid mem)
    refine ⟨s', ?_, holds'⟩
    rw [Session.rmAll, List.foldlM_cons, removed]
    exact done

end Holds

end Session

end GridWay.Drmaa
