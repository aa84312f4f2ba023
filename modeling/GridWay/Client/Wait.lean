import Mathlib.Data.List.Basic
import Mathlib.Data.List.Nodup
import Mathlib.Data.List.Perm.Basic

/-!
# Waiting for a set of jobs

`gw_client_wait_set` of `client/gw_client_wait.c`. The jobs end when they will, and the answers of the
daemon arrive one after the other; what the client does itself takes no time. The clock that it reads
counts whole seconds.

* `gw_client_wait_set`: the function, with what it has written when it returns.
* `Kept`: what it promises to its callers.
* `wait_set_keeps_iff`: the sets of jobs for which it keeps its promise whatever happens.
-/

namespace GridWay.Client

/-- `gw_return_code_t`. -/
inductive Rc where
  | success
  | failedInit
  | failedConnection
  | failedTimeout
  | failedBadJobId
  | failedJobFail
  | failedJobKilled
  | failedPerm
deriving DecidableEq, Repr

/-- What becomes of a job: when it ends and with which exit code, what the daemon answers to a wait for
it, and what it says when it is asked whether the job has ended, nothing if it does not know the job. -/
structure Job where
  ends : Nat
  exitCode : Int
  rc : Rc
  polled : Nat → Option Bool
  ended_of_polled : ∀ t, polled t = some true → ends ≤ t

/-- The answer to a wait. -/
structure Msg where
  rc : Rc
  jobId : Int
  exitCode : Int
deriving DecidableEq, Repr

/-- What arrives at the client, and when; the end of the connection is not a message. -/
structure Arrival where
  time : Nat
  msg : Option Msg
deriving DecidableEq, Repr

/-- What happens outside of the client: whether its requests get through, what becomes of the jobs, and
what arrives. -/
structure World where
  initialized : Bool
  connected : Bool
  sent : Nat → Bool
  jobs : Int → Job
  arrivals : List Arrival

/-- What the client has when it returns: the arrays of its caller, and the time. -/
structure Result where
  rc : Rc
  job_ids : List Int
  exit_codes : List (Option Int)
  time : Nat
deriving DecidableEq, Repr

/-- `time(NULL)`, when time is counted in microseconds. -/
def clock (t : Nat) : Int := (t / 1000000 : Nat)

/-- What `select` returns. -/
inductive Selected where
  | ready
  | elapsed
  | invalid
deriving DecidableEq, Repr

/-- `select` on the connection, for a number of seconds: it ends when something arrives, and fails at once
when the number is negative. -/
def select (tv_sec : Int) (arrivals : List Arrival) (now : Nat) : Selected × Nat :=
  if tv_sec < 0 then (.invalid, now)
  else match arrivals with
    | [] => (.elapsed, now + tv_sec.toNat * 1000000)
    | a :: _ =>
      if a.time ≤ now + tv_sec.toNat * 1000000 then (.ready, max now a.time)
      else (.elapsed, now + tv_sec.toNat * 1000000)

/-- `gw_client_test_job`, for the request `i` of the client. -/
def gw_client_test_job (w : World) (i : Nat) (now : Nat) (job_id : Int) : Rc × Option Int :=
  if w.sent i then
    match (w.jobs job_id).polled now with
    | none => (.failedBadJobId, none)
    | some false => (.success, none)
    | some true => (.success, some (w.jobs job_id).exitCode)
  else (.failedConnection, none)

/-- The jobs are tested until one of them has ended. -/
def testAny (w : World) (now : Nat) (job_ids : List Int) : Nat → List Int → Result
  | _, [] => ⟨.failedTimeout, job_ids, [none], now⟩
  | i, job_id :: rest =>
    match gw_client_test_job w i now job_id with
    | (.success, some code) => ⟨.success, job_ids.set 0 job_id, [some code], now⟩
    | (.success, none) => testAny w now job_ids (i + 1) rest
    | (rc, _) => ⟨rc, job_ids, [none], now⟩

/-- The jobs are tested until one of them has not ended. -/
def testAll (w : World) (now : Nat) (job_ids : List Int) (exit_codes : List (Option Int)) :
    Nat → List Int → Result
  | _, [] => ⟨.success, job_ids, exit_codes, now⟩
  | j, job_id :: rest =>
    match gw_client_test_job w j now job_id with
    | (.success, some code) => testAll w now job_ids (exit_codes.set j (some code)) (j + 1) rest
    | (.success, none) => ⟨.failedTimeout, job_ids, exit_codes, now⟩
    | (rc, _) => ⟨rc, job_ids, exit_codes, now⟩

/-- The next answer is awaited, if there is a bound for the seconds that are left. -/
def await (timeout tv_waited : Int) (arrivals : List Arrival) (now : Nat) : Selected × Nat :=
  if timeout > -1 then select (timeout - tv_waited) arrivals now else (.ready, now)

/-- One answer is awaited. -/
def waitAny (timeout : Int) (job_ids : List Int) (arrivals : List Arrival) (now : Nat) :
    Option Result :=
  let selected := await timeout 0 arrivals now
  if selected.1 = .elapsed then some ⟨.failedTimeout, job_ids, [none], selected.2⟩
  else match arrivals with
    | [] => none
    | a :: _ =>
      let now := max selected.2 a.time
      match a.msg with
      | none => some ⟨.failedConnection, job_ids, [none], now⟩
      | some msg =>
        if msg.rc = .success then
          some ⟨.success, job_ids.set 0 msg.jobId, [some msg.exitCode], now⟩
        else some ⟨msg.rc, job_ids, [none], now⟩

/-- The exit code of an answer is written for the first job with its id. -/
def note (job_ids : List Int) (exit_codes : List (Option Int)) (msg : Msg) : List (Option Int) :=
  exit_codes.set (job_ids.idxOf msg.jobId) (some msg.exitCode)

/-- As many answers are awaited as are left, with the seconds that were waited so far. -/
def waitAll (timeout : Int) (job_ids : List Int) :
    Nat → List Arrival → Nat → Int → List (Option Int) → Rc → Option Result
  | 0, _, now, _, exit_codes, gwrc => some ⟨gwrc, job_ids, exit_codes, now⟩
  | left + 1, arrivals, now, tv_waited, exit_codes, gwrc =>
    let selected := await timeout tv_waited arrivals now
    let tv_waited := tv_waited + (clock selected.2 - clock now)
    if selected.1 = .elapsed then some ⟨.failedTimeout, job_ids, exit_codes, selected.2⟩
    else match arrivals with
      | [] => none
      | a :: rest =>
        let now := max selected.2 a.time
        match a.msg with
        | none => some ⟨.failedConnection, job_ids, exit_codes, now⟩
        | some msg =>
          if msg.rc = .success then
            waitAll timeout job_ids left rest now tv_waited (note job_ids exit_codes msg) gwrc
          else waitAll timeout job_ids left rest now tv_waited exit_codes msg.rc

/-- `gw_client_wait_set`; it does not return when it waits for an answer that never comes. The array of the
jobs ends with `-1`. -/
def gw_client_wait_set (w : World) (array : List Int) (any : Bool) (timeout : Int) (now : Nat) :
    Option Result :=
  let job_ids := array.takeWhile (· ≠ -1)
  if ¬w.initialized then some ⟨.failedInit, job_ids, [], now⟩
  else if timeout = 0 then
    if any then some (testAny w now job_ids 0 job_ids)
    else some (testAll w now job_ids (job_ids.map fun _ => none) 0 job_ids)
  else if ¬w.connected then some ⟨.failedConnection, job_ids, [], now⟩
  else if ¬(List.range job_ids.length).all w.sent then some ⟨.failedConnection, job_ids, [], now⟩
  else if job_ids = [] then some ⟨.success, job_ids, [], now⟩
  else if any then waitAny timeout job_ids w.arrivals now
  else waitAll timeout job_ids job_ids.length w.arrivals now 0 (job_ids.map fun _ => none) .success

/-- An answer is about a job of the set; that a wait was successful is said when the job has ended, with its
exit code. -/
structure Answers (jobs : Int → Job) (job_ids : List Int) (a : Arrival) (msg : Msg) : Prop where
  mem : msg.jobId ∈ job_ids
  code : msg.rc = .success → msg.exitCode = (jobs msg.jobId).exitCode
  ended : msg.rc = .success → (jobs msg.jobId).ends ≤ a.time

/-- A wait for all jobs is answered once for each of them, unless the connection ends before. -/
def Complete (job_ids : List Int) (arrivals : List Arrival) : Prop :=
  ∃ answers rest, arrivals = answers ++ rest ∧
    ((answers.filterMap Arrival.msg).map Msg.jobId).Subperm job_ids ∧
    ((answers.filterMap Arrival.msg).length = job_ids.length ∨
      ∃ a rest', rest = a :: rest' ∧ a.msg = none)

/-- What arrives at the client comes from a daemon that answers each wait, in any order and at any time
after the jobs have ended. -/
structure Faithful (w : World) (job_ids : List Int) (any : Bool) : Prop where
  answers : ∀ a ∈ w.arrivals, ∀ msg, a.msg = some msg → Answers w.jobs job_ids a msg
  one : any = true → job_ids ≠ [] → w.arrivals ≠ []
  all : any = false → Complete job_ids w.arrivals

/-- What a caller is promised. -/
structure Kept (w : World) (job_ids : List Int) (any : Bool) (timeout : Int) (start : Nat)
    (r : Result) : Prop where
  all : r.rc = .success → any = false → ∀ (k : Nat) (id : Int), job_ids[k]? = some id →
    r.exit_codes[k]? = some (some (w.jobs id).exitCode)
  one : r.rc = .success → any = true → ∃ id ∈ job_ids, r.job_ids.head? = some id ∧
    r.exit_codes = [some (w.jobs id).exitCode] ∧ (w.jobs id).ends ≤ r.time
  punctual : 0 ≤ timeout → clock r.time ≤ clock start + timeout

section Select

variable {timeout tv_sec : Int} {arrivals rest : List Arrival} {a : Arrival} {now time : Nat}

/-- Whole seconds that pass are seen by the clock. -/
lemma clock_add (now k : Nat) : clock (now + k * 1000000) = clock now + k := by
  rw [clock, clock, Nat.add_mul_div_right _ _ (by decide)]
  exact Int.natCast_add _ _

lemma clock_mono {s t : Nat} (le : s ≤ t) : clock s ≤ clock t := by
  rw [clock, clock]
  exact Int.ofNat_le.2 (Nat.div_le_div_right le)

/-- `select` does not last longer than it was told. -/
lemma select_punctual (pos : 0 ≤ tv_sec) :
    now ≤ (select tv_sec arrivals now).2 ∧
      clock (select tv_sec arrivals now).2 ≤ clock now + tv_sec := by
  have bound : clock (now + tv_sec.toNat * 1000000) = clock now + tv_sec := by
    rw [clock_add, Int.toNat_of_nonneg pos]
  cases arrivals with
  | nil =>
    rw [select, if_neg (Int.not_lt.2 pos)]
    exact ⟨Nat.le_add_right _ _, Int.le_of_eq bound⟩
  | cons a rest =>
    rw [select, if_neg (Int.not_lt.2 pos)]
    by_cases soon : a.time ≤ now + tv_sec.toNat * 1000000
    · rw [if_pos soon]
      refine ⟨Nat.le_max_left _ _, ?_⟩
      rw [← bound]
      exact clock_mono (Nat.max_le.2 ⟨Nat.le_add_right _ _, soon⟩)
    · rw [if_neg soon]
      exact ⟨Nat.le_add_right _ _, Int.le_of_eq bound⟩

/-- What can be read after `select` is there already. -/
lemma select_read (pos : 0 ≤ tv_sec) (ready : (select tv_sec (a :: rest) now).1 ≠ .elapsed) :
    max (select tv_sec (a :: rest) now).2 a.time = (select tv_sec (a :: rest) now).2 := by
  rw [select, if_neg (Int.not_lt.2 pos)] at ready ⊢
  by_cases soon : a.time ≤ now + tv_sec.toNat * 1000000
  · rw [if_pos soon]
    exact Nat.max_eq_left (Nat.le_max_right _ _)
  · rw [if_neg soon] at ready
    exact absurd rfl ready

/-- Without an answer `select` ends with the time. -/
lemma select_nil (pos : 0 ≤ tv_sec) : (select tv_sec [] now).1 = .elapsed := by
  rw [select, if_neg (Int.not_lt.2 pos)]

end Select

section All

variable {w : World} {timeout waited : Int} {job_ids : List Int} {arrivals : List Arrival}
  {now start left : Nat} {codes : List (Option Int)} {gwrc : Rc} {r : Result}

/-- The answers, or the end of the connection, are there for as many waits as are left. -/
def Served : Nat → List Arrival → Prop
  | 0, _ => True
  | _ + 1, [] => False
  | left + 1, a :: rest => a.msg = none ∨ Served left rest

/-- One round of the loop. -/
lemma waitAll_cons (a : Arrival) (rest : List Arrival) :
    waitAll timeout job_ids (left + 1) (a :: rest) now waited codes gwrc =
      if (await timeout waited (a :: rest) now).1 = .elapsed then
        some ⟨.failedTimeout, job_ids, codes, (await timeout waited (a :: rest) now).2⟩
      else match a.msg with
        | none => some ⟨.failedConnection, job_ids, codes,
            max (await timeout waited (a :: rest) now).2 a.time⟩
        | some msg =>
          if msg.rc = .success then
            waitAll timeout job_ids left rest (max (await timeout waited (a :: rest) now).2 a.time)
              (waited + (clock (await timeout waited (a :: rest) now).2 - clock now))
              (note job_ids codes msg) gwrc
          else
            waitAll timeout job_ids left rest (max (await timeout waited (a :: rest) now).2 a.time)
              (waited + (clock (await timeout waited (a :: rest) now).2 - clock now)) codes msg.rc :=
  rfl

/-- A set that is served is waited for until the end. -/
lemma waitAll_returns (served : Served left arrivals) :
    ∃ r, waitAll timeout job_ids left arrivals now waited codes gwrc = some r := by
  induction left generalizing arrivals now waited codes gwrc with
  | zero => exact ⟨_, rfl⟩
  | succ left ih =>
    cases arrivals with
    | nil => exact served.elim
    | cons a rest =>
      rw [waitAll_cons]
      split
      · exact ⟨_, rfl⟩
      · cases read : a.msg with
        | none => exact ⟨_, rfl⟩
        | some msg =>
          have served : Served left rest := by
            obtain broken | served := served
            · rw [read] at broken
              cases broken
            · exact served
          dsimp only
          split
          · exact ih served
          · exact ih served

/-- What is awaited within the seconds that are left is read at once. -/
lemma await_punctual (pos : 0 ≤ timeout) (within : waited ≤ timeout) :
    now ≤ (await timeout waited arrivals now).2 ∧
      waited + (clock (await timeout waited arrivals now).2 - clock now) ≤ timeout := by
  have remaining : 0 ≤ timeout - waited := by omega
  obtain ⟨later, bound⟩ : now ≤ (select (timeout - waited) arrivals now).2 ∧
      clock (select (timeout - waited) arrivals now).2 ≤ clock now + (timeout - waited) :=
    select_punctual remaining
  rw [await, if_pos (show timeout > -1 by omega)]
  exact ⟨later, by omega⟩

lemma await_read {a : Arrival} {rest : List Arrival} (pos : 0 ≤ timeout) (within : waited ≤ timeout)
    (ready : (await timeout waited (a :: rest) now).1 ≠ .elapsed) :
    max (await timeout waited (a :: rest) now).2 a.time =
      (await timeout waited (a :: rest) now).2 := by
  rw [await, if_pos (show timeout > -1 by omega)] at ready ⊢
  exact select_read (by omega) ready

/-- The time that was waited is that of the clock, and no more than was allowed. -/
lemma waitAll_punctual (pos : 0 ≤ timeout) (seen : clock now = clock start + waited)
    (within : waited ≤ timeout)
    (returned : waitAll timeout job_ids left arrivals now waited codes gwrc = some r) :
    clock r.time ≤ clock start + timeout := by
  induction left generalizing arrivals now waited codes gwrc with
  | zero =>
    cases returned
    show clock now ≤ _
    omega
  | succ left ih =>
    have bound : waited + (clock (await timeout waited arrivals now).2 - clock now) ≤ timeout :=
      (await_punctual pos within).2
    cases arrivals with
    | nil =>
      have elapsed : (await timeout waited [] now).1 = .elapsed := by
        rw [await, if_pos (show timeout > -1 by omega)]
        exact select_nil (by omega)
      rw [waitAll, if_pos elapsed] at returned
      cases returned
      dsimp only
      omega
    | cons a rest =>
      rw [waitAll_cons] at returned
      split at returned
      · cases returned
        dsimp only
        omega
      · next ready =>
        rw [await_read pos within ready] at returned
        cases read : a.msg with
        | none =>
          rw [read] at returned
          cases returned
          dsimp only
          omega
        | some msg =>
          rw [read] at returned
          dsimp only at returned
          split at returned
          · exact ih (by omega) bound returned
          · exact ih (by omega) bound returned

/-- A wait that succeeded has read a successful answer for each job. -/
lemma waitAll_success (returned : waitAll timeout job_ids left arrivals now waited codes gwrc = some r)
    (success : r.rc = .success) :
    gwrc = .success ∧ ∃ msgs : List Msg, msgs.map some = (arrivals.take left).map Arrival.msg ∧
      msgs.length = left ∧ (∀ msg ∈ msgs, msg.rc = .success) ∧
      r.exit_codes = msgs.foldl (note job_ids) codes := by
  induction left generalizing arrivals now waited codes gwrc with
  | zero =>
    cases returned
    exact ⟨success, [], rfl, rfl, nofun, rfl⟩
  | succ left ih =>
    cases arrivals with
    | nil =>
      rw [waitAll] at returned
      split at returned
      · cases returned
        cases success
      · cases returned
    | cons a rest =>
      rw [waitAll_cons] at returned
      split at returned
      · cases returned
        cases success
      · cases read : a.msg with
        | none =>
          rw [read] at returned
          cases returned
          cases success
        | some msg =>
          rw [read] at returned
          dsimp only at returned
          split at returned
          · next good =>
            obtain ⟨before, msgs, taken, length, all, written⟩ := ih returned
            refine ⟨before, msg :: msgs, ?_, ?_, ?_, written⟩
            · rw [List.map_cons, List.take_succ_cons, List.map_cons, taken, read]
            · rw [List.length_cons, length]
            · intro other mem
              obtain rfl | mem := List.mem_cons.1 mem
              · exact good
              · exact all other mem
          · next bad => exact absurd (ih returned).1 bad

/-- Codes are written for the first job with an id only, and are those of the job. -/
structure Rightly (jobs : Int → Job) (job_ids : List Int) (codes : List (Option Int)) : Prop where
  length : codes.length = job_ids.length
  own : ∀ (k : Nat) (c : Int), codes[k]? = some (some c) →
    ∃ id, job_ids[k]? = some id ∧ job_ids.idxOf id = k ∧ c = (jobs id).exitCode

/-- An exit code has been written. -/
def Written (codes : List (Option Int)) (k : Nat) : Prop := ∃ c, codes[k]? = some (some c)

lemma rightly_start (jobs : Int → Job) (job_ids : List Int) :
    Rightly jobs job_ids (job_ids.map fun _ => none) := by
  refine ⟨List.length_map _, ?_⟩
  intro k c here
  rw [List.getElem?_map] at here
  cases found : job_ids[k]? with
  | none =>
    rw [found] at here
    cases here
  | some id =>
    rw [found] at here
    cases here

section Note

variable {jobs : Int → Job} {msg : Msg} {msgs : List Msg}

lemma note_rightly (h : Rightly jobs job_ids codes) (mem : msg.jobId ∈ job_ids)
    (code : msg.exitCode = (jobs msg.jobId).exitCode) : Rightly jobs job_ids (note job_ids codes msg) := by
  refine ⟨(List.length_set).trans h.length, ?_⟩
  intro k c here
  rw [note, List.getElem?_set] at here
  by_cases same : job_ids.idxOf msg.jobId = k
  · have bound : job_ids.idxOf msg.jobId < job_ids.length := List.idxOf_lt_length_iff.2 mem
    rw [if_pos same, if_pos (by rw [h.length]; exact bound)] at here
    cases here
    refine ⟨msg.jobId, ?_, same, code⟩
    rw [← same, List.getElem?_eq_getElem bound, List.getElem_idxOf]
  · rw [if_neg same] at here
    exact h.own k c here

lemma note_written {k : Nat} (h : Written codes k) : Written (note job_ids codes msg) k := by
  obtain ⟨c, here⟩ := h
  rw [Written, note, List.getElem?_set]
  by_cases same : job_ids.idxOf msg.jobId = k
  · have bound : k < codes.length := List.getElem?_eq_some_iff.1 here |>.1
    exact ⟨msg.exitCode, by rw [if_pos same, same, if_pos bound]⟩
  · exact ⟨c, by rw [if_neg same, here]⟩

lemma note_own (h : Rightly jobs job_ids codes) (mem : msg.jobId ∈ job_ids) :
    Written (note job_ids codes msg) (job_ids.idxOf msg.jobId) := by
  have bound : job_ids.idxOf msg.jobId < codes.length := by
    rw [h.length]
    exact List.idxOf_lt_length_iff.2 mem
  exact ⟨msg.exitCode, by rw [note, List.getElem?_set, if_pos rfl, if_pos bound]⟩

/-- The answers that were read have been written, each for the first job with its id. -/
lemma notes_rightly (h : Rightly jobs job_ids codes) (mem : ∀ msg ∈ msgs, msg.jobId ∈ job_ids)
    (code : ∀ msg ∈ msgs, msg.exitCode = (jobs msg.jobId).exitCode) :
    Rightly jobs job_ids (msgs.foldl (note job_ids) codes) ∧
      (∀ k, Written codes k → Written (msgs.foldl (note job_ids) codes) k) ∧
      ∀ msg ∈ msgs, Written (msgs.foldl (note job_ids) codes) (job_ids.idxOf msg.jobId) := by
  induction msgs generalizing codes with
  | nil => exact ⟨h, fun _ written => written, nofun⟩
  | cons first msgs ih =>
    have step := note_rightly h (mem first List.mem_cons_self) (code first List.mem_cons_self)
    obtain ⟨right, kept, written⟩ := ih step (fun msg later => mem msg (List.mem_cons_of_mem _ later))
      fun msg later => code msg (List.mem_cons_of_mem _ later)
    refine ⟨right, fun k before => kept k (note_written before), ?_⟩
    intro msg here
    obtain rfl | later := List.mem_cons.1 here
    · exact kept _ (note_own h (mem msg List.mem_cons_self))
    · exact written msg later

end Note

/-- The answers that are read for all jobs of a set. -/
lemma Complete.perm {msgs : List Msg} (complete : Complete job_ids arrivals)
    (taken : msgs.map some = (arrivals.take job_ids.length).map Arrival.msg)
    (length : msgs.length = job_ids.length) : (msgs.map Msg.jobId).Perm job_ids := by
  obtain ⟨answers, rest, rfl, some_of, all⟩ := complete
  have within : job_ids.length ≤ answers.length := by
    obtain same | ⟨a, rest', rfl, broken⟩ := all
    · exact Nat.le_trans (Nat.le_of_eq same.symm) (List.length_filterMap_le _ _)
    · -- the end of the connection would have been read
      by_contra beyond
      have found : ((answers ++ a :: rest').take job_ids.length)[answers.length]? = some a := by
        rw [List.getElem?_take_of_lt (by omega), List.getElem?_append_right (Nat.le_refl _), Nat.sub_self]
        rfl
      have value : (msgs.map some)[answers.length]? =
          (((answers ++ a :: rest').take job_ids.length).map Arrival.msg)[answers.length]? := by
        rw [taken]
      rw [List.getElem?_map, List.getElem?_map, found, Option.map_some, broken] at value
      cases read : msgs[answers.length]? with
      | none =>
        rw [read] at value
        cases value
      | some msg =>
        rw [read] at value
        cases value
  have same : msgs = (answers.take job_ids.length).filterMap Arrival.msg := by
    rw [List.take_append_of_le_length within] at taken
    have parts := congrArg (List.filterMap id) taken
    rw [List.filterMap_map, List.filterMap_map] at parts
    exact List.filterMap_some.symm.trans parts
  have sub : (msgs.map Msg.jobId).Subperm job_ids := by
    rw [same]
    refine List.Sublist.subperm ?_ |>.trans some_of
    exact ((List.take_sublist _ _).filterMap _).map _
  apply sub.perm_of_length_le
  exact Nat.le_of_eq ((List.length_map _).trans length).symm

/-- A wait for all jobs that succeeded has written an exit code for each of them, where it is first. -/
lemma waitAll_rightly (faithful : Faithful w job_ids false)
    (returned : waitAll timeout job_ids job_ids.length w.arrivals now waited
      (job_ids.map fun _ => none) .success = some r)
    (success : r.rc = .success) :
    Rightly w.jobs job_ids r.exit_codes ∧
      ∀ id ∈ job_ids, Written r.exit_codes (job_ids.idxOf id) := by
  obtain ⟨-, msgs, taken, length, all, codes⟩ := waitAll_success returned success
  have perm := (faithful.all rfl).perm taken length
  have about : ∀ msg ∈ msgs, ∃ a, Answers w.jobs job_ids a msg := by
    intro msg mem
    have inside : some msg ∈ (w.arrivals.take job_ids.length).map Arrival.msg := by
      rw [← taken]
      exact List.mem_map_of_mem mem
    obtain ⟨a, arrived, eq⟩ := List.mem_map.1 inside
    exact ⟨a, faithful.answers a (List.mem_of_mem_take arrived) msg eq⟩
  have mem : ∀ msg ∈ msgs, msg.jobId ∈ job_ids := by
    intro msg here
    obtain ⟨a, answer⟩ := about msg here
    exact answer.mem
  have code : ∀ msg ∈ msgs, msg.exitCode = (w.jobs msg.jobId).exitCode := by
    intro msg here
    obtain ⟨a, answer⟩ := about msg here
    exact answer.code (all msg here)
  obtain ⟨right, -, written⟩ := notes_rightly (rightly_start w.jobs job_ids) mem code
  rw [codes]
  refine ⟨right, ?_⟩
  intro id here
  obtain ⟨msg, read, rfl⟩ := List.mem_map.1 (perm.mem_iff.2 here)
  exact written msg read

/-- A set that was waited for has all its exit codes when no job is in it twice. -/
lemma waitAll_codes (faithful : Faithful w job_ids false) (distinct : job_ids.Nodup)
    (returned : waitAll timeout job_ids job_ids.length w.arrivals now waited
      (job_ids.map fun _ => none) .success = some r)
    (success : r.rc = .success) (k : Nat) (id : Int) (here : job_ids[k]? = some id) :
    r.exit_codes[k]? = some (some (w.jobs id).exitCode) := by
  obtain ⟨right, written⟩ := waitAll_rightly faithful returned success
  obtain ⟨bound, rfl⟩ := List.getElem?_eq_some_iff.1 here
  obtain ⟨c, value⟩ := written job_ids[k] (List.getElem_mem bound)
  rw [distinct.idxOf_getElem k bound] at value
  obtain ⟨other, same, -, rfl⟩ := right.own k c value
  rw [here] at same
  cases same
  exact value

/-- A set whose answers are complete is served. -/
lemma Complete.served (complete : Complete job_ids arrivals) : Served job_ids.length arrivals := by
  obtain ⟨answers, rest, rfl, -, all⟩ := complete
  have served (left : Nat) (answers : List Arrival)
      (enough : left ≤ answers.length ∨ ∃ a rest', rest = a :: rest' ∧ a.msg = none) :
      Served left (answers ++ rest) := by
    induction answers generalizing left with
    | nil =>
      cases left with
      | zero => trivial
      | succ left =>
        obtain few | ⟨a, rest', rfl, broken⟩ := enough
        · exact absurd few (Nat.not_succ_le_zero left)
        · exact .inl broken
    | cons a answers ih =>
      cases left with
      | zero => trivial
      | succ left =>
        refine .inr (ih left ?_)
        exact enough.imp_left Nat.le_of_succ_le_succ
  apply served
  exact all.imp_left fun same => Nat.le_trans (Nat.le_of_eq same.symm) (List.length_filterMap_le _ _)

end All

section Test

variable {w : World} {array rest : List Int} {i now : Nat} {id : Int}

/-- A test that says that a job has ended is right. -/
lemma test_ended {code : Int} (tested : gw_client_test_job w i now id = (.success, some code)) :
    code = (w.jobs id).exitCode ∧ (w.jobs id).ends ≤ now := by
  rw [gw_client_test_job] at tested
  split at tested
  · split at tested
    · cases tested
    · cases tested
    · next ended =>
      cases tested
      exact ⟨rfl, (w.jobs id).ended_of_polled now ended⟩
  · cases tested

/-- A test of any job that succeeds has found one that has ended. -/
lemma testAny_success (job_ids : List Int)
    (success : (testAny w now job_ids i rest).rc = .success) :
    ∃ id ∈ rest, (testAny w now job_ids i rest).job_ids = job_ids.set 0 id ∧
      (testAny w now job_ids i rest).exit_codes = [some (w.jobs id).exitCode] ∧
      (w.jobs id).ends ≤ now := by
  induction rest generalizing i with
  | nil => cases success
  | cons first rest ih =>
    rw [testAny] at success ⊢
    cases tested : gw_client_test_job w i now first with
    | mk rc code =>
      rw [tested] at success
      cases rc with
      | success =>
        cases code with
        | some code =>
          obtain ⟨rfl, ended⟩ := test_ended tested
          exact ⟨first, List.mem_cons_self, rfl, rfl, ended⟩
        | none =>
          obtain ⟨id, mem, found⟩ := ih success
          exact ⟨id, List.mem_cons_of_mem _ mem, found⟩
      | _ => cases success

lemma testAny_time (job_ids : List Int) : (testAny w now job_ids i rest).time = now := by
  fun_induction testAny w now job_ids i rest with
  | case3 i first rest _ ih => exact ih
  | _ => rfl

/-- A test of all jobs that succeeds has found all exit codes; those of the jobs before are there. -/
lemma testAll_success (job_ids : List Int) (codes : List (Option Int)) (whole : job_ids.drop i = rest)
    (length : codes.length = job_ids.length)
    (before : ∀ (k : Nat) (id : Int), k < i → job_ids[k]? = some id →
      codes[k]? = some (some (w.jobs id).exitCode))
    (success : (testAll w now job_ids codes i rest).rc = .success) (k : Nat) (id : Int)
    (here : job_ids[k]? = some id) :
    (testAll w now job_ids codes i rest).exit_codes[k]? = some (some (w.jobs id).exitCode) := by
  induction rest generalizing i codes with
  | nil =>
    have bound := (List.getElem?_eq_some_iff.1 here).1
    exact before k id (by rw [List.drop_eq_nil_iff] at whole; omega) here
  | cons first rest ih =>
    have own : job_ids[i]? = some first := by
      rw [← List.head?_drop, whole, List.head?_cons]
    have bound := (List.getElem?_eq_some_iff.1 own).1
    rw [testAll] at success ⊢
    cases tested : gw_client_test_job w i now first with
    | mk rc code =>
      rw [tested] at success
      cases rc with
      | success =>
        cases code with
        | some code =>
          obtain ⟨rfl, -⟩ := test_ended tested
          refine ih _ ?_ ?_ ?_ success
          · rw [← List.tail_drop, whole, List.tail_cons]
          · rw [List.length_set, length]
          · intro k id earlier here
            rw [List.getElem?_set]
            by_cases last : i = k
            · subst last
              rw [own] at here
              cases here
              rw [if_pos rfl, if_pos (by omega)]
            · rw [if_neg last]
              exact before k id (by omega) here
        | none => cases success
      | _ => cases success

lemma testAll_time (job_ids : List Int) (codes : List (Option Int)) :
    (testAll w now job_ids codes i rest).time = now := by
  fun_induction testAll w now job_ids codes i rest with
  | case2 codes i first rest code _ ih => exact ih
  | _ => rfl

end Test

section Set

variable {w : World} {timeout : Int} {job_ids array : List Int} {any : Bool} {now : Nat} {r : Result}

/-- The condition: without a timeout of zero, no job is waited for twice, and any job is awaited of at least
one. -/
def Awaitable (job_ids : List Int) (any : Bool) (timeout : Int) : Prop :=
  timeout = 0 ∨ if any then job_ids ≠ [] else job_ids.Nodup

/-- A call that fails at once. -/
lemma kept_failed {job_ids ids : List Int} {codes : List (Option Int)} {rc : Rc}
    (failed : rc ≠ .success) : Kept w job_ids any timeout now ⟨rc, ids, codes, now⟩ :=
  ⟨fun h => absurd h failed, fun h => absurd h failed, fun pos => (by dsimp only; omega)⟩

/-- The jobs are tested. -/
lemma kept_test (w : World) (job_ids : List Int) (now : Nat) :
    Kept w job_ids true 0 now (testAny w now job_ids 0 job_ids) ∧
      Kept w job_ids false 0 now (testAll w now job_ids (job_ids.map fun _ => none) 0 job_ids) := by
  constructor
  · refine ⟨fun _ h => (by cases h), ?_, ?_⟩
    · intro success _
      obtain ⟨id, mem, ids, codes, ended⟩ := testAny_success job_ids success
      refine ⟨id, mem, ?_, codes, ?_⟩
      · rw [ids]
        cases job_ids with
        | nil => cases mem
        | cons first rest => rfl
      · rw [testAny_time]
        exact ended
    · intro _
      rw [testAny_time]
      omega
  · refine ⟨?_, fun _ h => (by cases h), ?_⟩
    · intro success _ k id here
      refine testAll_success job_ids _ rfl (List.length_map _) ?_ success k id here
      exact fun k _ before => absurd before (Nat.not_lt_zero k)
    · intro _
      rw [testAll_time]
      omega

/-- One answer is awaited. -/
lemma kept_any (faithful : Faithful w job_ids true) (some_job : job_ids ≠ []) :
    ∃ r, waitAny timeout job_ids w.arrivals now = some r ∧ Kept w job_ids true timeout now r := by
  have arrived := faithful.one rfl some_job
  have answers := faithful.answers
  cases arrivals : w.arrivals with
  | nil => exact absurd arrivals arrived
  | cons a rest =>
    rw [arrivals] at answers
    have punctual (pos : 0 ≤ timeout) :
        clock (await timeout 0 (a :: rest) now).2 ≤ clock now + timeout := by
      have bound : 0 + (clock (await timeout 0 (a :: rest) now).2 - clock now) ≤ timeout :=
        (await_punctual pos pos).2
      omega
    have prompt (pos : 0 ≤ timeout) (ready : (await timeout 0 (a :: rest) now).1 ≠ .elapsed) :
        clock (max (await timeout 0 (a :: rest) now).2 a.time) ≤ clock now + timeout := by
      rw [await_read pos pos ready]
      exact punctual pos
    rw [waitAny]
    split
    · exact ⟨_, rfl, nofun, nofun, punctual⟩
    · next ready =>
      cases read : a.msg with
      | none => exact ⟨_, rfl, nofun, nofun, fun pos => prompt pos ready⟩
      | some msg =>
        dsimp only
        split
        · next good =>
          have answer := answers a List.mem_cons_self msg read
          refine ⟨_, rfl, fun _ h => (by cases h), fun _ _ => ?_, fun pos => prompt pos ready⟩
          refine ⟨msg.jobId, answer.mem, ?_, ?_, ?_⟩
          · cases job_ids with
            | nil => exact absurd rfl some_job
            | cons first ids => rfl
          · exact congrArg (fun c => [some c]) (answer.code good)
          · exact Nat.le_trans (answer.ended good) (Nat.le_max_right _ _)
        · next bad =>
          exact ⟨_, rfl, fun h => absurd h bad, fun h => absurd h bad, fun pos => prompt pos ready⟩

/-- All answers are awaited. -/
lemma kept_all (faithful : Faithful w job_ids false) (distinct : job_ids.Nodup) :
    ∃ r, waitAll timeout job_ids job_ids.length w.arrivals now 0 (job_ids.map fun _ => none) .success =
        some r ∧ Kept w job_ids false timeout now r := by
  obtain ⟨r, returned⟩ : ∃ r, waitAll timeout job_ids job_ids.length w.arrivals now 0
      (job_ids.map fun _ => none) .success = some r := waitAll_returns (faithful.all rfl).served
  refine ⟨r, returned, ?_, fun _ h => (by cases h), ?_⟩
  · intro success _ k id here
    exact waitAll_codes faithful distinct returned success k id here
  · intro pos
    exact waitAll_punctual pos (by omega) pos returned

/-- A set that can be awaited. -/
lemma kept_of_awaitable (awaitable : Awaitable (array.takeWhile (· ≠ -1)) any timeout)
    (faithful : Faithful w (array.takeWhile (· ≠ -1)) any) :
    ∃ r, gw_client_wait_set w array any timeout now = some r ∧
      Kept w (array.takeWhile (· ≠ -1)) any timeout now r := by
  rw [gw_client_wait_set]
  generalize array.takeWhile (· ≠ -1) = job_ids at awaitable faithful ⊢
  split
  · exact ⟨_, rfl, kept_failed nofun⟩
  split
  · next zero =>
    subst zero
    obtain ⟨one, all⟩ := kept_test w job_ids now
    cases any with
    | true => exact ⟨_, rfl, one⟩
    | false => exact ⟨_, rfl, all⟩
  · next bounded =>
    have able := awaitable.resolve_left bounded
    split
    · exact ⟨_, rfl, kept_failed nofun⟩
    split
    · exact ⟨_, rfl, kept_failed nofun⟩
    split
    · next empty =>
      subst empty
      cases any with
      | true => exact absurd rfl able
      | false => exact ⟨_, rfl, nofun, fun _ h => (by cases h), fun pos => (by dsimp only; omega)⟩
    · cases any with
      | true => exact kept_any faithful able
      | false => exact kept_all faithful able

/-- A world in which all jobs have ended with the code `0` before the call, and the answers come in the
order of the waits. -/
def ended (job_ids : List Int) : World where
  initialized := true
  connected := true
  sent _ := true
  jobs _ :=
    { ends := 0, exitCode := 0, rc := .success, polled := fun _ => some true
      ended_of_polled := fun t _ => Nat.zero_le t }
  arrivals := job_ids.map fun id => ⟨0, some ⟨.success, id, 0⟩⟩

lemma ended_faithful (job_ids : List Int) : Faithful (ended job_ids) job_ids any where
  answers := by
    intro a mem msg read
    obtain ⟨id, here, rfl⟩ := List.mem_map.1 mem
    cases read
    exact ⟨here, fun _ => rfl, fun _ => Nat.le_refl 0⟩
  one := by
    intro _ some_job empty
    exact some_job (List.map_eq_nil_iff.1 empty)
  all := by
    intro _
    have read : (ended job_ids).arrivals.filterMap Arrival.msg =
        job_ids.map fun id => ⟨.success, id, 0⟩ := by
      show (job_ids.map _).filterMap _ = _
      rw [List.filterMap_map]
      exact congrFun List.filterMap_eq_map' job_ids
    refine ⟨(ended job_ids).arrivals, [], (List.append_nil _).symm, ?_, .inl ?_⟩
    · rw [read, List.map_map]
      show (job_ids.map id).Subperm job_ids
      rw [List.map_id]
    · rw [read, List.length_map]

/-- In that world the wait succeeds. -/
lemma waitAll_ended (ids : List Int) (codes : List (Option Int)) :
    ∃ r, waitAll timeout job_ids ids.length (ended ids).arrivals 0 0 codes .success = some r ∧
      r.rc = .success := by
  induction ids generalizing codes with
  | nil => exact ⟨_, rfl, rfl⟩
  | cons id ids ih =>
    have there : await timeout 0 (ended (id :: ids)).arrivals 0 = (.ready, 0) := by
      rw [await]
      split
      · next bounded =>
        show select (timeout - 0) (⟨0, some ⟨.success, id, 0⟩⟩ :: _) 0 = _
        rw [select, if_neg (by omega), if_pos (Nat.zero_le _)]
        rfl
      · rfl
    show ∃ r, waitAll timeout job_ids (ids.length + 1)
      (⟨0, some ⟨.success, id, 0⟩⟩ :: (ended ids).arrivals) 0 0 codes .success = some r ∧ _
    rw [waitAll_cons, show (⟨0, some ⟨.success, id, 0⟩⟩ :: (ended ids).arrivals : List Arrival) =
      (ended (id :: ids)).arrivals from rfl, there, if_neg nofun]
    exact ih _

/-- A set with a job twice is not waited for as promised, nor any job of none. -/
lemma awaitable_of_kept (end_mark : array.takeWhile (· ≠ -1) = job_ids)
    (kept : ∃ r, gw_client_wait_set (ended job_ids) array any timeout 0 = some r ∧
      Kept (ended job_ids) job_ids any timeout 0 r) : Awaitable job_ids any timeout := by
  obtain ⟨r, returned, kept⟩ := kept
  by_cases bounded : timeout = 0
  · exact .inl bounded
  have sends : (List.range job_ids.length).all (ended job_ids).sent = true := by
    rw [List.all_eq_true]
    exact fun _ _ => rfl
  rw [gw_client_wait_set, end_mark] at returned
  rw [if_neg (by exact fun h => h rfl), if_neg bounded, if_neg (by exact fun h => h rfl),
    if_neg (fun h => h sends)] at returned
  right
  cases any with
  | true =>
    intro empty
    rw [if_pos empty] at returned
    cases returned
    obtain ⟨id, mem, -⟩ := kept.one rfl rfl
    rw [empty] at mem
    cases mem
  | false =>
    by_cases empty : job_ids = []
    · rw [empty]
      exact List.nodup_nil
    rw [if_neg empty, if_neg Bool.false_ne_true] at returned
    obtain ⟨r', returned', success⟩ : ∃ r, waitAll timeout job_ids job_ids.length (ended job_ids).arrivals 0 0
        (job_ids.map fun _ => none) .success = some r ∧ r.rc = .success :=
      waitAll_ended job_ids (job_ids.map fun _ => none)
    cases returned.symm.trans returned'
    have faithful : Faithful (ended job_ids) job_ids false := ended_faithful job_ids
    obtain ⟨right, -⟩ := waitAll_rightly faithful returned' success
    -- each place has its code, and only the first place of a job gets one
    have first (k : Nat) (id : Int) (here : job_ids[k]? = some id) : job_ids.idxOf id = k := by
      obtain ⟨other, same, place, -⟩ := right.own k _ (kept.all success rfl k id here)
      rw [here] at same
      cases same
      exact place
    show job_ids.Nodup
    rw [List.nodup_iff_getElem?_ne_getElem?]
    intro i j before bound same
    have there := List.getElem?_eq_getElem bound
    have back := first i _ (same.trans there)
    have forth := first j _ there
    omega

/-- For every set of jobs, every timeout, all times at which the jobs end and every order of the answers, the
wait returns in time and its exit codes are those of the jobs, exactly when the timeout is zero, or no job
is in the set twice when all are awaited, or there is a job when any is. -/
theorem wait_set_keeps_iff (array : List Int) (any : Bool) (timeout : Int) :
    (∀ w start, Faithful w (array.takeWhile (· ≠ -1)) any →
      ∃ r, gw_client_wait_set w array any timeout start = some r ∧
        Kept w (array.takeWhile (· ≠ -1)) any timeout start r) ↔
    Awaitable (array.takeWhile (· ≠ -1)) any timeout := by
  constructor
  · intro kept
    exact awaitable_of_kept rfl (kept _ 0 (ended_faithful _))
  · intro awaitable w start faithful
    exact kept_of_awaitable awaitable faithful

/-- The job `5` twice: the second of its exit codes is not written. Any job of none: the call succeeds with
no job. -/
theorem wait_set_not_kept :
    (Faithful (ended [5, 5]) [5, 5] false ∧
      ∃ r, gw_client_wait_set (ended [5, 5]) [5, 5, -1] false 10 0 = some r ∧
        r.rc = .success ∧ r.exit_codes = [some 0, none] ∧
        ¬Kept (ended [5, 5]) [5, 5] false 10 0 r) ∧
    Faithful (ended []) [] true ∧
      ∃ r, gw_client_wait_set (ended []) [-1] true 10 0 = some r ∧ ¬Kept (ended []) [] true 10 0 r := by
  refine ⟨⟨ended_faithful _, ⟨.success, [5, 5], [some 0, none], 0⟩, rfl, rfl, rfl, ?_⟩,
    ended_faithful _, ⟨.success, [], [], 0⟩, rfl, ?_⟩
  · intro kept
    cases kept.all rfl rfl 1 5 rfl
  · intro kept
    obtain ⟨id, mem, -⟩ := kept.one rfl rfl
    cases mem

end Set

end GridWay.Client
