import GridWay.Gwd.Recover

/-!
# Connections

The messages of the clients (`gw_rm_msg.h`) and the list of the requests that wait for an answer
(`gw_rm_connection_list.c`). An entry is put in front of the list and found by its type and job or
by its type and client; a search takes the first entry that fits out of the list.

* `Connections.pick_eq_none`, `Connections.pick_split`: what a search finds.
* `Connections.drain_eq`: the loops that search until nothing is found.
-/

namespace GridWay

/-- `gw_msg_type_t`. -/
inductive MsgType where
  | submit | submitArray | wait | kill | killAsync | killHard | stop | stopAsync | resume | hold
  | release | reschedule | jobStatus | jobPoolStatus | jobHistory | hostStatus | hostPoolStatus
  | jobMatch | endJob | endAll | disengage | users | priority
deriving DecidableEq, Repr

/-- `gw_msg_wait_type_t`. -/
inductive WaitType where
  | job | any | anyFirst
deriving DecidableEq, Repr

/-- The return codes that the Request Manager sends (`gw_return_code_t`). -/
inductive ReturnCode where
  | success | failedBadJobId | failedBadJobState | failedJobKilled | failedPerm | failedJobFail
deriving DecidableEq, Repr

/-- The descriptor of the socket of a client. -/
abbrev Socket := Nat

/-- A message of a client (`gw_msg_t`). A job id that is negative names no job, like one beyond the
pool. -/
structure Msg where
  msgType : MsgType
  clientSocket : Socket
  waitType : WaitType := .job
  owner : String := ""
  group : String := ""
  proxyPath : String := ""
  jobId : JobId := 0
  fixedPriority : Int := 0
deriving DecidableEq, Repr

/-- The fields of a `gw_msg_t` that an answer sets. -/
structure Answer where
  msgType : MsgType
  jobId : JobId
  rc : ReturnCode
  exitCode : Option Int := none
deriving DecidableEq, Repr

/-- An entry of the connection list (`gw_connection_list_t`). -/
structure Connection where
  socketFs : Socket
  msgId : MsgType
  waitType : WaitType
  jobId : JobId
  /-- The number of the request in the order in which they are read; no code looks at it. -/
  request : Nat
deriving DecidableEq, Repr

namespace Connections

variable {p : Connection → Bool} {c : Connection} {cs rest : List Connection} {n : Nat}

/-- The walk of a search: the first entry that fits, taken out of the list. -/
def pick (p : Connection → Bool) : List Connection → Option (Connection × List Connection)
  | [] => none
  | c :: cs => if p c then some (c, cs) else (pick p cs).map fun found => (found.1, c :: found.2)

/-- An entry is of a type and waits for a job. -/
def isFor (msgId : MsgType) (j : JobId) (c : Connection) : Bool := c.msgId == msgId && c.jobId == j

/-- An entry is of a type and of a client. -/
def isOf (msgId : MsgType) (socket : Socket) (c : Connection) : Bool :=
  c.msgId == msgId && c.socketFs == socket

/-- `gw_connection_list_get`. -/
def get (msgId : MsgType) (j : JobId) (cs : List Connection) :
    Option (Connection × List Connection) := pick (isFor msgId j) cs

/-- `gw_connection_list_get_by_client`. -/
def getByClient (msgId : MsgType) (socket : Socket) (cs : List Connection) :
    Option (Connection × List Connection) := pick (isOf msgId socket) cs

/-- `gw_connection_list_wait_in_list`; the type of the message is not looked at. -/
def waitInList (waitType : WaitType) (socket : Socket) (cs : List Connection) : Bool :=
  cs.any fun c => c.waitType == waitType && c.socketFs == socket

/-- `gw_connection_list_delete`: all entries of a client go. -/
def delete (socket : Socket) : List Connection → List Connection
  | [] => []
  | c :: cs => if c.socketFs = socket then delete socket cs else c :: delete socket cs

/-- The loops of the handlers: search, answer, search again. What was found, and what is left. -/
def drain (p : Connection → Bool) : Nat → List Connection → List Connection × List Connection
  | 0, cs => ([], cs)
  | n + 1, cs =>
    match pick p cs with
    | none => ([], cs)
    | some (c, rest) =>
      let (found, left) := drain p n rest
      (c :: found, left)

/-- `gw_connection_list_get` until it finds nothing. -/
def getAll (msgId : MsgType) (j : JobId) (cs : List Connection) :
    List Connection × List Connection := drain (isFor msgId j) cs.length cs

lemma pick_eq_none : pick p cs = none ↔ ∀ c ∈ cs, p c = false := by
  induction cs with
  | nil => simp [pick]
  | cons c cs ih =>
    cases fits : p c
    · simp [pick, fits, ih]
    · simp [pick, fits]

/-- A search cuts the list at the first entry that fits. -/
lemma pick_split (found : pick p cs = some (c, rest)) :
    ∃ before after, cs = before ++ c :: after ∧ rest = before ++ after ∧ p c = true ∧
      ∀ d ∈ before, p d = false := by
  induction cs generalizing rest with
  | nil => cases found
  | cons d ds ih =>
    cases fits : p d
    · obtain ⟨rest', found', rfl⟩ : ∃ b, pick p ds = some (c, b) ∧ d :: b = rest := by
        simpa [pick, fits] using found
      obtain ⟨before, after, rfl, rfl, fits', none⟩ := ih found'
      exact ⟨d :: before, after, rfl, rfl, fits', by simpa [fits] using none⟩
    · simp only [pick, fits, if_true, Option.some.injEq, Prod.mk.injEq] at found
      obtain ⟨rfl, rfl⟩ := found
      exact ⟨[], ds, rfl, rfl, fits, by simp⟩

lemma pick_length (found : pick p cs = some (c, rest)) : cs.length = rest.length + 1 := by
  obtain ⟨before, after, rfl, rfl, -, -⟩ := pick_split found
  simp only [List.length_append, List.length_cons, Nat.add_assoc]

/-- Enough rounds take all entries that fit, and leave the others in their order. -/
theorem drain_eq (enough : cs.length ≤ n) :
    drain p n cs = (cs.filter p, cs.filter fun c => !p c) := by
  induction n generalizing cs with
  | zero =>
    have empty := List.length_eq_zero_iff.1 (Nat.le_zero.1 enough)
    subst empty
    rfl
  | succ n ih =>
    unfold drain
    cases found : pick p cs with
    | none =>
      have none := pick_eq_none.1 found
      rw [List.filter_eq_nil_iff.2 fun c mem => by simp [none c mem],
        List.filter_eq_self.2 fun c mem => by simp [none c mem]]
    | some x =>
      obtain ⟨c, rest⟩ := x
      have length := pick_length found
      obtain ⟨before, after, rfl, rfl, fits, none⟩ := pick_split found
      have dry : before.filter p = [] :=
        List.filter_eq_nil_iff.2 fun d mem => by simp [none d mem]
      simp only [ih (show (before ++ after).length ≤ n by omega), List.filter_append, dry, fits,
        List.filter_cons, List.nil_append, if_true, Bool.not_true, Bool.false_eq_true, if_false]

@[simp] lemma getAll_eq (msgId : MsgType) (j : JobId) (cs : List Connection) :
    getAll msgId j cs = (cs.filter (isFor msgId j), cs.filter fun c => !isFor msgId j c) :=
  drain_eq (Nat.le_refl _)

end Connections

end GridWay
