import GridWay.Gwd.Step
import GridWay.Dm.Refine
import GridWay.Lib.Machine
import GridWay.Lib.Tally

/-!
# What the calls of a handler change

Each call touches a few fields of the daemon. These lemmas say which, and fold them over all calls
of a reply, so that later proofs never unfold `Gwd.call`.

* `Gwd.reply_dmQueue`, `Gwd.reply_emQueue`, `Gwd.reply_tmQueue`: the queues grow at the end.
* `Gwd.reply_used`: the slots of a host move by the slot calls.
* `Gwd.reply_self`, `Gwd.reply_other`: the job pool after a reply.
-/

namespace GridWay

/-- The action that a call queues at the Execution Manager. -/
@[simp] def Call.em? : Call → Option EmAction
  | .em a => some a
  | _ => none

/-- The action that a call queues at the Transfer Manager. -/
@[simp] def Call.tm? : Call → Option TmAction
  | .tm a => some a
  | _ => none

/-- The EM actions that a reply queues. -/
def emCalls (cs : List Call) : List EmAction := cs.filterMap Call.em?

/-- The TM actions that a reply queues. -/
def tmCalls (cs : List Call) : List TmAction := cs.filterMap Call.tm?

section Calls

variable {c : Call} {cs cs' : List Call}

@[simp] lemma emCalls_nil : emCalls [] = [] := rfl
@[simp] lemma emCalls_append : emCalls (cs ++ cs') = emCalls cs ++ emCalls cs' :=
  List.filterMap_append
@[simp] lemma emCalls_cons : emCalls (c :: cs) = c.em?.toList ++ emCalls cs := by
  cases h : c.em? <;> simp only [emCalls, List.filterMap_cons, h] <;> rfl

@[simp] lemma tmCalls_nil : tmCalls [] = [] := rfl
@[simp] lemma tmCalls_append : tmCalls (cs ++ cs') = tmCalls cs ++ tmCalls cs' :=
  List.filterMap_append
@[simp] lemma tmCalls_cons : tmCalls (c :: cs) = c.tm?.toList ++ tmCalls cs := by
  cases h : c.tm? <;> simp only [tmCalls, List.filterMap_cons, h] <;> rfl

end Calls

namespace Gwd

variable {w : World} {s : Gwd} {j : JobId} {r : Reply} {c : Call}

lemma hostOp_eq (s : Gwd) (h : HostId) (op : HostOp) :
    ∃ hosts toSched crashed, s.hostOp h op = { s with hosts, toSched, crashed } := by
  unfold hostOp
  split
  · exact ⟨_, _, _, rfl⟩
  · exact ⟨_, _, _, rfl⟩

@[simp] lemma hostOp_frame (s : Gwd) (h : HostId) (op : HostOp) :
    (s.hostOp h op).conf = s.conf ∧ (s.hostOp h op).jobs = s.jobs ∧
    (s.hostOp h op).jobCount = s.jobCount ∧ (s.hostOp h op).nextJobId = s.nextJobId ∧
    (s.hostOp h op).deps = s.deps ∧ (s.hostOp h op).users = s.users ∧
    (s.hostOp h op).userCount = s.userCount ∧ (s.hostOp h op).dmQueue = s.dmQueue ∧
    (s.hostOp h op).emQueue = s.emQueue ∧ (s.hostOp h op).tmQueue = s.tmQueue ∧
    (s.hostOp h op).answers = s.answers ∧ (s.hostOp h op).toEm = s.toEm ∧
    (s.hostOp h op).toTm = s.toTm ∧ (s.hostOp h op).dirs = s.dirs := by
  obtain ⟨_, _, _, eq⟩ := hostOp_eq s h op
  simp only [eq, and_self]

lemma userOp_eq (s : Gwd) (u : Option UserId) (f : User → User) :
    ∃ users toSched, s.userOp u f = { s with users, toSched } := by
  unfold userOp
  cases u with
  | none => exact ⟨_, _, rfl⟩
  | some uid =>
    dsimp only
    cases s.users uid <;> exact ⟨_, _, rfl⟩

@[simp] lemma userOp_frame (s : Gwd) (u : Option UserId) (f : User → User) :
    (s.userOp u f).conf = s.conf ∧ (s.userOp u f).jobs = s.jobs ∧
    (s.userOp u f).jobCount = s.jobCount ∧ (s.userOp u f).nextJobId = s.nextJobId ∧
    (s.userOp u f).deps = s.deps ∧ (s.userOp u f).hosts = s.hosts ∧
    (s.userOp u f).userCount = s.userCount ∧ (s.userOp u f).dmQueue = s.dmQueue ∧
    (s.userOp u f).emQueue = s.emQueue ∧ (s.userOp u f).tmQueue = s.tmQueue ∧
    (s.userOp u f).answers = s.answers ∧ (s.userOp u f).toEm = s.toEm ∧
    (s.userOp u f).toTm = s.toTm ∧ (s.userOp u f).dirs = s.dirs ∧
    (s.userOp u f).crashed = s.crashed := by
  obtain ⟨_, _, eq⟩ := userOp_eq s u f
  simp only [eq, and_self]

lemma onDir_eq (s : Gwd) (j : JobId) (f : JobDir → JobDir) :
    ∃ dirs, s.onDir j f = { s with dirs } := by
  unfold onDir
  cases s.dirs j <;> exact ⟨_, rfl⟩

@[simp] lemma onDir_frame (s : Gwd) (j : JobId) (f : JobDir → JobDir) :
    (s.onDir j f).conf = s.conf ∧ (s.onDir j f).jobs = s.jobs ∧
    (s.onDir j f).jobCount = s.jobCount ∧ (s.onDir j f).nextJobId = s.nextJobId ∧
    (s.onDir j f).deps = s.deps ∧ (s.onDir j f).hosts = s.hosts ∧
    (s.onDir j f).users = s.users ∧
    (s.onDir j f).userCount = s.userCount ∧ (s.onDir j f).dmQueue = s.dmQueue ∧
    (s.onDir j f).emQueue = s.emQueue ∧ (s.onDir j f).tmQueue = s.tmQueue ∧
    (s.onDir j f).answers = s.answers ∧ (s.onDir j f).toEm = s.toEm ∧
    (s.onDir j f).toTm = s.toTm ∧ (s.onDir j f).toSched = s.toSched ∧
    (s.onDir j f).crashed = s.crashed := by
  obtain ⟨_, eq⟩ := onDir_eq s j f
  simp only [eq, and_self]

lemma stateLine_eq (w : World) (s : Gwd) (j : JobId) (st : JobState) :
    ∃ dirs, stateLine w s j st = { s with dirs } := by
  unfold stateLine
  split
  · exact onDir_eq ..
  · exact ⟨_, rfl⟩

@[simp] lemma stateLine_frame (s : Gwd) (st : JobState) :
    (stateLine w s j st).conf = s.conf ∧ (stateLine w s j st).jobs = s.jobs ∧
    (stateLine w s j st).jobCount = s.jobCount ∧ (stateLine w s j st).nextJobId = s.nextJobId ∧
    (stateLine w s j st).deps = s.deps ∧ (stateLine w s j st).hosts = s.hosts ∧
    (stateLine w s j st).users = s.users ∧
    (stateLine w s j st).userCount = s.userCount ∧ (stateLine w s j st).dmQueue = s.dmQueue ∧
    (stateLine w s j st).emQueue = s.emQueue ∧ (stateLine w s j st).tmQueue = s.tmQueue ∧
    (stateLine w s j st).answers = s.answers ∧ (stateLine w s j st).toEm = s.toEm ∧
    (stateLine w s j st).toTm = s.toTm ∧ (stateLine w s j st).toSched = s.toSched ∧
    (stateLine w s j st).crashed = s.crashed := by
  obtain ⟨_, eq⟩ := stateLine_eq w s j st
  simp only [eq, and_self]

lemma jobPoolFree_eq (s : Gwd) (j : JobId) :
    ∃ users toSched deps, s.jobPoolFree j =
      { s with jobs := Function.update s.jobs j none, users, toSched, deps } := by
  unfold jobPoolFree
  cases here : s.jobs j with
  | none =>
    refine ⟨s.users, s.toSched, Function.update s.deps j none, ?_⟩
    rw [(Function.update_eq_self_iff (f := s.jobs)).2 here.symm]
  | some job =>
    obtain ⟨_, _, eq⟩ := userOp_eq
      { s with toSched := s.toSched ++ if known job then [SchedMsg.jobDel j] else [] } job.userId
      fun user => { user with idle := 0, activeJobs := user.activeJobs - 1 }
    simp only [decJobs, eq]
    exact ⟨_, _, _, rfl⟩

@[simp] lemma jobPoolFree_frame (s : Gwd) (j : JobId) :
    (s.jobPoolFree j).conf = s.conf ∧
    (s.jobPoolFree j).jobs = Function.update s.jobs j none ∧
    (s.jobPoolFree j).jobCount = s.jobCount ∧ (s.jobPoolFree j).nextJobId = s.nextJobId ∧
    (s.jobPoolFree j).hosts = s.hosts ∧
    (s.jobPoolFree j).userCount = s.userCount ∧ (s.jobPoolFree j).dmQueue = s.dmQueue ∧
    (s.jobPoolFree j).emQueue = s.emQueue ∧ (s.jobPoolFree j).tmQueue = s.tmQueue ∧
    (s.jobPoolFree j).answers = s.answers ∧ (s.jobPoolFree j).toEm = s.toEm ∧
    (s.jobPoolFree j).toTm = s.toTm ∧ (s.jobPoolFree j).dirs = s.dirs ∧
    (s.jobPoolFree j).crashed = s.crashed := by
  obtain ⟨_, _, _, eq⟩ := jobPoolFree_eq s j
  simp only [eq, and_self]

lemma delTask_eq (s : Gwd) (array : Option Nat) (task : Nat) :
    ∃ arrays, s.delTask array task = { s with arrays } := by
  unfold delTask
  cases array with
  | none => exact ⟨_, rfl⟩
  | some aid =>
    dsimp only
    cases s.arrays aid <;> exact ⟨_, rfl⟩

@[simp] lemma delTask_frame (s : Gwd) (array : Option Nat) (task : Nat) :
    (s.delTask array task).conf = s.conf ∧ (s.delTask array task).jobs = s.jobs ∧
    (s.delTask array task).jobCount = s.jobCount ∧
    (s.delTask array task).nextJobId = s.nextJobId ∧
    (s.delTask array task).deps = s.deps ∧ (s.delTask array task).hosts = s.hosts ∧
    (s.delTask array task).users = s.users ∧
    (s.delTask array task).userCount = s.userCount ∧
    (s.delTask array task).dmQueue = s.dmQueue ∧
    (s.delTask array task).emQueue = s.emQueue ∧ (s.delTask array task).tmQueue = s.tmQueue ∧
    (s.delTask array task).answers = s.answers ∧ (s.delTask array task).toEm = s.toEm ∧
    (s.delTask array task).toTm = s.toTm ∧ (s.delTask array task).toSched = s.toSched ∧
    (s.delTask array task).dirs = s.dirs ∧ (s.delTask array task).crashed = s.crashed := by
  obtain ⟨_, eq⟩ := delTask_eq s array task
  simp only [eq, and_self]

/-- A round of the dependency check leaves the job pool alone, or releases the dependent job. -/
lemma depCheckOne_cases (w : World) (j : JobId) (code : Int) (s : Gwd) (d : JobId) :
    (∃ deps crashed, depCheckOne w j code s d = { s with deps, crashed := s.crashed || crashed }) ∨
    ∃ job deps dirs toSched, s.jobs d = some job ∧ job.jobState = .hold ∧
      depCheckOne w j code s d =
        { s with
          jobs := Function.update s.jobs d (some (job.setState .pending)), deps, dirs, toSched } := by
  unfold depCheckOne
  cases s.deps d with
  | none => exact .inl ⟨s.deps, false, by rw [Bool.or_false]⟩
  | some ds =>
    cases here : s.jobs d with
    | none => exact .inl ⟨s.deps, true, by rw [Bool.or_true]⟩
    | some job =>
      by_cases held : job.jobState = .hold
      · by_cases open_ : (ds.any fun d => d = (j : Int)) ∧
          (clearDep j (depMet job.typeDep code) ds).all (· = -4)
        · simp only [held, open_, if_true, and_self]
          obtain ⟨dirs, eq⟩ := stateLine_eq w
            { s with
              jobs := Function.update s.jobs d (some (job.setState .pending))
              deps := Function.update s.deps d
                (some (clearDep j (depMet job.typeDep code) ds)) } d .pending
          rw [eq]
          exact .inr ⟨_, _, _, _, rfl, held, rfl⟩
        · simp only [held, open_, if_true, if_false]
          exact .inl ⟨_, false, by rw [Bool.or_false]⟩
      · simp only [held, if_false]
        exact .inl ⟨s.deps, false, by rw [Bool.or_false]⟩

@[simp] lemma depCheckOne_frame (w : World) (j : JobId) (code : Int) (s : Gwd) (i : JobId) :
    (depCheckOne w j code s i).conf = s.conf ∧
    (depCheckOne w j code s i).jobCount = s.jobCount ∧
    (depCheckOne w j code s i).nextJobId = s.nextJobId ∧
    (depCheckOne w j code s i).hosts = s.hosts ∧ (depCheckOne w j code s i).users = s.users ∧
    (depCheckOne w j code s i).userCount = s.userCount ∧
    (depCheckOne w j code s i).dmQueue = s.dmQueue ∧
    (depCheckOne w j code s i).emQueue = s.emQueue ∧
    (depCheckOne w j code s i).tmQueue = s.tmQueue ∧
    (depCheckOne w j code s i).answers = s.answers ∧
    (depCheckOne w j code s i).toEm = s.toEm ∧ (depCheckOne w j code s i).toTm = s.toTm := by
  rcases depCheckOne_cases w j code s i with ⟨_, _, eq⟩ | ⟨_, _, _, _, _, _, eq⟩ <;>
    simp only [eq, and_self]

/-- What every round of a loop keeps, the loop keeps. -/
lemma foldl_frame {α β γ : Type*} {f : α → β → α} {π : α → γ} (h : ∀ a b, π (f a b) = π a)
    (a : α) (bs : List β) : π (bs.foldl f a) = π a := by
  induction bs generalizing a with
  | nil => rfl
  | cons b bs ih => rw [List.foldl_cons, ih, h]

@[simp] lemma depCheck_frame (w : World) (s : Gwd) (j : JobId) (code : Int) :
    (s.depCheck w j code).conf = s.conf ∧ (s.depCheck w j code).jobCount = s.jobCount ∧
    (s.depCheck w j code).nextJobId = s.nextJobId ∧ (s.depCheck w j code).hosts = s.hosts ∧
    (s.depCheck w j code).users = s.users ∧ (s.depCheck w j code).userCount = s.userCount ∧
    (s.depCheck w j code).dmQueue = s.dmQueue ∧ (s.depCheck w j code).emQueue = s.emQueue ∧
    (s.depCheck w j code).tmQueue = s.tmQueue ∧ (s.depCheck w j code).answers = s.answers ∧
    (s.depCheck w j code).toEm = s.toEm ∧ (s.depCheck w j code).toTm = s.toTm := by
  unfold depCheck
  refine ⟨?_, ?_, ?_, ?_, ?_, ?_, ?_, ?_, ?_, ?_, ?_, ?_⟩ <;>
    exact foldl_frame (fun a b => by simp) _ _

/-- The limits and the counters of the pools are not touched by calls. -/
@[simp] lemma call_frame (w : World) (j : JobId) (s : Gwd) (c : Call) :
    (call w j s c).conf = s.conf ∧ (call w j s c).jobCount = s.jobCount ∧
    (call w j s c).nextJobId = s.nextJobId ∧ (call w j s c).userCount = s.userCount := by
  cases c <;> simp [call, incRunningJobs, decRunningJobs]

@[simp] lemma reply_frame (w : World) (j : JobId) (r : Reply) (s : Gwd) :
    (reply w j r s).conf = s.conf ∧ (reply w j r s).jobCount = s.jobCount ∧
    (reply w j r s).nextJobId = s.nextJobId ∧ (reply w j r s).userCount = s.userCount := by
  unfold reply
  refine ⟨?_, ?_, ?_, ?_⟩ <;>
    exact (foldl_frame (fun a b => by simp) _ _).trans rfl

section Queues

/-- A queue to which every call appends is appended to by the loop. -/
lemma foldl_append {α β γ : Type*} {f : α → β → α} {π : α → List γ} {add : β → List γ}
    (h : ∀ a b, π (f a b) = π a ++ add b) (a : α) (bs : List β) :
    π (bs.foldl f a) = π a ++ bs.flatMap add := by
  induction bs generalizing a with
  | nil => simp
  | cons b bs ih => rw [List.foldl_cons, ih, h, List.flatMap_cons, List.append_assoc]

lemma call_dmQueue (w : World) (j : JobId) (s : Gwd) (c : Call) :
    (call w j s c).dmQueue = s.dmQueue ++ c.dm?.toList.map (.job · j) := by
  cases c <;> simp [call, incRunningJobs, decRunningJobs]

lemma call_emQueue (w : World) (j : JobId) (s : Gwd) (c : Call) :
    (call w j s c).emQueue = s.emQueue ++ c.em?.toList.map (·, j) := by
  cases c <;> simp [call, incRunningJobs, decRunningJobs]

lemma call_tmQueue (w : World) (j : JobId) (s : Gwd) (c : Call) :
    (call w j s c).tmQueue = s.tmQueue ++ c.tm?.toList.map (·, j) := by
  cases c <;> simp [call, incRunningJobs, decRunningJobs]

lemma flatMap_toList_map {α β γ : Type*} (f : α → Option β) (g : β → γ) (l : List α) :
    (l.flatMap fun a => (f a).toList.map g) = (l.filterMap f).map g := by
  induction l with
  | nil => rfl
  | cons a l ih => cases h : f a <;> simp [List.flatMap_cons, ih, h]

@[simp] lemma reply_dmQueue (w : World) (j : JobId) (r : Reply) (s : Gwd) :
    (reply w j r s).dmQueue = s.dmQueue ++ (dmCalls r.calls).map (.job · j) := by
  rw [reply, foldl_append (call_dmQueue w j), flatMap_toList_map, dmCalls]

@[simp] lemma reply_emQueue (w : World) (j : JobId) (r : Reply) (s : Gwd) :
    (reply w j r s).emQueue = s.emQueue ++ (emCalls r.calls).map (·, j) := by
  rw [reply, foldl_append (call_emQueue w j), flatMap_toList_map, emCalls]

@[simp] lemma reply_tmQueue (w : World) (j : JobId) (r : Reply) (s : Gwd) :
    (reply w j r s).tmQueue = s.tmQueue ++ (tmCalls r.calls).map (·, j) := by
  rw [reply, foldl_append (call_tmQueue w j), flatMap_toList_map, tmCalls]

end Queues

section Crash

lemma depCheckOne_crashed {code i} (crashed : s.crashed) :
    (depCheckOne w j code s i).crashed := by
  rcases depCheckOne_cases w j code s i with ⟨_, _, eq⟩ | ⟨_, _, _, _, _, _, eq⟩ <;>
    simp only [eq, crashed, Bool.true_or]

lemma call_crashed (crashed : s.crashed) : (call w j s c).crashed := by
  cases c <;> simp [call, incRunningJobs, decRunningJobs, crashed]
  case host h op =>
    unfold hostOp
    split <;> simp [crashed]
  case depCheck code =>
    unfold depCheck
    induction List.range s.conf.numberOfJobs generalizing s with
    | nil => exact crashed
    | cons i is ih => exact ih (depCheckOne_crashed crashed)

lemma calls_crashed {cs : List Call} (crashed : s.crashed) : (cs.foldl (call w j) s).crashed := by
  induction cs generalizing s with
  | nil => exact crashed
  | cons c cs ih => exact ih (call_crashed crashed)

/-- A daemon that still runs after some calls ran before the last of them. -/
lemma calls_live {cs : List Call} (live : (cs.foldl (call w j) s).crashed = false) :
    s.crashed = false := by
  by_contra crashed
  rw [calls_crashed (by simpa using crashed)] at live
  cases live

lemma calls_fault {cs : List Call} (live : (cs.foldl (call w j) s).crashed = false) :
    .fault ∉ cs := by
  induction cs generalizing s with
  | nil => simp
  | cons c cs ih =>
    intro mem
    rcases List.mem_cons.1 mem with rfl | mem
    · have running := calls_live (s := call w j s .fault) live
      cases running
    · exact ih live mem

lemma reply_live (live : (reply w j r s).crashed = false) :
    s.crashed = false ∧ .fault ∉ r.calls :=
  ⟨calls_live (s := { s with jobs := Function.update s.jobs j (some r.job) }) live,
    calls_fault live⟩

end Crash

section Slots

/-- The slots in use on a host. -/
def used (s : Gwd) (h : HostId) : Int := ((s.hosts h).map (·.usedSlots)).getD 0

/-- What a list of slot changes adds up to on a host. -/
def slotChange (cs : List (HostId × Int)) (h : HostId) : Int :=
  (cs.map fun c => if c.1 = h then c.2 else 0).sum

@[simp] lemma slotChange_nil (h : HostId) : slotChange [] h = 0 := rfl

@[simp] lemma slotChange_cons (c : HostId × Int) (cs : List (HostId × Int)) (h : HostId) :
    slotChange (c :: cs) h = (if c.1 = h then c.2 else 0) + slotChange cs h := rfl

@[simp] lemma slotChange_append (cs cs' : List (HostId × Int)) (h : HostId) :
    slotChange (cs ++ cs') h = slotChange cs h + slotChange cs' h := by
  simp [slotChange]

/-- The hosts that are in the pool stay in it. -/
lemma call_hosts_isSome (w : World) (j : JobId) (s : Gwd) (c : Call) (h : HostId) :
    ((call w j s c).hosts h).isSome = (s.hosts h).isSome := by
  cases c <;> simp [call, incRunningJobs, decRunningJobs]
  case host i op =>
    unfold hostOp
    split
    · rfl
    · by_cases same : h = i <;> simp_all

lemma reply_hosts_isSome (w : World) (j : JobId) (r : Reply) (s : Gwd) (h : HostId) :
    ((reply w j r s).hosts h).isSome = (s.hosts h).isSome :=
  foldl_frame (π := fun s => (s.hosts h).isSome) (fun s c => call_hosts_isSome w j s c h) _ _

lemma hostOp_used {h i : HostId} {op : HostOp} (live : (s.hostOp i op).crashed = false) :
    (s.hostOp i op).used h =
      s.used h + slotChange ((Call.host i op).slots?.toList) h := by
  unfold hostOp at live ⊢
  split at live
  · cases live
  · rename_i host here
    by_cases same : h = i
    · subst same
      cases op <;> simp [used, here, Host.apply, Int.sub_eq_add_neg]
    · cases op <;> simp [used, same, Ne.symm same]

lemma call_used {h : HostId} (live : (call w j s c).crashed = false) :
    (call w j s c).used h = s.used h + slotChange c.slots?.toList h := by
  cases c
  case host i op => exact hostOp_used live
  all_goals simp [call, incRunningJobs, decRunningJobs, used]

/-- The slots of a host move by what the calls add up to. -/
lemma reply_used {h : HostId} (live : (reply w j r s).crashed = false) :
    (reply w j r s).used h = s.used h + slotChange (slotCalls r.calls) h := by
  have all (cs : List Call) (s : Gwd) (live : (cs.foldl (call w j) s).crashed = false) :
      (cs.foldl (call w j) s).used h = s.used h + slotChange (slotCalls cs) h := by
    induction cs generalizing s with
    | nil => simp
    | cons c cs ih =>
      rw [List.foldl_cons, ih _ live, call_used (calls_live live), slotCalls_cons,
        slotChange_append, Int.add_assoc]
  exact all r.calls _ live

end Slots

section Jobs

/-- A job is left alone, or it is released from `HOLD` by the end of another job. -/
def Released (old new : Option Job) : Prop :=
  new = old ∨ ∃ job, old = some job ∧ job.jobState = .hold ∧ new = some (job.setState .pending)

lemma Released.rfl {old : Option Job} : Released old old := .inl (Eq.refl _)

lemma Released.trans {a b c : Option Job} (h : Released a b) (h' : Released b c) :
    Released a c := by
  rcases h' with rfl | ⟨job, some_b, held, rfl⟩
  · exact h
  · rcases h with rfl | ⟨job', -, -, rfl⟩
    · exact .inr ⟨job, some_b, held, Eq.refl _⟩
    · cases some_b
      cases held

/-- A job that is not in `HOLD` is left alone. -/
lemma Released.eq_of_not_hold {job : Job} {new : Option Job} (h : Released (some job) new)
    (state : job.jobState ≠ .hold) : new = some job := by
  rcases h with rfl | ⟨job', same, held, -⟩
  · exact Eq.refl _
  · cases same
    exact absurd held state

lemma Released.none {new : Option Job} (h : Released .none new) : new = .none := by
  rcases h with rfl | ⟨job, same, -⟩
  · exact Eq.refl _
  · cases same

lemma depCheckOne_jobs (w : World) (j : JobId) (code : Int) (s : Gwd) (d i : JobId) :
    Released (s.jobs i) ((depCheckOne w j code s d).jobs i) := by
  rcases depCheckOne_cases w j code s d with ⟨_, _, eq⟩ | ⟨job, _, _, _, here, held, eq⟩
  · rw [eq]
    exact .rfl
  · rw [eq]
    by_cases same : i = d
    · subst same
      exact .inr ⟨job, here, held, by simp⟩
    · exact .inl (by simp [same])

lemma depCheck_jobs (w : World) (s : Gwd) (j : JobId) (code : Int) (i : JobId) :
    Released (s.jobs i) ((s.depCheck w j code).jobs i) := by
  unfold depCheck
  generalize List.range s.conf.numberOfJobs = ds
  induction ds generalizing s with
  | nil => exact .rfl
  | cons d ds ih => exact (depCheckOne_jobs w j code s d i).trans (ih _)

lemma call_other {i : JobId} (other : i ≠ j) : Released (s.jobs i) ((call w j s c).jobs i) := by
  cases c
  case depCheck code => exact depCheck_jobs w s j code i
  case free => exact .inl (by simp [call, other])
  all_goals exact .inl (by simp [call, incRunningJobs, decRunningJobs])

/-- The other jobs are left alone, or released from `HOLD`. -/
lemma reply_other {i : JobId} (other : i ≠ j) :
    Released (s.jobs i) ((reply w j r s).jobs i) := by
  have all (cs : List Call) (s : Gwd) : Released (s.jobs i) ((cs.foldl (call w j) s).jobs i) := by
    induction cs generalizing s with
    | nil => exact .rfl
    | cons c cs ih => exact (call_other other).trans (ih _)
  simpa [other, reply] using
    all r.calls { s with jobs := Function.update s.jobs j (some r.job) }

lemma call_other_calm {i : JobId} (other : i ≠ j) (calm : ∀ code, c ≠ .depCheck code) :
    (call w j s c).jobs i = s.jobs i := by
  cases c
  case depCheck code => exact absurd rfl (calm code)
  case free => simp [call, other]
  all_goals simp [call, incRunningJobs, decRunningJobs]

/-- Only the end of an execution touches other jobs. -/
lemma reply_other_calm {i : JobId} (other : i ≠ j) (calm : ∀ code, Call.depCheck code ∉ r.calls) :
    (reply w j r s).jobs i = s.jobs i := by
  have all (cs : List Call) (s : Gwd) (calm : ∀ code, Call.depCheck code ∉ cs) :
      (cs.foldl (call w j) s).jobs i = s.jobs i := by
    induction cs generalizing s with
    | nil => rfl
    | cons c cs ih =>
      rw [List.foldl_cons, ih _ fun code mem => calm code (List.mem_cons_of_mem _ mem)]
      exact call_other_calm other fun code same => calm code (same ▸ List.mem_cons_self)
  simpa [other, reply] using
    all r.calls { s with jobs := Function.update s.jobs j (some r.job) } calm

lemma call_self (c : Call) : c ≠ .free → Released (s.jobs j) ((call w j s c).jobs j) := by
  intro stays
  cases c
  case depCheck code => exact depCheck_jobs w s j code j
  case free => exact absurd rfl stays
  all_goals exact .inl (by simp [call, incRunningJobs, decRunningJobs])

lemma calls_gone {cs : List Call} (gone : s.jobs j = none) :
    (cs.foldl (call w j) s).jobs j = none := by
  induction cs generalizing s with
  | nil => exact gone
  | cons c cs ih =>
    refine ih ?_
    by_cases free : c = .free
    · simp [free, call]
    · exact (gone ▸ call_self c free).none

/-- The job that a handler runs for: freed, or as the handler leaves it. -/
lemma reply_self (state : r.job.jobState ≠ .hold ∨ ∀ code, Call.depCheck code ∉ r.calls) :
    (reply w j r s).jobs j = if .free ∈ r.calls then none else some r.job := by
  have all (cs : List Call) (s : Gwd) (here : s.jobs j = some r.job)
      (state : r.job.jobState ≠ .hold ∨ ∀ code, Call.depCheck code ∉ cs) :
      (cs.foldl (call w j) s).jobs j = if .free ∈ cs then none else some r.job := by
    induction cs generalizing s with
    | nil => simpa using here
    | cons c cs ih =>
      by_cases free : c = .free
      · subst free
        rw [List.foldl_cons, calls_gone (by simp [call])]
        simp
      · have stays : (call w j s c).jobs j = some r.job := by
          rcases state with moved | calm
          · exact (here ▸ call_self c free).eq_of_not_hold moved
          · cases c
            case depCheck code => exact absurd List.mem_cons_self (calm code)
            case free => exact absurd rfl free
            all_goals simpa [call, incRunningJobs, decRunningJobs] using here
        rw [List.foldl_cons, ih _ stays (state.imp_right fun calm code mem =>
          calm code (List.mem_cons_of_mem _ mem))]
        simp [Ne.symm free]
  exact all r.calls _ (by simp) state

end Jobs

end Gwd

end GridWay
