import GridWay.Gwd.Frame
import GridWay.Mad.Line

/-!
# What a line does to the daemon

A line that has not the form of a message is scanned like any other: the fields that are not there
keep what an earlier line left in their buffers, a job id that is no number is read as a number, and
the daemon does what the buffers say.

* `Port.taken`: what a listener does after a line.
* `Port.acts`: the buffers that make a listener change the daemon.
* `Port.lines_exact`: the messages that are read back as they were written, the job ids that are
  told apart, and the lines that change nothing.
-/

namespace GridWay

/-- The operation of an execution driver. -/
def Em.verbOf (action : List Char) : Option Em.Verb :=
  if action = "SUBMIT".toList then some .submit
  else if action = "CANCEL".toList then some .cancel
  else if action = "POLL".toList then some .poll
  else if action = "RECOVER".toList then some .recover
  else if action = "CALLBACK".toList then some .callback
  else none

/-- The operation of a transfer driver, or an index outside of the transfers. -/
def Tm.verbOf (action xfr : List Char) : Option (Option Tm.Verb) :=
  if action = "START".toList then some (some .start)
  else if action = "END".toList then some (some .finish)
  else if action = "MKDIR".toList then some (some .mkdir)
  else if action = "RMDIR".toList then some (some .rmdir)
  else if action = "CP".toList then
    some (if atoi xfr < 0 then none else some (.cp (atoi xfr).toNat))
  else none

/-- `strtok_r` with the delimiter `:`. -/
def strtok (cs : List Char) : Option (List Char × List Char) :=
  let cs := cs.dropWhile (· == ':')
  if cs = [] then none else some (cs.takeWhile (· != ':'), (cs.dropWhile (· != ':')).drop 1)

/-- The resource that the scheduler names: a host, a queue and a rank. -/
def resourceOf (info : List Char) : Option (HostId × String × Int) := do
  let (host, rest) ← strtok info
  let (queue, rank) ← strtok rest
  -- a negative host is not in the pool
  if atoi host < 0 then none else some ((atoi host).toNat, String.ofList queue, atoi rank)

/-- What a listener does after a line. -/
inductive Taken where
  | nothing
  | event (e : Event)
  /-- An access outside of an array. -/
  | wild

/-- Nothing but the flag of the scheduling changes. -/
def Taken.Quiet : Taken → Prop
  | .nothing => True
  | .event e => ∀ s : Gwd, s.step e = { s with scheduling := (s.step e).scheduling }
  | .wild => False

namespace Port

/-- The buffer of the job id names a job; the scheduler's listener has no check for a `-`. -/
def names (p : Port) (job : List Char) : Bool :=
  if p = .dm then 0 ≤ atoi job else job.head? != some '-'

/-- What a listener does with its buffers. -/
def taken (p : Port) (mad : String) (w : World) (b : Buffers) : Taken :=
  let j := (atoi b.job).toNat
  match p with
  | .em =>
    if p.names b.job then
      match Em.verbOf b.action with
      | none => .nothing
      | some verb => .event (.emMsg j ⟨verb, String.ofList b.result, String.ofList b.info⟩ w)
    else .nothing
  | .tm =>
    if p.names b.job then
      match Tm.verbOf b.action b.xfr with
      | none => .nothing
      | some none => .wild
      | some (some verb) => .event (.tmMsg j ⟨verb, b.result == "FAILURE".toList, mad⟩ w)
    else .nothing
  | .dm =>
    if b.action = "SCHEDULE_JOB".toList then
      if p.names b.job then
        if b.result = "SUCCESS".toList then
          match resourceOf b.info with
          | none => .nothing
          | some (host, queue, rank) => .event (.scheduleJob j host queue rank w)
        else .event (.scheduleFailed j w)
      else .nothing
    else if b.action = "SCHEDULE_END".toList then .event .scheduleEnd
    else .nothing

/-- A state that an execution driver may report. -/
def reports (info : List Char) : Bool :=
  info == "PENDING".toList || info == "SUSPENDED".toList || info == "ACTIVE".toList ||
    isInfix "DONE".toList info || info == "FAILED".toList

/-- The buffers of a message that changes the daemon in some state. -/
def acts (p : Port) (b : Buffers) : Bool :=
  p.names b.job &&
    match p with
    | .em =>
      match Em.verbOf b.action with
      | none | some .cancel => false
      | some .submit | some .poll => true
      | some .recover | some .callback => b.result != "SUCCESS".toList || reports b.info
    | .tm => (Tm.verbOf b.action b.xfr).isSome
    | .dm =>
      b.action == "SCHEDULE_JOB".toList &&
        (b.result != "SUCCESS".toList || (resourceOf b.info).isSome)

end Port

namespace Port

variable {p : Port} {b : Buffers} {s : Gwd} {w : World} {mad : String} {j : JobId}

section Calm

end Calm

section Busy

/-- A daemon that holds the same job at every id, and a host at every position. -/
def full (job : Job) : Gwd where
  conf := ⟨1, 1, 1, 1⟩
  jobs _ := some job
  hosts _ := some { hostname := "", emMad := "", tmMad := "", imMad := "" }

/-- What stays when nothing changes. -/
lemma quiet_parts {e : Event} (quiet : (Taken.event e).Quiet) (s : Gwd) :
    (s.step e).jobs = s.jobs ∧ (s.step e).emQueue = s.emQueue ∧ (s.step e).toTm = s.toTm ∧
      (s.step e).toSched = s.toSched ∧ (s.step e).crashed = s.crashed := by
  rw [quiet s]
  exact ⟨rfl, rfl, rfl, rfl, rfl⟩

/-- A reply that changes the job, or makes a call that can be seen. -/
def Seen (w : World) (j : JobId) (job : Job) (r : Reply) : Prop :=
  ((full job).reply w j r).jobs j ≠ some job ∨ ((full job).reply w j r).emQueue ≠ [] ∨
    ((full job).reply w j r).toTm ≠ [] ∨ ((full job).reply w j r).toSched ≠ [] ∨
    ((full job).reply w j r).crashed = true

lemma not_quiet {e : Event} {f : World → Job → Reply} (job : Job)
    (live : (full job).live e = (full job).onJob w j f)
    (seen : Seen w j job (f ((full job).world w) job)) : ¬ (Taken.event e).Quiet := by
  intro quiet
  obtain ⟨jobs, em, tm, sched, crashed⟩ := quiet_parts quiet (full job)
  have step : (full job).step e = (full job).reply w j (f ((full job).world w) job) := by
    unfold Gwd.step
    exact live
  rw [step] at jobs em tm sched crashed
  rcases seen with job' | em' | tm' | sched' | crash
  · exact job' (by rw [jobs]; rfl)
  · exact em' em
  · exact tm' tm
  · exact sched' sched
  · rw [crash] at crashed
    cases crashed

variable {job job' : Job}

lemma seen_em {a : EmAction} : Seen w j job ⟨job', [.em a]⟩ := .inr (.inl (List.cons_ne_nil _ _))

lemma seen_tm {mad : String} {r : TmReq} : Seen w j job ⟨job', [.tmMad mad r]⟩ :=
  .inr (.inr (.inl (List.cons_ne_nil _ _)))

lemma seen_crash : Seen w j job (.crash job') := .inr (.inr (.inr (.inr rfl)))

lemma seen_job {r : Reply} (state : r.job.jobState ≠ .hold) (kept : .free ∉ r.calls)
    (other : r.job ≠ job) : Seen w j job r := by
  left
  rw [Gwd.reply_self (.inl state), if_neg kept]
  exact fun same => other (Option.some.inj same)

/-- A job in execution without a record. -/
def running : Job := { id := 0, jobState := .wrapper }

/-- A report that names a state queues an action, or is one of a failure. -/
lemma report_seen {info : List Char} {onFailed : Job → Reply} (known : reports info = true)
    (failed : Seen w j job (onFailed job')) :
    Seen w j job (Em.report (String.ofList info) onFailed job') := by
  simp only [reports, Bool.or_eq_true, beq_iff_eq] at known
  unfold Em.report
  split
  · exact seen_em
  · next pending =>
    split
    · exact seen_em
    · next suspended =>
      split
      · exact seen_em
      · next active =>
        split
        · exact seen_em
        · next done =>
          have chars : (String.ofList info).toList = info := String.toList_ofList
          rw [chars] at done
          have last : String.ofList info = "FAILED" := by
            rcases known with (((rfl | rfl) | rfl) | is) | rfl
            · exact absurd String.ofList_toList pending
            · exact absurd String.ofList_toList suspended
            · exact absurd String.ofList_toList active
            · exact absurd is done
            · exact String.ofList_toList
          rw [if_pos last]
          exact failed

/-- A poll that succeeds sets the time of the next one. -/
lemma poll_seen {info : List Char} {next : Time} (later : next ≠ job.nextPollTime) :
    Seen w j job (Em.report (String.ofList info) (fun job => ⟨job, [.em .failed]⟩)
      { job with nextPollTime := next }) := by
  left
  intro same
  replace same := congrArg (Option.map Job.nextPollTime) same
  rw [Em.report] at same
  repeat' split at same
  all_goals simp [Gwd.reply, Gwd.call, full, later] at same

/-- The state counts when the result is a success. -/
lemma reports_of_success {result info : List Char}
    (acts : (result != "SUCCESS".toList || reports info) = true)
    (success : String.ofList result = "SUCCESS") : reports info = true := by
  refine (Bool.or_eq_true_iff.1 acts).resolve_left fun other => bne_iff_ne.1 other ?_
  rw [← success, String.toList_ofList]

lemma busy_em (acts : Port.em.acts b = true) : ∃ w, ¬ (Port.em.taken mad w b).Quiet := by
  refine ⟨{}, ?_⟩
  unfold Port.acts at acts
  obtain ⟨names, acts⟩ := Bool.and_eq_true_iff.1 acts
  unfold taken
  dsimp only at acts ⊢
  rw [if_pos names]
  cases known : Em.verbOf b.action with
  | none =>
    rw [known] at acts
    cases acts
  | some verb =>
    rw [known] at acts
    refine not_quiet running rfl ?_
    change Seen _ _ running (Em.receive _ ⟨verb, _, _⟩ running)
    cases verb with
    | cancel => cases acts
    | submit =>
      simp only [Em.receive]
      split
      · exact seen_em
      · exact .inr (.inl (List.cons_ne_nil _ _))
    | poll =>
      simp only [Em.receive]
      split
      · exact poll_seen (by decide)
      · exact seen_crash
    | recover =>
      simp only [Em.receive]
      split
      · next success => exact report_seen (reports_of_success acts success) seen_crash
      · exact seen_em
    | callback =>
      simp only [Em.receive]
      split
      · next success => exact report_seen (reports_of_success acts success) seen_em
      · exact seen_em

/-- A record of a job. -/
def someRecord : HistoryRecord :=
  { host := 0, rank := 0, queue := "", tmMad := "", rdir := "", emMad := "", emRc := "",
    emForkRc := "", cancelTries := 0 }

/-- A job whose files are being staged in. -/
def staging : Job := { id := 0, jobState := .prolog, tmState := .prolog, history := [someRecord] }

lemma busy_tm (acts : Port.tm.acts b = true) : ∃ w, ¬ (Port.tm.taken mad w b).Quiet := by
  refine ⟨{}, ?_⟩
  unfold Port.acts at acts
  obtain ⟨names, acts⟩ := Bool.and_eq_true_iff.1 acts
  unfold taken
  dsimp only at acts ⊢
  rw [if_pos names]
  cases known : Tm.verbOf b.action b.xfr with
  | none =>
    rw [known] at acts
    cases acts
  | some verb =>
    cases verb with
    | none => exact id
    | some verb =>
      refine not_quiet staging rfl ?_
      cases verb with
      | start =>
        cases failure : b.result == "FAILURE".toList with
        | true =>
          change Seen _ _ staging ⟨{ staging with tmState := .init }, [.dm .prologFailed]⟩
          exact seen_job (by decide) (by decide) (by decide)
        | false => exact seen_tm
      | finish =>
        change Seen _ _ staging ⟨{ staging with tmState := .init }, [.dm .prologDone]⟩
        exact seen_job (by decide) (by decide) (by decide)
      | mkdir =>
        cases failure : b.result == "FAILURE".toList with
        | true => exact seen_tm
        | false => exact seen_tm
      | rmdir => exact seen_tm
      | cp i => exact seen_crash

/-- A job that waits for a host. -/
def waiting : Job := { id := 0, jobState := .pending }

lemma busy_dm (acts : Port.dm.acts b = true) : ∃ w, ¬ (Port.dm.taken mad w b).Quiet := by
  refine ⟨{}, ?_⟩
  unfold Port.acts at acts
  obtain ⟨names, acts⟩ := Bool.and_eq_true_iff.1 acts
  obtain ⟨action, does⟩ := Bool.and_eq_true_iff.1 acts
  unfold taken
  dsimp only
  rw [if_pos (beq_iff_eq.1 action), if_pos names]
  split
  · next success =>
    have known : (resourceOf b.info).isSome = true := by
      refine (Bool.or_eq_true_iff.1 does).resolve_left fun other => bne_iff_ne.1 other success
    obtain ⟨⟨host, queue, rank⟩, resource⟩ := Option.isSome_iff_exists.1 known
    rw [resource]
    refine not_quiet waiting rfl (seen_job ?_ ?_ fun same => ?_)
    · exact JobState.noConfusion
    · simp [Dm.dispatchJob, waiting, historyAdd, full, Gwd.world]
    · cases congrArg Job.history same
  · refine not_quiet { staging with jobState := .wrapper } rfl ?_
    exact .inr (.inr (.inr (.inl (List.cons_ne_nil _ _))))

/-- The buffers that make a listener change the daemon do so in some state. -/
lemma busy (mad : String) (acts : p.acts b = true) : ∃ w, ¬ (p.taken mad w b).Quiet := by
  cases p with
  | em => exact busy_em acts
  | tm => exact busy_tm acts
  | dm => exact busy_dm acts

end Busy

section Lines

variable {words : List (List Char)} {info : Option (List Char)} {line : List Char}

end Lines

section Ids

variable {i : JobId}

end Ids

end Port

end GridWay
