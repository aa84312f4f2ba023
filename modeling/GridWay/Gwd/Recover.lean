import GridWay.Gwd.Step

/-!
# Recovery

`gw_job_recover.c`, the recovery functions of `gw_job_pool.c` and `gw_recover_state` (`gwd.c`): a
daemon that starts again reads the job directories. The state file is replayed line by line, and
each line `PROLOG` or `MIGR_CANCEL` takes the next line of the history file; the last state is then
entered again.

* `Gwd.jobRecover`: one job. `none` is a read through `NULL`.
* `Gwd.restart`: a crash of the daemon and its start with recovery.
* `Gwd.life`: an event or a restart.
-/

namespace GridWay

/-- The answers of the outside world to a recovery. -/
structure RecoverWorld where
  world : World := {}
  /-- The job directories in the order in which they are read. -/
  order : List JobId := []
  /-- `gw_template_init` parses `job.template`. -/
  template : JobId → Bool := fun _ => true
  userInit : Bool := true
  /-- `getpwnam` finds the owner. -/
  passwd : JobId → Bool := fun _ => true
  stdoutWrapper : JobId → WrapperStd := fun _ => .exitCode 0

namespace Gwd

/-- `gw_host_pool_search`. -/
def searchHost (s : Gwd) (hostname : String) : Option HostId :=
  (List.range s.conf.numberOfHosts).find? fun h => (s.hosts h).any (·.hostname == hostname)

/-- The free slot that `gw_host_pool_host_allocate` takes when no host was ever freed. -/
def freeHost (s : Gwd) : Option HostId :=
  (List.range s.conf.numberOfHosts).find? fun h => (s.hosts h).isNone

/-- The host of a line of `job.history`, registered when it is not known; `none` when the host pool
is full. -/
def registerHost (line : HistoryLine) (s : Gwd) : Option (Gwd × HostId) :=
  match s.searchHost line.hostname with
  | some h => some (s, h)
  | none =>
    match s.freeHost with
    | none => none
    | some h =>
      let host : Host :=
        { hostname := line.hostname, emMad := line.emMad, tmMad := line.tmMad, imMad := line.imMad }
      some ({ s with hosts := Function.update s.hosts h (some host) }, h)

/-- The record of a line of `job.history` (`gw_job_history_add` in recovery); a name that was `NULL`
was written as `(null)`. -/
def recoverRecord (w : World) (h : HostId) (host : Host) (line : HistoryLine) (job : Job) :
    HistoryRecord where
  host := h
  rank := line.rank
  queue := line.queue
  tmMad := host.tmMad
  rdir := remoteDir host job
  emMad := host.emMad
  emRc := contactOf host (some (line.lrms.getD "(null)"))
  emForkRc := contactOf host (some (line.fork.getD "(null)"))
  cancelTries := w.cancelTries

/-- What a recovery carries along: the daemon, the job and the unread lines of `job.history`. -/
structure Replay where
  gwd : Gwd
  job : Job
  lines : Option (List HistoryLine)

/-- `gw_job_recover_history_record`; the flag is `false` when the return code is `-1`. -/
def recoverHistoryRecord (w : World) (r : Replay) : Option (Replay × Bool) :=
  match r.lines with
  | none => some (r, false)
  | some [] => some (r, false)
  | some (line :: lines) =>
    match r.gwd.registerHost line with
    | none => none
    | some (s, h) =>
      match s.hosts h with
      | none => none
      | some host =>
        let host := { host with lrmsType := some (line.lrmsType.getD "(null)") }
        let s := { s with hosts := Function.update s.hosts h (some host) }
        let restarted := if r.job.history = [] then r.job.restarted else r.job.restarted + 1
        let job := { r.job with restarted }
        if w.tmMadLoaded ∧ w.emMadLoaded then
          some (⟨s, { job with history := recoverRecord w h host line job :: job.history },
            some lines⟩, true)
        else some (⟨s, job, some lines⟩, false)

/-- Stamp a record of the job that is replayed. -/
def Replay.stamp (f : Job → Option Job) (r : Replay) : Option Replay :=
  (f r.job).map fun job => { r with job }

/-- First part of `gw_job_recover_state_transition`: the state that is left. -/
def leaveState (t : Time) (prev : JobState) (r : Replay) : Option Replay :=
  match prev with
  | .prolog | .migrProlog => r.stamp (Dm.stampHead fun s => { s with prologExitTime := t })
  | .wrapper => r.stamp (Dm.stampHead fun s => { s with wrapperExitTime := t })
  | .epilog | .epilogFail | .epilogRestart | .stopEpilog | .killEpilog =>
    r.stamp (Dm.stampHead fun s => { s with epilogExitTime := t })
  | .migrEpilog =>
    r.stamp (Dm.stampPrev fun s => { s with epilogExitTime := t, migrationExitTime := t })
  | _ => some r

/-- Second part of `gw_job_recover_state_transition`: the state that is entered. -/
def enterState (w : World) (t : Time) (prev st : JobState) (r : Replay) : Option (Replay × Bool) :=
  match st with
  | .prolog =>
    match recoverHistoryRecord w r with
    | none => none
    | some (r, false) => some (r, false)
    | some (r, true) =>
      (r.stamp (Dm.stampHead fun s => { s with startTime := t, prologStartTime := t })).map (·, true)
  | .migrCancel => recoverHistoryRecord w r
  | .migrProlog =>
    (r.stamp (Dm.stampHead fun s => { s with startTime := t, prologStartTime := t })).map (·, true)
  | .migrEpilog => (r.stamp (Dm.stampPrev fun s => { s with epilogStartTime := t })).map (·, true)
  | .wrapper => (r.stamp (Dm.stampHead fun s => { s with wrapperStartTime := t })).map (·, true)
  | .epilogStd | .killEpilog | .stopEpilog | .epilogRestart | .epilogFail =>
    (r.stamp (Dm.stampHead fun s => { s with epilogStartTime := t })).map (·, true)
  | .epilog =>
    if prev = .wrapper then
      (r.stamp (Dm.stampHead fun s => { s with epilogStartTime := t })).map (·, true)
    else some (r, true)
  | .pending | .hold | .preWrapper | .stopCancel | .killCancel => some (r, true)
  | .stopped | .failed =>
    (r.stamp (Dm.stampHead fun s => { s with exitTime := t })).map fun r =>
      ({ r with job := { r.job with exitTime := t } }, true)
  | .zombie =>
    ((r.stamp (Dm.stampHead fun s => { s with exitTime := t })).bind
      (Replay.stamp (Dm.setReason .none))).map fun r =>
        ({ r with job := { r.job with exitTime := t } }, true)
  | .init => some (r, false)

/-- `gw_job_recover_exit_code`. -/
def recoverExitCode (out : WrapperStd) (job : Job) : Job :=
  match out with
  | .exitCode code => { job with exitCode := code }
  | _ => job

/-- `gw_job_recover_state_transition`, with the exit code of a job that ended. -/
def recoverTransition (w : World) (out : WrapperStd) (t : Time) (prev st : JobState) (r : Replay) :
    Option (Replay × Bool) :=
  let r := if st = .zombie then { r with job := recoverExitCode out r.job } else r
  (leaveState t prev r).bind (enterState w t prev st)

/-- The loop over the lines of `job.state` after a line `prev`; what remains are the last two
states. -/
def recoverStates (w : World) (out : WrapperStd) (before prev : JobState) :
    List (Time × JobState) → Replay → Option (Replay × Option (JobState × JobState))
  | [], r => some (r, some (before, prev))
  | (t, st) :: lines, r =>
    match recoverTransition w out t prev st r with
    | none => none
    | some (r, false) => some (r, none)
    | some (r, true) => recoverStates w out prev st lines r

/-- The calls of a recovery into an epilog of the newest record. -/
def reenterEpilog (a : DmAction) (job : Job) : List Call :=
  .incRunning job.userId 1 ::
    match job.history with
    | [] => [.fault]
    | head :: _ => [.host head.host (.incRjobs head.queue), .dm a]

/-- The calls of a recovery into a state before or in the execution on the newest record. -/
def reenterExecution (job : Job) (next : List Call) : List Call :=
  .incRunning job.userId 1 ::
    match job.history with
    | [] => [.fault]
    | head :: _ => .host head.host (.incSlots job.template.np head.queue) :: next

/-- The calls of a recovery into a migration. -/
def reenterMigration (a : DmAction) (job : Job) : List Call :=
  .incRunning job.userId 1 ::
    match job.history with
    | head :: prev :: _ =>
      [.host head.host (.incSlots job.template.np head.queue),
        .host prev.host (.incRjobs prev.queue), .dm a]
    | _ => [.fault]

/-- `gw_job_recover_last_state_transition`: the job is in the state before the last one, and
`contact` is what `job.contact` holds. No state is logged here. -/
def lastTransition (contact : Option String) (st : JobState) (job : Job) : Reply :=
  match st with
  | .pending => ⟨job.setState .pending, [.sched (.jobSchedule job.id none job.userId .none)]⟩
  | .hold | .stopped | .failed | .zombie => ⟨job.setState st, []⟩
  | .prolog => ⟨job, reenterExecution job [.dm .prolog]⟩
  | .wrapper =>
    match contact, job.history with
    | some text, head :: _ =>
      ⟨job.setState .wrapper, reenterExecution job [.emMad head.emMad (.recover text)]⟩
    | _, _ => ⟨job.setState .pending, reenterExecution job [.dm .pending]⟩
  | .epilog => ⟨job, reenterEpilog .epilog job⟩
  | .epilogFail => ⟨job, reenterEpilog .epilogFail job⟩
  | .epilogRestart => ⟨job, reenterEpilog .epilogRestart job⟩
  | .epilogStd => ⟨job, reenterEpilog .epilogStd job⟩
  | .killCancel => ⟨job.setState .killCancel, reenterEpilog .killEpilog job⟩
  | .killEpilog => ⟨job, reenterEpilog .killEpilog job⟩
  | .migrCancel => ⟨job.setState .migrCancel, reenterMigration .migrProlog job⟩
  | .migrProlog => ⟨job, reenterMigration .migrProlog job⟩
  | .migrEpilog => ⟨job, reenterMigration .migrEpilog job⟩
  | .preWrapper => ⟨job, reenterExecution job [.dm .preWrapper]⟩
  | .stopCancel => ⟨job.setState .stopCancel, reenterEpilog .stopEpilog job⟩
  | .stopEpilog => ⟨job, reenterEpilog .stopEpilog job⟩
  | .init => ⟨job, []⟩

/-- The user of a recovered job, registered when it is not known. -/
def recoverUser (w : RecoverWorld) (conf : JobConf) (s : Gwd) : Gwd × Option UserId :=
  match s.userExists conf.owner conf.proxyPath with
  | some uid => (s, some uid)
  | none => s.userAllocate { world := w.world, userInit := w.userInit } conf.owner conf.proxyPath

/-- The fields of the job that come from `job.conf`. -/
def recoverFields (conf : JobConf) (uid : UserId) (job : Job) : Job :=
  { job with startTime := conf.startTime, owner := conf.owner, userId := some uid,
             pstart := conf.pstart, pinc := conf.pinc }

/-- `gw_job_recover` from the state file on: the daemon, the job that is left in the pool, and the
return code; `none` when it crashes. -/
def replayJob (w : RecoverWorld) (uid : UserId) (dir : JobDir) (s : Gwd) (job : Job) :
    Option (Gwd × Job × Bool) :=
  match dir.states with
  | none => some (s, job, false)
  -- the state before the first line is `INIT`; without any line it is not set
  | some [] => none
  | some ((t, st) :: lines) =>
    match recoverTransition w.world (w.stdoutWrapper job.id) t .init st ⟨s, job, dir.history⟩ with
    | none => none
    | some (r, false) => some (r.gwd, r.job, false)
    | some (r, true) =>
      match recoverStates w.world (w.stdoutWrapper job.id) .init st lines r with
      | none => none
      | some (r, none) => some (r.gwd, r.job, false)
      | some (r, some (before, last)) =>
        let out := lastTransition dir.contact last (r.job.setState before)
        let s := r.gwd.reply w.world job.id out
        some (s.incJobs (some uid) 1, out.job, true)

/-- `gw_job_recover`: the job that is left in the pool, and the return code. -/
def jobRecover (w : RecoverWorld) (dir : JobDir) (s : Gwd) (job : Job) :
    Option (Gwd × Job × Bool) :=
  if w.template job.id then
    let job := { job with template := dir.template }
    match dir.conf with
    | none => some (s, job, false)
    | some conf =>
      let job := { job with fixedPriority := conf.fixedPriority, typeDep := conf.typeDep }
      match s.recoverUser w conf with
      | (s, none) => some (s, job, false)
      | (s, some uid) =>
        let job := recoverFields conf uid job
        if w.passwd job.id then
          replayJob w uid dir s
            { job with template := { job.template with jobHome := conf.jobHome } }
        else some (s, job, false)
  else some (s, job, false)

/-- One directory that `gw_recover_state` reads. `gw_job_pool_allocate_by_id` raises the last id by
one, whatever the id is. -/
def recoverDir (w : RecoverWorld) (s : Gwd) (j : JobId) : Gwd :=
  if s.crashed then s
  else
    match s.dirs j with
    | none => s
    | some dir =>
      if s.conf.numberOfJobs ≤ j ∨ (s.jobs j).isSome then s
      else
        let s := { s with
          jobs := Function.update s.jobs j (some (jobInit w.world j))
          jobCount := s.jobCount + 1
          nextJobId := s.nextJobId + 1 }
        match s.jobRecover w dir (jobInit w.world j) with
        | none => { s with crashed := true }
        | some (s, job, false) =>
          ({ s with jobs := Function.update s.jobs j (some job) }).jobPoolFree j
        | some (s, _, true) =>
          if dir.jobDeps = [] then s
          else { s with deps := Function.update s.deps j (some (dir.jobDeps.map Int.ofNat)) }

/-- One entry of the dependencies of a held job in `gw_job_pool_dep_consistency`: what it becomes,
whether it is open, and whether the job it names exists. -/
def consistentDep (s : Gwd) (typeDep d : Int) : Int :=
  if 0 ≤ d ∧ d < s.conf.numberOfJobs then
    match s.jobs d.toNat with
    | none => -4
    | some other =>
      if other.jobState = .zombie ∧ depMet typeDep other.exitCode then -4 else d
  else -4

/-- An entry names a job of the pool. -/
def namesJob (s : Gwd) (d : Int) : Bool :=
  0 ≤ d ∧ d < s.conf.numberOfJobs ∧ (s.jobs d.toNat).isSome

/-- One round of the loop of `gw_job_pool_dep_consistency`. -/
def depConsistencyOne (w : World) (s : Gwd) (i : JobId) : Gwd :=
  match s.deps i, s.jobs i with
  | some ds, some job =>
    if job.jobState = .hold then
      let ds' := ds.map (s.consistentDep job.typeDep)
      let s' := { s with deps := Function.update s.deps i (some ds') }
      if (ds.any s.namesJob) ∧ ds'.all (· = -4) then
        let s' := { s' with jobs := Function.update s'.jobs i (some (job.setState .pending)) }
        let s' := s'.stateLine w i .pending
        { s' with toSched := s'.toSched ++ [.jobSchedule i job.arrayId job.userId .none] }
      else s'
    else s
  | _, _ => s

/-- `gw_job_pool_dep_consistency`. -/
def depConsistency (w : World) (s : Gwd) : Gwd :=
  (List.range s.conf.numberOfJobs).foldl (depConsistencyOne w) s

/-- `gw_recover_state`. -/
def recoverState (w : RecoverWorld) (s : Gwd) : Gwd :=
  let s := w.order.foldl (recoverDir w) s
  if s.crashed then s else s.depConsistency w.world

/-- The daemon is stopped or crashes at any point, and a new one starts with recovery: only the job
directories are left. -/
def restart (w : RecoverWorld) (s : Gwd) : Gwd :=
  recoverState w { Gwd.start s.conf with dirs := s.dirs }

end Gwd

/-- What can happen over the lives of a daemon. -/
inductive Life where
  | event (e : Event)
  | restart (w : RecoverWorld)

/-- One step over the lives of a daemon. -/
def Gwd.life (s : Gwd) : Life → Gwd
  | .event e => s.step e
  | .restart w => s.restart w

end GridWay
