import GridWay.Dm.Wrapper

/-!
# Epilog states

The handlers of `gw_dm_state_epilogs.c`. Each epilog state has its own list of files to stage out;
`failure_limit` is the index of the last file that must arrive. The entry handlers differ in the
state they set, the record they stamp and the files they list, so they share `enterEpilog`.

* `Dm.epilogDoneCb`, `Dm.epilogFailedCb`: the transitions out of the epilog states.
* `Dm.parseWrapperStd`: what the standard output of the wrapper says about the execution.
-/

namespace GridWay.Dm

/-- A transfer list under construction: the entries written so far and `failure_limit`. -/
structure Files where
  entries : List Xfr := []
  failureLimit : Int := -1

/-- Name of a file of the job directory that carries the restart count. -/
def restartFile (job : Job) (name : String) : String :=
  "file://" ++ job.directory ++ "/" ++ name ++ "." ++ toString job.restarted

/-- A stage-out entry. -/
def outEntry (job : Job) (src : String) (dst : Option String) : Xfr :=
  { tries := job.template.numberOfRetries, srcUrl := src, dstUrl := dst }

/-- `gw_dm_epilog_std_wrapper_files`. -/
def stdWrapperFiles (job : Job) (fs : Files) : Files :=
  { entries := fs.entries ++
      [outEntry job "stdout.wrapper" (restartFile job "stdout.wrapper"),
       outEntry job "stderr.wrapper" (restartFile job "stderr.wrapper")],
    failureLimit := fs.entries.length }

/-- Append a mandatory file, when the template names it. -/
def mandatoryFile (job : Job) (src : String) (dst : Option String) (fs : Files) : Files :=
  match dst with
  | none => fs
  | some _ => { entries := fs.entries ++ [outEntry job src dst], failureLimit := fs.entries.length }

/-- Append the standard output and error of a helper program, when the template names it. -/
def helperFiles (job : Job) (name : String) (present : Bool) (fs : Files) : Files :=
  if present then
    { fs with entries := fs.entries ++
        [outEntry job ("stdout." ++ name) (restartFile job ("stdout." ++ name)),
         outEntry job ("stderr." ++ name) (restartFile job ("stderr." ++ name))] }
  else fs

/-- `gw_dm_epilog_std_files`. -/
def stdFiles (job : Job) (fs : Files) : Files :=
  let t := job.template
  helperFiles job "monitor" t.monitor.isSome <|
    helperFiles job "pre_wrapper" t.preWrapper.isSome <|
      mandatoryFile job "stderr.execution" t.stderrFile <|
        mandatoryFile job "stdout.execution" t.stdoutFile fs

/-- `gw_dm_epilog_output_files`. -/
def outputFiles (job : Job) (fs : Files) : Files :=
  { entries := fs.entries ++ job.template.outputFiles.map fun f => outEntry job f.1 f.2,
    failureLimit := job.template.outputFiles.length - 1 }

/-- `gw_dm_epilog_restart_files`. -/
def restartFiles (job : Job) (fs : Files) : Files :=
  { fs with entries := fs.entries ++ job.template.restartFiles.map fun f =>
      outEntry job f (job.template.checkpointUrl ++ "/" ++ f) }

/-- The size the epilog states allocate for the standard files. -/
def stdSize (t : Template) : Nat :=
  t.stdoutFile.toList.length + t.stderrFile.toList.length + 2 * t.preWrapper.toList.length
    + 2 * t.monitor.toList.length

/-- The transfer list of an epilog state. -/
def buildFiles (job : Job) (size : Nat) (fs : Files) : Option Xfrs :=
  Xfrs.build size job.template.numberOfRetries fs.entries fs.failureLimit

/-- Files of `EPILOG_STD`. -/
def epilogStdFiles (_ : World) (job : Job) : Option Xfrs :=
  buildFiles job 2 (stdWrapperFiles job {})

/-- Files of `MIGR_EPILOG`. -/
def migrEpilogFiles (_ : World) (job : Job) : Option Xfrs :=
  buildFiles job (stdSize job.template) (stdFiles job {})

/-- Files of `STOP_EPILOG`; restart files are left to a checkpoint in progress. -/
def stopEpilogFiles (_ : World) (job : Job) : Option Xfrs :=
  if job.tmState = .checkpoint then buildFiles job (stdSize job.template) (stdFiles job {})
  else
    buildFiles job (stdSize job.template + job.template.restartFiles.length)
      (restartFiles job (stdFiles job {}))

/-- Files of `KILL_EPILOG` and `EPILOG_FAIL`. -/
def wrapperOnlyFiles (w : World) (job : Job) : Option Xfrs :=
  if w.wrapperBased job then buildFiles job 2 (stdWrapperFiles job {}) else some {}

/-- Files of `EPILOG`. -/
def epilogFiles (_ : World) (job : Job) : Option Xfrs :=
  buildFiles job (stdSize job.template + job.template.outputFiles.length)
    (stdFiles job (outputFiles job {}))

/-- Files of `EPILOG_RESTART`. -/
def epilogRestartFiles (_ : World) (job : Job) : Option Xfrs :=
  let size := stdSize job.template + job.template.outputFiles.length
  let fs := stdFiles job (outputFiles job {})
  if job.tmState = .checkpoint then buildFiles job size fs
  else buildFiles job (size + job.template.restartFiles.length) (restartFiles job fs)

/-- Step 2 of the epilog handlers: the files, and the signal to the TM. -/
def stageOut (files : World → Job → Option Xfrs) (w : World) (job : Job) : Reply :=
  match files w job with
  | some xfrs => ⟨{ job with xfrs }, [.tm .epilog]⟩
  | none => .crash job

/-- Stamp the newest record. -/
def stampHead (f : Stats → Stats) (job : Job) : Option Job :=
  match job.history with
  | [] => none
  | head :: past => some { job with history := head.stamp f :: past }

/-- Stamp the record before the newest one. -/
def stampPrev (f : Stats → Stats) (job : Job) : Option Job :=
  match job.history with
  | head :: prev :: older => some { job with history := head :: prev.stamp f :: older }
  | _ => none

/-- Entry of an epilog state: the transition is skipped when the job is already there. -/
def enterEpilog (st : JobState) (stamp : Job → Option Job) (files : World → Job → Option Xfrs)
    (w : World) (job : Job) : Reply :=
  if job.jobState = st then stageOut files w job
  else
    let job := job.setState st
    match stamp job with
    | none => ⟨job, [.stateLine st, .fault]⟩
    | some job => (stageOut files w job).after [.stateLine st]

/-- Start time of an epilog. -/
def epilogStart (w : World) (s : Stats) : Stats := { s with epilogStartTime := w.now }

/-- `gw_dm_epilog_std`. -/
def epilogStd (w : World) (job : Job) : Reply :=
  enterEpilog .epilogStd (stampHead (epilogStart w)) epilogStdFiles w job

/-- `gw_dm_migr_epilog`: the times go to the record of the host that is left. -/
def migrEpilog (w : World) (job : Job) : Reply :=
  enterEpilog .migrEpilog (stampPrev (epilogStart w)) migrEpilogFiles w job

/-- `gw_dm_stop_epilog`. -/
def stopEpilog (w : World) (job : Job) : Reply :=
  enterEpilog .stopEpilog (stampHead (epilogStart w)) stopEpilogFiles w job

/-- `gw_dm_kill_epilog`. -/
def killEpilog (w : World) (job : Job) : Reply :=
  enterEpilog .killEpilog (stampHead (epilogStart w)) wrapperOnlyFiles w job

/-- `gw_dm_epilog_fail`. -/
def epilogFail (w : World) (job : Job) : Reply :=
  enterEpilog .epilogFail (stampHead (epilogStart w)) wrapperOnlyFiles w job

/-- `gw_dm_epilog_restart`: no time is stamped. -/
def epilogRestart (w : World) (job : Job) : Reply :=
  enterEpilog .epilogRestart some epilogRestartFiles w job

/-- `gw_dm_epilog`: after `EPILOG_STD` the start time is already set. -/
def epilog (w : World) (job : Job) : Reply :=
  if job.jobState = .epilogStd then enterEpilog .epilog some epilogFiles w job
  else if job.jobState = .epilog then stageOut epilogFiles w job
  else
    match stampHead (epilogStart w) job with
    | none => .crash job
    | some job => enterEpilog .epilog some epilogFiles w job

/-- Set the reason of the newest record. -/
def setReason (reason : Reason) (job : Job) : Option Job :=
  match job.history with
  | [] => none
  | head :: past => some { job with history := { head with reason } :: past }

/-- `gw_dm_epilog_parse_wrapper_std`: the job with what was found, and whether `rt` is `0`;
`none` when there is no record to store the reason in. -/
def parseWrapperStd (w : World) (job : Job) : Option (Job × Bool) :=
  match w.stdoutWrapper with
  | .selfMigration newReqs newRank =>
    let t := { job.template with
      requirements := newReqs <|> job.template.requirements
      rank := newRank <|> job.template.rank }
    (setReason .selfMigration { job with template := t }).map (·, false)
  | .performance => (setReason .performance job).map (·, false)
  | .exitCode code => some ({ job with exitCode := code }, true)
  | .unreadable => (setReason .executionError job).map (·, false)
  | .noExitStatus => (setReason .executionError job).map (·, false)

/-- Step 1 of the epilog callbacks: the exit times. -/
def epilogTimes (w : World) (job : Job) : Option Job :=
  match job.jobState with
  | .migrEpilog =>
    match job.history with
    | head :: prev :: older =>
      let prev := prev.stamp fun s => { s with epilogExitTime := w.now, exitTime := w.now }
      let head := head.stamp fun s => { s with migrationExitTime := w.now }
      some { job with history := head :: prev :: older }
    | _ => none
  | .epilogStd => some job
  | _ => stampHead (fun s => { s with epilogExitTime := w.now, exitTime := w.now }) job

/-- The states in which the epilog callbacks are not "in wrong job state". -/
def isEpilog (st : JobState) : Bool :=
  st == .epilog || st == .epilogFail || st == .epilogRestart || st == .stopEpilog
    || st == .killEpilog || st == .migrEpilog || st == .epilogStd

/-- The two callbacks leave `MIGR_EPILOG` in the same way: on to the wrapper on the new host. -/
def migrated (job : Job) : Reply :=
  match job.history with
  | _ :: prev :: _ => ⟨job, [.dm .wrapper, .host prev.host (.decRjobs prev.queue)]⟩
  | _ => ⟨job, [.dm .wrapper, .fault]⟩

/-- The two callbacks leave `EPILOG_RESTART` in the same way, by the reason of the restart. -/
def restartExit (job : Job) : Reply :=
  match job.history with
  | [] => .crash job
  | head :: _ =>
    if head.reason = .performance ∨ head.reason = .selfMigration then ⟨job, [.dm .pending]⟩
    else ⟨job, [.dm (failureExit job)]⟩

/-- Transition of `gw_dm_epilog_done_cb`. -/
def epilogDoneExit (w : World) (job : Job) : Reply :=
  match job.jobState with
  | .epilog => ⟨job, [.dm .zombie]⟩
  | .killEpilog => ⟨job, [.dm .zombie]⟩
  | .migrEpilog => migrated job
  | .stopEpilog => ⟨job, [.dm .stopped]⟩
  | .epilogFail => ⟨job, [.dm (failureExit job)]⟩
  | .epilogRestart => restartExit job
  | .epilogStd =>
    match parseWrapperStd w job with
    | none => .crash job
    | some (job, ok) => ⟨job, [.dm (if ok then .epilog else .epilogRestart)]⟩
  | _ => ⟨job, []⟩

/-- `gw_dm_epilog_done_cb`. -/
def epilogDoneCb (w : World) (job : Job) : Reply :=
  if isEpilog job.jobState then
    match epilogTimes w job with
    | none => .crash job
    | some job => epilogDoneExit w job
  else ⟨job, []⟩

/-- Transition of `gw_dm_epilog_failed_cb`. -/
def epilogFailedExit (job : Job) : Reply :=
  match job.jobState with
  | .epilog =>
    match setReason .executionError job with
    | none => .crash job
    | some job => ⟨job, [.dm (failureExit job)]⟩
  | .epilogFail =>
    match setReason .executionError job with
    | none => .crash job
    | some job => ⟨job, [.dm (failureExit job)]⟩
  | .killEpilog => ⟨job, [.dm .zombie]⟩
  | .migrEpilog => migrated job
  | .stopEpilog => ⟨job, [.dm .stopped]⟩
  | .epilogRestart => restartExit job
  | .epilogStd =>
    match setReason .executionError job with
    | none => .crash job
    | some job => ⟨job, [.dm .epilogRestart]⟩
  | _ => ⟨job, []⟩

/-- `gw_dm_epilog_failed_cb`. -/
def epilogFailedCb (w : World) (job : Job) : Reply :=
  if isEpilog job.jobState then
    match epilogTimes w job with
    | none => .crash job
    | some job => epilogFailedExit job
  else ⟨job, []⟩

end GridWay.Dm
