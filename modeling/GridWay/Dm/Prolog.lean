import GridWay.Job.Call

/-!
# Prolog states

The handlers of `gw_dm_state_prologs.c`: entering `PROLOG` and `MIGR_PROLOG`, building the list of
files to stage in, and the callbacks of the Transfer Manager.

* `Dm.prolog`: does not look at the state it leaves; it only skips the transition when the job is
  already in `PROLOG` (a reloaded transfer driver).
* `Dm.prologFailedCb`: gives the slots of the newest record back.
-/

namespace GridWay

/-- `gw_xfr_init` for `n` files, filled with entries from index `0` on; `none` when the entries
run past the array. -/
def Xfrs.build (n : Nat) (tries : Int) (entries : List Xfr) (failureLimit : Int) : Option Xfrs :=
  if entries.length ≤ n then
    some ⟨entries ++ List.replicate (n - entries.length) { tries := tries }, failureLimit⟩
  else none

namespace Dm

/-- The stage-in entries before the restart files, in the order the code writes them. -/
def inputEntries (wbe : Bool) (job : Job) : List Xfr :=
  let t := job.template
  let tries := t.numberOfRetries
  t.inputFiles.map (fun f => { tries, srcUrl := f.1, dstUrl := f.2 })
    ++ (if wbe then [{ tries, srcUrl := "file://" ++ job.directory ++ "/job.env" }] else [])
    ++ (t.executable.toList.map fun e => { tries, srcUrl := e, mode := 'X' })
    ++ (t.stdinFile.toList.map fun e => { tries, srcUrl := e, dstUrl := "stdin.execution" })
    ++ (t.preWrapper.toList.map fun e => { tries, srcUrl := e, mode := 'X' })
    ++ (if wbe then
        [{ tries, srcUrl := "file://" ++ t.wrapper.getD "(null)", dstUrl := ".wrapper",
           mode := 'X' }] else [])
    ++ (if wbe then
        t.monitor.toList.map fun e =>
          { tries, srcUrl := "file://" ++ e, dstUrl := ".monitor", mode := 'X' } else [])

/-- A restart file: from the last execution host in a migration, else from the checkpoint server. -/
def restartEntry (job : Job) (prev : HistoryRecord) (file : String) : Xfr :=
  let url := prev.rdir ++ file
  let alt := job.template.checkpointUrl ++ file
  if job.jobState = .migrProlog then
    { tries := job.template.numberOfRetries, srcUrl := url, altSrcUrl := alt }
  else { tries := job.template.numberOfRetries, srcUrl := alt }

/-- The size that `gw_dm_prolog_set_files` allocates, without restart files. -/
def inputSize (wbe : Bool) (t : Template) : Nat :=
  let base := t.inputFiles.length + t.executable.toList.length + t.stdinFile.toList.length
    + t.preWrapper.toList.length
  if wbe then base + 1 + t.wrapper.toList.length + t.monitor.toList.length else base

/-- `gw_dm_prolog_set_files`. -/
def prologSetFiles (w : World) (job : Job) : Option Xfrs :=
  let wbe := w.wrapperBased job
  let entries := inputEntries wbe job
  let tries := job.template.numberOfRetries
  if job.restarted ≠ 0 ∧ job.template.restartFiles ≠ [] then
    match job.history with
    | _ :: prev :: _ =>
      Xfrs.build (inputSize wbe job.template + job.template.restartFiles.length) tries
        (entries ++ job.template.restartFiles.map (restartEntry job prev)) entries.length
    | _ => none
  else Xfrs.build (inputSize wbe job.template) tries entries entries.length

/-- Step 2 of `gw_dm_prolog` and `gw_dm_migr_prolog`: environment, files, signal to the TM. -/
def stageIn (w : World) (job : Job) : Reply :=
  if w.environment then
    match prologSetFiles w job with
    | some xfrs => ⟨{ job with xfrs }, [.tm .prolog]⟩
    | none => .crash job
  else ⟨job, [.dm .prologFailed]⟩

/-- Start of the two prolog states: set the state and stamp the newest record. -/
def enterProlog (w : World) (st : JobState) (job : Job) : Reply :=
  let job := job.setState st
  match job.history with
  | [] => ⟨job, [.stateLine st, .fault]⟩
  | head :: past =>
    let head := head.stamp fun s => { s with startTime := w.now, prologStartTime := w.now }
    (stageIn w { job with history := head :: past }).after [.stateLine st]

/-- `gw_dm_prolog`. -/
def prolog (w : World) (job : Job) : Reply :=
  if job.jobState = .prolog then stageIn w job else enterProlog w .prolog job

/-- `gw_dm_migr_prolog`. -/
def migrProlog (w : World) (job : Job) : Reply := enterProlog w .migrProlog job

/-- `gw_dm_prolog_done_cb`. -/
def prologDoneCb (w : World) (job : Job) : Reply :=
  match job.history with
  | [] => .crash job
  | head :: past =>
    let head := head.stamp fun s => { s with prologExitTime := w.now }
    let job := { job with history := head :: past }
    match job.jobState with
    | .prolog =>
      if job.template.preWrapper.isSome then ⟨job, [.dm .preWrapper]⟩ else ⟨job, [.dm .wrapper]⟩
    | .migrProlog => ⟨job, [.dm .migrEpilog]⟩
    | _ => ⟨job, []⟩

/-- Where a job goes that failed for good on its host. -/
def failureExit (job : Job) : DmAction :=
  if job.template.rescheduleOnFailure then .pending else .failed

/-- `gw_dm_prolog_failed_cb`. -/
def prologFailedCb (w : World) (job : Job) : Reply :=
  match job.history with
  | [] => .crash job
  | head :: past =>
    let head := head.stamp fun s => { s with prologExitTime := w.now, exitTime := w.now }
    let pay := [.host head.host (.decUslots job.template.np), .dm (failureExit job)]
    if job.jobState = .migrProlog then
      let head := { head.stamp fun s => { s with migrationExitTime := w.now } with
        reason := .executionError }
      match past with
      | [] => ⟨{ job with history := [head] }, pay⟩
      | prev :: older =>
        let prev := prev.stamp fun s => { s with exitTime := w.now }
        ⟨{ job with history := head :: prev :: older },
          .host prev.host (.decRjobs prev.queue) :: pay⟩
    else
      ⟨{ job with history := { head with reason := .executionError } :: past }, pay⟩

end Dm

end GridWay
