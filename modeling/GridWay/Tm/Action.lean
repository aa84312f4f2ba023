import GridWay.Tm.Stage

/-!
# Transfer Manager actions and messages

`gw_tm_actions.c` and `gw_tm_listener.c`: the start of a stage, the timer, and the callbacks
`START`, `RMDIR`, `MKDIR`, `CP` and `END` of the transfer drivers. The listener dispatches on the
`tm_state` of the job when the message arrives.
-/

namespace GridWay.Tm

/-- `gw_tm_prolog`. -/
def prolog (_ : World) (job : Job) : Reply :=
  match job.history with
  | [] => ⟨job, []⟩
  | head :: _ =>
    if job.tmState = .init then
      ⟨{ job with tmState := .prolog }, [.tmMad head.tmMad .start]⟩
    else ⟨{ job with tmState := .checkpointCancel }, [.tmMad head.tmMad .finish]⟩

/-- `gw_tm_epilog`. -/
def epilog (_ : World) (job : Job) : Reply :=
  match job.history with
  | [] => ⟨job, []⟩
  | head :: _ =>
    match job.jobState with
    | .killEpilog | .migrEpilog | .epilogFail | .epilog | .epilogStd =>
      if job.tmState = .init then
        ⟨{ job with tmState := .epilog }, [.tmMad head.tmMad .start]⟩
      else ⟨{ job with tmState := .checkpointCancel }, [.tmMad head.tmMad .finish]⟩
    | .stopEpilog | .epilogRestart =>
      if job.tmState = .init then
        ⟨{ job with tmState := .epilog }, [.tmMad head.tmMad .start]⟩
      -- a checkpoint in progress: the epilog starts when it ends
      else ⟨job, []⟩
    | _ => ⟨job, []⟩

/-- One transfer in the timer loop: a countdown that ends sends the copy again. -/
def tickXfr (urls : String → Option String → Urls) (mad : String) (mode : Xfr → Char) (i : Nat)
    (x : Xfr) : Option (Xfr × List Call) :=
  if x.counter = -1 then some (x, [])
  else if x.counter - 1 = 0 then
    match x.srcUrl with
    | none => none
    | some src =>
      match urls src x.dstUrl with
      | .ok s d => some ({ x with counter := -1 }, [.tmMad mad (.cp i (mode x) s d)])
      | _ => none
  else some ({ x with counter := x.counter - 1 }, [])

/-- The timer loop over the transfers, from index `i` on. -/
def tickXfrs (urls : String → Option String → Urls) (mad : String) (mode : Xfr → Char) :
    Nat → List Xfr → Option (List Xfr × List Call)
  | _, [] => some ([], [])
  | i, x :: xs => do
    let (x, cs) ← tickXfr urls mad mode i x
    let (xs, cs') ← tickXfrs urls mad mode (i + 1) xs
    return (x :: xs, cs ++ cs')

/-- The countdowns of the transfers of the current stage. -/
def tick (w : World) (job : Job) : Reply :=
  match job.tmState with
  | .prolog =>
    match job.history with
    | [] => .crash job
    | head :: _ =>
      match tickXfrs (prologBuildUrls w job head.rdir) head.tmMad (·.mode) 0 job.xfrs.xfrs with
      | none => .crash job
      | some (xs, cs) => ⟨{ job with xfrs := { job.xfrs with xfrs := xs } }, cs⟩
  | .epilog =>
    match job.history, epilogRdir job with
    | head :: _, some rdir =>
      match tickXfrs (epilogBuildUrls w job rdir) head.tmMad (fun _ => '-') 0 job.xfrs.xfrs with
      | none => .crash job
      | some (xs, cs) => ⟨{ job with xfrs := { job.xfrs with xfrs := xs } }, cs⟩
    | _, _ => .crash job
  | .checkpoint =>
    match job.history, epilogRdir job with
    | head :: _, some rdir =>
      match tickXfrs (epilogBuildUrls w job rdir) head.tmMad (fun _ => '-') 0
          job.chkXfrs.xfrs with
      | none => .crash job
      | some (xs, cs) => ⟨{ job with chkXfrs := { job.chkXfrs with xfrs := xs } }, cs⟩
    | _, _ => .crash job
  | _ => ⟨job, []⟩

/-- One visit of the loop of `gw_tm_timer`. -/
def timer (w : World) (job : Job) : Reply :=
  if job.template.checkpointInterval > 0 ∧ job.jobState = .wrapper ∧ job.tmState = .init ∧
      job.template.restartFiles ≠ [] then
    if w.now - job.lastCheckpointTime ≥ job.template.checkpointInterval then
      match job.history with
      | [] => ⟨job, []⟩
      | head :: _ =>
        ⟨{ job with lastCheckpointTime := w.now, tmState := .checkpoint },
          [.tmMad head.tmMad .start]⟩
    else ⟨job, []⟩
  else tick w job

/-- The operations that a transfer driver reports on. -/
inductive Verb where
  | start | finish | mkdir | rmdir | cp (xfr : Nat)
deriving DecidableEq, Repr

/-- A line read from a transfer driver, without its job id. -/
structure Msg where
  verb : Verb
  failure : Bool := false
  /-- The driver that sent the line. -/
  mad : String := ""
deriving DecidableEq, Repr

/-- `gw_tm_start_action_cb`. -/
def startCb (w : World) (msg : Msg) (job : Job) : Reply :=
  match job.tmState with
  | .prolog =>
    if msg.failure then ⟨{ job with tmState := .init }, [.dm .prologFailed]⟩
    else
      match job.history with
      | [] => .crash job
      | head :: _ => ⟨job, [.tmMad msg.mad (.rmdir head.rdir)]⟩
  | .epilog =>
    if msg.failure then ⟨{ job with tmState := .init }, [.dm .epilogFailed]⟩
    else epilogStageOut w job
  | .checkpoint =>
    if msg.failure then ⟨{ job with tmState := .init }, []⟩ else checkpointCp w job
  | _ => ⟨job, []⟩

/-- `gw_tm_rmdir_action_cb`. -/
def rmdirCb (msg : Msg) (job : Job) : Reply :=
  match job.tmState with
  | .prolog =>
    match job.history with
    | [] => .crash job
    | head :: _ => ⟨job, [.tmMad msg.mad (.mkdir head.rdir)]⟩
  | .epilog | .epilogFailed | .prologFailed =>
    match job.history with
    | [] => .crash job
    | head :: _ => ⟨job, [.tmMad head.tmMad .finish]⟩
  | _ => ⟨job, []⟩

/-- `gw_tm_mkdir_action_cb`. -/
def mkdirCb (w : World) (msg : Msg) (job : Job) : Reply :=
  match job.tmState with
  | .prolog =>
    if msg.failure then ⟨{ job with tmState := .prologFailed }, [.tmMad msg.mad .finish]⟩
    else prologStageIn w job
  | _ => ⟨job, []⟩

/-- `gw_tm_cp_action_cb`. -/
def cpCb (w : World) (i : Nat) (failure : Bool) (job : Job) : Reply :=
  match job.tmState with
  | .prolog => prologCpCb w i failure job
  | .epilog => epilogCpCb i failure job
  | .checkpoint => checkpointCpCb w i failure job
  | _ => ⟨job, []⟩

/-- `gw_tm_end_action_cb`. -/
def endCb (job : Job) : Reply :=
  match job.tmState with
  | .prolog => ⟨{ job with tmState := .init }, [.dm .prologDone]⟩
  | .prologFailed => ⟨{ job with tmState := .init }, [.dm .prologFailed]⟩
  | .epilog => ⟨{ job with tmState := .init }, [.dm .epilogDone]⟩
  | .epilogFailed => ⟨{ job with tmState := .init }, [.dm .epilogFailed]⟩
  | .checkpointCancel =>
    match job.history with
    | [] => .crash job
    | head :: _ =>
      let st := if job.jobState = .prolog ∨ job.jobState = .migrProlog then TmState.prolog
        else .epilog
      ⟨{ job with tmState := st }, [.tmMad head.tmMad .start]⟩
  | _ => ⟨job, []⟩

/-- `gw_tm_listener` for a job that exists. -/
def listener (msg : Msg) (w : World) (job : Job) : Reply :=
  if job.tmState = .hardKill then ⟨job, []⟩
  else
    match msg.verb with
    | .start => startCb w msg job
    | .finish => endCb job
    | .mkdir => mkdirCb w msg job
    | .rmdir => rmdirCb msg job
    | .cp i => cpCb w i msg.failure job

/-- The handler registered with the Transfer Manager for an action. -/
def handle : TmAction → World → Job → Reply
  | .prolog => prolog
  | .epilog => epilog

/-- `gw_job_pool_tm_recover` for one job: a reloaded driver, of whatever user and name. -/
def recover (_ : World) (job : Job) : Reply :=
  let job := { job with tmState := .init }
  match job.jobState with
  | .prolog => ⟨job, [.dm .prolog]⟩
  | .epilog => ⟨job, [.dm .epilog]⟩
  | .epilogStd => ⟨job, [.dm .epilogStd]⟩
  | .migrEpilog => ⟨job, [.dm .migrEpilog]⟩
  | .epilogRestart => ⟨job, [.dm .epilogRestart]⟩
  | .epilogFail => ⟨job, [.dm .epilogFail]⟩
  | .killEpilog => ⟨job, [.dm .killEpilog]⟩
  | .stopEpilog => ⟨job, [.dm .stopEpilog]⟩
  | _ => ⟨job, []⟩

end GridWay.Tm
