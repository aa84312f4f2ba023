import GridWay.Em.Listener

/-!
# File transfers

`gw_tm_prolog.c`, `gw_tm_epilog.c` and `gw_tm_checkpoint.c`: the URLs of a file, the start of the
transfers of a stage and the callback of one copy. A copy is named by its index in the transfer
list only.

* `Tm.prologVerdict`, `Tm.epilogVerdict`: what is done when no transfer is pending any more. The
  prolog checks the indices below `failure_limit`, the epilog those up to it.
-/

namespace GridWay.Tm

/-- Outcome of building the URLs of a file: return code `0`, `1` or `-1`. -/
inductive Urls where
  | ok (src dst : String)
  | skip
  | error
deriving DecidableEq, Repr

/-- The part of a path after its last slash. -/
def baseName (path : String) : String :=
  String.ofList (path.toList.reverse.takeWhile (· ≠ '/')).reverse

/-- `strstr(url, "remote://") != NULL`. -/
def isRemote (url : String) : Bool := isInfix "remote://".toList url.toList

/-- `strstr(url, "file://") != NULL`. -/
def isFile (url : String) : Bool := isInfix "file://".toList url.toList

/-- `gw_tm_prolog_build_urls`. -/
def prologBuildUrls (w : World) (job : Job) (rdir src : String) (dst : Option String) : Urls :=
  if src.toList.head? = some '/' then .skip
  else if isRemote src then
    match w.substitute src with
    | none => .error
    | some srcUrl =>
      -- the check of the substituted destination tests the wrong pointer
      .ok srcUrl ((w.substitute (rdir ++ dst.getD (baseName src))).getD "(null)")
  else
    let (url, name) :=
      if isFile src then (src, dst.getD (baseName src))
      else ("file://" ++ job.template.jobHome ++ "/" ++ src, dst.getD src)
    match w.substitute url, w.substitute (rdir ++ name) with
    | some srcUrl, some dstUrl => .ok srcUrl dstUrl
    | _, _ => .error

/-- `gw_tm_epilog_build_urls`; `rdir` is the remote directory of the host that is left. -/
def epilogBuildUrls (w : World) (job : Job) (rdir src : String) (dst : Option String) : Urls :=
  match w.substitute (rdir ++ src) with
  | none => .error
  | some srcUrl =>
    match dst with
    | some d =>
      if isRemote d then .ok srcUrl ((w.substitute d).getD "(null)")
      else
        let url :=
          if isFile d then d
          else if d.toList.head? = some '/' then "file://" ++ d
          else "file://" ++ job.template.jobHome ++ "/" ++ d
        match w.substitute url with
        | none => .error
        | some dstUrl => .ok srcUrl dstUrl
    | none =>
      match w.substitute ("file://" ++ job.template.jobHome ++ "/" ++ src) with
      | none => .error
      | some dstUrl => .ok srcUrl dstUrl

/-- The remote directory an epilog works on. -/
def epilogRdir (job : Job) : Option String :=
  match job.history with
  | [] => none
  | head :: past => if job.jobState = .migrEpilog then past.head?.map (·.rdir) else some head.rdir

/-- Some file of `xs` with a source did not arrive. -/
def someMissing (xs : List Xfr) : Bool := xs.any fun x => x.srcUrl.isSome && !x.success

/-- One file at the start of a stage: its entry and its `CP` request. -/
def startXfr (urls : String → Option String → Urls) (mad : String) (mode : Xfr → Char) (i : Nat)
    (x : Xfr) : Xfr × List Call :=
  match x.srcUrl with
  | none => (x, [])
  | some src =>
    match urls src x.dstUrl with
    | .ok s d => (x, [.tmMad mad (.cp i (mode x) s d)])
    | .skip => ({ x with done := true, success := true }, [])
    | .error => ({ x with done := true, success := false }, [])

/-- The loop over the files at the start of a stage, from index `i` on. -/
def startXfrs (urls : String → Option String → Urls) (mad : String) (mode : Xfr → Char) :
    Nat → List Xfr → List Xfr × List Call
  | _, [] => ([], [])
  | i, x :: xs =>
    let (x', cs) := startXfr urls mad mode i x
    let (xs', cs') := startXfrs urls mad mode (i + 1) xs
    (x' :: xs', cs ++ cs')

/-- End of a prolog: every mandatory file must have arrived. -/
def prologVerdict (job : Job) (head : HistoryRecord) : Reply :=
  if someMissing (job.xfrs.xfrs.take job.xfrs.failureLimit.toNat) then
    ⟨{ job with tmState := .prologFailed }, [.tmMad head.tmMad (.rmdir head.rdir)]⟩
  else ⟨job, [.tmMad head.tmMad .finish]⟩

/-- `gw_tm_prolog_stage_in`. -/
def prologStageIn (w : World) (job : Job) : Reply :=
  match job.history with
  | [] => ⟨job, []⟩
  | head :: _ =>
    let (xs, cs) := startXfrs (prologBuildUrls w job head.rdir) head.tmMad (·.mode) 0 job.xfrs.xfrs
    let job := { job with xfrs := { job.xfrs with xfrs := xs } }
    if cs = [] then prologVerdict job head else ⟨job, cs⟩

/-- A file that arrived, or was given up. -/
def Xfr.close (success : Bool) (x : Xfr) : Xfr :=
  { x with done := true, success := success, counter := -1 }

/-- A failed copy in a prolog: retry later, try the alternate source, or give up. -/
def prologCpFailed (w : World) (job : Job) (head : HistoryRecord) (i : Nat) (x : Xfr) :
    Option (Xfr × List Call) :=
  let tries := x.tries - 1
  if tries = 0 then
    match x.altSrcUrl with
    | some alt =>
      let x := { x with
        tries := job.template.numberOfRetries, srcUrl := some alt, altSrcUrl := none,
        counter := -1 }
      match prologBuildUrls w job head.rdir alt x.dstUrl with
      | .ok s d => some (x, [.tmMad head.tmMad (.cp i x.mode s d)])
      -- the return code is not looked at: unset pointers are used
      | _ => none
    | none => some (Xfr.close false { x with tries := tries }, [])
  else if tries > 0 then
    some ({ x with tries := tries, counter := job.template.numberOfRetries - tries }, [])
  else some ({ x with tries := tries }, [])

/-- `gw_tm_prolog_cp_cb`. -/
def prologCpCb (w : World) (i : Nat) (failure : Bool) (job : Job) : Reply :=
  match job.history with
  | [] => ⟨job, []⟩
  | head :: _ =>
    match job.xfrs.xfrs[i]? with
    | none => .crash job
    | some x =>
      match (if failure then prologCpFailed w job head i x else some (Xfr.close true x, [])) with
      | none => .crash job
      | some (x, cs) =>
        let job := { job with xfrs := { job.xfrs with xfrs := job.xfrs.xfrs.set i x } }
        if job.xfrs.pending = 0 then (prologVerdict job head).after cs else ⟨job, cs⟩

/-- End of an epilog whose files did not all arrive: the remote directory is kept in `EPILOG` and
`EPILOG_STD`. -/
def epilogGiveUp (job : Job) (head : HistoryRecord) (rdir : String) : Reply :=
  if job.jobState = .epilog ∨ job.jobState = .epilogStd then
    ⟨{ job with tmState := .epilogFailed }, [.tmMad head.tmMad .finish]⟩
  else ⟨{ job with tmState := .epilogFailed }, [.tmMad head.tmMad (.rmdir rdir)]⟩

/-- End of an epilog without a missing file. -/
def epilogFinish (job : Job) (head : HistoryRecord) (rdir : String) : Reply :=
  if job.jobState = .epilogStd then ⟨job, [.tmMad head.tmMad .finish]⟩
  else ⟨job, [.tmMad head.tmMad (.rmdir rdir)]⟩

/-- End of an epilog: every file up to `failure_limit` must have arrived. -/
def epilogVerdict (job : Job) (head : HistoryRecord) (rdir : String) : Reply :=
  if someMissing (job.xfrs.xfrs.take (job.xfrs.failureLimit + 1).toNat) then
    epilogGiveUp job head rdir
  else epilogFinish job head rdir

/-- `gw_tm_epilog_stage_out`. -/
def epilogStageOut (w : World) (job : Job) : Reply :=
  match job.history with
  | [] => ⟨job, []⟩
  | head :: _ =>
    match epilogRdir job with
    | none => .crash job
    | some rdir =>
      if job.xfrs.xfrs = [] then epilogFinish job head rdir
      else
        let (xs, cs) :=
          startXfrs (epilogBuildUrls w job rdir) head.tmMad (fun _ => '-') 0 job.xfrs.xfrs
        let job := { job with xfrs := { job.xfrs with xfrs := xs } }
        if job.xfrs.pending = 0 then (epilogGiveUp job head rdir).after cs else ⟨job, cs⟩

/-- A failed copy in an epilog or a checkpoint: give up at `0` tries, else retry later. The flag
tells whether the callback goes on to look at the pending transfers. -/
def epilogCpFailed (job : Job) (x : Xfr) : Xfr × Bool :=
  let tries := x.tries - 1
  if tries = 0 then (Xfr.close false { x with tries := tries }, true)
  else ({ x with tries := tries, counter := job.template.numberOfRetries - tries }, false)

/-- `gw_tm_epilog_cp_cb`. -/
def epilogCpCb (i : Nat) (failure : Bool) (job : Job) : Reply :=
  match job.history with
  | [] => ⟨job, []⟩
  | head :: _ =>
    match job.xfrs.xfrs[i]? with
    | none => .crash job
    | some x =>
      let (x, goOn) := if failure then epilogCpFailed job x else (Xfr.close true x, true)
      let job := { job with xfrs := { job.xfrs with xfrs := job.xfrs.xfrs.set i x } }
      if goOn ∧ job.xfrs.pending = 0 then
        match epilogRdir job with
        | none => .crash job
        | some rdir => epilogVerdict job head rdir
      else ⟨job, []⟩

/-- End of a checkpoint: an epilog that waited for it starts, else the transfer is closed. -/
def checkpointVerdict (w : World) (job : Job) (head : HistoryRecord) : Reply :=
  if job.jobState = .stopEpilog ∨ job.jobState = .epilogRestart then
    epilogStageOut w { job with tmState := .epilog }
  else ⟨{ job with tmState := .init }, [.tmMad head.tmMad .finish]⟩

/-- The entries of a checkpoint. -/
def checkpointEntries (job : Job) : List Xfr :=
  job.template.restartFiles.map fun (f : String) =>
    { tries := job.template.numberOfRetries, srcUrl := some f,
      dstUrl := some (job.template.checkpointUrl ++ "/" ++ f) }

/-- `gw_tm_checkpoint_cp`. -/
def checkpointCp (w : World) (job : Job) : Reply :=
  match job.history with
  | [] => ⟨job, []⟩
  | head :: _ =>
    match epilogRdir job with
    | none => .crash job
    | some rdir =>
      let (xs, cs) :=
        startXfrs (epilogBuildUrls w job rdir) head.tmMad (fun _ => '-') 0 (checkpointEntries job)
      let job := { job with chkXfrs := { xfrs := xs, failureLimit := 0 } }
      if job.chkXfrs.pending = 0 then (checkpointVerdict w job head).after cs else ⟨job, cs⟩

/-- `gw_tm_checkpoint_cp_cb`. -/
def checkpointCpCb (w : World) (i : Nat) (failure : Bool) (job : Job) : Reply :=
  match job.history with
  | [] => ⟨job, []⟩
  | head :: _ =>
    match job.chkXfrs.xfrs[i]? with
    | none => .crash job
    | some x =>
      let (x, goOn) := if failure then epilogCpFailed job x else (Xfr.close true x, true)
      let job := { job with chkXfrs := { job.chkXfrs with xfrs := job.chkXfrs.xfrs.set i x } }
      if goOn ∧ job.chkXfrs.pending = 0 then checkpointVerdict w job head else ⟨job, []⟩

end GridWay.Tm
