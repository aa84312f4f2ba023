import GridWay.Em.Action

/-!
# Messages of the execution drivers

`gw_em_listener.c`. A message names a job, not a submission. The listener drops it when the job is
not in an execution state, and otherwise queues an EM action that runs later.
-/

namespace GridWay

/-- `strstr(s, p) != NULL`. -/
def isInfix (p : List Char) : List Char → Bool
  | [] => p.isEmpty
  | c :: cs => p.isPrefixOf (c :: cs) || isInfix p cs

/-- The text after the first occurrence of `p`. -/
def afterInfix (p : List Char) : List Char → Option (List Char)
  | [] => if p.isEmpty then some [] else none
  | c :: cs => if p.isPrefixOf (c :: cs) then some ((c :: cs).drop p.length) else afterInfix p cs

/-- The leading decimal digits as a number. -/
def digits (acc : Int) : List Char → Int
  | c :: cs => if c.isDigit then digits (10 * acc + (c.toNat - '0'.toNat : Nat)) cs else acc
  | [] => acc

/-- `atoi`. -/
def atoi (s : List Char) : Int :=
  match s.dropWhile Char.isWhitespace with
  | '-' :: cs => - digits 0 cs
  | '+' :: cs => digits 0 cs
  | cs => digits 0 cs

namespace Em

/-- The operations that a driver reports on. -/
inductive Verb where
  | submit | cancel | poll | recover | callback
deriving DecidableEq, Repr

/-- A line read from an execution driver, without its job id. -/
structure Msg where
  verb : Verb
  result : String
  info : String
deriving DecidableEq, Repr

/-- The exit code of a `DONE:code` report. -/
def exitCodeOf (info : String) (job : Job) : Int :=
  match afterInfix "DONE:".toList info.toList with
  | some (c :: cs) => atoi (c :: cs)
  | _ => job.exitCode

/-- A successful report of an execution state; `onFailed` is what `FAILED` means for the verb. -/
def report (info : String) (onFailed : Job → Reply) (job : Job) : Reply :=
  if info = "PENDING" then ⟨job, [.em .pending]⟩
  else if info = "SUSPENDED" then ⟨job, [.em .suspended]⟩
  else if info = "ACTIVE" then ⟨job, [.em .active]⟩
  else if isInfix "DONE".toList info.toList then
    ⟨{ job with exitCode := exitCodeOf info job }, [.em .done]⟩
  else if info = "FAILED" then onFailed job
  else ⟨job, []⟩

/-- A poll that did not succeed: after three in a row the job is taken as done. -/
def pollFailed (w : World) (job : Job) : Reply :=
  match job.history with
  | [] => .crash job
  | head :: past =>
    let polls := head.failedPolls + 1
    let job := { job with history := { head with failedPolls := polls } :: past }
    if polls = 3 then ⟨job, [.em .done]⟩
    else ⟨{ job with nextPollTime := w.now + w.pollInterval * polls + w.rand }, []⟩

/-- A recovered job that is reported as failed is not retried. -/
def recoverFailed (job : Job) : Reply :=
  match job.history with
  | [] => .crash job
  | head :: past =>
    ⟨{ job with history := { head with tries := job.template.numberOfRetries } :: past },
      [.em .failed]⟩

/-- A message for a job in an execution state. -/
def receive (w : World) (msg : Msg) (job : Job) : Reply :=
  match msg.verb with
  | .submit =>
    if msg.result = "FAILURE" then ⟨job, [.em .failed]⟩
    else ⟨job, [.contact msg.info, .em .pending]⟩
  | .cancel => ⟨job, []⟩
  | .poll =>
    if msg.result = "SUCCESS" then
      report msg.info (fun job => ⟨job, [.em .failed]⟩)
        { job with nextPollTime := w.now + w.pollInterval / 2 + w.rand }
    else pollFailed w job
  | .recover =>
    if msg.result = "SUCCESS" then report msg.info recoverFailed job
    else ⟨job, [.em .done]⟩
  | .callback =>
    -- a callback `FAILED` means that the user cancelled the execution
    if msg.result = "SUCCESS" then report msg.info (fun job => ⟨job, [.em .done]⟩) job
    else if job.jobState.isCancel then ⟨job, [.em .done]⟩
    else ⟨job, [.em .failed]⟩

/-- `gw_em_listener` for a job that exists. -/
def listener (msg : Msg) (w : World) (job : Job) : Reply :=
  if !job.jobState.isExecution then ⟨job, []⟩
  else if job.emState = .hardKill then ⟨job, []⟩
  else receive w msg job

end Em

end GridWay
