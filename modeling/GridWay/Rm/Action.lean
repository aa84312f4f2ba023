import GridWay.Rm.Connection

/-!
# The Request Manager

The handlers of `gw_rm.c`, `gw_rm_hold_release.c`, `gw_rm_stop_resume.c`, `gw_rm_reschedule.c`,
`gw_rm_kill.c` and `gw_rm_wait.c`. A message is served in a thread of its own: it is authorised, it
enters the client in the connection list, and it triggers the action of the Dispatch Manager, each
at its own time. The answers of the Dispatch Manager are handled one after the other. The queries
about jobs, hosts and users only read the pools and are left out.

* `Rm.connection`, `Rm.submit`: a message of a client.
* `Rm.enlist`, `Rm.trigger`: the rest of the thread.
* `Rm.handle`: an answer of the Dispatch Manager.
-/

namespace GridWay

/-- What the Request Manager reads of the configuration. -/
structure RmConf where
  gwadmin : String
  /-- `gw_sch_get_user_priority`, by user and group. -/
  userPriority : String → String → Int := fun _ _ => 0

/-- A thread that still has to trigger the action of its request, and before that to make the entry
in the connection list, if there is one to make. -/
structure Thread where
  request : Nat
  action : Request
  jobId : JobId
  entry : Option Connection
deriving DecidableEq, Repr

/-- A message that was sent to a client, with the number of the request that it answers. -/
structure Sent where
  socket : Socket
  request : Nat
  answer : Answer
deriving DecidableEq, Repr

/-- The daemon with its Request Manager. -/
structure Rm where
  conf : RmConf
  gwd : Gwd
  connections : List Connection := []
  threads : List Thread := []
  /-- The messages that were read, oldest first. -/
  received : List Msg := []
  /-- How many of the answers of the Dispatch Manager are handled. -/
  handled : Nat := 0
  sent : List Sent := []

namespace Rm

/-- `gw_rm_is_gwadmin`; `strncmp` looks at `GW_MSG_STRING_SHORT` characters. -/
def isGwadmin (conf : RmConf) (owner : String) : Bool :=
  owner.toList.take 25 == conf.gwadmin.toList.take 25

/-- `gw_rm_check_priority`: the priority that is granted. -/
def checkPriority (conf : RmConf) (owner group : String) (fixedPriority : Int) : Option Int :=
  if fixedPriority = -2147483648 then some (conf.userPriority owner group)
  else if fixedPriority = 20 then
    if isGwadmin conf owner then some fixedPriority else none
  else if fixedPriority < 0 ∨ fixedPriority > 20 then none
  else some fixedPriority

/-- `gw_rm_auth_user`. -/
def authUser (s : Rm) (jobId : JobId) (owner proxyPath : String) : Bool :=
  isGwadmin s.conf owner ||
    match s.gwd.userExists owner proxyPath with
    | none => false
    | some userId => (s.gwd.jobs jobId).any fun job => job.userId == some userId

/-- Send a message to the client of a request. -/
def send (socket : Socket) (request : Nat) (answer : Answer) (s : Rm) : Rm :=
  { s with sent := s.sent ++ [{ socket, request, answer }] }

/-- The daemon ends: a read through `NULL`, or a lock that its holder asks for again. -/
def crash (s : Rm) : Rm := { s with gwd := { s.gwd with crashed := true } }

/-- `gw_rm_permission_denied`. -/
def permissionDenied (request : Nat) (msg : Msg) (s : Rm) : Rm :=
  s.send msg.clientSocket request ⟨msg.msgType, msg.jobId, .failedPerm, none⟩

/-- The branches of `gw_rm_connection` that ask the Dispatch Manager for an action, once the user is
authorised: the client that waits for the answer is to be entered in the list. -/
def enter (listed : Bool) (action : Request) (waitType : WaitType) (request : Nat) (msg : Msg)
    (s : Rm) : Rm :=
  let entry : Option Connection :=
    if listed then some ⟨msg.clientSocket, msg.msgType, waitType, msg.jobId, request⟩ else none
  { s with threads := s.threads ++ [{ request, action, jobId := msg.jobId, entry }] }

/-- A branch of `gw_rm_connection` with its authorisation. -/
def serve (listed : Bool) (action : Request) (request : Nat) (msg : Msg) (s : Rm) : Rm :=
  if s.authUser msg.jobId msg.owner msg.proxyPath then
    s.enter listed action msg.waitType request msg
  else s.permissionDenied request msg

/-- The branch `GW_MSG_WAIT`: a wait for any job of a set is dropped when the client has been
notified, except the first of the set. -/
def serveWait (request : Nat) (msg : Msg) (s : Rm) : Rm :=
  if s.authUser msg.jobId msg.owner msg.proxyPath then
    match msg.waitType with
    | .any =>
      if Connections.waitInList .any msg.clientSocket s.connections then
        s.enter true .wait .any request msg
      else s
    | .anyFirst => s.enter true .wait .any request msg
    | .job => s.enter true .wait .job request msg
  else s.permissionDenied request msg

/-- The branch `GW_MSG_PRIORITY`. The check is given the address of the pointer, so that it looks at
the bytes behind it, `stack`, and not at the message. -/
def servePriority (stack msg : Msg) (s : Rm) : Rm :=
  match checkPriority s.conf stack.owner stack.group stack.fixedPriority with
  | none => s
  | some _ =>
    match s.gwd.jobs msg.jobId with
    | none => s.crash
    | some job =>
      let job := { job with fixedPriority := msg.fixedPriority }
      { s with gwd := { s.gwd with jobs := Function.update s.gwd.jobs msg.jobId (some job) } }

/-- A message is read: it gets the next number. -/
def receive (msg : Msg) (s : Rm) : Rm := { s with received := s.received ++ [msg] }

/-- `gw_rm_connection`, up to the entry in the connection list. -/
def connection (stack msg : Msg) (s : Rm) : Rm :=
  let request := s.received.length
  let s := s.receive msg
  match msg.msgType with
  | .wait => s.serveWait request msg
  | .kill => s.serve true .kill request msg
  | .killAsync => s.serve false .kill request msg
  | .killHard => s.serve false .killHard request msg
  | .stop => s.serve true .stop request msg
  | .stopAsync => s.serve false .stop request msg
  | .resume => s.serve true .resume request msg
  | .hold => s.serve true .hold request msg
  | .release => s.serve true .release request msg
  | .reschedule => s.serve true .reschedule request msg
  | .priority => s.servePriority stack msg
  | _ => s

/-- `gw_rm_connection_submit`. -/
def submit (msg : Msg) (sub : SubmitMsg) (s : Rm) : Rm :=
  let request := s.received.length
  let s := s.receive msg
  match checkPriority s.conf msg.owner msg.group msg.fixedPriority with
  | none => s.permissionDenied request msg
  | some fixedPriority =>
    { s with gwd := s.gwd.step (.submit
      { sub with owner := msg.owner, proxyPath := msg.proxyPath, fixedPriority }) }

/-- A thread enters its client in the connection list (`gw_connection_list_add`). -/
def enlist (n : Nat) (s : Rm) : Rm :=
  match s.threads[n]? with
  | none => s
  | some t =>
    match t.entry with
    | none => s
    | some c =>
      { s with
        threads := s.threads.set n { t with entry := none }
        connections := c :: s.connections }

/-- A thread that has made its entry triggers its action. -/
def trigger (n : Nat) (s : Rm) : Rm :=
  match s.threads[n]? with
  | none => s
  | some t =>
    if t.entry.isSome then s
    else
      { s with threads := s.threads.eraseIdx n, gwd := s.gwd.step (.request t.action t.jobId) }

/-- The loop of most handlers: all entries of a type that wait for a job are answered. -/
def notify (msgId : MsgType) (j : JobId) (answer : Answer) (s : Rm) : Rm :=
  let (found, left) := Connections.getAll msgId j s.connections
  found.foldl (fun s c => s.send c.socketFs c.request answer) { s with connections := left }

/-- The return code of a handler of a failure. -/
def failedCode (s : Rm) (j : JobId) : ReturnCode :=
  if (s.gwd.jobs j).isNone then .failedBadJobId else .failedBadJobState

/-- `gw_rm_hold_success`. -/
def holdSuccess (j : JobId) (s : Rm) : Rm := s.notify .hold j { msgType := .hold, jobId := j, rc := .success }

/-- `gw_rm_hold_failed`. -/
def holdFailed (j : JobId) (s : Rm) : Rm :=
  s.notify .hold j { msgType := .hold, jobId := j, rc := s.failedCode j }

/-- `gw_rm_release_success`. -/
def releaseSuccess (j : JobId) (s : Rm) : Rm :=
  s.notify .release j { msgType := .release, jobId := j, rc := .success }

/-- `gw_rm_release_failed`. -/
def releaseFailed (j : JobId) (s : Rm) : Rm :=
  s.notify .release j { msgType := .release, jobId := j, rc := s.failedCode j }

/-- `gw_rm_stop_success`. -/
def stopSuccess (j : JobId) (s : Rm) : Rm :=
  s.notify .stop j { msgType := .stop, jobId := j, rc := .success }

/-- `gw_rm_stop_failed`. -/
def stopFailed (j : JobId) (s : Rm) : Rm :=
  s.notify .stop j { msgType := .stop, jobId := j, rc := s.failedCode j }

/-- `gw_rm_resume_success`. -/
def resumeSuccess (j : JobId) (s : Rm) : Rm :=
  s.notify .resume j { msgType := .resume, jobId := j, rc := .success }

/-- `gw_rm_resume_failed`: the answer is of type `RELEASE`, and after the first request of type
`RESUME` the loop goes on with those of type `RELEASE`. -/
def resumeFailed (j : JobId) (s : Rm) : Rm :=
  let answer : Answer := { msgType := .release, jobId := j, rc := s.failedCode j }
  match Connections.get .resume j s.connections with
  | none => s
  | some (c, rest) =>
    ({ s with connections := rest }.send c.socketFs c.request answer).notify .release j answer

/-- `gw_rm_reschedule_success`. -/
def rescheduleSuccess (j : JobId) (s : Rm) : Rm :=
  s.notify .reschedule j { msgType := .reschedule, jobId := j, rc := .success }

/-- `gw_rm_reschedule_failed`. -/
def rescheduleFailed (j : JobId) (s : Rm) : Rm :=
  s.notify .reschedule j { msgType := .reschedule, jobId := j, rc := s.failedCode j }

/-- `gw_rm_kill_failed`. -/
def killFailed (j : JobId) (s : Rm) : Rm :=
  s.notify .kill j { msgType := .kill, jobId := j, rc := s.failedCode j }

/-- One client less waits for a job, if the job exists. -/
def decWaiting (j : JobId) (s : Rm) : Rm :=
  match s.gwd.jobs j with
  | none => s
  | some job =>
    let job := { job with clientWaiting := job.clientWaiting - 1 }
    { s with gwd := { s.gwd with jobs := Function.update s.gwd.jobs j (some job) } }

/-- The loop of `gw_rm_wait_remove_anys`. The lock of a job is taken to count the client off, and
`locked` is the job whose lock the caller holds. -/
def removeAnys (locked : Option JobId) (socket : Socket) : Nat → Rm → Rm
  | 0, s => s
  | n + 1, s =>
    match Connections.getByClient .wait socket s.connections with
    | none => s
    | some (c, rest) =>
      let s := { s with connections := rest }
      if locked = some c.jobId then s.crash
      else removeAnys locked socket n (s.decWaiting c.jobId)

/-- `gw_rm_wait_remove_anys`. -/
def waitRemoveAnys (locked : Option JobId) (socket : Socket) (s : Rm) : Rm :=
  removeAnys locked socket s.connections.length s

/-- The loop over the clients that wait for a job; with `counted` each of them is counted off. -/
def notifyWaiting (counted : Bool) (j : JobId) (answer : Answer) : Nat → Rm → Rm
  | 0, s => s
  | n + 1, s =>
    match Connections.get .wait j s.connections with
    | none => s
    | some (c, rest) =>
      let s := { s with connections := rest }
      let s := if counted then s.decWaiting j else s
      let s := s.send c.socketFs c.request answer
      let s := if c.waitType = .any then
          s.waitRemoveAnys (if counted then some j else none) c.socketFs
        else s
      notifyWaiting counted j answer n s

/-- `gw_rm_wait_success`. The lock of a job that is gone is released at the end. -/
def waitSuccess (j : JobId) (s : Rm) : Rm :=
  match s.gwd.jobs j with
  | none =>
    (s.notifyWaiting false j { msgType := .wait, jobId := j, rc := .failedBadJobId }
      s.connections.length).crash
  | some job =>
    let rc := if job.jobState = .failed then .failedJobFail else .success
    s.notifyWaiting true j { msgType := .wait, jobId := j, rc, exitCode := some job.exitCode }
      s.connections.length

/-- `gw_rm_wait_failed`: one client is answered. -/
def waitFailed (j : JobId) (s : Rm) : Rm :=
  match Connections.get .wait j s.connections with
  | none => s
  | some (c, rest) =>
    let s := { s with connections := rest }.send c.socketFs c.request
      { msgType := .wait, jobId := j, rc := .failedBadJobId }
    if c.waitType = .any then s.waitRemoveAnys none c.socketFs else s

/-- `gw_rm_kill_success`: the clients that wait for the job are told that it was killed. -/
def killSuccess (j : JobId) (s : Rm) : Rm :=
  let s := s.notify .kill j { msgType := .kill, jobId := j, rc := .success }
  s.notifyWaiting false j { msgType := .kill, jobId := j, rc := .failedJobKilled }
    s.connections.length

/-- The handler of an answer of the Dispatch Manager. -/
def handle (a : RmAction) (j : JobId) (s : Rm) : Rm :=
  match a with
  | .killSuccess => s.killSuccess j
  | .killFailed => s.killFailed j
  | .stopSuccess => s.stopSuccess j
  | .stopFailed => s.stopFailed j
  | .resumeSuccess => s.resumeSuccess j
  | .resumeFailed => s.resumeFailed j
  | .holdSuccess => s.holdSuccess j
  | .holdFailed => s.holdFailed j
  | .releaseSuccess => s.releaseSuccess j
  | .releaseFailed => s.releaseFailed j
  | .rescheduleSuccess => s.rescheduleSuccess j
  | .rescheduleFailed => s.rescheduleFailed j
  | .waitSuccess => s.waitSuccess j
  | .waitFailed => s.waitFailed j

/-- The next answer of the Dispatch Manager is handled. -/
def next (s : Rm) : Rm :=
  match s.gwd.answers[s.handled]? with
  | none => s
  | some (a, j) => { s with handled := s.handled + 1 }.handle a j

/-- The connection of a client is closed (`gw_rm_listener`). -/
def disconnect (socket : Socket) (s : Rm) : Rm :=
  { s with connections := Connections.delete socket s.connections }

end Rm

/-- The events of the daemon in which no client has a part. -/
def Event.internal : Event → Bool
  | .request _ _ => false
  | .submit _ => false
  | _ => true

/-- What can happen to the daemon with its clients. -/
inductive RmEvent where
  | internal (e : Event)
  | connection (stack msg : Msg)
  | submit (msg : Msg) (sub : SubmitMsg)
  | enlist (n : Nat)
  | trigger (n : Nat)
  | next
  | disconnect (socket : Socket)
  | restart (w : RecoverWorld)

namespace Rm

/-- The effect of an event on a daemon that runs. -/
def live (s : Rm) : RmEvent → Rm
  | .internal e => if e.internal then { s with gwd := s.gwd.step e } else s
  | .connection stack msg => s.connection stack msg
  | .submit msg sub => s.submit msg sub
  | .enlist n => s.enlist n
  | .trigger n => s.trigger n
  | .next => s.next
  | .disconnect socket => s.disconnect socket
  | .restart w => { conf := s.conf, gwd := s.gwd.restart w }

/-- One event. A daemon that has crashed is only brought back by a restart. -/
def step (s : Rm) (e : RmEvent) : Rm :=
  match e with
  | .restart w => s.live (.restart w)
  | e => if s.gwd.crashed then s else s.live e

/-- The daemon after start-up with empty directories. -/
def start (rmConf : RmConf) (conf : Conf) : Rm := { conf := rmConf, gwd := Gwd.start conf }

end Rm

end GridWay
