import GridWay.Gwd.State

/-!
# Steps of the daemon

Submissions (`gw_dm_action_allocate.c` with the job, user and array pools), and the step function
over everything that can happen to the daemon: a manager takes the action at the head of its
queue, a message arrives from a driver or from the scheduler, a client request is queued, a timer
loop visits a job, a driver is reloaded. Messages carry any content at any time, and the loops over
the job pool are taken one job at a time, because each visit locks its job on its own.

* `Gwd.step`: one event.
* `Gwd.run`: a list of events.
-/

namespace GridWay

/-- How `gw_job_fill` ends: before the template is stored, before `job.conf` is written, or well. -/
inductive Fill where
  | early | late | ok
deriving DecidableEq, Repr

/-- The answers of the outside world to a submission. -/
structure SubmitWorld where
  world : World := {}
  /-- `gw_user_init` returns `0`. -/
  userInit : Bool := true
  fill : JobId → Fill := fun _ => .ok
  /-- The memory of the array structure could be allocated. -/
  arrayInit : Bool := true

/-- Client requests that name a job. -/
inductive Request where
  | hold | release | stop | resume | kill | killHard | wait | reschedule
deriving DecidableEq, Repr

/-- The action that the Request Manager queues for a request. -/
def Request.action : Request → DmAction
  | .hold => .hold
  | .release => .release
  | .stop => .stop
  | .resume => .resume
  | .kill => .kill
  | .killHard => .killHard
  | .wait => .wait
  | .reschedule => .reschedule

namespace Gwd

/-- `gw_user_pool_exists`: the first user with the name and the proxy path. -/
def userExists (s : Gwd) (name proxyPath : String) : Option UserId :=
  (List.range s.conf.numberOfUsers).find? fun u =>
    match s.users u with
    | none => false
    | some user => user.name == name && user.proxyPath == proxyPath

/-- The first free slot of the user pool; the index after the pool when there is none. -/
def freeUser (s : Gwd) : UserId :=
  ((List.range s.conf.numberOfUsers).find? fun u => (s.users u).isNone).getD s.conf.numberOfUsers

/-- `gw_user_pool_user_allocate`: the new user starts with one active job. -/
def userAllocate (w : SubmitWorld) (name proxyPath : String) (s : Gwd) : Gwd × Option UserId :=
  if s.userCount = s.conf.numberOfUsers then (s, none)
  else
    let uid := s.freeUser
    -- without a free slot the new record is written past the pool
    if uid = s.conf.numberOfUsers then ({ s with crashed := true }, none)
    else if w.userInit then
      let user : User := { name, proxyPath, activeJobs := 1 }
      ({ s with
          users := Function.update s.users uid (some user)
          toSched := s.toSched ++ [.userAdd uid 1 0 name] }, some uid)
    else (s, none)

/-- The user of a submission, and whether it is a new one; `none` when it cannot be registered. -/
def submitUser (w : SubmitWorld) (msg : SubmitMsg) (s : Gwd) : Gwd × Option (UserId × Bool) :=
  match s.userExists msg.owner msg.proxyPath with
  | some uid => (s, some (uid, false))
  | none =>
    let (s, uid) := s.userAllocate w msg.owner msg.proxyPath
    (s, uid.map (·, true))

/-- The first free slot of the job pool from `next` on, looking at `tries` slots; `none` when all
of them are taken. -/
def freeJob (s : Gwd) : Nat → JobId → Option JobId
  | 0, _ => none
  | tries + 1, next => if (s.jobs next).isNone then some next else freeJob s tries (next + 1)

/-- The directory name of a job. -/
def directoryOf (j : JobId) : String := "var/" ++ toString j

/-- `gw_job_init`. -/
def jobInit (w : World) (j : JobId) : Job :=
  { id := j, directory := directoryOf j, startTime := w.now,
    template := { np := 0 } }

/-- `gw_job_pool_allocate`. -/
def jobPoolAllocate (w : World) (s : Gwd) : Gwd × Option JobId :=
  match s.freeJob s.conf.numberOfJobs s.nextJobId with
  | none => (s, none)
  | some j =>
    -- the search is not bounded by the size of the pool
    if s.conf.numberOfJobs ≤ j then ({ s with crashed := true }, none)
    else
      ({ s with
          jobs := Function.update s.jobs j (some (jobInit w j))
          nextJobId := j + 1
          jobCount := s.jobCount + 1 }, some j)

/-- The line of `job.conf` for a submission. -/
def confOf (msg : SubmitMsg) (job : Job) : JobConf :=
  { startTime := job.startTime, owner := msg.owner, proxyPath := msg.proxyPath,
    jobHome := msg.template.jobHome, pstart := msg.pstart, pinc := msg.pinc,
    fixedPriority := msg.fixedPriority, typeDep := msg.typeDep }

/-- `gw_job_fill`: the job directory is made anew. -/
def jobFill (w : SubmitWorld) (msg : SubmitMsg) (s : Gwd) (job : Job) : Gwd × Job × Bool :=
  match w.fill job.id with
  | .early => (s, job, false)
  | .late =>
    let job := { job with owner := msg.owner, template := msg.template }
    let dir : JobDir := { template := msg.template, jobDeps := msg.jobDeps }
    ({ s with dirs := Function.update s.dirs job.id (some dir) }, job, false)
  | .ok =>
    let job := { job with owner := msg.owner, template := msg.template, typeDep := msg.typeDep }
    let dir : JobDir :=
      { template := msg.template, jobDeps := msg.jobDeps, conf := some (confOf msg job) }
    ({ s with dirs := Function.update s.dirs job.id (some dir) }, job, true)

/-- `gw_job_pool_dep_set`, called when the submission has dependencies. -/
def depSet (msg : SubmitMsg) (j : JobId) (s : Gwd) : Gwd :=
  if msg.jobDeps = [] then s
  else { s with deps := Function.update s.deps j (some (msg.jobDeps.map Int.ofNat)) }

/-- The state and the owner that a submitted job starts with. -/
def initialise (msg : SubmitMsg) (uid : UserId) (job : Job) : Job :=
  { (job.setState (if msg.held then .hold else .pending)) with
    tmState := .init, emState := .init, userId := some uid, fixedPriority := msg.fixedPriority }

/-- `gw_dm_jalloc` after the user is known. -/
def allocateJob (w : SubmitWorld) (msg : SubmitMsg) (uid : UserId) (useradd : Bool) (s : Gwd) :
    Gwd :=
  match s.jobPoolAllocate w.world with
  | (s, none) => s
  | (s, some j) =>
    match s.jobs j with
    | none => s
    | some job =>
      match s.jobFill w msg job with
      | (s, job, false) =>
        ({ s with jobs := Function.update s.jobs j (some job) }).jobPoolFree j
      | (s, job, true) =>
        let job := initialise msg uid job
        let s := { s with jobs := Function.update s.jobs j (some job) }
        let s := s.stateLine w.world j job.jobState
        let s := s.depSet msg j
        let s := if useradd then s else s.incJobs (some uid) 1
        if msg.held then s
        else { s with toSched := s.toSched ++ [.jobSchedule j none (some uid) .none] }

/-- The first free slot of the array pool from `next` on, looking at `tries` slots. -/
def freeArray (s : Gwd) : Nat → Nat → Option Nat
  | 0, _ => none
  | tries + 1, next => if (s.arrays next).isNone then some next else freeArray s tries (next + 1)

/-- The loop of `gw_array_pool_array_allocate` over the tasks. -/
def allocateTasks (w : World) (aid total : Nat) : Nat → Nat → Gwd → Gwd × List JobId
  | 0, _, s => (s, [])
  | n + 1, task, s =>
    match s.jobPoolAllocate w with
    -- the result `-1` is used as an index
    | (s, none) => ({ s with crashed := true }, [])
    | (s, some j) =>
      let job := (s.jobs j).map fun job =>
        { job with taskId := task, arrayId := some aid, totalTasks := total }
      let s := { s with jobs := Function.update s.jobs j job }
      let (s, js) := allocateTasks w aid total n (task + 1) s
      (s, j :: js)

/-- `gw_array_pool_array_allocate`. -/
def arrayAllocate (w : SubmitWorld) (tasks : Nat) (s : Gwd) : Gwd × Option (Nat × List JobId) :=
  if tasks + s.jobCount > s.conf.numberOfJobs then (s, none)
  else
    match s.freeArray s.conf.numberOfArrays s.nextArrayId with
    | none => (s, none)
    | some aid =>
      if s.conf.numberOfArrays ≤ aid then ({ s with crashed := true }, none)
      else if w.arrayInit then
        let s := { s with nextArrayId := aid + 1 }
        let (s, js) := allocateTasks w.world aid tasks tasks 0 s
        let a : JobArray := { jobIds := js.map some }
        ({ s with arrays := Function.update s.arrays aid (some a) }, some (aid, js))
      else
        -- the slot keeps the array that could not be made
        ({ s with
            nextArrayId := aid + 1
            arrays := Function.update s.arrays aid (some { jobIds := [] }) }, none)

/-- One round of the loop of `gw_dm_aalloc`; the return code of `gw_job_fill` is not looked at. -/
def fillTask (w : SubmitWorld) (msg : SubmitMsg) (aid : Nat) (uid : UserId) (s : Gwd) (j : JobId) :
    Gwd :=
  match s.jobs j with
  | none => { s with crashed := true }
  | some job =>
    let (s, job, _) := s.jobFill w msg job
    let job := { (initialise msg uid job) with pstart := msg.pstart, pinc := msg.pinc }
    let s := { s with jobs := Function.update s.jobs j (some job) }
    let s := s.stateLine w.world j job.jobState
    let s := if msg.held then s
      else { s with toSched := s.toSched ++ [.jobSchedule j (some aid) (some uid) .none] }
    s.depSet msg j

/-- `gw_dm_aalloc` after the user is known. -/
def allocateArray (w : SubmitWorld) (msg : SubmitMsg) (tasks : Nat) (uid : UserId) (useradd : Bool)
    (s : Gwd) : Gwd :=
  match s.arrayAllocate w tasks with
  | (s, none) => s
  | (s, some (aid, js)) =>
    let s := js.foldl (fillTask w msg aid uid) s
    s.incJobs (some uid) (tasks - if useradd then 1 else 0)

/-- `gw_dm_jalloc` and `gw_dm_aalloc`. -/
def allocate (w : SubmitWorld) (msg : SubmitMsg) (s : Gwd) : Gwd :=
  match s.submitUser w msg with
  | (s, none) => s
  | (s, some (uid, useradd)) =>
    match msg.tasks with
    | none => s.allocateJob w msg uid useradd
    | some tasks => s.allocateArray w msg tasks uid useradd

/-- `GW_MAX_IDLE_TIME`. -/
def maxIdleTime : Int := 360

/-- One round of the loop of `gw_user_pool_check_users`. -/
def checkUser (period : Int) (s : Gwd) (u : UserId) : Gwd :=
  match s.users u with
  | none => s
  | some user =>
    if user.activeJobs = 0 then
      if user.idle + period ≥ maxIdleTime then
        { s with
          users := Function.update s.users u none
          userCount := s.userCount - 1
          toSched := s.toSched ++ [.userDel u] }
      else
        { s with users := Function.update s.users u (some { user with idle := user.idle + period }) }
    else s

/-- The head of the queue of the Dispatch Manager is taken and its handler runs. -/
def dmNext (w : SubmitWorld) (s : Gwd) : Gwd :=
  match s.dmQueue with
  | [] => s
  | .allocate msg :: rest => ({ s with dmQueue := rest }).allocate w msg
  | .job a j :: rest =>
    match s.jobs j with
    | none =>
      { s with dmQueue := rest, answers := s.answers ++ (Dm.noJob a).map (·, j) }
    | some _ => ({ s with dmQueue := rest }).onJob w.world j (Dm.handle a)

/-- The head of the queue of the Execution Manager is taken. -/
def emNext (w : World) (s : Gwd) : Gwd :=
  match s.emQueue with
  | [] => s
  | (a, j) :: rest => ({ s with emQueue := rest }).onJob w j (Em.handle a)

/-- The head of the queue of the Transfer Manager is taken. -/
def tmNext (w : World) (s : Gwd) : Gwd :=
  match s.tmQueue with
  | [] => s
  | (a, j) :: rest => ({ s with tmQueue := rest }).onJob w j (Tm.handle a)

/-- `gw_dm_dispatch_job`, on `SCHEDULE_JOB` with result `SUCCESS`. -/
def scheduleJob (w : World) (j : JobId) (hid : HostId) (queue : String) (rank : Int) (s : Gwd) :
    Gwd :=
  match s.hosts hid with
  | none => s
  | some host => s.onJob w j (Dm.dispatchJob hid host rank queue)

/-- `gw_job_pool_em_recover` for one job: the driver is asked for the job by its stored contact. -/
def emRecover (mad : String) (s : Gwd) (j : JobId) : Gwd :=
  match s.jobs j with
  | none => s
  | some job =>
    match job.history with
    | [] => s
    | head :: _ =>
      if head.emMad = mad ∧ job.jobState = .wrapper then
        match (s.dirs j).bind (·.contact) with
        | some contact => { s with toEm := s.toEm ++ [(j, mad, .recover contact)] }
        | none => { s with emQueue := s.emQueue ++ [(.failed, j)] }
      else s

/-- `gw_job_pool_dm_recover` for one job. -/
def dmRecover (s : Gwd) (j : JobId) : Gwd :=
  match s.jobs j with
  | none => s
  | some job =>
    if job.jobState = .pending then
      { s with toSched := s.toSched ++ [.jobSchedule j job.arrayId job.userId .none] }
    else s

/-- A host that an information driver reports is entered at a free slot, with counters at `0`. -/
def hostAllocate (hid : HostId) (host : Host) (s : Gwd) : Gwd :=
  match s.hosts hid with
  | some _ => s
  | none =>
    let host := { host with
      usedSlots := 0, runningJobs := 0, queues := host.queues.map fun row => { name := row.name } }
    { s with hosts := Function.update s.hosts hid (some host) }

/-- The queue names of a report, over the counters that the host has at the same indices. Names that
the report does not reach stay. -/
def renameQueues : List String → List QueueRow → List QueueRow
  | [], rows => rows
  | name :: names, [] => { name } :: renameQueues names []
  | name :: names, row :: rows => { row with name } :: renameQueues names rows

/-- A host is monitored: its attributes change, its slot and job counters do not. -/
def hostUpdate (hid : HostId) (info : Host) (s : Gwd) : Gwd :=
  match s.hosts hid with
  | none => s
  | some host =>
    let host := { host with
      forkName := info.forkName, lrmsName := info.lrmsName, lrmsType := info.lrmsType
      seHostname := info.seHostname
      queues := renameQueues (info.queues.map (·.name)) host.queues }
    { s with hosts := Function.update s.hosts hid (some host) }

end Gwd

/-- What can happen to the daemon. -/
inductive Event where
  | dm (w : SubmitWorld)
  | em (w : World)
  | tm (w : World)
  | request (r : Request) (j : JobId)
  | submit (msg : SubmitMsg)
  | emMsg (j : JobId) (msg : Em.Msg) (w : World)
  | tmMsg (j : JobId) (msg : Tm.Msg) (w : World)
  | scheduleJob (j : JobId) (hid : HostId) (queue : String) (rank : Int) (w : World)
  | scheduleFailed (j : JobId) (w : World)
  | scheduleEnd
  | schedule
  | checkJob (j : JobId) (w : World)
  | emTimer (j : JobId) (w : World)
  | tmTimer (j : JobId) (w : World)
  | emReload (mad : String) (j : JobId)
  | tmReload (j : JobId) (w : World)
  | dmReload (j : JobId)
  | checkUser (u : UserId) (period : Int)
  | hostAllocate (hid : HostId) (host : Host)
  | hostUpdate (hid : HostId) (info : Host)

namespace Gwd

/-- The effect of an event on a daemon that runs. -/
def live (s : Gwd) : Event → Gwd
  | .dm w => s.dmNext w
  | .em w => s.emNext w
  | .tm w => s.tmNext w
  | .request r j => { s with dmQueue := s.dmQueue ++ [.job r.action j] }
  | .submit msg => { s with dmQueue := s.dmQueue ++ [.allocate msg] }
  | .emMsg j msg w => s.onJob w j (Em.listener msg)
  | .tmMsg j msg w => s.onJob w j (Tm.listener msg)
  | .scheduleJob j hid queue rank w => s.scheduleJob w j hid queue rank
  | .scheduleFailed j w => s.onJob w j Dm.uncheckJob
  | .scheduleEnd => { s with scheduling := false }
  | .schedule => { s with scheduling := true, toSched := s.toSched ++ [.schedule] }
  | .checkJob j w => s.onJob w j Dm.checkJob
  | .emTimer j w => s.onJob w j Em.timer
  | .tmTimer j w => s.onJob w j Tm.timer
  | .emReload mad j => s.emRecover mad j
  | .tmReload j w => s.onJob w j Tm.recover
  | .dmReload j => s.dmRecover j
  | .checkUser u period => s.checkUser period u
  | .hostAllocate hid host => s.hostAllocate hid host
  | .hostUpdate hid info => s.hostUpdate hid info

/-- One step: nothing happens after a crash. -/
def step (s : Gwd) (e : Event) : Gwd := if s.crashed then s else s.live e

end Gwd

end GridWay
