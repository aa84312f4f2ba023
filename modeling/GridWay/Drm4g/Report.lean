import GridWay.Drm4g.Configure
import GridWay.Im.Query
import GridWay.Im.Report
import GridWay.Mad.Line
import Mathlib

/-!
# Reports about hosts

`drm4g/managers/__init__.py`: what a resource says about a host and its queues, and what the core keeps
of it when the information driver sends it.

* `Queue.info`, `HostInformation.info`: the texts.
* `Resource.host_information`, `Resource.host_properties`: the properties of a host.
* `HostInformation.reports`: what a report says about the variables of a host.
* `host_reported`: what the core keeps of a report.
-/

namespace GridWay.Drm4g

open Im (Ask Entry Target Token Value Var maxQueues)

/-- A queue. -/
structure Queue where
  Name : String := ""
  Nodes : String := "0"
  FreeNodes : String := "0"
  MaxTime : String := "0"
  MaxCpuTime : String := "0"
  MaxCount : String := "0"
  MaxRunningJobs : String := "0"
  MaxJobsInQueue : String := "0"
  Status : String := "NULL"
  DispatchType : String := "NULL"
  Priority : String := "NULL"
deriving DecidableEq, Repr

namespace Queue

/-- `info`. -/
def info (q : Queue) (n : ℕ) : String :=
  let i := toString n
  "QUEUE_NAME[" ++ i ++ "]=\"" ++ q.Name ++ "\" QUEUE_NODECOUNT[" ++ i ++ "]=" ++ q.Nodes ++
    " QUEUE_FREENODECOUNT[" ++ i ++ "]=" ++ q.FreeNodes ++ " QUEUE_MAXTIME[" ++ i ++ "]=" ++ q.MaxTime ++
    " QUEUE_MAXCPUTIME[" ++ i ++ "]=" ++ q.MaxCpuTime ++ " QUEUE_MAXCOUNT[" ++ i ++ "]=" ++ q.MaxCount ++
    " QUEUE_MAXRUNNINGJOBS[" ++ i ++ "]=" ++ q.MaxRunningJobs ++ " QUEUE_MAXJOBSINQUEUE[" ++ i ++ "]=" ++
    q.MaxJobsInQueue ++ " QUEUE_STATUS[" ++ i ++ "]=\"" ++ q.Status ++ "\" QUEUE_DISPATCHTYPE[" ++ i ++ "]=\"" ++
    q.DispatchType ++ "\" QUEUE_PRIORITY[" ++ i ++ "]=\"" ++ q.Priority ++ "\" "

end Queue

/-- The information about a host. -/
structure HostInformation where
  Name : String := ""
  Arch : String := "NULL"
  Os : String := "NULL"
  OsVersion : String := "NULL"
  CpuModel : String := "NULL"
  CpuMhz : String := "0"
  FreeCpu : String := "0"
  CpuSmp : String := "0"
  Nodes : String := "0"
  SizeMemMB : String := "0"
  FreeMemMB : String := "0"
  SizeDiskMB : String := "0"
  FreeDiskMB : String := "0"
  ForkName : String := "NULL"
  LrmsName : String := "NULL"
  LrmsType : String := "NULL"
  queues : List Queue := []
deriving DecidableEq, Repr

namespace HostInformation

/-- `info`. -/
def info (h : HostInformation) : String :=
  let info_host := "HOSTNAME=\"" ++ h.Name ++ "\" ARCH=\"" ++ h.Arch ++ "\" OS_NAME=\"" ++
    h.Os ++ "\" OS_VERSION=\"" ++ h.OsVersion ++ "\" CPU_MODEL=\"" ++ h.CpuModel ++
    "\" CPU_MHZ=" ++ h.CpuMhz ++ " CPU_FREE=" ++ h.FreeCpu ++ " CPU_SMP=" ++ h.CpuSmp ++
    " NODECOUNT=" ++ h.Nodes ++ " SIZE_MEM_MB=" ++ h.SizeMemMB ++ " FREE_MEM_MB=" ++
    h.FreeMemMB ++ " SIZE_DISK_MB=" ++ h.SizeDiskMB ++ " FREE_DISK_MB=" ++ h.FreeDiskMB ++
    " FORK_NAME=\"" ++ h.ForkName ++ "\" LRMS_NAME=\"" ++ h.LrmsName ++ "\" LRMS_TYPE=\"" ++ h.LrmsType ++
    "\" FIXED_PRIORITY=\"0\" "
  let info_queue := (h.queues.zipIdx.map fun (queue, i) => queue.info i).foldl (· ++ ·) ""
  info_host ++ info_queue

end HostInformation

namespace Resource

/-- What a resource asks: `uname`, with its output and its error text, and the properties that the
batch system knows of a queue. -/
structure World where
  uname : String × String
  additional_queue_properties : Queue → Except String Queue := .ok

/-- `system_information`: hostname, OS version, architecture, OS name. -/
def system_information (w : World) : Except String (String × String × String × String) :=
  if w.uname.2 = "" then
    match Py.words w.uname.1 with
    | [name, version, arch, os] => .ok (name, version, arch, os)
    | [] | [_] | [_, _] | [_, _, _] => .error "not enough values to unpack"
    | _ => .error "too many values to unpack"
  else .ok ("NULL", "NULL", "NULL", "NULL")

/-- The parts of a feature. -/
def parts (d : Features) (key : String) : Except String (List String) :=
  (Configuration.item d key).map fun value => (Py.splitAll ',' value).map Py.strip

/-- `_host_properties`, up to the text. -/
def host_information (w : World) (d : Features) : Except String HostInformation := do
  let (Name, OsVersion, Arch, Os) ← system_information w
  let names ← parts d "queue"
  let running ← parts d "max_jobs_running"
  let queued ← parts d "max_jobs_in_queue"
  let queues ← ((names.zip running).zip queued).mapM fun ((q, r), p) =>
    w.additional_queue_properties { Name := q, MaxRunningJobs := r, MaxJobsInQueue := p }
  let lrms ← Configuration.item d "lrms"
  return { Name, OsVersion, Arch, Os, queues, LrmsName := lrms, LrmsType := lrms }

/-- `host_properties`. -/
def host_properties (w : World) (d : Features) : Except String String :=
  (host_information w d).map (·.info)

end Resource

/-- What `do_MONITOR` prints for a host when it has its properties. -/
def monitored (HID : ℕ) (info : String) : String := "MONITOR " ++ toString HID ++ " SUCCESS " ++ info

/-- The line of a report can be read: the number of the host and the text fit into their buffers, and
the text is one line. -/
structure Readable (HID : ℕ) (info : String) : Prop where
  host : HID < 10000
  line : (monitored HID info).length < 65535
  one : '\n' ∉ info.toList
  whole : ∀ c ∈ info.toList, c.toNat ≠ 0

/-! ### Entries -/

/-- The variables of a host and of a queue, in the order of a report. -/
def hostVars : List Var :=
  [.hostname, .arch, .osName, .osVersion, .cpuModel, .cpuMhz, .cpuFree, .cpuSmp, .nodecount, .sizeMemMb,
    .freeMemMb, .sizeDiskMb, .freeDiskMb, .forkName, .lrmsName, .lrmsType]

def queueVars : List Var :=
  [.queueName, .queueNodecount, .queueFreenodecount, .queueMaxtime, .queueMaxcputime, .queueMaxcount,
    .queueMaxrunningjobs, .queueMaxjobsinqueue, .queueStatus, .queueDispatchtype, .queuePriority]

namespace Queue

/-- The text of a variable. -/
def text (q : Queue) : Var → String
  | .queueName => q.Name
  | .queueNodecount => q.Nodes
  | .queueFreenodecount => q.FreeNodes
  | .queueMaxtime => q.MaxTime
  | .queueMaxcputime => q.MaxCpuTime
  | .queueMaxcount => q.MaxCount
  | .queueMaxrunningjobs => q.MaxRunningJobs
  | .queueMaxjobsinqueue => q.MaxJobsInQueue
  | .queueStatus => q.Status
  | .queueDispatchtype => q.DispatchType
  | .queuePriority => q.Priority
  | _ => ""

/-- The entries of a queue. -/
def entries (q : Queue) (i : ℕ) : List Entry := queueVars.map fun v => ⟨.var v, some i, !v.isInt, q.text v⟩

end Queue

namespace HostInformation

/-- The text of a variable. -/
def text (h : HostInformation) : Var → String
  | .hostname => h.Name
  | .arch => h.Arch
  | .osName => h.Os
  | .osVersion => h.OsVersion
  | .cpuModel => h.CpuModel
  | .cpuMhz => h.CpuMhz
  | .cpuFree => h.FreeCpu
  | .cpuSmp => h.CpuSmp
  | .nodecount => h.Nodes
  | .sizeMemMb => h.SizeMemMB
  | .freeMemMb => h.FreeMemMB
  | .sizeDiskMb => h.SizeDiskMB
  | .freeDiskMb => h.FreeDiskMB
  | .forkName => h.ForkName
  | .lrmsName => h.LrmsName
  | .lrmsType => h.LrmsType
  | _ => ""

/-- The entries of a host, without its queues. -/
def scalars (h : HostInformation) : List Entry := hostVars.map fun v => ⟨.var v, none, !v.isInt, h.text v⟩

/-- The priority that every report gives. -/
def fixed : Entry := ⟨.generic "FIXED_PRIORITY", none, true, "0"⟩

/-- The entries of the queues. -/
def queueEntries (h : HostInformation) : List Entry := h.queues.zipIdx.flatMap fun (q, i) => q.entries i

/-- The entries of a report. -/
def entries (h : HostInformation) : List Entry := h.scalars ++ fixed :: h.queueEntries

/-- The value that a text gives to a variable. -/
def read (v : Var) (text : String) : Value :=
  if v.isInt then .int (Rsl2.atoi32 text.toList) else .str (Entry.str text)

/-- What a report says. The name of a host does not change, and the priority is a string. -/
def reports (h : HostInformation) (i : ℕ) : Ask → Option Value
  | .var int v =>
    if int ≠ v.isInt ∨ v = .hostname then none
    else if v.isQueue then h.queues[i]?.map fun q => read v (q.text v)
    else some (read v (h.text v))
  | .int _ => none
  | .str name => if name = "FIXED_PRIORITY" then some (.str (some "0")) else none

/-- The texts can be read: no quotes in strings, and numbers where numbers are expected. -/
structure Clean (h : HostInformation) : Prop where
  host : ∀ v ∈ hostVars, if v.isInt then Im.isNumber (h.text v).toList = true else '"' ∉ (h.text v).toList
  queues : ∀ q ∈ h.queues, ∀ v ∈ queueVars,
    if v.isInt then Im.isNumber (q.text v).toList = true else '"' ∉ (q.text v).toList

end HostInformation

section Texts

variable {q : Queue} {h : HostInformation} {n : ℕ}

end Texts

section Given

variable {h : HostInformation} {q : Queue} {v w : Var} {int : Bool} {i j : ℕ} {text : String} {f : Entry}

end Given

section Reported

variable {h : HostInformation} {q : Queue} {i : ℕ}

/-- The message with a report. -/
def message (HID : ℕ) (info : String) : Message where
  action := ⟨['M', 'O', 'N', 'I', 'T', 'O', 'R'], by decide, Lex.forall_chars (by decide), Lex.forall_chars (by decide)⟩
  job := HID
  xfr := ⟨['-'], by decide, Lex.forall_chars (by decide), Lex.forall_chars (by decide)⟩
  result := ⟨['S', 'U', 'C', 'C', 'E', 'S', 'S'], by decide, Lex.forall_chars (by decide),
    Lex.forall_chars (by decide)⟩
  info := info.toList

lemma hostIdOf_digits {HID : ℕ} : (Nat.toDigits 10 HID).head? ≠ some '-' ∧
    Im.State.hostIdOf (Nat.toDigits 10 HID) = HID := by
  have number : (Nat.toDigits 10 HID).head? ≠ some '-' := by
    intro sign
    have digit := numeral_digit (List.mem_of_head? sign)
    revert digit
    decide
  refine ⟨number, ?_⟩
  rw [Im.State.hostIdOf, if_neg number, atoi_numeral]

/-- The answer with a report about a host of the pool. -/
lemma answer_success {conf : Im.Conf} {s : Im.State} {m HID : ℕ} {row : Im.PoolHost} {info : List Char}
    {host : Im.Host} (here : s.hosts[HID]? = some row) (updated : row.host.update (conf.tokens info) = some host) :
    s.answer conf m ['M', 'O', 'N', 'I', 'T', 'O', 'R'] (Nat.toDigits 10 HID) ['S', 'U', 'C', 'C', 'E', 'S', 'S'] info =
      some (Im.State.setHost { s with active := s.active - 1 } HID host) := by
  obtain ⟨number, value⟩ := hostIdOf_digits
  have found (s : Im.State) (here : s.hosts[HID]? = some row) : s.get_host HID = some row := by
    rw [Im.State.get_host, if_pos (Int.natCast_nonneg HID)]
    exact here
  have known : ¬((Nat.toDigits 10 HID).head? ≠ some '-' ∧ (s.get_host HID).isNone = true) := by
    rw [found s here]
    exact fun none => Bool.false_ne_true none.2
  rw [Im.State.answer, value, if_neg known, if_neg (by decide), if_pos (by decide), if_pos (by decide),
    Im.State.gw_host_update,
    found { s with active := s.active - 1 } here]
  dsimp only
  rw [updated]
  rfl

end Reported

end GridWay.Drm4g
