import GridWay.Em.Listener
import GridWay.Lib.Scan
import Mathlib.Algebra.Order.Ring.Int

/-!
# The RSL2 documents

`gw_em_rsl2.c` and the parts of `gw_job_environment.c` that it uses: the document that describes a job
to a driver is put together in a buffer of `GW_RSL_LENGTH` characters, and its extensions in one of 4096.
A text is a list of characters; a text that does not fit into its buffer is a fault, unless it is cut.

* `gw_job_environment`: the limits that a job asks for, taken from the environment of its template.
* `gw_generate_wrapper_rsl2`, `gw_generate_nowrapper_rsl2`, `gw_generate_pre_wrapper_rsl2`: the
  documents.
-/

namespace GridWay.Rsl2

/-- The type of a job (`gw_jobtype_t`). -/
inductive JobType where
  | single | multiple | mpi | other
deriving DecidableEq, Repr

/-- `gw_template_jobtype_string`. -/
def jobtypeString : JobType → String
  | .single => "single"
  | .multiple => "multiple"
  | .mpi => "mpi"
  | .other => "unknown"

/-- The names of a file of a template (`GW_LOCAL_FILE`, `GW_REMOTE_FILE`). -/
structure FileNames where
  localFile : Option (List Char) := none
  remoteFile : Option (List Char) := none
deriving DecidableEq, Repr

/-- What the documents take from the template of a job. The environment is a list of pairs
(`GW_ENV_VAR`, `GW_ENV_VAL`). -/
structure Template where
  executable : List Char
  arguments : Option (List Char) := none
  stdinFile : List Char := []
  preWrapper : List Char := []
  preWrapperArguments : Option (List Char) := none
  wrapper : Option (List Char) := none
  np : Int := 1
  type : JobType := .single
  environment : List (List Char × List Char) := []
  inputFiles : List FileNames := []
  outputFiles : List FileNames := []
  restartFiles : List (List Char) := []
  requirements : Option (List Char) := none
  rank : Option (List Char) := none
  cpuloadThreshold : Int := 0
  suspensionTimeout : Int := 0
deriving DecidableEq, Repr

/-- What the documents take from a job (`gw_job_t`) and from its history record. -/
structure Job where
  id : Int
  owner : List Char
  arrayId : Int := -1
  taskId : Int := 0
  totalTasks : Int := 0
  restarted : Int := 0
  hostname : List Char
  lrmsName : Option (List Char) := none
  lrmsType : Option (List Char) := none
  queue : Option (List Char) := none
  template : Template
  maxCpuTime : Option (List Char) := none
  maxWalltime : Option (List Char) := none
  maxMemory : Int := 0
  processesPerNode : Int := 0
  nodes : Int := 0
deriving DecidableEq, Repr

/-- No document is made, or the memory is used where it should not be: a text does not fit into its
buffer, or a pointer is not set. -/
inductive Fault where
  | null | memory
deriving DecidableEq, Repr

abbrev Build := Except Fault

/-- `GW_RSL_LENGTH`. -/
def rslLength : Nat := 16384

/-- `sprintf` of a text into a buffer of its own. -/
def sprintf (text : List Char) : Build (List Char) :=
  if text.length < rslLength then .ok text else .error .memory

/-- `strcat`. -/
def strcat (buffer text : List Char) : Build (List Char) :=
  if (buffer ++ text).length < rslLength then .ok (buffer ++ text) else .error .memory

/-- `strncat` with the room that the buffer has, the end of the string included. -/
def strncat (buffer text : List Char) : Build (List Char) :=
  strcat buffer (text.take (rslLength - buffer.length))

/-- `%i`. -/
def number (n : Int) : List Char := (toString n).toList

/-- An element of the document. -/
def element (name : String) (text : List Char) : List Char :=
  ("<" ++ name ++ ">").toList ++ text ++ ("</" ++ name ++ ">").toList

/-- An element after a blank. -/
def spaced (name : String) (text : List Char) : List Char := ' ' :: element name text

/-- A pair of the environment. -/
def environmentPair (name value : List Char) : List Char :=
  element "environment" (spaced "name" name ++ spaced "value" value)

/-- `gw_job_rsl2_environment`. -/
def gw_job_rsl2_environment (job : Job) : Build (List Char) :=
  let text :=
    environmentPair "GW_HOSTNAME".toList job.hostname ++ environmentPair "GW_USER".toList job.owner ++
      environmentPair "GW_JOB_ID".toList (number job.id) ++
      environmentPair "GW_TASK_ID".toList (number job.taskId) ++
      environmentPair "GW_ARRAY_ID".toList (number job.arrayId) ++
      environmentPair "GW_TOTAL_TASKS".toList (number job.totalTasks) ++
      environmentPair "GW_RESTARTED".toList (number job.restarted)
  if text.length ≥ 640 then .error .null else .ok text

/-- The directory of a job on its host. -/
def directory (job : Job) : List Char := ".gw_".toList ++ job.owner ++ '_' :: number job.id

/-- The queue, when the document names one. -/
def printQueue (job : Job) : Option (List Char) :=
  match job.queue with
  | some queue => if queue = "-".toList then none else some queue
  | none => none

/-- The queue is added to a document. -/
def addQueue (job : Job) (buffer : List Char) : Build (List Char) :=
  match printQueue job with
  | some queue => do strncat buffer (← sprintf (spaced "queue" queue))
  | none => .ok buffer

/-- There is room for the end of the document. -/
def checkRoom (buffer : List Char) : Build (List Char) :=
  if buffer.length + 6 > rslLength then .error .null else .ok buffer

/-- The document of a wrapper up to its limits. -/
def wrapperHeader (job : Job) : Build (List Char) := do
  let job_environment ← gw_job_rsl2_environment job
  let rsl_buffer :=
    ("<job>".toList ++ spaced "directory" (directory job) ++
      spaced "executable" (directory job ++ "/.wrapper".toList) ++
      ' ' :: job_environment ++
      spaced "stdout" (directory job ++ "/stdout.wrapper".toList) ++
      spaced "stderr" (directory job ++ "/stderr.wrapper".toList) ++
      spaced "count" (number job.template.np) ++
      spaced "jobType" (jobtypeString job.template.type).toList).take (rslLength - 1)
  checkRoom (← addQueue job rsl_buffer)

/-- The limits of a job, in the order of the document. The last one is written without the end of its
closing tag. -/
def limits (job : Job) : List (List Char) :=
  (job.maxCpuTime.map (spaced "maxCpuTime")).toList ++
    (job.maxWalltime.map (spaced "maxWallTime")).toList ++
    (if job.maxMemory > 0 then [spaced "maxMemory" (number job.maxMemory)] else []) ++
    (if job.processesPerNode > 0 then [spaced "ppn" (number job.processesPerNode)] else []) ++
    if job.nodes > 0 then [" <nodes>".toList ++ number job.nodes ++ "</nodes".toList] else []

/-- A limit is printed into a buffer and added. -/
def addLimit (buffer limit : List Char) : Build (List Char) := do strcat buffer (← sprintf limit)

/-- `gw_generate_wrapper_rsl2`. -/
def gw_generate_wrapper_rsl2 (job : Job) : Build (List Char) := do
  let rsl_buffer ← wrapperHeader job
  let rsl_buffer ← (limits job).foldlM addLimit rsl_buffer
  strcat rsl_buffer "</job>".toList

/-- A text is added in a buffer of `size` characters. -/
def strcatIn (size : Nat) (buffer text : List Char) : Build (List Char) :=
  if (buffer ++ text).length < size then .ok (buffer ++ text) else .error .memory

/-- An argument that is complete is added to the document. -/
def addArgument (buffer argument : List Char) : Build (List Char) := do
  let buffer ← strcat buffer "<argument>".toList
  let buffer ← strcat buffer argument
  strcat buffer "</argument>".toList

/-- The loop of `gw_split_arguments`; the buffer of an argument is as long as all arguments together,
and has to hold the end of the string as well. -/
def splitLoop (length : Nat) (rsl_buffer argument : List Char) : List Char → Build (List Char)
  | [] =>
    if argument.length < length then addArgument rsl_buffer argument else .error .memory
  | c :: cs =>
    if argument.length < length then
      if c ≠ ' ' then splitLoop length rsl_buffer (argument ++ [c]) cs
      else do splitLoop length (← addArgument rsl_buffer argument) [] cs
    else .error .memory

/-- `gw_split_arguments`: an element for each part between blanks. -/
def gw_split_arguments (arguments : List Char) : Build (List Char) :=
  splitLoop arguments.length [] [] arguments

/-- What is done with variables in values of the template: `gw_job_substitute` for a job. -/
abbrev Substitution := List Char → Option (List Char)

/-- The arguments, substituted and split. -/
def addArguments (substitute : Substitution) (arguments : Option (List Char))
    (buffer : List Char) : Build (List Char) :=
  match arguments with
  | none => .ok buffer
  | some text =>
    match substitute text with
    | none => .error .null
    | some text => do strncat buffer (← gw_split_arguments text)

/-- A pair of the template's environment is added to a document. -/
def addVariable (substitute : Substitution) (buffer : List Char) (e : List Char × List Char) :
    Build (List Char) :=
  match substitute e.2 with
  | none => .ok buffer
  | some var => do
    let pair := element "environment" (element "name" e.1 ++ element "value" var) ++ ['\n']
    strncat buffer (← sprintf pair)

/-- The names of files in a list, with commas in between. A file without a name is left out, its comma as
well. -/
def fileList (size : Nat) (files_str : List Char) : List (Option (List Char)) → Build (List Char)
  | [] => .ok files_str
  | [file] => strcatIn size files_str (file.getD [])
  | file :: files => do
    fileList size (← strcatIn size files_str ((file.map (· ++ [','])).getD [])) files

/-- The name of an input file: the remote one if there is one. -/
def FileNames.input (file : FileNames) : Option (List Char) := file.remoteFile <|> file.localFile

/-- The room that an input file takes, as it is counted. -/
def FileNames.inputRoom (file : FileNames) : Nat :=
  match file.remoteFile, file.localFile with
  | some name, _ => name.length + 2
  | none, some name => name.length + 1
  | none, none => 0

/-- The room that an output file takes, as it is counted. -/
def FileNames.outputRoom (file : FileNames) : Nat :=
  match file.localFile with
  | some name => name.length + 1
  | none => 0

/-- `gw_job_template_files2str_extensions` for the input files. -/
def inputFilesStr (files : List FileNames) : Build (List Char) :=
  fileList ((files.map FileNames.inputRoom).sum + 1) [] (files.map FileNames.input)

/-- `gw_job_template_files2str_extensions` for the output files. -/
def outputFilesStr (files : List FileNames) : Build (List Char) :=
  fileList ((files.map FileNames.outputRoom).sum + 1) [] (files.map FileNames.localFile)

/-- `gw_job_template_sfiles2str` for the restart files. -/
def restartFilesStr (files : List (List Char)) : Build (List Char) :=
  fileList ((files.map fun file => file.length + 1).sum + 1) [] (files.map some)

/-- A line is printed into the small buffer of the extensions, where what does not fit is cut, and
added. -/
def addLine (rsl_buffer line : List Char) : Build (List Char) :=
  strcatIn 4096 rsl_buffer (line.take (1024 - 1))

/-- A line of the extensions, if there is a value for it. -/
def addNamed (name : String) (value : Option (List Char)) (rsl_buffer : List Char) :
    Build (List Char) :=
  match value with
  | none => .ok rsl_buffer
  | some value => addLine rsl_buffer (name.toList ++ '=' :: value ++ ['\n'])

/-- A line of the extensions with the files of a job. -/
def addFiles (substitute : Substitution) (name : String) (num : Nat) (files : Build (List Char))
    (rsl_buffer : List Char) : Build (List Char) :=
  if num ≠ 0 then do addNamed name (substitute (← files)) rsl_buffer else .ok rsl_buffer

/-- The lines of the extensions that are always there, before the others and after them. -/
def extensionsHead (job : Job) : List Char :=
  "<extensions>\n<gw>\nCPULOAD_THRESHOLD=".toList ++ number job.template.cpuloadThreshold ++
    "\nSUSPENSION_TIMEOUT=".toList ++ number job.template.suspensionTimeout ++ "\n".toList

def extensionsTail : List Char := "</gw>\n</extensions>\n".toList

/-- `gw_job_rsl2_extensions`. -/
def gw_job_rsl2_extensions (substitute : Substitution) (job : Job) : Build (List Char) := do
  let files := job.template
  let rsl_buffer := (extensionsHead job).take (4096 - 1)
  let rsl_buffer ← addFiles substitute "INPUT_FILES" files.inputFiles.length
    (inputFilesStr files.inputFiles) rsl_buffer
  let rsl_buffer ← addFiles substitute "OUTPUT_FILES" files.outputFiles.length
    (outputFilesStr files.outputFiles) rsl_buffer
  let rsl_buffer ← addFiles substitute "RESTART_FILES" files.restartFiles.length
    (restartFilesStr files.restartFiles) rsl_buffer
  let rsl_buffer ← addNamed "REQUIREMENTS" files.requirements rsl_buffer
  let rsl_buffer ← addNamed "RANK" files.rank rsl_buffer
  addLine rsl_buffer extensionsTail

/-- `strcasecmp(a, b) == 0`. -/
def sameIgnoringCase (a : List Char) (b : String) : Bool :=
  a.map Char.toLower == b.toList.map Char.toLower

/-- The document of a job without a wrapper up to its environment. -/
def nowrapperHeader (substitute : Substitution) (job : Job) : Build (List Char) := do
  let job_environment ← gw_job_rsl2_environment job
  let rsl_buffer ← sprintf ("<job>".toList ++ spaced "executable" job.template.executable)
  let rsl_buffer ← addArguments substitute job.template.arguments rsl_buffer
  let rsl_buffer ← strncat rsl_buffer (← sprintf
    (spaced "directory" (directory job) ++ spaced "count" (number job.template.np) ++
      spaced "jobType" (jobtypeString job.template.type).toList))
  let stdin :=
    if job.template.stdinFile.head? = some '/' then job.template.stdinFile
    else "stdin.execution".toList
  let rsl_buffer ← strncat rsl_buffer (← sprintf (spaced "stdin" stdin))
  let rsl_buffer ← strncat rsl_buffer
    (spaced "stdout" "stdout.execution".toList ++ spaced "stderr" "stderr.execution".toList)
  let rsl_buffer ← strncat rsl_buffer job_environment
  let rsl_buffer ← addQueue job rsl_buffer
  let rsl_buffer ←
    match job.lrmsType with
    | none => .error .memory
    | some type =>
      if sameIgnoringCase type "gw" then do
        strncat rsl_buffer (← gw_job_rsl2_extensions substitute job)
      else .ok rsl_buffer
  checkRoom rsl_buffer

/-- `gw_generate_nowrapper_rsl2`. -/
def gw_generate_nowrapper_rsl2 (substitute : Substitution) (job : Job) : Build (List Char) := do
  let rsl_buffer ← nowrapperHeader substitute job
  let rsl_buffer ← job.template.environment.foldlM (addVariable substitute) rsl_buffer
  strcat rsl_buffer "</job>".toList

/-- `gw_generate_pre_wrapper_rsl2`. -/
def gw_generate_pre_wrapper_rsl2 (substitute : Substitution) (job : Job) : Build (List Char) := do
  let job_environment ← gw_job_rsl2_environment job
  let absolute := job.template.preWrapper.head? = some '/'
  let pre_wrapper ←
    if absolute then .ok job.template.preWrapper
    else (substitute job.template.preWrapper).elim (.error .null) .ok
  let executable := if absolute then pre_wrapper else directory job ++ '/' :: pre_wrapper
  let rsl_buffer :=
    "<job>".toList ++ spaced "executable" executable ++ ' ' :: job_environment ++
      spaced "stdout" (directory job ++ "/stdout.pre_wrapper".toList) ++
      spaced "stderr" (directory job ++ "/stderr.pre_wrapper".toList)
  if rsl_buffer.length ≥ rslLength then .error .null
  else do
    let rsl_buffer ←
      match job.template.preWrapperArguments with
      | none => .ok rsl_buffer
      | some text =>
        match substitute text with
        | none => .error .null
        | some text => do
          let xml ← gw_split_arguments text
          if rsl_buffer.length + xml.length + 6 > rslLength then .error .null
          else strncat rsl_buffer xml
    let rsl_buffer ← checkRoom rsl_buffer
    strcat rsl_buffer "</job>".toList

/-- `gw_job_is_wrapper_based`. -/
def gw_job_is_wrapper_based (job : Job) : Bool :=
  let (isprews, isgw) :=
    match job.lrmsName, job.lrmsType with
    | some name, some type => ("jobmanager-".toList.isPrefixOf name, sameIgnoringCase type "gw")
    | _, _ => (false, false)
  let ismpi := job.template.type == .mpi
  isprews || (!ismpi && !isgw && job.template.wrapper.isSome)

/-- `gw_generate_rsl2`. -/
def gw_generate_rsl2 (substitute : Substitution) (job : Job) : Build (List Char) :=
  if gw_job_is_wrapper_based job then gw_generate_wrapper_rsl2 job
  else gw_generate_nowrapper_rsl2 substitute job

/-- `strtol(s, NULL, 10)`, without its bounds. -/
def strtol (s : List Char) : Int :=
  match s.dropWhile Scan.isSpace with
  | '-' :: cs => - digits 0 cs
  | '+' :: cs => digits 0 cs
  | cs => digits 0 cs

/-- `atoi` into a number of 32 bits: the value of `strtol` stays within 64 bits and is cut. -/
def atoi32 (s : List Char) : Int := Int.bmod (max (-2 ^ 63) (min (strtol s) (2 ^ 63 - 1))) (2 ^ 32)

/-- The limits of an earlier execution are forgotten. -/
def resetLimits (job : Job) : Job :=
  { job with
    maxCpuTime := none
    maxWalltime := none
    maxMemory := 0
    processesPerNode := 0
    nodes := 0 }

/-- A variable of the environment that asks for a limit. -/
def noteLimit (job : Job) (var value : List Char) : Job :=
  if "CPUTIME".toList = var then { job with maxCpuTime := some value }
  else if "WALLTIME".toList = var then { job with maxWalltime := some value }
  else if "MEMORY".toList = var then { job with maxMemory := atoi32 value }
  else if "PPN".toList = var then { job with processesPerNode := atoi32 value }
  else if "NODES".toList = var then { job with nodes := atoi32 value }
  else job

/-- A line of the environment file. -/
def exportLine (var value : List Char) : List Char :=
  "export ".toList ++ var ++ "=\"".toList ++ value ++ "\"\n".toList

/-- A pair of the template's environment is written to the file and noted. -/
def exportVariable (substitute : Substitution) (p : List Char × Job)
    (e : List Char × List Char) : List Char × Job :=
  match substitute e.2 with
  | none => p
  | some var => (p.1 ++ exportLine e.1 var, noteLimit p.2 e.1 var)

/-- `gw_job_environment` from the point on where the limits are set, with what it writes to the file
from there; `-1` when the file cannot be opened. -/
def gw_job_environment (substitute : Substitution) (opened : Bool) (job : Job) :
    Int × List Char × Job :=
  if opened then
    (0, job.template.environment.foldl (exportVariable substitute) ([], resetLimits job))
  else (-1, [], job)

end GridWay.Rsl2
