import GridWay.Em.Limits
import Mathlib.Algebra.Order.BigOperators.Group.List

/-!
# The buffers of the documents

The documents without the bounds of the buffers that they are put together in, and when the buffers are
large enough for them.

* `Respects`: a function makes its document, all of it, or fails.
* `buffers_respected_iff`: the lengths for which the functions do.
-/

namespace GridWay.Rsl2

/-- A function fails, or makes its whole document: no text is written past its buffer and none is
cut. -/
def Respects (document : List Char) (result : Build (List Char)) : Prop :=
  result = .error .null ∨ result = .ok document

/-- The elements of all arguments. -/
def splitText (arguments : List Char) : List Char :=
  ((arguments.splitOnP (· == ' ')).map (element "argument")).flatten

/-- Room for the arguments: the buffer of one argument is as long as all of them, so that one argument
alone leaves no room for the end of the string. -/
def SplitFits (arguments : List Char) : Prop :=
  ' ' ∈ arguments ∧ (splitText arguments).length < rslLength

/-- A text in a buffer of `size` characters. -/
def fit (size : Nat) (text : List Char) : Build (List Char) :=
  if text.length < size then .ok text else .error .memory

section Fit

variable {size : Nat} {buffer text a document : List Char} {f : List Char → Build (List Char)}

lemma fit_of_lt (fits : text.length < size) : fit size text = .ok text := if_pos fits

lemma fit_of_not_lt (long : ¬text.length < size) : fit size text = .error .memory := if_neg long

lemma strcat_eq (buffer text : List Char) : strcat buffer text = fit rslLength (buffer ++ text) := rfl

lemma strcatIn_eq (size : Nat) (buffer text : List Char) :
    strcatIn size buffer text = fit size (buffer ++ text) := rfl

lemma sprintf_eq (text : List Char) : sprintf text = fit rslLength text := rfl

/-- The bound of `strncat` leaves no room for the end of the string, and protects from nothing. -/
lemma strncat_eq (buffer text : List Char) : strncat buffer text = fit rslLength (buffer ++ text) := by
  rw [strncat, strcat_eq]
  by_cases fits : (buffer ++ text).length < rslLength
  · have whole : text.take (rslLength - buffer.length) = text := by
      rw [List.length_append] at fits
      exact List.take_of_length_le (by omega)
    rw [whole]
  · have long : ¬(buffer ++ text.take (rslLength - buffer.length)).length < rslLength := by
      simp only [List.length_append, List.length_take] at fits ⊢
      omega
    rw [fit_of_not_lt fits, fit_of_not_lt long]

/-- A text that is added to one that fits. -/
lemma fit_bind (adds : ∀ b, f b = fit size (b ++ text)) :
    (fit size a >>= f) = fit size (a ++ text) := by
  by_cases fits : a.length < size
  · rw [fit_of_lt fits]
    exact adds a
  · have long : ¬(a ++ text).length < size := by
      rw [List.length_append]
      omega
    rw [fit_of_not_lt fits, fit_of_not_lt long]
    rfl

/-- A text that is printed before it is added. -/
lemma printed_eq (buffer text : List Char) :
    (sprintf text >>= fun printed => strncat buffer printed) = fit rslLength (buffer ++ text) := by
  rw [sprintf_eq]
  by_cases fits : text.length < rslLength
  · rw [fit_of_lt fits]
    exact strncat_eq buffer text
  · have long : ¬(buffer ++ text).length < rslLength := by
      rw [List.length_append]
      omega
    rw [fit_of_not_lt fits, fit_of_not_lt long]
    rfl

/-- A document that is put together within a buffer. -/
lemma respects_fit (size : Nat) : Respects text (fit size text) ↔ text.length < size := by
  by_cases fits : text.length < size
  · rw [fit_of_lt fits]
    exact iff_of_true (.inr rfl) fits
  · rw [fit_of_not_lt fits]
    exact iff_of_false (by rintro (h | h) <;> cases h) fits

lemma respects_null : Respects document (.error .null) := .inl rfl

lemma not_respects_memory : ¬Respects document (.error .memory) := by
  rintro (h | h) <;> cases h

end Fit

section Split

variable {length : Nat} {buffer argument cs : List Char}

lemma addArgument_eq (buffer argument : List Char) :
    addArgument buffer argument = fit rslLength (buffer ++ element "argument" argument) := by
  have last (b : List Char) : (strcat b argument >>= fun b => strcat b "</argument>".toList) =
      fit rslLength (b ++ (argument ++ "</argument>".toList)) := by
    rw [strcat_eq, ← List.append_assoc]
    exact fit_bind fun b => rfl
  have parts : element "argument" argument =
      "<argument>".toList ++ (argument ++ "</argument>".toList) := rfl
  rw [addArgument, strcat_eq, fit_bind last, parts, List.append_assoc]

/-- What the loop adds from a point on: the arguments that are not complete yet. -/
def restText (argument cs : List Char) : List Char :=
  (((cs.splitOnP (· == ' ')).modifyHead (argument ++ ·)).map (element "argument")).flatten

lemma restText_nil (argument : List Char) : restText argument [] = element "argument" argument := by
  rw [restText, List.splitOnP_nil]
  show element "argument" (argument ++ []) ++ [] = _
  rw [List.append_nil, List.append_nil]

lemma restText_start (cs : List Char) : restText [] cs = splitText cs := by
  rw [restText, splitText]
  show (((cs.splitOnP (· == ' ')).modifyHead id).map (element "argument")).flatten = _
  rw [List.modifyHead_id, id]

lemma restText_blank (argument cs : List Char) :
    restText argument (' ' :: cs) = element "argument" argument ++ restText [] cs := by
  rw [restText_start, restText, splitText, List.splitOnP_cons_eq_if_modifyHead, if_pos (by decide)]
  show element "argument" (argument ++ []) ++ _ = _
  rw [List.append_nil]

lemma restText_letter {c : Char} (letter : c ≠ ' ') (argument cs : List Char) :
    restText argument (c :: cs) = restText (argument ++ [c]) cs := by
  have other : ¬(c == ' ') = true := by
    rw [beq_iff_eq]
    exact letter
  rw [restText, restText, List.splitOnP_cons_eq_if_modifyHead, if_neg other, List.modifyHead_modifyHead]
  have same : (argument ++ ·) ∘ List.cons c = (argument ++ [c] ++ ·) := by
    funext part
    rw [Function.comp_apply, List.append_assoc]
    rfl
  rw [same]

/-- The loop, from any point on at which the argument is no longer than what was read. -/
lemma splitLoop_eq (read : argument.length + cs.length ≤ length) :
    splitLoop length buffer argument cs =
      if ' ' ∈ cs ∨ argument.length + cs.length < length then
        fit rslLength (buffer ++ restText argument cs)
      else .error .memory := by
  induction cs generalizing buffer argument with
  | nil =>
    rw [splitLoop, addArgument_eq, restText_nil]
    simp only [List.not_mem_nil, false_or, List.length_nil, Nat.add_zero]
  | cons c cs ih =>
    rw [List.length_cons] at read
    rw [splitLoop, if_pos (show argument.length < length by omega), List.length_cons]
    by_cases letter : c ≠ ' '
    · have next : (argument ++ [c]).length + cs.length = argument.length + (cs.length + 1) := by
        rw [List.length_append, List.length_singleton]
        omega
      have mem : ' ' ∈ c :: cs ↔ ' ' ∈ cs := by
        rw [List.mem_cons]
        exact or_iff_right (Ne.symm letter)
      rw [if_pos letter, restText_letter letter, ih (by omega), next]
      simp only [mem]
    · obtain rfl := not_not.1 letter
      -- after a blank the next argument starts, and it cannot be as long as all of them
      have rest (b : List Char) : splitLoop length b [] cs = fit rslLength (b ++ restText [] cs) := by
        rw [ih (show [].length + cs.length ≤ length by rw [List.length_nil]; omega)]
        exact if_pos (.inr (by rw [List.length_nil]; omega))
      rw [if_neg letter, if_pos (.inl List.mem_cons_self), addArgument_eq, fit_bind rest, restText_blank,
        List.append_assoc]

lemma split_eq (arguments : List Char) :
    gw_split_arguments arguments =
      if ' ' ∈ arguments then fit rslLength (splitText arguments) else .error .memory := by
  rw [gw_split_arguments, splitLoop_eq (by rw [List.length_nil]; omega), restText_start,
    List.length_nil, List.nil_append]
  simp only [Nat.zero_add, Nat.lt_irrefl, or_false]

lemma split_fits (arguments : List Char) :
    Respects (splitText arguments) (gw_split_arguments arguments) ↔ SplitFits arguments := by
  rw [split_eq, SplitFits]
  by_cases blank : ' ' ∈ arguments
  · rw [if_pos blank, respects_fit]
    exact (and_iff_right blank).symm
  · rw [if_neg blank]
    exact iff_of_false not_respects_memory fun h => blank h.1

end Split

section Extensions

variable {substitute : Substitution} {job : Job} {buffer : List Char} {lines : List (List Char)}
  {names : List (Option (List Char))}

/-- The names of files with commas in between. -/
def namesText : List (Option (List Char)) → List Char
  | [] => []
  | [file] => file.getD []
  | file :: files => (file.map (· ++ [','])).getD [] ++ namesText files

/-- The room that a name takes with its comma. -/
def nameRoom : Option (List Char) → Nat
  | some name => name.length + 1
  | none => 0

lemma namesText_length (names : List (Option (List Char))) :
    (namesText names).length ≤ (names.map nameRoom).sum := by
  fun_induction namesText names with
  | case1 => exact Nat.le_refl _
  | case2 file =>
    cases file with
    | none => exact Nat.zero_le _
    | some name =>
      rw [List.map_singleton, List.sum_singleton]
      exact Nat.le_succ _
  | case3 file files more ih =>
    rw [List.length_append, List.map_cons, List.sum_cons]
    apply Nat.add_le_add _ ih
    cases file with
    | none => exact Nat.zero_le _
    | some name =>
      show (name ++ [',']).length ≤ name.length + 1
      rw [List.length_append, List.length_singleton]

/-- A list of files for which there is room. -/
lemma fileList_eq {size : Nat} (room : (buffer ++ namesText names).length < size) :
    fileList size buffer names = .ok (buffer ++ namesText names) := by
  fun_induction namesText names generalizing buffer with
  | case1 => rw [fileList, List.append_nil]
  | case2 file => exact fit_of_lt room
  | case3 file files more ih =>
    have first : strcatIn size buffer ((file.map (· ++ [','])).getD []) =
        .ok (buffer ++ (file.map (· ++ [','])).getD []) := by
      apply fit_of_lt
      rw [List.length_append] at room ⊢
      rw [List.length_append] at room
      omega
    rw [← List.append_assoc] at room ⊢
    rw [fileList, first]
    · exact ih room
    · exact more

/-- The room that is counted for the files of a list is enough. -/
lemma counted {α : Type} {files : List α} {name : α → Option (List Char)} {room : α → Nat}
    (enough : ∀ file, nameRoom (name file) ≤ room file) :
    fileList ((files.map room).sum + 1) [] (files.map name) = .ok (namesText (files.map name)) := by
  apply fileList_eq
  have short := namesText_length (files.map name)
  have le : ((files.map name).map nameRoom).sum ≤ (files.map room).sum := by
    rw [List.map_map]
    exact List.sum_le_sum fun file _ => enough file
  rw [List.nil_append]
  omega

lemma inputFilesStr_eq (files : List FileNames) :
    inputFilesStr files = .ok (namesText (files.map FileNames.input)) := by
  apply counted
  intro file
  obtain ⟨_ | localName, _ | remoteName⟩ := file
  · exact Nat.le_refl _
  · exact Nat.le_succ _
  · exact Nat.le_refl _
  · exact Nat.le_succ _

lemma outputFilesStr_eq (files : List FileNames) :
    outputFilesStr files = .ok (namesText (files.map FileNames.localFile)) := by
  apply counted
  intro file
  obtain ⟨_ | localName, _⟩ := file
  · exact Nat.le_refl _
  · exact Nat.le_refl _

lemma restartFilesStr_eq (files : List (List Char)) :
    restartFilesStr files = .ok (namesText (files.map some)) :=
  counted fun _ => Nat.le_refl _

/-- The line of a value. -/
def namedLine (name : String) (value : Option (List Char)) : List (List Char) :=
  (value.map fun value => name.toList ++ '=' :: value ++ ['\n']).toList

/-- The line of a list of files. -/
def filesLine (substitute : Substitution) (name : String) (names : List (Option (List Char))) :
    List (List Char) :=
  if names ≠ [] then namedLine name (substitute (namesText names)) else []

/-- The lines of the extensions after the first ones. -/
def extensionsLines (substitute : Substitution) (job : Job) : List (List Char) :=
  filesLine substitute "INPUT_FILES" (job.template.inputFiles.map FileNames.input) ++
    filesLine substitute "OUTPUT_FILES" (job.template.outputFiles.map FileNames.localFile) ++
    filesLine substitute "RESTART_FILES" (job.template.restartFiles.map some) ++
    namedLine "REQUIREMENTS" job.template.requirements ++ namedLine "RANK" job.template.rank ++
    [extensionsTail]

/-- All of the extensions. -/
def extensionsText (substitute : Substitution) (job : Job) : List Char :=
  extensionsHead job ++ (extensionsLines substitute job).flatten

/-- What is left of lines in the small buffer. -/
def cut (lines : List (List Char)) : List Char := (lines.map (·.take (1024 - 1))).flatten

/-- What is written of the extensions. -/
def extensionsWritten (substitute : Substitution) (job : Job) : List Char :=
  (extensionsHead job).take (4096 - 1) ++ cut (extensionsLines substitute job)

/-- Room for the extensions: each line in the small buffer, and all of them in the large one. -/
def ExtensionsFit (substitute : Substitution) (job : Job) : Prop :=
  (∀ line ∈ extensionsLines substitute job, line.length < 1024) ∧
    (extensionsText substitute job).length < 4096

lemma addNamed_eq (name : String) (value : Option (List Char)) (buffer : List Char) :
    addNamed name value buffer = (namedLine name value).foldlM addLine buffer := by
  cases value with
  | none => rfl
  | some value => exact (bind_pure (addLine buffer (name.toList ++ '=' :: value ++ ['\n']))).symm

lemma addFiles_eq {α : Type} {files : List α} {f : α → Option (List Char)} (name : String)
    {text : Build (List Char)} (made : text = .ok (namesText (files.map f))) (buffer : List Char) :
    addFiles substitute name files.length text buffer =
      (filesLine substitute name (files.map f)).foldlM addLine buffer := by
  rw [addFiles, filesLine]
  cases files with
  | nil => rfl
  | cons file files =>
    have some_files : (file :: files).map f ≠ [] := List.cons_ne_nil _ _
    rw [if_pos (by simp), if_pos some_files, made]
    exact addNamed_eq name _ buffer

/-- Lines that are added one after the other. -/
lemma addLines_eq (lines : List (List Char)) (buffer last : List Char) :
    (lines ++ [last]).foldlM addLine buffer = fit 4096 (buffer ++ cut (lines ++ [last])) := by
  induction lines generalizing buffer with
  | nil =>
    rw [List.nil_append, cut, List.map_singleton, List.flatten_singleton]
    exact bind_pure (addLine buffer last)
  | cons line lines ih =>
    rw [List.cons_append, List.foldlM_cons, addLine, strcatIn_eq, fit_bind ih, List.append_assoc]
    rfl

lemma extensions_eq (substitute : Substitution) (job : Job) :
    gw_job_rsl2_extensions substitute job = fit 4096 (extensionsWritten substitute job) := by
  have last (b : List Char) : [extensionsTail].foldlM addLine b = addLine b extensionsTail :=
    bind_pure (addLine b extensionsTail)
  rw [extensionsWritten, extensionsLines, ← addLines_eq, gw_job_rsl2_extensions]
  simp only [List.foldlM_append, bind_assoc, last, addFiles_eq _ (inputFilesStr_eq _),
    addFiles_eq _ (outputFilesStr_eq _), addFiles_eq _ (restartFilesStr_eq _), addNamed_eq]

lemma cut_of_short (short : ∀ line ∈ lines, line.length < 1024) : cut lines = lines.flatten := by
  induction lines with
  | nil => rfl
  | cons line lines ih =>
    have whole : line.take (1024 - 1) = line := by
      have := short line List.mem_cons_self
      exact List.take_of_length_le (by omega)
    rw [cut, List.map_cons, List.flatten_cons, List.flatten_cons, whole, ← cut,
      ih fun l mem => short l (List.mem_cons_of_mem _ mem)]

lemma cut_length_le (lines : List (List Char)) : (cut lines).length ≤ lines.flatten.length := by
  induction lines with
  | nil => exact Nat.le_refl _
  | cons line lines ih =>
    rw [cut, List.map_cons, List.flatten_cons, List.flatten_cons, ← cut, List.length_append,
      List.length_append, List.length_take]
    omega

/-- A line that does not fit is cut. -/
lemma cut_length_lt {line : List Char} (mem : line ∈ lines) (long : ¬line.length < 1024) :
    (cut lines).length < lines.flatten.length := by
  induction lines with
  | nil => cases mem
  | cons first lines ih =>
    rw [cut, List.map_cons, List.flatten_cons, List.flatten_cons, ← cut, List.length_append,
      List.length_append, List.length_take]
    cases mem with
    | head =>
      have := cut_length_le lines
      omega
    | tail _ mem =>
      have := ih mem
      omega

/-- What is written is all of the extensions when there is room. -/
lemma written_eq_iff (fits : (extensionsWritten substitute job).length < 4096) :
    extensionsWritten substitute job = extensionsText substitute job ↔
      ExtensionsFit substitute job := by
  have head_length : ((extensionsHead job).take (4096 - 1)).length ≤ (extensionsHead job).length := by
    rw [List.length_take]
    exact Nat.min_le_right _ _
  constructor
  · intro eq
    rw [eq] at fits
    refine ⟨?_, fits⟩
    intro line mem
    by_contra long
    have fewer := cut_length_lt mem long
    have lengths := congrArg List.length eq
    rw [extensionsWritten, extensionsText, List.length_append, List.length_append] at lengths
    omega
  · intro ⟨short, room⟩
    rw [extensionsText, List.length_append] at room
    rw [extensionsWritten, extensionsText, cut_of_short short, List.take_of_length_le (by omega)]

lemma extensions_fit (substitute : Substitution) (job : Job) :
    Respects (extensionsText substitute job) (gw_job_rsl2_extensions substitute job) ↔
      ExtensionsFit substitute job := by
  rw [extensions_eq]
  by_cases fits : (extensionsWritten substitute job).length < 4096
  · rw [fit_of_lt fits, ← written_eq_iff fits]
    constructor
    · rintro (h | h)
      · cases h
      · exact Except.ok.inj h
    · intro eq
      rw [eq]
      exact .inr rfl
  · rw [fit_of_not_lt fits]
    refine iff_of_false not_respects_memory fun h => fits ?_
    rw [extensionsWritten, cut_of_short h.1, List.length_append, List.length_take]
    have room := h.2
    rw [extensionsText, List.length_append] at room
    omega

end Extensions

section Documents

variable {substitute : Substitution} {job : Job}

/-- The variables that a job gets. -/
def environmentText (job : Job) : List Char :=
  environmentPair "GW_HOSTNAME".toList job.hostname ++ environmentPair "GW_USER".toList job.owner ++
    environmentPair "GW_JOB_ID".toList (number job.id) ++
    environmentPair "GW_TASK_ID".toList (number job.taskId) ++
    environmentPair "GW_ARRAY_ID".toList (number job.arrayId) ++
    environmentPair "GW_TOTAL_TASKS".toList (number job.totalTasks) ++
    environmentPair "GW_RESTARTED".toList (number job.restarted)

/-- The element of the queue. -/
def queueText (job : Job) : List Char := ((printQueue job).map (spaced "queue")).getD []

/-- The elements of the arguments of a job. -/
def argumentsText (substitute : Substitution) (arguments : Option (List Char)) : List Char :=
  ((arguments.bind substitute).map splitText).getD []

/-- The element of a variable; a variable without a value is left out. -/
def variableText (substitute : Substitution) (e : List Char × List Char) : List Char :=
  match substitute e.2 with
  | none => []
  | some var => element "environment" (element "name" e.1 ++ element "value" var) ++ ['\n']

/-- The start of the document of a wrapper. -/
def wrapperText (job : Job) : List Char :=
  "<job>".toList ++ spaced "directory" (directory job) ++
    spaced "executable" (directory job ++ "/.wrapper".toList) ++ ' ' :: environmentText job ++
    spaced "stdout" (directory job ++ "/stdout.wrapper".toList) ++
    spaced "stderr" (directory job ++ "/stderr.wrapper".toList) ++
    spaced "count" (number job.template.np) ++
    spaced "jobType" (jobtypeString job.template.type).toList

/-- The document of a wrapper. -/
def wrapperDocument (job : Job) : List Char :=
  wrapperText job ++ queueText job ++ (limits job).flatten ++ "</job>".toList

/-- The start of the document of a pre-wrapper. -/
def preWrapperText (executable : List Char) (job : Job) : List Char :=
  "<job>".toList ++ spaced "executable" executable ++ ' ' :: environmentText job ++
    spaced "stdout" (directory job ++ "/stdout.pre_wrapper".toList) ++
    spaced "stderr" (directory job ++ "/stderr.pre_wrapper".toList)

/-- The executable of a pre-wrapper: an absolute path, or a name in the directory of the job. -/
def preWrapperExecutable (substitute : Substitution) (job : Job) : Option (List Char) :=
  if job.template.preWrapper.head? = some '/' then some job.template.preWrapper
  else (substitute job.template.preWrapper).map fun name => directory job ++ '/' :: name

/-- The document of a pre-wrapper. -/
def preWrapperDocument (substitute : Substitution) (job : Job) : List Char :=
  preWrapperText ((preWrapperExecutable substitute job).getD []) job ++
    argumentsText substitute job.template.preWrapperArguments ++ "</job>".toList

/-- The start of the document of a job without a wrapper. -/
def executableText (job : Job) : List Char :=
  "<job>".toList ++ spaced "executable" job.template.executable

/-- The document of a job without a wrapper between its arguments and the extensions. -/
def middleText (job : Job) : List Char :=
  (spaced "directory" (directory job) ++ spaced "count" (number job.template.np) ++
      spaced "jobType" (jobtypeString job.template.type).toList) ++
    (spaced "stdin" (if job.template.stdinFile.head? = some '/' then job.template.stdinFile
      else "stdin.execution".toList) ++
    ((spaced "stdout" "stdout.execution".toList ++ spaced "stderr" "stderr.execution".toList) ++
    (environmentText job ++ queueText job)))

/-- The document of a job without a wrapper up to the extensions. -/
def nowrapperText (substitute : Substitution) (job : Job) : List Char :=
  executableText job ++ argumentsText substitute job.template.arguments ++ middleText job

/-- The document has extensions. -/
def extended (job : Job) : Bool := job.lrmsType.any (sameIgnoringCase · "gw")

/-- The document of a job without a wrapper. -/
def nowrapperDocument (substitute : Substitution) (job : Job) : List Char :=
  nowrapperText substitute job ++ (if extended job then extensionsText substitute job else []) ++
    job.template.environment.flatMap (variableText substitute) ++ "</job>".toList

/-- The room that the document of a wrapper needs: the check before the limits notices that the end does
not fit, or all fits. -/
def WrapperFits (job : Job) : Prop :=
  640 ≤ (environmentText job).length ∨
    rslLength < (wrapperText job ++ queueText job).length + 6 ∧
      (printQueue job = none ∨ (wrapperText job ++ queueText job).length < rslLength) ∨
    (wrapperDocument job).length < rslLength

/-- The arguments cannot be substituted. -/
def ArgumentsFail (substitute : Substitution) (arguments : Option (List Char)) : Prop :=
  ∃ text, arguments = some text ∧ substitute text = none

/-- Room for the arguments that are substituted. -/
def ArgumentsFit (substitute : Substitution) (arguments : Option (List Char)) : Prop :=
  ∀ text, arguments.bind substitute = some text → SplitFits text

/-- The room that the document of a pre-wrapper needs. A document that is one character too long is not
noticed. -/
def PreWrapperFits (substitute : Substitution) (job : Job) : Prop :=
  640 ≤ (environmentText job).length ∨
    ∀ executable, preWrapperExecutable substitute job = some executable →
      rslLength ≤ (preWrapperText executable job).length ∨
        ArgumentsFail substitute job.template.preWrapperArguments ∨
        ArgumentsFit substitute job.template.preWrapperArguments ∧
          (preWrapperDocument substitute job).length ≠ rslLength

/-- What is added of the extensions. -/
def addedText (substitute : Substitution) (job : Job) : List Char :=
  if extended job then extensionsWritten substitute job else []

/-- The room that the document of a job without a wrapper needs from its extensions on: the variables of
the template come after the check, and it notices no line that was cut. -/
def EndFits (substitute : Substitution) (job : Job) : Prop :=
  job.lrmsType ≠ none ∧
    (extended job = true → (extensionsWritten substitute job).length < 4096) ∧
    (nowrapperText substitute job ++ addedText substitute job).length < rslLength ∧
    (rslLength < (nowrapperText substitute job ++ addedText substitute job).length + 6 ∨
      (extended job = true → ExtensionsFit substitute job) ∧
        (nowrapperDocument substitute job).length < rslLength)

/-- The room that the document of a job without a wrapper needs. -/
def NowrapperFits (substitute : Substitution) (job : Job) : Prop :=
  640 ≤ (environmentText job).length ∨
    (executableText job).length < rslLength ∧
      (ArgumentsFail substitute job.template.arguments ∨
        ArgumentsFit substitute job.template.arguments ∧ EndFits substitute job)

lemma environment_eq (job : Job) :
    gw_job_rsl2_environment job =
      if 640 ≤ (environmentText job).length then .error .null else .ok (environmentText job) := rfl

/-- What follows the check is added if it fits. -/
lemma checked_respects (document buffer rest : List Char) :
    Respects document (checkRoom buffer >>= fun b => fit rslLength (b ++ rest)) ↔
      rslLength < buffer.length + 6 ∨
        (buffer ++ rest).length < rslLength ∧ buffer ++ rest = document := by
  rw [checkRoom]
  by_cases full : buffer.length + 6 > rslLength
  · rw [if_pos full]
    exact iff_of_true respects_null (.inl full)
  · rw [if_neg full]
    show Respects document (fit rslLength (buffer ++ rest)) ↔ _
    by_cases fits : (buffer ++ rest).length < rslLength
    · rw [fit_of_lt fits]
      constructor
      · rintro (h | h)
        · cases h
        · exact .inr ⟨fits, Except.ok.inj h⟩
      · rintro (h | ⟨-, eq⟩)
        · exact absurd h full
        · exact .inr (congrArg Except.ok eq)
    · rw [fit_of_not_lt fits]
      refine iff_of_false not_respects_memory ?_
      rintro (h | ⟨h, -⟩)
      · exact full h
      · exact fits h

/-- The queue that is added. -/
lemma addQueue_eq (job : Job) (buffer : List Char) :
    addQueue job buffer =
      if printQueue job = none then .ok (buffer ++ queueText job)
      else fit rslLength (buffer ++ queueText job) := by
  rw [addQueue, queueText]
  cases printQueue job with
  | none =>
    show Except.ok buffer = Except.ok (buffer ++ [])
    rw [List.append_nil]
  | some queue => exact printed_eq buffer (spaced "queue" queue)

lemma end_length : "</job>".toList.length = 6 := by decide

lemma queueText_length (some_queue : printQueue job ≠ none) : 0 < (queueText job).length := by
  rw [queueText]
  cases queue : printQueue job with
  | none => exact absurd queue some_queue
  | some queue => exact Nat.succ_pos _

lemma wrapper_fits (job : Job) :
    Respects (wrapperDocument job) (gw_generate_wrapper_rsl2 job) ↔ WrapperFits job := by
  rw [WrapperFits]
  by_cases long : 640 ≤ (environmentText job).length
  · have failed : gw_generate_wrapper_rsl2 job = .error .null := by
      rw [wrapper_eq, wrapperHeader, environment_eq, if_pos long]
      rfl
    rw [failed]
    exact iff_of_true respects_null (.inl long)
  · have header : wrapperHeader job =
        addQueue job ((wrapperText job).take (rslLength - 1)) >>= checkRoom := by
      rw [wrapperHeader, environment_eq, if_neg long]
      rfl
    have made : gw_generate_wrapper_rsl2 job =
        addQueue job ((wrapperText job).take (rslLength - 1)) >>= fun b => checkRoom b >>= fun b =>
          fit rslLength (b ++ ((limits job).flatten ++ "</job>".toList)) := by
      rw [wrapper_eq, header, bind_assoc]
      simp only [← List.append_assoc]
      rfl
    have document : wrapperDocument job =
        wrapperText job ++ queueText job ++ ((limits job).flatten ++ "</job>".toList) :=
      List.append_assoc _ _ _
    have room : (wrapperDocument job).length =
        (wrapperText job).length + (queueText job).length + (limits job).flatten.length + 6 := by
      rw [document]
      simp only [List.length_append, end_length]
      omega
    rw [made, addQueue_eq]
    by_cases short : (wrapperText job ++ queueText job).length < rslLength
    · have uncut : (wrapperText job).take (rslLength - 1) = wrapperText job := by
        rw [List.length_append] at short
        exact List.take_of_length_le (by omega)
      have added : (if printQueue job = none then .ok (wrapperText job ++ queueText job)
          else fit rslLength (wrapperText job ++ queueText job)) =
          Except.ok (wrapperText job ++ queueText job) := by
        rw [fit_of_lt short, ite_self]
      rw [uncut, added]
      apply (checked_respects _ _ _).trans
      rw [← document]
      constructor
      · rintro (full | ⟨fits, -⟩)
        · exact .inr (.inl ⟨full, .inr short⟩)
        · exact .inr (.inr fits)
      · rintro (h | ⟨full, -⟩ | fits)
        · exact absurd h long
        · exact .inl full
        · exact .inr ⟨fits, rfl⟩
    · rw [List.length_append] at short
      by_cases queue : printQueue job = none
      · -- what is cut leaves no room for the end, which the check notices
        have empty : queueText job = [] := by
          rw [queueText, queue]
          rfl
        have full : rslLength < ((wrapperText job).take (rslLength - 1) ++ queueText job).length + 6 := by
          rw [empty] at short ⊢
          simp only [List.length_append, List.length_take, List.length_nil] at short ⊢
          rw [rslLength] at short ⊢
          omega
        rw [if_pos queue]
        apply iff_of_true ((checked_respects _ _ _).2 (.inl full))
        refine .inr (.inl ⟨?_, .inl queue⟩)
        rw [List.length_append]
        omega
      · have := queueText_length queue
        have overflow : ¬((wrapperText job).take (rslLength - 1) ++ queueText job).length < rslLength := by
          simp only [List.length_append, List.length_take]
          omega
        rw [if_neg queue, fit_of_not_lt overflow]
        refine iff_of_false not_respects_memory ?_
        rintro (h | ⟨-, h | h⟩ | h)
        · exact long h
        · exact queue h
        · rw [List.length_append] at h
          exact short h
        · omega

/-- The part of a pre-wrapper's document that comes after its start. -/
def preWrapperRest (substitute : Substitution) (arguments : Option (List Char))
    (rsl_buffer : List Char) : Build (List Char) := do
  let rsl_buffer ←
    match arguments with
    | none => .ok rsl_buffer
    | some text =>
      match substitute text with
      | none => .error .null
      | some text => do
        let xml ← gw_split_arguments text
        if rsl_buffer.length + xml.length + 6 > rslLength then .error .null
        else strncat rsl_buffer xml
  let rsl_buffer ← checkRoom rsl_buffer
  strcat rsl_buffer "</job>".toList

lemma preWrapper_eq (substitute : Substitution) (job : Job) :
    gw_generate_pre_wrapper_rsl2 substitute job =
      if 640 ≤ (environmentText job).length then .error .null
      else match preWrapperExecutable substitute job with
        | none => .error .null
        | some executable =>
          if (preWrapperText executable job).length ≥ rslLength then .error .null
          else preWrapperRest substitute job.template.preWrapperArguments
            (preWrapperText executable job) := by
  rw [gw_generate_pre_wrapper_rsl2, environment_eq, preWrapperExecutable]
  by_cases long : 640 ≤ (environmentText job).length
  · rw [if_pos long, if_pos long]
    rfl
  · rw [if_neg long, if_neg long]
    by_cases absolute : job.template.preWrapper.head? = some '/'
    · simp only [absolute, if_true]
      rfl
    · simp only [absolute, if_false]
      cases substitute job.template.preWrapper with
      | none => rfl
      | some name => rfl

/-- The end of a document after the last check. -/
lemma end_respects (buffer : List Char) :
    Respects (buffer ++ "</job>".toList) (checkRoom buffer >>= fun b => strcat b "</job>".toList) ↔
      (buffer ++ "</job>".toList).length ≠ rslLength := by
  apply (checked_respects _ _ _).trans
  rw [List.length_append, end_length]
  constructor
  · rintro (full | ⟨fits, -⟩)
    · exact Nat.ne_of_gt full
    · exact Nat.ne_of_lt fits
  · intro ne
    obtain fits | full := Nat.lt_or_gt_of_ne ne
    · exact .inr ⟨fits, rfl⟩
    · exact .inl full

lemma rest_respects {arguments : Option (List Char)} {start : List Char} :
    Respects (start ++ argumentsText substitute arguments ++ "</job>".toList)
        (preWrapperRest substitute arguments start) ↔
      ArgumentsFail substitute arguments ∨ ArgumentsFit substitute arguments ∧
        (start ++ argumentsText substitute arguments ++ "</job>".toList).length ≠ rslLength := by
  cases arguments with
  | none =>
    have fails : ¬ArgumentsFail substitute none := by
      rintro ⟨text, eq, -⟩
      cases eq
    have fit : ArgumentsFit substitute none := fun text eq => by cases eq
    have nothing : start ++ argumentsText substitute none = start := List.append_nil start
    rw [or_iff_right fails, and_iff_right fit, nothing]
    exact end_respects start
  | some text =>
    cases value : substitute text with
    | none =>
      have failed : preWrapperRest substitute (some text) start = .error .null := by
        rw [preWrapperRest]
        dsimp only
        rw [value]
        rfl
      rw [failed]
      exact iff_of_true respects_null (.inl ⟨text, rfl, value⟩)
    | some w =>
      have elements : argumentsText substitute (some text) = splitText w := by
        rw [argumentsText, Option.bind_some, value]
        rfl
      have fails : ¬ArgumentsFail substitute (some text) := by
        rintro ⟨_, eq, none⟩
        cases eq
        rw [value] at none
        cases none
      have fits_iff : ArgumentsFit substitute (some text) ↔ SplitFits w := by
        rw [ArgumentsFit, Option.bind_some, value]
        exact ⟨fun h => h w rfl, fun h _ eq => Option.some.inj eq ▸ h⟩
      have made : preWrapperRest substitute (some text) start = gw_split_arguments w >>= fun xml =>
          (if start.length + xml.length + 6 > rslLength then .error .null else strncat start xml) >>=
            fun b => checkRoom b >>= fun b => strcat b "</job>".toList := by
        rw [preWrapperRest]
        dsimp only
        rw [value]
        show (gw_split_arguments w >>= _) = _
        congr 1
        funext xml
        by_cases full : start.length + xml.length + 6 > rslLength
        · rw [if_pos full, if_pos full]
        · rw [if_neg full, if_neg full]
      rw [or_iff_right fails, fits_iff, elements, made]
      by_cases room : SplitFits w
      · rw [and_iff_right room, split_eq, if_pos room.1, fit_of_lt room.2]
        show Respects _ ((if start.length + (splitText w).length + 6 > rslLength then _ else _) >>= _) ↔ _
        by_cases full : start.length + (splitText w).length + 6 > rslLength
        · rw [if_pos full]
          apply iff_of_true respects_null
          simp only [List.length_append, end_length]
          omega
        · have fits : (start ++ splitText w).length < rslLength := by
            rw [List.length_append]
            omega
          rw [if_neg full, strncat_eq, fit_of_lt fits]
          exact end_respects _
      · have overflow : gw_split_arguments w = .error .memory := by
          rw [split_eq]
          by_cases blank : ' ' ∈ w
          · rw [if_pos blank]
            exact fit_of_not_lt fun h => room ⟨blank, h⟩
          · exact if_neg blank
        rw [overflow]
        exact iff_of_false not_respects_memory fun h => room h.1

lemma preWrapper_fits (substitute : Substitution) (job : Job) :
    Respects (preWrapperDocument substitute job) (gw_generate_pre_wrapper_rsl2 substitute job) ↔
      PreWrapperFits substitute job := by
  rw [preWrapper_eq, PreWrapperFits]
  by_cases long : 640 ≤ (environmentText job).length
  · rw [if_pos long]
    exact iff_of_true respects_null (.inl long)
  · rw [if_neg long, or_iff_right long, preWrapperDocument]
    cases found : preWrapperExecutable substitute job with
    | none => exact iff_of_true respects_null nofun
    | some executable =>
      simp only [Option.some.injEq, forall_eq', Option.getD_some]
      by_cases full : (preWrapperText executable job).length ≥ rslLength
      · rw [if_pos full]
        exact iff_of_true respects_null (.inl full)
      · rw [if_neg full, or_iff_right full]
        exact rest_respects

lemma fit_bind_bind (a t : List Char) (g : List Char → Build (List Char)) :
    (fit rslLength a >>= fun b => fit rslLength (b ++ t) >>= g) = fit rslLength (a ++ t) >>= g := by
  rw [← bind_assoc, fit_bind fun b => rfl]

lemma printed_bind (b t : List Char) (g : List Char → Build (List Char)) :
    (sprintf t >>= fun printed => strncat b printed >>= g) = fit rslLength (b ++ t) >>= g := by
  rw [← bind_assoc, printed_eq]

lemma addQueue_bind (a : List Char) (g : List Char → Build (List Char)) :
    (fit rslLength a >>= fun b => addQueue job b >>= g) = fit rslLength (a ++ queueText job) >>= g := by
  by_cases queue : printQueue job = none
  · have empty : queueText job = [] := by
      rw [queueText, queue]
      rfl
    have same (b : List Char) : addQueue job b = pure b := by
      rw [addQueue_eq, if_pos queue, empty, List.append_nil]
      rfl
    simp only [same, pure_bind]
    rw [empty, List.append_nil]
  · simp only [addQueue_eq, if_neg queue]
    exact fit_bind_bind a _ g

/-- The extensions are added for a host that is a GridWay itself. -/
def addExtensions (substitute : Substitution) (job : Job) (rsl_buffer : List Char) :
    Build (List Char) :=
  match job.lrmsType with
  | none => .error .memory
  | some type =>
    if sameIgnoringCase type "gw" then do
      strncat rsl_buffer (← gw_job_rsl2_extensions substitute job)
    else .ok rsl_buffer

/-- A document without a wrapper, up to the check. -/
lemma nowrapperHeader_eq (short : ¬640 ≤ (environmentText job).length) :
    nowrapperHeader substitute job =
      fit rslLength (executableText job) >>= fun b =>
        addArguments substitute job.template.arguments b >>= fun b =>
          fit rslLength (b ++ middleText job) >>= fun b =>
            addExtensions substitute job b >>= checkRoom := by
  rw [nowrapperHeader, environment_eq, if_neg short]
  show (fit rslLength (executableText job) >>= _) = _
  congr 1
  funext b
  congr 1
  funext b
  simp only [printed_bind, strncat_eq _ (environmentText job), strncat_eq _ (spaced _ _ ++ spaced _ _),
    addQueue_bind, fit_bind_bind, middleText, List.append_assoc]
  congr 1
  funext b
  rw [addExtensions]
  cases job.lrmsType with
  | none => rfl
  | some type =>
    dsimp only
    by_cases gw : sameIgnoringCase type "gw" = true
    · rw [if_pos gw, if_pos gw]
      exact (bind_assoc _ _ _).symm
    · rw [if_neg gw, if_neg gw]

/-- The variables of the template and the end of the document. -/
lemma addVariables_eq (env : List (List Char × List Char)) (buffer : List Char) :
    (env.foldlM (addVariable substitute) buffer >>= fun b => strcat b "</job>".toList) =
      fit rslLength (buffer ++ (env.flatMap (variableText substitute) ++ "</job>".toList)) := by
  induction env generalizing buffer with
  | nil => rfl
  | cons e env ih =>
    rw [List.foldlM_cons, List.flatMap_cons, bind_assoc, addVariable, variableText]
    cases substitute e.2 with
    | none => exact ih buffer
    | some var =>
      dsimp only
      rw [printed_eq, fit_bind ih]
      simp only [List.append_assoc]

/-- What comes after the extensions. -/
def endText (substitute : Substitution) (job : Job) : List Char :=
  job.template.environment.flatMap (variableText substitute) ++ "</job>".toList

lemma nowrapper_eq (short : ¬640 ≤ (environmentText job).length) :
    gw_generate_nowrapper_rsl2 substitute job =
      fit rslLength (executableText job) >>= fun b =>
        addArguments substitute job.template.arguments b >>= fun b =>
          fit rslLength (b ++ middleText job) >>= fun b =>
            addExtensions substitute job b >>= fun b => checkRoom b >>= fun b =>
              fit rslLength (b ++ endText substitute job) := by
  rw [gw_generate_nowrapper_rsl2, nowrapperHeader_eq short]
  simp only [bind_assoc, addVariables_eq]
  rfl

/-- The arguments that are added. -/
lemma addArguments_eq {arguments : Option (List Char)} {buffer : List Char}
    (fits : buffer.length < rslLength) (fails : ¬ArgumentsFail substitute arguments)
    (room : ArgumentsFit substitute arguments) :
    addArguments substitute arguments buffer =
      fit rslLength (buffer ++ argumentsText substitute arguments) := by
  cases arguments with
  | none =>
    have nothing : buffer ++ argumentsText substitute none = buffer := List.append_nil buffer
    rw [nothing, fit_of_lt fits]
    rfl
  | some text =>
    cases value : substitute text with
    | none => exact absurd ⟨text, rfl, value⟩ fails
    | some w =>
      obtain ⟨blank, short⟩ := room w value
      rw [addArguments, argumentsText, Option.bind_some, value]
      dsimp only
      rw [split_eq, if_pos blank, fit_of_lt short]
      exact strncat_eq buffer (splitText w)

/-- Arguments for which there is no room. -/
lemma addArguments_memory {arguments : Option (List Char)} (buffer : List Char)
    (fails : ¬ArgumentsFail substitute arguments) (room : ¬ArgumentsFit substitute arguments) :
    addArguments substitute arguments buffer = .error .memory := by
  cases arguments with
  | none => exact absurd (fun text eq => by cases eq) room
  | some text =>
    cases value : substitute text with
    | none => exact absurd ⟨text, rfl, value⟩ fails
    | some w =>
      have over_long : ¬SplitFits w := by
        intro fits
        apply room
        intro _ eq
        rw [Option.bind_some, value] at eq
        exact Option.some.inj eq ▸ fits
      rw [addArguments, value]
      dsimp only
      rw [split_eq]
      by_cases blank : ' ' ∈ w
      · rw [if_pos blank, fit_of_not_lt fun h => over_long ⟨blank, h⟩]
        rfl
      · rw [if_neg blank]
        rfl

/-- The extensions that are added. -/
lemma addExtensions_eq {buffer : List Char} (fits : buffer.length < rslLength) :
    addExtensions substitute job buffer =
      if job.lrmsType ≠ none ∧
          (extended job = true → (extensionsWritten substitute job).length < 4096) then
        fit rslLength (buffer ++ addedText substitute job)
      else .error .memory := by
  rw [addExtensions, addedText, extended]
  cases job.lrmsType with
  | none => rfl
  | some type =>
    simp only [Option.any_some]
    by_cases gw : sameIgnoringCase type "gw" = true
    · rw [if_pos gw, if_pos gw, extensions_eq]
      by_cases room : (extensionsWritten substitute job).length < 4096
      · rw [fit_of_lt room, if_pos ⟨by simp, fun _ => room⟩]
        exact strncat_eq buffer _
      · rw [fit_of_not_lt room, if_neg fun h => room (h.2 gw)]
        rfl
    · rw [if_neg gw, if_neg gw, if_pos ⟨by simp, fun h => absurd h gw⟩, List.append_nil, fit_of_lt fits]

/-- The document is the one that is put together if no line of the extensions was cut. -/
lemma document_eq_iff
    (fits : extended job = true → (extensionsWritten substitute job).length < 4096) :
    nowrapperText substitute job ++ addedText substitute job ++ endText substitute job =
        nowrapperDocument substitute job ↔
      (extended job = true → ExtensionsFit substitute job) := by
  rw [nowrapperDocument, addedText, endText]
  simp only [List.append_assoc, List.append_cancel_left_eq]
  by_cases gw : extended job = true
  · rw [if_pos gw, if_pos gw, List.append_cancel_right_eq, written_eq_iff (fits gw)]
    exact ⟨fun h _ => h, fun h => h gw⟩
  · rw [if_neg gw, if_neg gw]
    exact iff_of_true rfl fun h => absurd h gw

lemma end_fits (fits : (nowrapperText substitute job).length < rslLength) :
    Respects (nowrapperDocument substitute job)
        (addExtensions substitute job (nowrapperText substitute job) >>= fun b => checkRoom b >>= fun b =>
          fit rslLength (b ++ endText substitute job)) ↔
      EndFits substitute job := by
  rw [addExtensions_eq fits, EndFits]
  by_cases known : job.lrmsType ≠ none ∧
      (extended job = true → (extensionsWritten substitute job).length < 4096)
  · rw [if_pos known, and_iff_right known.1, and_iff_right known.2]
    by_cases room : (nowrapperText substitute job ++ addedText substitute job).length < rslLength
    · rw [fit_of_lt room, and_iff_right room]
      apply (checked_respects _ _ _).trans
      rw [document_eq_iff known.2]
      constructor
      · rintro (full | ⟨all, whole⟩)
        · exact .inl full
        · refine .inr ⟨whole, ?_⟩
          rw [← (document_eq_iff known.2).2 whole]
          exact all
      · rintro (full | ⟨whole, all⟩)
        · exact .inl full
        · refine .inr ⟨?_, whole⟩
          rw [(document_eq_iff known.2).2 whole]
          exact all
    · rw [fit_of_not_lt room]
      exact iff_of_false not_respects_memory fun h => room h.1
  · rw [if_neg known]
    exact iff_of_false not_respects_memory fun h => known ⟨h.1, h.2.1⟩

lemma nowrapper_fits (substitute : Substitution) (job : Job) :
    Respects (nowrapperDocument substitute job) (gw_generate_nowrapper_rsl2 substitute job) ↔
      NowrapperFits substitute job := by
  rw [NowrapperFits]
  by_cases long : 640 ≤ (environmentText job).length
  · have failed : gw_generate_nowrapper_rsl2 substitute job = .error .null := by
      rw [gw_generate_nowrapper_rsl2, nowrapperHeader, environment_eq, if_pos long]
      rfl
    rw [failed]
    exact iff_of_true respects_null (.inl long)
  rw [nowrapper_eq long, or_iff_right long]
  by_cases start : (executableText job).length < rslLength
  · rw [fit_of_lt start, and_iff_right start]
    show Respects _ (addArguments substitute job.template.arguments (executableText job) >>= _) ↔ _
    by_cases fails : ArgumentsFail substitute job.template.arguments
    · obtain ⟨text, given, value⟩ := fails
      have failed : addArguments substitute job.template.arguments (executableText job) =
          .error .null := by
        rw [given, addArguments, value]
      rw [failed]
      exact iff_of_true respects_null (.inl ⟨text, given, value⟩)
    rw [or_iff_right fails]
    by_cases room : ArgumentsFit substitute job.template.arguments
    · rw [addArguments_eq start fails room, and_iff_right room, fit_bind_bind, ← nowrapperText]
      by_cases fits : (nowrapperText substitute job).length < rslLength
      · rw [fit_of_lt fits]
        exact end_fits fits
      · rw [fit_of_not_lt fits]
        refine iff_of_false not_respects_memory fun h => fits ?_
        have all := h.2.2.1
        rw [List.length_append] at all
        omega
    · rw [addArguments_memory _ fails room]
      exact iff_of_false not_respects_memory fun h => room h.1
  · rw [fit_of_not_lt start]
    exact iff_of_false not_respects_memory fun h => start h.1

/-- The document of a job. -/
def document (substitute : Substitution) (job : Job) : List Char :=
  if gw_job_is_wrapper_based job then wrapperDocument job else nowrapperDocument substitute job

/-- The room that the document of a job needs. -/
def DocumentFits (substitute : Substitution) (job : Job) : Prop :=
  if gw_job_is_wrapper_based job then WrapperFits job else NowrapperFits substitute job

/-- The functions that put a document together keep to their buffers, and make all of it or fail, exactly
for the lengths for which there is room. -/
theorem buffers_respected_iff (substitute : Substitution) (job : Job) (arguments : List Char) :
    (Respects (document substitute job) (gw_generate_rsl2 substitute job) ↔
      DocumentFits substitute job) ∧
    (Respects (preWrapperDocument substitute job) (gw_generate_pre_wrapper_rsl2 substitute job) ↔
      PreWrapperFits substitute job) ∧
    (Respects (splitText arguments) (gw_split_arguments arguments) ↔ SplitFits arguments) ∧
    (Respects (extensionsText substitute job) (gw_job_rsl2_extensions substitute job) ↔
      ExtensionsFit substitute job) := by
  refine ⟨?_, preWrapper_fits substitute job, split_fits arguments, extensions_fit substitute job⟩
  rw [document, gw_generate_rsl2, DocumentFits]
  by_cases wrapped : gw_job_is_wrapper_based job = true
  · rw [if_pos wrapped, if_pos wrapped, if_pos wrapped]
    exact wrapper_fits job
  · rw [if_neg wrapped, if_neg wrapped, if_neg wrapped]
    exact nowrapper_fits substitute job

/-- A job whose requirements are 1100 characters long. -/
def longJob : Job :=
  { wideJob with template := { wideJob.template with requirements := some (List.replicate 1100 'x') } }

/-- One argument alone does not leave room for the end of its string, and a line of the extensions that is
too long is cut and returned. -/
theorem buffers_not_respected :
    gw_split_arguments "data.txt".toList = .error .memory ∧
      ¬Respects (splitText "data.txt".toList) (gw_split_arguments "data.txt".toList) ∧
      gw_job_rsl2_extensions some longJob = .ok (extensionsWritten some longJob) ∧
      ¬Respects (extensionsText some longJob) (gw_job_rsl2_extensions some longJob) := by
  have blank : ' ' ∉ "data.txt".toList := by decide
  have lines : extensionsLines some longJob =
      ["REQUIREMENTS".toList ++ '=' :: List.replicate 1100 'x' ++ ['\n'], extensionsTail] := rfl
  refine ⟨?_, ?_, ?_, ?_⟩
  · rw [split_eq, if_neg blank]
  · rw [split_fits]
    exact fun h => blank h.1
  · have head : (extensionsHead longJob).length ≤ 63 := by decide
    have last : extensionsTail.length = 20 := by decide
    rw [extensions_eq]
    apply fit_of_lt
    rw [extensionsWritten, lines, cut, List.map_cons, List.map_cons, List.map_nil]
    simp only [List.flatten_cons, List.flatten_nil, List.length_append, List.length_take,
      List.length_nil, last]
    omega
  · rw [extensions_fit]
    intro h
    have short := h.1 _ (lines ▸ List.mem_cons_self)
    rw [List.length_append, List.length_append, List.length_cons, List.length_replicate] at short
    omega

end Documents

end GridWay.Rsl2
