import GridWay.Dm.Epilog

/-!
# The transfer lists of the stages

Every stage computes the size of its transfer array in one place and fills the array in another.
The mandatory files come first; `failure_limit` is their number in a prolog and the index of the
last one in an epilog, `-1` when there is none.

* `Dm.Stage.files_fit`: the list of a stage fills the array that was allocated for it.
-/

namespace GridWay.Dm

/-- The stages that transfer files. -/
inductive Stage where
  | prolog | epilogStd | migrEpilog | stopEpilog | killEpilog | epilogFail | epilog | epilogRestart
deriving DecidableEq, Repr

variable {w : World} {job : Job}

namespace Stage

/-- The list that the handler of a stage builds; `none` when it writes outside of the array or
reads a record that is not there. -/
def files : Stage → World → Job → Option Xfrs
  | .prolog => prologSetFiles
  | .epilogStd => epilogStdFiles
  | .migrEpilog => migrEpilogFiles
  | .stopEpilog => stopEpilogFiles
  | .killEpilog | .epilogFail => wrapperOnlyFiles
  | .epilog => epilogFiles
  | .epilogRestart => epilogRestartFiles

end Stage

/-- The restart files that a stage-out brings to the checkpoint server, unless a checkpoint does. -/
def restartOut (job : Job) : List Xfr :=
  if job.tmState = .checkpoint then []
  else
    job.template.restartFiles.map fun f =>
      outEntry job f (job.template.checkpointUrl ++ "/" ++ f)

/-- The restart files that a stage-in brings. -/
def restartIn (job : Job) : List Xfr :=
  if job.restarted ≠ 0 then
    (job.history[1]?.toList).flatMap fun prev =>
      job.template.restartFiles.map (restartEntry job prev)
  else []

/-- The output and the error of the execution. -/
def stdMandatory (job : Job) : List Xfr :=
  (job.template.stdoutFile.toList.map fun f => outEntry job "stdout.execution" (some f)) ++
    job.template.stderrFile.toList.map fun f => outEntry job "stderr.execution" (some f)

/-- The output and the error of a helper program. -/
def helperOut (job : Job) (name : String) : List Xfr :=
  [outEntry job ("stdout." ++ name) (restartFile job ("stdout." ++ name)),
   outEntry job ("stderr." ++ name) (restartFile job ("stderr." ++ name))]

/-- The outputs and the errors of the helper programs. -/
def stdOptional (job : Job) : List Xfr :=
  (if job.template.preWrapper.isSome then helperOut job "pre_wrapper" else []) ++
    if job.template.monitor.isSome then helperOut job "monitor" else []

/-- The output files of the template. -/
def outputEntries (job : Job) : List Xfr :=
  job.template.outputFiles.map fun f => outEntry job f.1 f.2

namespace Stage

/-- The transfers without which a stage has failed. -/
def mandatory (w : World) (job : Job) : Stage → List Xfr
  | .prolog => inputEntries (w.wrapperBased job) job
  | .epilogStd => [outEntry job "stdout.wrapper" (restartFile job "stdout.wrapper")]
  | .migrEpilog | .stopEpilog => stdMandatory job
  | .killEpilog | .epilogFail =>
    if w.wrapperBased job then [outEntry job "stdout.wrapper" (restartFile job "stdout.wrapper")]
    else []
  | .epilog | .epilogRestart => outputEntries job ++ stdMandatory job

/-- The other transfers of a stage. -/
def optional (w : World) (job : Job) : Stage → List Xfr
  | .prolog => restartIn job
  | .epilogStd => [outEntry job "stderr.wrapper" (restartFile job "stderr.wrapper")]
  | .migrEpilog | .epilog => stdOptional job
  | .killEpilog | .epilogFail =>
    if w.wrapperBased job then [outEntry job "stderr.wrapper" (restartFile job "stderr.wrapper")]
    else []
  | .stopEpilog | .epilogRestart => stdOptional job ++ restartOut job

/-- The `num_xfrs` of a stage. -/
def size (w : World) (job : Job) : Stage → Nat
  | .prolog => inputSize (w.wrapperBased job) job.template +
      if job.restarted ≠ 0 then job.template.restartFiles.length else 0
  | .epilogStd => 2
  | .migrEpilog => stdSize job.template
  | .stopEpilog => stdSize job.template +
      if job.tmState = .checkpoint then 0 else job.template.restartFiles.length
  | .killEpilog | .epilogFail => if w.wrapperBased job then 2 else 0
  | .epilog => stdSize job.template + job.template.outputFiles.length
  | .epilogRestart => stdSize job.template + job.template.outputFiles.length +
      if job.tmState = .checkpoint then 0 else job.template.restartFiles.length

/-- A stage-in stages a wrapper that the template names, and a job that was restarted has the
record of an earlier host. -/
def Ready (w : World) (job : Job) (stage : Stage) : Prop :=
  stage = .prolog → (w.wrapperBased job → job.template.wrapper.isSome) ∧
    (job.restarted ≠ 0 → job.template.restartFiles ≠ [] → 2 ≤ job.history.length)

end Stage

/-- An array entry that was written for a transfer. -/
structure Filled (job : Job) (f : Xfr) : Prop where
  source : f.srcUrl.isSome
  tries : f.tries = job.template.numberOfRetries
  fresh : f.done = false ∧ f.success = false ∧ f.counter = -1

/-- The list of a stage fills its array, and `failure_limit` parts the mandatory transfers from the
others: it is their number in a prolog and the index of the last one in an epilog. -/
structure Fits (w : World) (job : Job) (stage : Stage) (x : Xfrs) : Prop where
  /-- As many entries are written as there are in the array. -/
  size : x.xfrs.length = stage.size w job
  filled : ∀ f ∈ x.xfrs, Filled job f
  /-- The mandatory transfers come first. -/
  order : x.xfrs = stage.mandatory w job ++ stage.optional w job
  limit : x.failureLimit =
    if stage = .prolog then ((stage.mandatory w job).length : Int)
    else if x.xfrs = [] ∧ (stage = .killEpilog ∨ stage = .epilogFail) then 0
    else (stage.mandatory w job).length - 1

/-- A list as long as the array fills it. -/
lemma build_exact {n : Nat} {tries limit : Int} {entries : List Xfr} (size : entries.length = n) :
    Xfrs.build n tries entries limit = some ⟨entries, limit⟩ := by
  rw [Xfrs.build, if_pos (Nat.le_of_eq size), size, Nat.sub_self, List.replicate_zero,
    List.append_nil]

lemma filled_out (src : String) (dst : Option String) : Filled job (outEntry job src dst) :=
  ⟨rfl, rfl, rfl, rfl, rfl⟩

lemma filled_map {α : Type} {xs : List α} {g : α → Xfr} (each : ∀ x, Filled job (g x)) :
    ∀ f ∈ xs.map g, Filled job f := by
  intro f mem
  obtain ⟨x, -, rfl⟩ := List.mem_map.1 mem
  exact each x

lemma filled_append {xs ys : List Xfr} (first : ∀ f ∈ xs, Filled job f)
    (rest : ∀ f ∈ ys, Filled job f) : ∀ f ∈ xs ++ ys, Filled job f := by
  intro f mem
  obtain here | there := List.mem_append.1 mem
  · exact first f here
  · exact rest f there

lemma filled_ite {p : Prop} [Decidable p] {xs : List Xfr} (each : ∀ f ∈ xs, Filled job f) :
    ∀ f ∈ (if p then xs else []), Filled job f := by
  intro f mem
  split at mem
  · exact each f mem
  · cases mem

lemma filled_helper (name : String) : ∀ f ∈ helperOut job name, Filled job f := by
  intro f mem
  obtain rfl | rfl : f = _ ∨ f = _ := by simpa [helperOut] using mem
  · exact filled_out _ _
  · exact filled_out _ _

lemma filled_std (job : Job) : ∀ f ∈ stdMandatory job ++ stdOptional job, Filled job f := by
  apply filled_append
  · exact filled_append (filled_map fun _ => filled_out _ _) (filled_map fun _ => filled_out _ _)
  · exact filled_append (filled_ite (filled_helper _)) (filled_ite (filled_helper _))

lemma filled_restartOut : ∀ f ∈ restartOut job, Filled job f := by
  rw [restartOut]
  split
  · nofun
  · exact filled_map fun _ => filled_out _ _

lemma filled_restartIn : ∀ f ∈ restartIn job, Filled job f := by
  rw [restartIn]
  apply filled_ite
  intro f mem
  obtain ⟨prev, -, mem⟩ := List.mem_flatMap.1 mem
  refine filled_map (fun file => ?_) f mem
  rw [restartEntry]
  split <;> exact ⟨rfl, rfl, rfl, rfl, rfl⟩

lemma filled_input (wbe : Bool) : ∀ f ∈ inputEntries wbe job, Filled job f := by
  have plain (src : String) (dst : Option String) (mode : Char) :
      Filled job { tries := job.template.numberOfRetries, srcUrl := src, dstUrl := dst, mode } :=
    ⟨rfl, rfl, rfl, rfl, rfl⟩
  have single {f : Xfr} (filled : Filled job f) : ∀ g ∈ [f], Filled job g := by
    intro g mem
    obtain rfl := List.mem_singleton.1 mem
    exact filled
  rw [inputEntries]
  refine filled_append (filled_append (filled_append (filled_append (filled_append (filled_append
    ?_ ?_) ?_) ?_) ?_) ?_) ?_
  · exact filled_map fun _ => plain _ _ _
  · exact filled_ite (single (plain _ _ _))
  · exact filled_map fun _ => plain _ _ _
  · exact filled_map fun _ => plain _ _ _
  · exact filled_map fun _ => plain _ _ _
  · exact filled_ite (single (plain _ _ _))
  · exact filled_ite (filled_map fun _ => plain _ _ _)

/-- The files of a template that names them, in the order they are written. -/
lemma stdFiles_eq (fs : Files) :
    stdFiles job fs =
      { entries := fs.entries ++ (stdMandatory job ++ stdOptional job)
        failureLimit :=
          if stdMandatory job = [] then fs.failureLimit
          else fs.entries.length + (stdMandatory job).length - 1 } := by
  have helper (name : String) (present : Bool) (fs : Files) :
      helperFiles job name present fs =
        { fs with entries := fs.entries ++ if present then helperOut job name else [] } := by
    rw [helperFiles]
    cases present with
    | true => rfl
    | false => simp
  rw [stdFiles, helper, helper]
  cases out : job.template.stdoutFile <;> cases err : job.template.stderrFile <;>
    simp [mandatoryFile, stdMandatory, stdOptional, out, err]
  omega

lemma std_length (job : Job) :
    (stdMandatory job ++ stdOptional job).length = stdSize job.template := by
  rw [stdSize, stdMandatory, stdOptional]
  cases job.template.preWrapper <;> cases job.template.monitor <;>
    simp [helperOut] <;> omega

lemma input_length {wbe : Bool} (wrapper : wbe → job.template.wrapper.isSome) :
    (inputEntries wbe job).length = inputSize wbe job.template := by
  rw [inputEntries, inputSize]
  cases wbe with
  | false =>
    simp
    omega
  | true =>
    obtain ⟨path, named⟩ := Option.isSome_iff_exists.1 (wrapper rfl)
    simp [named]
    omega

lemma restartOut_length (job : Job) : (restartOut job).length =
    if job.tmState = .checkpoint then 0 else job.template.restartFiles.length := by
  rw [restartOut]
  split <;> simp

lemma restartIn_length
    (earlier : job.restarted ≠ 0 → job.template.restartFiles ≠ [] → 2 ≤ job.history.length) :
    (restartIn job).length = if job.restarted ≠ 0 then job.template.restartFiles.length else 0 := by
  rw [restartIn]
  split
  case isTrue again =>
    cases files : job.template.restartFiles with
    | nil => simp
    | cons file files' =>
      have long := earlier again (by rw [files]; nofun)
      rw [List.getElem?_eq_getElem (by omega)]
      simp
  case isFalse => rfl

/-- After the standard files the limit is the index of the last mandatory file. -/
lemma stdFiles_parts (job : Job) (fs : Files) (limit : fs.failureLimit = fs.entries.length - 1) :
    stdFiles job fs =
      { entries := fs.entries ++ stdMandatory job ++ stdOptional job
        failureLimit := (fs.entries ++ stdMandatory job).length - 1 } := by
  rw [stdFiles_eq, List.append_assoc]
  by_cases none : stdMandatory job = []
  · simp [none, limit]
  · simp [none]

/-- The restart files come after the others, unless a checkpoint is bringing them. -/
lemma restartFiles_parts (size : Nat) (fs : Files) :
    (if job.tmState = .checkpoint then buildFiles job size fs
      else buildFiles job (size + job.template.restartFiles.length) (restartFiles job fs)) =
    buildFiles job
      (size + if job.tmState = .checkpoint then 0 else job.template.restartFiles.length)
      { fs with entries := fs.entries ++ restartOut job } := by
  rw [restartOut]
  split
  · simp
  · rfl

namespace Stage

lemma prolog_fits (ready : Ready w job .prolog) :
    ∃ x, files .prolog w job = some x ∧ Fits w job .prolog x := by
  obtain ⟨wrapper, earlier⟩ := ready rfl
  have input := input_length wrapper
  have restart := restartIn_length earlier
  have size : (mandatory w job .prolog ++ optional w job .prolog).length =
      Stage.size w job .prolog := by
    rw [List.length_append]
    exact congr (congrArg _ input) restart
  refine ⟨⟨mandatory w job .prolog ++ optional w job .prolog, _⟩, ?_, size,
    filled_append (filled_input _) filled_restartIn, rfl, by rw [if_pos rfl]⟩
  rw [files, prologSetFiles]
  split
  case isTrue again =>
    -- the code reads the record of the last host only when there is a file to bring from it
    have long := earlier again.1 again.2
    cases history : job.history with
    | nil =>
      rw [history] at long
      cases long
    | cons head past =>
      cases past with
      | nil =>
        rw [history] at long
        simp at long
      | cons prev older =>
        have brought : optional w job .prolog =
            job.template.restartFiles.map (restartEntry job prev) := by
          simp [optional, restartIn, again.1, history]
        rw [brought] at size ⊢
        apply build_exact
        exact size.trans (by rw [Stage.size, if_pos again.1])
  case isFalse fresh =>
    have none : optional w job .prolog = [] := by
      rw [optional, restartIn]
      split
      case isTrue again =>
        have files : job.template.restartFiles = [] := by
          by_contra some
          exact fresh ⟨again, some⟩
        simp [files]
      case isFalse => rfl
    rw [none, List.append_nil]
    exact build_exact input

/-- The list of an epilog is its mandatory files and then its other files. -/
lemma epilog_files {stage : Stage} (out : stage ≠ .prolog)
    (based : stage = .killEpilog ∨ stage = .epilogFail → w.wrapperBased job) :
    stage.files w job = buildFiles job (stage.size w job)
      { entries := stage.mandatory w job ++ stage.optional w job
        failureLimit := (stage.mandatory w job).length - 1 } := by
  have std := stdFiles_parts job {} rfl
  have outputs := stdFiles_parts job (outputFiles job {}) (by simp [outputFiles])
  rw [List.nil_append] at std
  cases stage with
  | prolog => exact absurd rfl out
  | epilogStd => rfl
  | migrEpilog =>
    rw [files, migrEpilogFiles, std]
    rfl
  | stopEpilog =>
    rw [files, stopEpilogFiles, restartFiles_parts, std]
    rw [List.append_assoc]
    rfl
  | killEpilog =>
    simp [files, wrapperOnlyFiles, based, size, mandatory, optional, stdWrapperFiles]
  | epilogFail =>
    simp [files, wrapperOnlyFiles, based, size, mandatory, optional, stdWrapperFiles]
  | epilog =>
    rw [files, epilogFiles, outputs]
    rfl
  | epilogRestart =>
    rw [files, epilogRestartFiles, restartFiles_parts, outputs]
    rw [List.append_assoc]
    rfl

/-- The entries of an epilog are as many as its array has. -/
lemma epilog_size {stage : Stage} (out : stage ≠ .prolog) :
    (stage.mandatory w job ++ stage.optional w job).length = stage.size w job := by
  have std := std_length job
  have restart := restartOut_length job
  rw [List.length_append] at std
  cases stage with
  | prolog => exact absurd rfl out
  | epilogStd => rfl
  | migrEpilog => rw [List.length_append]; exact std
  | stopEpilog => simp only [mandatory, optional, size, List.length_append]; omega
  | killEpilog => simp only [mandatory, optional, size]; split <;> rfl
  | epilogFail => simp only [mandatory, optional, size]; split <;> rfl
  | epilog =>
    simp only [mandatory, optional, size, outputEntries, List.length_append, List.length_map]
    omega
  | epilogRestart =>
    simp only [mandatory, optional, size, outputEntries, List.length_append, List.length_map]
    omega

/-- Every entry of an epilog is written for a file. -/
lemma epilog_filled {stage : Stage} (out : stage ≠ .prolog) :
    ∀ f ∈ stage.mandatory w job ++ stage.optional w job, Filled job f := by
  have std := filled_std job
  have outputs : ∀ f ∈ outputEntries job, Filled job f := filled_map fun _ => filled_out _ _
  have single (src : String) (dst : Option String) :
      ∀ f ∈ [outEntry job src dst], Filled job f := by
    intro f mem
    obtain rfl := List.mem_singleton.1 mem
    exact filled_out _ _
  cases stage with
  | prolog => exact absurd rfl out
  | epilogStd => exact filled_append (single _ _) (single _ _)
  | migrEpilog => exact std
  | stopEpilog =>
    rw [mandatory, optional, ← List.append_assoc]
    exact filled_append std filled_restartOut
  | killEpilog => exact filled_append (filled_ite (single _ _)) (filled_ite (single _ _))
  | epilogFail => exact filled_append (filled_ite (single _ _)) (filled_ite (single _ _))
  | epilog =>
    rw [mandatory, optional, List.append_assoc]
    exact filled_append outputs std
  | epilogRestart =>
    rw [mandatory, optional, ← List.append_assoc, List.append_assoc (outputEntries job)]
    exact filled_append (filled_append outputs std) filled_restartOut

/-- The list of a stage fills the array that was allocated for it, and the mandatory transfers are
on their side of the limit. -/
theorem files_fit (w : World) (job : Job) (stage : Stage) (ready : Ready w job stage) :
    ∃ x, stage.files w job = some x ∧ Fits w job stage x := by
  by_cases start : stage = .prolog
  · subst start
    exact prolog_fits ready
  by_cases based : stage = .killEpilog ∨ stage = .epilogFail → w.wrapperBased job
  · rw [epilog_files start based]
    refine ⟨_, build_exact (epilog_size start), epilog_size start, epilog_filled start, rfl, ?_⟩
    rw [if_neg start, if_neg]
    rintro ⟨empty, kind⟩
    have none := (List.append_eq_nil_iff.1 empty).1
    obtain rfl | rfl := kind <;> simp [mandatory, based] at none
  · -- the job has no wrapper, and the handler leaves the list as `gw_xfr_destroy` did
    push Not at based
    obtain ⟨kind, plain⟩ := based
    refine ⟨{}, ?_, ?_, nofun, ?_, ?_⟩ <;>
      obtain rfl | rfl := kind <;> simp [files, wrapperOnlyFiles, size, mandatory, optional, plain]

/-- A job that is restarted with an input file and a restart file. -/
theorem files_fit_restarted :
    let t : Template := { executable := "app", inputFiles := [("in", none)], restartFiles := ["r"] }
    let there : HistoryRecord :=
      { host := 0, queue := "", tmMad := "dummy", rdir := "3", emMad := "ssh", emRc := "",
        emForkRc := "", cancelTries := 0 }
    let job : Job := { id := 3, template := t, restarted := 1, history := [there, there] }
    ∃ x, Stage.prolog.files {} job = some x ∧ Fits {} job .prolog x :=
  files_fit _ _ .prolog fun _ => ⟨by decide, fun _ _ => by decide⟩

/-- The limit of an epilog without a mandatory transfer is below `0`. -/
theorem empty_epilog_limit :
    ¬ ∃ x, Stage.epilog.files {} { id := 3 } = some x ∧
      0 ≤ x.failureLimit ∧ x.failureLimit ≤ x.xfrs.length := by
  rintro ⟨x, built, low, -⟩
  obtain rfl := Option.some.inj built
  exact absurd low (by decide)

end Stage

end GridWay.Dm
