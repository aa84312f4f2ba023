import GridWay.Dm.Kept

/-!
# The label of a job

The files that a job leaves in its directory carry the number of its restarts. No handler moves the
directory of its job, and a handler counts a restart in four places only: the entry of `PENDING`,
the resume of a stopped job, the reschedule of a failed job, and the dispatch of a running job.

* `Dm.countsRestart`: the actions that count a restart.
* `Dm.handle_label`, `Dm.dispatchJob_label`: what the handlers do to the label.
-/

namespace GridWay

/-- What the names of the files of a job are made of. -/
structure Label where
  directory : String
  restarted : Nat
deriving DecidableEq, Repr

/-- The label of a job. -/
def Job.label (job : Job) : Label := ⟨job.directory, job.restarted⟩

/-- The label after one more restart. -/
def Label.again (l : Label) : Label := { l with restarted := l.restarted + 1 }

@[simp] lemma Job.setState_label (job : Job) (st : JobState) :
    (job.setState st).label = job.label := rfl

lemma label_congr {job job' : Job} (same : job'.kept = job.kept) : job'.label = job.label := by
  have directory : job'.directory = job.directory := congrArg Kept.directory same
  have restarted : job'.restarted = job.restarted := congrArg Kept.restarted same
  simp only [Job.label, directory, restarted]

namespace Dm

variable {w : World} {job : Job}

/-- The names of the files follow from the label. -/
lemma restartFile_congr {job' : Job} (same : job'.label = job.label) (name : String) :
    restartFile job' name = restartFile job name := by
  have directory : job'.directory = job.directory := congrArg Label.directory same
  have restarted : job'.restarted = job.restarted := congrArg Label.restarted same
  simp only [restartFile, directory, restarted]

/-- The handler of the action counts a restart of its job. -/
def countsRestart (a : DmAction) (st : JobState) : Bool :=
  match a with
  | .pending => true
  | .resume => st == .stopped
  | .reschedule => st == .failed
  | _ => false

lemma resume_label : (resume w job).job.label =
    if countsRestart .resume job.jobState then job.label.again else job.label := by
  unfold resume
  by_cases st : job.jobState = .stopped
  · rw [if_pos st, st]
    rfl
  · simp [st, countsRestart]

lemma reschedule_label (safe : .fault ∉ (reschedule w job).calls) : (reschedule w job).job.label =
    if countsRestart .reschedule job.jobState then job.label.again else job.label := by
  unfold reschedule at safe ⊢
  cases st : job.jobState
  case wrapper =>
    dsimp only
    split <;> rfl
  case failed =>
    -- a failed job without a record is no job of a run
    simp only [st] at safe ⊢
    split at safe
    · simp at safe
    · rfl
  all_goals rfl

/-- A handler keeps the directory of its job, and counts at most one restart. -/
theorem handle_label (a : DmAction) (w : World) (job : Job)
    (safe : .fault ∉ (handle a w job).calls) : (handle a w job).job.label =
      if countsRestart a job.jobState then job.label.again else job.label := by
  cases a
  case resume => exact resume_label (w := w)
  case reschedule => exact reschedule_label (w := w) safe
  case pending => rfl
  case wait => rfl
  all_goals exact label_congr (handle_kept rfl)

lemma uncheckJob_label : (uncheckJob w job).job.label = job.label := label_congr uncheckJob_kept

lemma checkJob_label : (checkJob w job).job.label = job.label := label_congr checkJob_kept

/-- The dispatch of a running job that is made: it counts a restart before the migration begins. -/
def migrates (w : World) (job : Job) : Bool :=
  job.jobState == .wrapper && !nowActive job && w.tmMadLoaded && w.emMadLoaded && w.historyFile

lemma dispatchJob_label (hid : HostId) (host : Host) (rank : Int) (queue : String) :
    (dispatchJob hid host rank queue w job).job.label =
      if migrates w job then job.label.again else job.label := by
  unfold dispatchJob historyAdd migrates
  cases st : job.jobState
  case pending =>
    cases w.tmMadLoaded <;> cases w.emMadLoaded <;> cases w.historyFile <;> rfl
  case wrapper =>
    cases active : nowActive job
    · cases w.tmMadLoaded <;> cases w.emMadLoaded <;> cases w.historyFile <;> rfl
    · exact uncheckJob_label (w := w)
  all_goals rfl

end Dm

end GridWay
