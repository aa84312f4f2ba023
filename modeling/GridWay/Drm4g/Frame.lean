import GridWay.Drm4g.EmMad

/-!
# What the work on a job leaves alone

The methods of a job act on the resource and on local files. They write no dictionary and no entry of
the job list, and only a CREAM script changes the list of file names that belongs to the class.

* `Mad.core`: the driver without what it did outside.
* `Job.jobSubmit_keeps`, `Job.jobStatus_keeps`: the methods that keep it.
* `Job.creamTemplate_keeps`: a script of CREAM keeps it but for the list of file names.
-/

namespace GridWay.Drm4g

open Proc

/-- The driver without what it did outside and without the list of file names of the CREAM jobs. -/
structure Mad.Core where
  configure : Configuration
  heap : Heap
  communicators : Dict String Communicator
  job_list : Dict String Job

namespace Mad

def core (s : Mad) : Core := ⟨s.configure, s.heap, s.communicators, s.job_list⟩

/-- The list of file names as well. -/
def memory (s : Mad) : Core × List String := (s.core, s.default_output_files)

end Mad

variable {here : Local} {o : Outside} {job : Job} {α γ : Type} {view : Mad → γ}

/-- A part of the driver that what is done outside does not change. -/
def Inner (view : Mad → γ) : Prop := ∀ (s : Mad) (sent : List Sent), view { s with sent } = view s

lemma perform_keeps {what : Sent} (inner : Inner view) : Keeps view (perform o what) := by
  apply keeps_bind
  · apply keeps_modify
    intro s
    exact inner s _
  · intro _
    apply keeps_bind keeps_get
    intro s
    cases o.reply s.sent with
    | ok answer => exact keeps_pure
    | error err => exact keeps_throw

lemma raising_keeps {x : Except String α} : Keeps view (raising x) := by
  cases x with
  | ok a => exact keeps_pure
  | error err => exact keeps_throw

namespace Job

lemma feature_keeps {key : String} : Keeps view (job.feature key) := by
  apply keeps_bind keeps_get
  intro s
  exact raising_keeps

lemma renewOnce_keeps (inner : Inner view) : Keeps view (renewOnce here o job) := by
  apply keeps_bind feature_keeps
  intro vo
  apply keeps_bind keeps_get
  intro s
  apply keeps_bind (perform_keeps inner)
  intro answer
  exact keeps_pure

lemma renew_voms_proxy_keeps (inner : Inner view) (more : Nat) :
    Keeps view (renew_voms_proxy here o job more) := by
  induction more with
  | zero =>
    apply keeps_bind (renewOnce_keeps inner)
    intro err
    exact keeps_pure
  | succ more ih =>
    apply keeps_bind (renewOnce_keeps inner)
    intro err
    split
    · exact ih
    · exact keeps_pure

lemma execRenewing_keeps {command expired} (inner : Inner view) :
    Keeps view (execRenewing here o job command expired) := by
  apply keeps_bind (perform_keeps inner)
  intro answer
  split
  · apply keeps_bind (renew_voms_proxy_keeps inner 3)
    intro _
    exact perform_keeps inner
  · exact keeps_pure

lemma demand_keeps {holds err} : Keeps view (demand holds err) := by
  unfold demand
  split
  · exact keeps_pure
  · exact keeps_throw

lemma creamSubmit_keeps {wrapper_file} (inner : Inner view) :
    Keeps view (creamSubmit here o job wrapper_file) := by
  apply keeps_bind feature_keeps
  intro vo
  apply keeps_bind feature_keeps
  intro host
  apply keeps_bind (execRenewing_keeps inner)
  intro delegated
  apply keeps_bind demand_keeps
  intro _
  apply keeps_bind feature_keeps
  intro vo
  apply keeps_bind feature_keeps
  intro host
  apply keeps_bind feature_keeps
  intro jm
  apply keeps_bind feature_keeps
  intro queue
  apply keeps_bind (execRenewing_keeps inner)
  intro submitted
  dsimp only
  split
  · exact keeps_throw
  · exact keeps_pure

lemma jobSubmit_keeps {wrapper_file} (inner : Inner view) :
    Keeps view (jobSubmit here o job wrapper_file) := by
  unfold jobSubmit
  split
  · exact creamSubmit_keeps inner
  · apply keeps_bind (perform_keeps inner)
    intro answer
    exact raising_keeps

lemma getOutputFiles_keeps {output_url} (inner : Inner view) (files : List String) :
    Keeps view (getOutputFiles here o job output_url files) := by
  induction files with
  | nil => exact keeps_pure
  | cons file files ih =>
    apply keeps_bind feature_keeps
    intro vo
    dsimp only
    split
    · exact keeps_throw
    · apply keeps_bind (perform_keeps inner)
      intro answer
      apply keeps_bind demand_keeps
      intro _
      exact ih

lemma fetchOutput_keeps {out job_status} (inner : Inner view) :
    Keeps view (fetchOutput here o job out job_status) := by
  unfold fetchOutput
  split
  · split
    · exact keeps_throw
    · apply keeps_bind keeps_get
      intro s
      exact getOutputFiles_keeps inner _
  · exact keeps_pure

lemma creamStatus_keeps (inner : Inner view) : Keeps view (creamStatus here o job) := by
  apply keeps_bind feature_keeps
  intro vo
  apply keeps_bind feature_keeps
  intro host
  apply keeps_bind (perform_keeps inner)
  intro renewed
  dsimp only
  split
  · apply keeps_bind feature_keeps
    intro vo
    apply keeps_bind (execRenewing_keeps inner)
    intro answer
    split
    · exact keeps_pure
    · split
      · exact keeps_pure
      · apply keeps_bind (fetchOutput_keeps inner)
        intro _
        exact keeps_pure
  · exact keeps_pure

lemma jobStatus_keeps (inner : Inner view) : Keeps view (jobStatus here o job) := by
  unfold jobStatus
  split
  · exact creamStatus_keeps inner
  · apply keeps_bind (perform_keeps inner)
    intro answer
    exact raising_keeps

/-- A script of CREAM changes the list of file names, and no script changes anything else. -/
lemma jobTemplate_keeps {rsl : Rsl}
    (apart : ∀ (s : Mad) files, view { s with default_output_files := files } = view s) :
    Keeps view (jobTemplate o job rsl) := by
  unfold jobTemplate
  split
  · apply keeps_bind keeps_get
    intro s
    apply keeps_bind raising_keeps
    intro p
    apply keeps_bind
    · apply keeps_modify
      intro s
      exact apart s _
    · intro _
      apply keeps_bind keeps_get
      intro s
      apply keeps_bind raising_keeps
      intro script
      exact keeps_pure
  · apply keeps_bind raising_keeps
    intro script
    exact keeps_pure

end Job

namespace Mad

lemma get_abs_directory_keeps {directory} (inner : Inner view) :
    Keeps view (get_abs_directory o job directory) := by
  apply keeps_bind (perform_keeps inner)
  intro answer
  dsimp only
  split
  · exact keeps_pure
  · exact keeps_throw

lemma createWrapper_keeps {path script} (inner : Inner view) :
    Keeps view (createWrapper o path script) := by
  apply keeps_bind
  · apply keeps_handle (perform_keeps inner)
    intro err
    exact keeps_throw
  · intro _
    exact keeps_pure

lemma copyWrapper_keeps {path remote} (inner : Inner view) :
    Keeps view (copyWrapper o job path remote) := by
  apply keeps_bind
  · apply keeps_handle (perform_keeps inner)
    intro err
    exact keeps_throw
  · intro _
    exact keeps_pure

end Mad

end GridWay.Drm4g
