import GridWay.Drm4g.Contact
import Mathlib.Data.List.Nodup

/-!
# The state of a job in a listing

`jobStatus` of `drm4g/managers/pbs.py`, `sge.py`, `slurm.py` and `lsf.py`: a command asks the batch
system, and the state is a word of what it prints. The jobs of the batch system and what it prints of
them are described here; the layout of its lines is left open.

* `Status.Prints`: what a batch system prints when it is asked for a job.
* `Status.Attributed`: the state is that of the job.
* `Status.Unmistakable`: what has to be so.
* `Status.attributed_iff`: the one is so exactly when the other is.
-/

namespace GridWay.Drm4g.Status

open Proc GridWay.Drm4g.Job

/-- A job of a batch system, with its line in a listing. -/
structure Row where
  text : String
  id : String
  state : String
deriving DecidableEq, Repr

/-- What the batch system has to say: the jobs that it knows, or an error. -/
inductive Answer where
  | listing (jobs : List Row)
  | failure (err : String)

/-- The lines that `grep` finds. -/
def grep (pattern : String) (lines : List String) : String :=
  String.join ((lines.filter (Py.isIn pattern)).map fun line => line ++ "\n")

/-- The ids of batch systems are numbers. -/
def Number (id : String) : Prop := id ≠ "" ∧ ∀ c ∈ id.toList, c.isDigit = true

/-- The lines of SGE begin with the id, the priority, the name, the user and the state. -/
def Row.Sge (row : Row) : Prop :=
  ∃ prior name user rest,
    Py.words row.text = row.id :: prior :: name :: user :: row.state :: rest

/-- What is printed for a job: the output and the errors of the command. The systems other than SGE are
asked for the job alone. -/
inductive Prints (id : String) : Manager → Answer → String → String → Prop where
  | pbs {jobs : List Row} {row : Row} {front : List String} {queue : String} (header : String)
    (mem : row ∈ jobs) (own : row.id = id) (columns : Py.words row.text = front ++ [row.state, queue]) :
    Prints id .pbs (.listing jobs) (header ++ ("\n" ++ row.text)) ""
  | pbsGone {jobs : List Row} {err : String} (gone : ∀ row ∈ jobs, row.id ≠ id)
    (unknown : Py.isIn "Unknown Job Id" err = true) : Prints id .pbs (.listing jobs) "" err
  | pbsFailure {out err : String} (some_error : err ≠ "")
    (other : Py.isIn "Unknown Job Id" err = false) : Prints id .pbs (.failure err) out err
  | sge {jobs : List Row} {header : List String} (number : Number id)
    (titles : ∀ line ∈ header, ∀ c ∈ line.toList, c.isDigit = false)
    (columns : ∀ row ∈ jobs, row.Sge) :
    Prints id .sge (.listing jobs) (grep id (header ++ jobs.map Row.text)) ""
  | sgeFailure {err : String} (some_error : err ≠ "") : Prints id .sge (.failure err) "" err
  | slurm {jobs : List Row} {row : Row} (mem : row ∈ jobs) (own : row.id = id)
    (word : row.state ≠ "" ∧ '\n' ∉ row.state.toList) :
    Prints id .slurm (.listing jobs) (row.state ++ "\n") ""
  | slurmGone {jobs : List Row} (err : String) (gone : ∀ row ∈ jobs, row.id ≠ id) :
    Prints id .slurm (.listing jobs) "" err
  | slurmFailure {err : String} (some_error : err ≠ "") : Prints id .slurm (.failure err) "" err
  | lsf {jobs : List Row} {row : Row} {header user : String} {rest : List String}
    (titles : (Py.words header).length = 8) (mem : row ∈ jobs) (own : row.id = id)
    (columns : Py.words row.text = row.id :: user :: row.state :: rest) :
    Prints id .lsf (.listing jobs) (header ++ ("\n" ++ row.text)) ""
  | lsfGone {jobs : List Row} {err : String} (gone : ∀ row ∈ jobs, row.id ≠ id) (some_error : err ≠ "") :
    Prints id .lsf (.listing jobs) "" err
  | lsfFailure {err : String} (some_error : err ≠ "") : Prints id .lsf (.failure err) "" err

/-- A batch system gives each job an id of its own. -/
def Answer.Distinct : Answer → Prop
  | .listing jobs => (jobs.map Row.id).Nodup
  | .failure _ => True

/-- What is asked of the state of a job: it is that of the job when the system knows the job, a job that
the system does not know is done, or nothing is known of it, and an error does not end the job. -/
def Attributed (manager : Manager) (id : String) (answer : Answer) (status : Except String String) :
    Prop :=
  match answer with
  | .listing jobs => (∀ row ∈ jobs, row.id = id → status = .ok (stateOf manager row.state)) ∧
    ((∀ row ∈ jobs, row.id ≠ id) → status = .ok "DONE" ∨ status = .ok "UNKNOWN")
  | .failure _ => status ≠ .ok "DONE" ∧ status ≠ .ok "FAILED"

/-- What has to be so: neither SGE nor SLURM fails, and the first line of SGE that has the id in it
somewhere, if any, is as good as that of the job. -/
def Unmistakable (manager : Manager) (id : String) (answer : Answer) : Prop :=
  match manager, answer with
  | .sge, .listing jobs => ∀ first, jobs.find? (fun row => Py.isIn id row.text) = some first →
    (∃ row ∈ jobs, row.id = id ∧ stateOf .sge first.state = stateOf .sge row.state) ∨
      (∀ row ∈ jobs, row.id ≠ id) ∧ stateOf .sge first.state = "UNKNOWN"
  | .sge, .failure _ => False
  | .slurm, .failure _ => False
  | _, _ => True

variable {manager : Manager} {id : String} {answer : Answer} {jobs : List Row} {row : Row} {o : Outside}
variable {out err : String}

/-- No state of SGE is that of a job that is done. -/
lemma sge_running (state : String) : stateOf .sge state ≠ "DONE" := by
  have all : ∀ e ∈ states .sge, e.2 ≠ "DONE" := by decide
  rw [stateOf]
  cases found : (states .sge).get state with
  | none => decide
  | some v => exact all _ (Dict.mem_of_get found)

/-- A title has no number in it. -/
lemma title_other {line : String} (number : Number id)
    (title : ∀ c ∈ line.toList, c.isDigit = false) : Py.isIn id line = false := by
  rw [Bool.eq_false_iff]
  intro inside
  have sub := Py.isIn_iff.1 inside
  cases chars : id.toList with
  | nil => exact number.1 (String.toList_eq_nil_iff.1 chars)
  | cons c cs =>
    have mem : c ∈ id.toList := by
      rw [chars]
      exact List.mem_cons_self
    have digit := number.2 c mem
    rw [title c (sub.subset mem)] at digit
    cases digit

/-- The lines of the listing that the id is found in. -/
lemma grep_jobs {header : List String} (number : Number id)
    (titles : ∀ line ∈ header, ∀ c ∈ line.toList, c.isDigit = false) :
    grep id (header ++ jobs.map Row.text) =
      grep id ((jobs.filter fun row => Py.isIn id row.text).map Row.text) := by
  have none_of : header.filter (Py.isIn id) = [] := by
    rw [List.filter_eq_nil_iff]
    intro line mem
    rw [title_other number (titles line mem)]
    exact Bool.false_ne_true
  rw [grep, grep, List.filter_append, none_of, List.nil_append, List.filter_map, List.filter_map,
    List.filter_filter]
  simp only [Function.comp_apply, Bool.and_self]
  rfl

/-- What is read in the lines that `grep` finds: the state in the first of them. -/
lemma read_sge (number : Number id) {header : List String}
    (titles : ∀ line ∈ header, ∀ c ∈ line.toList, c.isDigit = false)
    (columns : ∀ row ∈ jobs, row.Sge) :
    readStatus o .sge (grep id (header ++ jobs.map Row.text)) "" =
      match jobs.find? (fun row => Py.isIn id row.text) with
      | some first => .ok (stateOf .sge first.state)
      | none => .ok "DONE" := by
  rw [grep_jobs number titles, ← List.head?_filter]
  cases lines : jobs.filter fun row => Py.isIn id row.text with
  | nil => rfl
  | cons first rest =>
    have mem : first ∈ jobs.filter fun row => Py.isIn id row.text := by
      rw [lines]
      exact List.mem_cons_self
    obtain ⟨known, inside⟩ := List.mem_filter.1 mem
    obtain ⟨prior, name, user, more, words⟩ := columns first known
    have out : grep id ((first :: rest).map Row.text) =
        first.text ++ ("\n" ++ grep id (rest.map Row.text)) := by
      rw [grep, grep, List.map_cons, List.filter_cons_of_pos inside, List.map_cons, String.join_cons,
        String.append_assoc]
    have some_out : first.text ++ ("\n" ++ grep id (rest.map Row.text)) ≠ "" := by
      intro empty
      have chars := congrArg String.toList empty
      rw [String.toList_append, String.toList_append] at chars
      exact absurd chars (by simp)
    rw [out]
    show (if _ = "" then _ else _) = _
    rw [if_neg some_out, Py.words_newline, words]
    rfl

/-- A line of a job has its id in it. -/
lemma own_line (columns : row.Sge) : Py.isIn row.id row.text = true := by
  obtain ⟨prior, name, user, rest, words⟩ := columns
  apply Py.isIn_of_word
  rw [words]
  exact List.mem_cons_self

/-- A system that answers about the job alone, and knows it. -/
lemma attributed_own (distinct : (jobs.map Row.id).Nodup) (mem : row ∈ jobs) (own : row.id = id)
    {status : Except String String} (read : status = .ok (stateOf manager row.state)) :
    Attributed manager id (.listing jobs) status := by
  refine ⟨fun other mem' same => ?_, fun gone => absurd own (gone row mem)⟩
  rw [List.inj_on_of_nodup_map distinct mem' mem (same.trans own.symm)]
  exact read

/-- A system that does not know the job. -/
lemma attributed_gone (gone : ∀ row ∈ jobs, row.id ≠ id) {status : Except String String} :
    Attributed manager id (.listing jobs) status ↔ status = .ok "DONE" ∨ status = .ok "UNKNOWN" :=
  ⟨fun h => h.2 gone, fun ended => ⟨fun row mem own => absurd own (gone row mem), fun _ => ended⟩⟩

/-- SGE: the first line that the id is found in decides. -/
lemma attributed_sge (distinct : (jobs.map Row.id).Nodup) (number : Number id) {header : List String}
    (titles : ∀ line ∈ header, ∀ c ∈ line.toList, c.isDigit = false)
    (columns : ∀ row ∈ jobs, row.Sge) :
    Attributed .sge id (.listing jobs)
        (readStatus o .sge (grep id (header ++ jobs.map Row.text)) "") ↔
      Unmistakable .sge id (.listing jobs) := by
  rw [read_sge number titles columns, Unmistakable]
  cases found : jobs.find? fun row => Py.isIn id row.text with
  | none =>
    constructor
    · intro _ first eq
      cases eq
    · intro _
      apply (attributed_gone ?_).2 (.inl rfl)
      rintro row mem rfl
      exact absurd (own_line (columns row mem)) (List.find?_eq_none.1 found row mem)
  | some first =>
    constructor
    · intro ⟨present, gone⟩ other eq
      cases eq
      by_cases known : ∃ row ∈ jobs, row.id = id
      · obtain ⟨row, mem, own⟩ := known
        exact .inl ⟨row, mem, own, Except.ok.inj (present row mem own)⟩
      · have away : ∀ row ∈ jobs, row.id ≠ id := fun row mem own => known ⟨row, mem, own⟩
        obtain done | unknown := gone away
        · exact absurd (Except.ok.inj done) (sge_running first.state)
        · exact .inr ⟨away, Except.ok.inj unknown⟩
    · intro same
      obtain ⟨row, mem, own, eq⟩ | ⟨away, unknown⟩ := same first rfl
      · apply attributed_own distinct mem own
        dsimp only
        rw [eq]
      · apply (attributed_gone away).2
        exact .inr (congrArg Except.ok unknown)

/-- A line without its newline. -/
lemma rstrip_line {line : String} (whole : '\n' ∉ line.toList) :
    Py.rstrip (· == '\n') (line ++ "\n") = line := by
  rw [Py.rstrip, String.toList_append]
  show String.ofList ((line.toList ++ ['\n']).reverse.dropWhile _).reverse = line
  rw [List.reverse_append]
  show String.ofList (('\n' :: line.toList.reverse).dropWhile _).reverse = line
  rw [List.dropWhile_cons_of_pos rfl]
  cases chars : line.toList.reverse with
  | nil =>
    have empty : line.toList = [] := List.reverse_eq_nil_iff.1 chars
    apply String.toList_injective
    rw [empty]
    rfl
  | cons c cs =>
    have mem : c ∈ line.toList := by
      rw [← List.mem_reverse, chars]
      exact List.mem_cons_self
    have other : ¬(c == '\n') = true := by
      rw [beq_iff_eq]
      rintro rfl
      exact whole mem
    rw [List.dropWhile_cons, if_neg other, ← chars, List.reverse_reverse, String.ofList_toList]

/-- The state that is read is that of the job exactly when no other job can be mistaken for it. -/
lemma read_iff (prints : Prints id manager answer out err) (distinct : answer.Distinct) :
    Attributed manager id answer (readStatus o manager out err) ↔ Unmistakable manager id answer := by
  cases prints with
  | pbs header mem own columns =>
    refine iff_of_true (attributed_own distinct mem own ?_) trivial
    show (field (Py.words _).reverse 1).map _ = _
    rw [Py.words_newline, columns, List.reverse_append, List.reverse_append]
    rfl
  | pbsGone gone unknown =>
    refine iff_of_true ((attributed_gone gone).2 (.inl ?_)) trivial
    rw [readStatus, if_pos unknown]
  | pbsFailure some_error other =>
    have read : readStatus o .pbs out err = .ok "UNKNOWN" := by
      rw [readStatus, if_neg (Bool.eq_false_iff.1 other), if_pos some_error]
    rw [read]
    exact iff_of_true ⟨by decide, by decide⟩ trivial
  | sge number titles columns => exact attributed_sge distinct number titles columns
  | sgeFailure some_error => exact iff_of_false (fun h => h.1 rfl) fun h => h
  | @slurm jobs row mem own word =>
    refine iff_of_true (attributed_own distinct mem own ?_) trivial
    have some_out : ¬("" ≠ "" ∨ row.state ++ "\n" = "") := by
      intro h
      obtain no | empty := h
      · exact no rfl
      · exact word.1 (String.append_eq_empty_iff.1 empty).1
    rw [readStatus, if_neg some_out, rstrip_line word.2]
  | slurmGone err gone =>
    refine iff_of_true ((attributed_gone gone).2 (.inl ?_)) trivial
    rw [readStatus, if_pos (.inr rfl)]
  | slurmFailure some_error =>
    refine iff_of_false (fun h => h.1 ?_) fun h => h
    rw [readStatus, if_pos (.inl some_error)]
  | lsf titles mem own columns =>
    refine iff_of_true (attributed_own distinct mem own ?_) trivial
    show (field (Py.words _) 10).map _ = _
    rw [Py.words_newline, columns, field, List.getElem?_append_right (by rw [titles]; decide), titles]
    rfl
  | lsfGone gone some_error =>
    refine iff_of_true ((attributed_gone gone).2 (.inr ?_)) trivial
    rw [readStatus, if_pos some_error]
  | lsfFailure some_error =>
    have read : readStatus o .lsf "" err = .ok "UNKNOWN" := by rw [readStatus, if_pos some_error]
    rw [read]
    exact iff_of_true ⟨by decide, by decide⟩ trivial

/-- The state of a job is that of the job in the batch system exactly when no other job can be mistaken
for it. -/
theorem attributed_iff (here : Local) (job : Job) {o : Outside} {s : Mad}
    (prints : Prints job.jobId job.manager answer out err) (distinct : answer.Distinct)
    (answered : o.reply (s.sent ++ [.exec job.communicator (statusCommand job.manager job.jobId)]) =
      .ok (out, err)) :
    Attributed job.manager job.jobId answer (job.jobStatus here o s).1 ↔
      Unmistakable job.manager job.jobId answer := by
  have batch : job.manager ≠ .cream := by
    intro cream
    rw [cream] at prints
    cases prints
  have sent : job.execCommand o (statusCommand job.manager job.jobId) s = (.ok (out, err),
      { s with sent := s.sent ++ [.exec job.communicator (statusCommand job.manager job.jobId)] }) := by
    rw [Job.execCommand, perform, bind_of_ok run_modify, bind_of_ok run_get]
    dsimp only
    rw [answered]
    rfl
  have read : (job.jobStatus here o s).1 = readStatus o job.manager out err := by
    rw [Job.jobStatus, if_neg batch, bind_of_ok sent]
    show (raising (readStatus o job.manager out err) _).1 = _
    cases readStatus o job.manager out err with
    | ok status => rfl
    | error err => rfl
  rw [read]
  exact read_iff prints distinct

/-- A job that waits. -/
def waiting : Row where
  text := "     12 0.55500 sim        ana          qw    03/01/2024 10:02:11                    1"
  id := "12"
  state := "qw"

/-- A job that runs, whose id begins with that of the other. -/
def running : Row where
  text := "    123 0.55500 sim        ana          r     03/01/2024 10:01:09 all.q@node1        1"
  id := "123"
  state := "r"

/-- The titles of a listing of SGE. -/
def titles : List String :=
  ["job-ID  prior   name       user         state submit/start at     queue        slots ja-task-ID",
    "------------------------------------------------------------------------------------------"]

/-- A world that answers each command in the same way. -/
def printing (out err : String) : Outside :=
  { Mad.answering [] with reply := fun _ => .ok (out, err) }

/-- The job `12`. -/
def job12 (manager : Manager) : Job :=
  { Mad.meteoJob with manager := manager, jobId := "12" }

/-- A listing that has the job `12` in it or not. -/
lemma prints_sge {jobs : List Row} (few : ∀ row ∈ jobs, row = waiting ∨ row = running) :
    Prints "12" .sge (.listing jobs) (grep "12" (titles ++ jobs.map Row.text)) "" := by
  have wordy : ∀ line ∈ titles, ∀ c ∈ line.toList, c.isDigit = false := by simp [titles]
  apply Prints.sge ⟨by simp, by simp⟩ wordy
  intro row mem
  obtain rfl | rfl := few row mem
  · exact ⟨"0.55500", "sim", "ana", ["03/01/2024", "10:02:11", "1"], by decide⟩
  · exact ⟨"0.55500", "sim", "ana", ["03/01/2024", "10:01:09", "all.q@node1", "1"], by decide⟩

theorem attributed_waiting :
    Attributed .sge "12" (.listing [waiting, running])
      ((job12 .sge).jobStatus Mad.anywhere
        (printing (grep "12" (titles ++ [waiting, running].map Row.text)) "")
        (Mad.start Mad.twoSections)).1 := by
  have distinct : Answer.Distinct (.listing [waiting, running]) := by
    show ["12", "123"].Nodup
    decide
  refine (attributed_iff Mad.anywhere (job12 .sge) (prints_sge ?_) distinct rfl).2 ?_
  · intro row mem
    simpa using mem
  · intro first found
    have eq : first = waiting := by
      have own : [waiting, running].find? (fun row => Py.isIn "12" row.text) = some waiting := by
        decide
      exact Option.some.inj (found.symm.trans own)
    subst eq
    exact .inl ⟨waiting, List.mem_cons_self, rfl, rfl⟩

/-- The job `12` has ended and `123` runs: the line of `123` is found, and its state is taken for that of
`12`. When `squeue` cannot ask the controller the job is taken for done. -/
theorem not_attributed :
    (Prints "12" .sge (.listing [running]) (grep "12" (titles ++ [running].map Row.text)) "" ∧
      ¬Attributed .sge "12" (.listing [running])
        ((job12 .sge).jobStatus Mad.anywhere
          (printing (grep "12" (titles ++ [running].map Row.text)) "")
          (Mad.start Mad.twoSections)).1) ∧
    Prints "12" .slurm (.failure "slurm_load_jobs error: Unable to contact slurm controller") ""
        "slurm_load_jobs error: Unable to contact slurm controller" ∧
      ¬Attributed .slurm "12"
        (.failure "slurm_load_jobs error: Unable to contact slurm controller")
        ((job12 .slurm).jobStatus Mad.anywhere
          (printing "" "slurm_load_jobs error: Unable to contact slurm controller")
          (Mad.start Mad.twoSections)).1 := by
  refine ⟨⟨prints_sge fun row mem => .inr (List.mem_singleton.1 mem), ?_⟩,
    .slurmFailure (by decide), ?_⟩
  · have read : ((job12 .sge).jobStatus Mad.anywhere
        (printing (grep "12" (titles ++ [running].map Row.text)) "") (Mad.start Mad.twoSections)).1 =
          .ok "ACTIVE" := by decide
    rw [read]
    intro h
    obtain done | unknown := h.2 (by decide)
    · exact absurd (Except.ok.inj done) (by decide)
    · exact absurd (Except.ok.inj unknown) (by decide)
  · intro h
    apply h.1
    decide

end GridWay.Drm4g.Status
