import GridWay.Drm4g.Callback

/-!
# One terminal report per submission

A submission is in the list from the moment it is stored until the callback thread takes it out and
reports it next. What the threads hold of a job id belongs to its latest submission as long as the id
is used again only when nothing is on its way for it.

* `Threads.Inv`: what holds in every state of an orderly run.
* `Threads.one_report_iff`: what is said and done about ends in an orderly run concerns the right
  submission, and each submission is listed until it was reported, unless the callback thread is
  between a deletion and its report.
* `Threads.second_job_deleted`: a run in which the second job with an id is deleted for the first one.
-/

namespace GridWay.Drm4g

/-- The latest submission of an id, which was stored and whose end was not reported. -/
structure Current (a : Threads.Log) (jid : String) (n : Nat) : Prop where
  latest : a.latest.get jid = some n
  stored : (jid, n) ∈ a.stored
  unreported : n ∉ Threads.reported a

/-- A submission that is not yet stored. -/
structure Young (d : Dict String Nat) (next : Nat) (a : Threads.Log) (jid : String) (n : Nat) :
    Prop where
  latest : a.latest.get jid = some n
  unlisted : d.get jid = none
  below : n < next
  fresh : ∀ e ∈ a.stored, e.2 ≠ n

/-- What the main thread holds. -/
def Reader.Sound (d : Dict String Nat) (next : Nat) (a : Threads.Log) : Reader → Prop
  | .submitting jid n | .recovering jid n => Young d next a jid n
  | .answering l => l.ends = false
  | _ => True

/-- What a task of the pool holds. -/
def Task.Sound (a : Threads.Log) : Task → Prop
  | .pollRead jid n => a.latest.get jid = some n
  | .answering l => l.op ≠ .callback ∧ (l.ends = true → a.latest.get l.jid = l.sub)
  | _ => True

/-- The jobs of the list that the callback thread has still to do. -/
def Caller.held : Caller → Dict String Nat
  | .asleep => []
  | .next todo | .report _ _ _ todo | .fail _ _ todo => todo
  | .refresh jid n _ todo | .compare jid n _ todo | .retire jid n _ todo => (jid, n) :: todo

/-- The callback thread takes out jobs that have ended. -/
def Caller.Retiring : Caller → Prop
  | .retire _ _ new _ => Mad.terminal new = true
  | _ => True

namespace Threads

variable {s : Threads} {a : Log} {jid : String} {n : Nat} {l : Line}

/-- What holds in every state of an orderly run. -/
structure Inv (s : Threads) (a : Log) : Prop extends Owned a where
  keys : s.job_list.keys.Nodup
  listed : ∀ jid n, s.job_list.get jid = some n → Current a jid n
  stays : ∀ e ∈ a.stored,
    s.job_list.get e.1 = some e.2 ∨ e.2 ∈ reported a ∨ s.window = some e
  used : ∀ e ∈ a.stored, e.2 < s.next
  unique : ∀ e ∈ a.stored, ∀ f ∈ a.stored, e.2 = f.2 → e = f
  genuine : ∀ n ∈ reported a, ∃ e ∈ a.stored, e.2 = n
  main : s.main.Sound s.job_list s.next a
  tasks : ∀ t ∈ s.tasks, t.Sound a
  held : ∀ e ∈ s.caller.held, s.job_list.get e.1 = some e.2
  distinct : s.caller.held.keys.Nodup
  retiring : s.caller.Retiring
  window : ∀ e, s.window = some e → Current a e.1 e.2 ∧ s.job_list.get e.1 = none

/-- What the main thread holds depends on the submissions only. -/
lemma main_sound {d : Dict String Nat} {next : Nat} {b : Log} {m : Reader}
    (sound : m.Sound d next a) (latest : b.latest = a.latest) (stored : b.stored = a.stored) :
    m.Sound d next b := by
  cases m with
  | submitting jid n | recovering jid n =>
    obtain ⟨last, unlisted, below, fresh⟩ := sound
    exact ⟨latest ▸ last, unlisted, below, stored ▸ fresh⟩
  | idle | recovered _ _ => trivial
  | answering l => exact sound

/-- The observer notes a message. -/
def Log.wrote (a : Log) (l : Line) : Log :=
  { a with lines := a.lines ++ [(l, a.latest.get l.jid)] }

/-- A message that is not about the end of a submission reports none. -/
lemma reported_wrote_quiet (quiet : l.op ≠ .callback ∨ l.ends = false) :
    reported (a.wrote l) = reported a := by
  have skipped : ¬(l.op = .callback ∧ l.ends = true) := by
    intro ⟨callback, ends⟩
    obtain other | goesOn := quiet
    · exact other callback
    · rw [goesOn] at ends
      cases ends
  rw [reported, Log.wrote, List.filterMap_append, ← reported]
  simp only [List.filterMap_cons, if_neg skipped, List.filterMap_nil, List.append_nil]

/-- The callback thread reports the end of a submission. -/
lemma reported_wrote_end (callback : l.op = .callback) (ends : l.ends = true)
    (sub : l.sub = some n) : reported (a.wrote l) = reported a ++ [n] := by
  rw [reported, Log.wrote, List.filterMap_append, ← reported]
  simp only [List.filterMap_cons, callback, ends, sub, and_self, if_true, List.filterMap_nil]

/-- A message about the end of a submission that is the latest one of its id. -/
lemma Owned.wrote (owned : Owned a) (own : l.ends = true → a.latest.get l.jid = l.sub)
    (once : (reported (a.wrote l)).Nodup) : Owned (a.wrote l) where
  own_status p mem ends := by
    obtain old | new := List.mem_append.1 mem
    · exact owned.own_status p old ends
    · rw [List.mem_singleton] at new
      subst new
      exact own ends
  own_deletion := owned.own_deletion
  once := once

namespace Inv

lemma init : Inv {} {} where
  own_status := by simp
  own_deletion := by simp
  once := List.nodup_nil
  keys := List.nodup_nil
  listed := by simp
  stays := by simp
  used := by simp
  unique := by simp
  genuine := by simp [reported]
  main := trivial
  tasks := by simp
  held := by simp [Caller.held]
  distinct := List.nodup_nil
  retiring := trivial
  window := by simp [Threads.window]

/-- The main thread goes on. -/
lemma main_to {m : Reader} (inv : Inv s a) (sound : m.Sound s.job_list s.next a) :
    Inv { s with main := m } a :=
  { inv with main := sound }

/-- The tasks of the pool go on. -/
lemma tasks_to {ts : List Task} (inv : Inv s a) (sound : ∀ t ∈ ts, t.Sound a) :
    Inv { s with tasks := ts } a :=
  { inv with tasks := sound }

/-- The states of the jobs are of no account. -/
lemma status_to (status : Dict Nat String) (inv : Inv s a) : Inv { s with status } a :=
  { inv with }

/-- The callback thread goes on with some of the jobs that it has still to do. -/
lemma caller_to {c : Caller} (inv : Inv s a) (held : ∀ e ∈ c.held, s.job_list.get e.1 = some e.2)
    (distinct : c.held.keys.Nodup) (retiring : c.Retiring) (before : s.window = none)
    (after : ({ s with caller := c } : Threads).window = none) :
    Inv { s with caller := c } a where
  toOwned := inv.toOwned
  keys := inv.keys
  listed := inv.listed
  stays e stored := by
    rw [after]
    rw [← before]
    exact inv.stays e stored
  used := inv.used
  unique := inv.unique
  genuine := inv.genuine
  main := inv.main
  tasks := inv.tasks
  held := held
  distinct := distinct
  retiring := retiring
  window e eq := by
    rw [after] at eq
    cases eq

/-- A message that is no report of an end by the callback thread. -/
lemma wrote (inv : Inv s a) (quiet : l.op ≠ .callback ∨ l.ends = false)
    (own : l.ends = true → a.latest.get l.jid = l.sub) : Inv (s.write l) (a.wrote l) := by
  have same := reported_wrote_quiet (a := a) quiet
  have current {jid n} (now : Current a jid n) : Current (a.wrote l) jid n :=
    { now with unreported := same ▸ now.unreported }
  exact {
    toOwned := inv.toOwned.wrote own (same ▸ inv.once)
    keys := inv.keys
    listed := fun jid n found => current (inv.listed jid n found)
    stays := by rw [same]; exact inv.stays
    used := inv.used
    unique := inv.unique
    genuine := by rw [same]; exact inv.genuine
    main := main_sound inv.main rfl rfl
    tasks := inv.tasks
    held := inv.held
    distinct := inv.distinct
    retiring := inv.retiring
    window := fun e eq => ⟨current (inv.window e eq).1, (inv.window e eq).2⟩ }

/-- The callback thread reports the end of the job that it has taken out of the list. -/
lemma reportEnd {new : Option String} {todo : Dict String Nat} (inv : Inv s a)
    (at_report : s.caller = .report jid n new todo) (ends : Mad.terminal new = true)
    (l : Line) (line : l = { op := .callback, jid, ok := true, status := new, sub := some n }) :
    Inv { s.write l with caller := .next todo } (a.wrote l) := by
  have open_window : s.window = some (jid, n) := by
    rw [Threads.window, at_report]
    exact if_pos ends
  obtain ⟨now, gone⟩ := inv.window _ open_window
  have more : reported (a.wrote l) = reported a ++ [n] := by
    apply reported_wrote_end
    · rw [line]
    · rw [line]
      exact ends
    · rw [line]
  have other {jid' m} (old : Current a jid' m) (found : s.job_list.get jid' = some m) :
      Current (a.wrote l) jid' m := by
    refine { old with unreported := ?_ }
    rw [more, List.mem_append, List.mem_singleton]
    rintro (before | rfl)
    · exact old.unreported before
    · have same := inv.unique _ old.stored _ now.stored rfl
      have same_id : jid' = jid := congrArg Prod.fst same
      rw [same_id, gone] at found
      cases found
  exact {
    toOwned := by
      apply inv.toOwned.wrote
      · intro _
        rw [line]
        exact now.latest
      · rw [more]
        refine List.nodup_append.2 ⟨inv.once, List.pairwise_singleton _ n, ?_⟩
        intro m old m' new same
        rw [List.mem_singleton] at new
        rw [same, new] at old
        exact now.unreported old
    keys := inv.keys
    listed := fun jid' m found => other (inv.listed jid' m found) found
    stays := by
      intro e stored
      rw [more]
      obtain found | old | last := inv.stays e stored
      · exact .inl found
      · exact .inr (.inl (List.mem_append_left _ old))
      · rw [open_window] at last
        refine .inr (.inl (List.mem_append_right _ ?_))
        rw [← Option.some.inj last]
        exact List.mem_singleton_self n
    used := inv.used
    unique := inv.unique
    genuine := by
      intro m mem
      rw [more] at mem
      obtain old | new := List.mem_append.1 mem
      · exact inv.genuine m old
      · exact ⟨_, now.stored, (List.mem_singleton.1 new).symm⟩
    main := main_sound inv.main rfl rfl
    tasks := inv.tasks
    held := by
      have held := inv.held
      rw [at_report] at held
      exact held
    distinct := by
      have distinct := inv.distinct
      rw [at_report] at distinct
      exact distinct
    retiring := trivial
    window := by
      intro e eq
      cases eq }

/-- The callback thread takes a job that has ended out of the list. -/
lemma retire {new : Option String} {todo : Dict String Nat} (inv : Inv s a)
    (at_retire : s.caller = .retire jid n new todo) :
    Inv { s with job_list := s.job_list.erase jid, caller := .report jid n new todo }
      { a with deleted := a.deleted ++ [(n, s.job_list.get jid)] } := by
  have held := inv.held
  have distinct := inv.distinct
  have ends := inv.retiring
  rw [at_retire] at held distinct ends
  have found : s.job_list.get jid = some n := held (jid, n) List.mem_cons_self
  obtain ⟨apart, rest⟩ := List.nodup_cons.1 distinct
  have closed : s.window = none := by rw [Threads.window, at_retire]
  have opened : ({ s with job_list := s.job_list.erase jid, caller := .report jid n new todo } :
      Threads).window = some (jid, n) := if_pos ends
  have kept {jid' m} (old : s.job_list.get jid' = some m) (ne : jid ≠ jid') :
      (s.job_list.erase jid).get jid' = some m := by
    rw [Dict.get_erase, if_neg ne, old]
  have left {jid' m} (still : (s.job_list.erase jid).get jid' = some m) :
      s.job_list.get jid' = some m := by
    rw [Dict.get_erase] at still
    by_cases same : jid = jid'
    · rw [if_pos same] at still
      cases still
    · rwa [if_neg same] at still
  exact {
    own_status := inv.own_status
    own_deletion := by
      intro d mem m eq
      obtain old | new := List.mem_append.1 mem
      · exact inv.own_deletion d old m eq
      · rw [List.mem_singleton] at new
        subst new
        rw [found] at eq
        exact (Option.some.inj eq).symm
    once := inv.once
    keys := Dict.nodup_erase inv.keys
    listed := fun jid' m still => { inv.listed jid' m (left still) with }
    stays := by
      intro e stored
      rw [opened]
      obtain here | old | last := inv.stays e stored
      · by_cases same : jid = e.1
        · rw [← same, found] at here
          exact .inr (.inr (congrArg some (Prod.ext same (Option.some.inj here))))
        · exact .inl (kept here same)
      · exact .inr (.inl old)
      · rw [closed] at last
        cases last
    used := inv.used
    unique := inv.unique
    genuine := inv.genuine
    main := by
      have main := inv.main
      cases at_main : s.main with
      | submitting jid' m | recovering jid' m =>
        rw [at_main] at main
        obtain ⟨last, unlisted, below, fresh⟩ := main
        refine ⟨last, ?_, below, fresh⟩
        rw [Dict.get_erase, unlisted, ite_self]
      | idle | recovered _ _ => trivial
      | answering l =>
        rw [at_main] at main
        exact main
    tasks := inv.tasks
    held := by
      intro e mem
      apply kept (held e (List.mem_cons_of_mem _ mem))
      rintro rfl
      exact apart (List.mem_map.2 ⟨e, mem, rfl⟩)
    distinct := rest
    retiring := trivial
    window := by
      intro e eq
      rw [opened] at eq
      cases eq
      refine ⟨{ inv.listed jid n found with }, ?_⟩
      rw [Dict.get_erase, if_pos rfl] }

/-- A submission is stored. -/
lemma store (inv : Inv s a) (young : Young s.job_list s.next a jid n) {m : Reader}
    (sound : ∀ d next b, m.Sound d next b) :
    Inv { s with job_list := s.job_list.set jid n, main := m }
      { a with stored := a.stored ++ [(jid, n)] } := by
  have unreported : n ∉ reported a := by
    intro mem
    obtain ⟨e, stored, same⟩ := inv.genuine n mem
    exact young.fresh e stored same
  have current {jid' k} (old : Current a jid' k) :
      Current { a with stored := a.stored ++ [(jid, n)] } jid' k :=
    { old with stored := List.mem_append_left _ old.stored }
  have other {jid' k} (found : s.job_list.get jid' = some k) : jid ≠ jid' := by
    rintro rfl
    rw [young.unlisted] at found
    cases found
  exact {
    own_status := inv.own_status
    own_deletion := inv.own_deletion
    once := inv.once
    keys := Dict.nodup_set inv.keys
    listed := by
      intro jid' k found
      rw [Dict.get_set] at found
      by_cases same : jid = jid'
      · rw [if_pos same] at found
        cases found
        subst same
        exact ⟨young.latest, List.mem_append_right _ (List.mem_singleton_self _), unreported⟩
      · rw [if_neg same] at found
        exact current (inv.listed jid' k found)
    stays := by
      intro e mem
      obtain old | new := List.mem_append.1 mem
      · obtain found | rest := inv.stays e old
        · exact .inl ((Dict.get_set_ne (other found)).trans found)
        · exact .inr rest
      · rw [List.mem_singleton] at new
        subst new
        exact .inl Dict.get_set_self
    used := by
      intro e mem
      obtain old | new := List.mem_append.1 mem
      · exact inv.used e old
      · rw [List.mem_singleton] at new
        subst new
        exact young.below
    unique := by
      intro e mem f mem' same
      obtain old | new := List.mem_append.1 mem
      · obtain old' | new' := List.mem_append.1 mem'
        · exact inv.unique e old f old' same
        · rw [List.mem_singleton] at new'
          subst new'
          exact absurd same (young.fresh e old)
      · rw [List.mem_singleton] at new
        subst new
        obtain old' | new' := List.mem_append.1 mem'
        · exact absurd same.symm (young.fresh f old')
        · exact (List.mem_singleton.1 new').symm
    genuine := by
      intro k mem
      obtain ⟨e, stored, same⟩ := inv.genuine k mem
      exact ⟨e, List.mem_append_left _ stored, same⟩
    main := sound ..
    tasks := inv.tasks
    held := fun e mem => (Dict.get_set_ne (other (inv.held e mem))).trans (inv.held e mem)
    distinct := inv.distinct
    retiring := inv.retiring
    window := by
      intro e eq
      obtain ⟨now, gone⟩ := inv.window e eq
      refine ⟨current now, ?_⟩
      -- a job that was taken out was stored, so it is not the one that is stored now
      have ne : jid ≠ e.1 := by
        intro same
        have latest := young.latest
        rw [same, now.latest] at latest
        exact young.fresh e now.stored (Option.some.inj latest)
      rw [Dict.get_set_ne ne, gone] }

/-- A submission begins with an id for which nothing is on its way. -/
lemma begin (inv : Inv s a) (settled : s.settled jid = true) {m : Reader}
    (sound : Young s.job_list (s.next + 1) { a with latest := a.latest.set jid s.next } jid s.next →
      m.Sound s.job_list (s.next + 1) { a with latest := a.latest.set jid s.next }) :
    Inv { s with main := m, next := s.next + 1 }
      { a with latest := a.latest.set jid s.next } := by
  rw [Threads.settled, Bool.and_eq_true, Bool.and_eq_true] at settled
  obtain ⟨⟨unlisted, no_window⟩, no_task⟩ := settled
  have unlisted : s.job_list.get jid = none := by simpa [Dict.has] using unlisted
  have current {jid' k} (old : Current a jid' k) (ne : jid ≠ jid') :
      Current { a with latest := a.latest.set jid s.next } jid' k :=
    { old with latest := (Dict.get_set_ne ne).trans old.latest }
  have listed {jid' k} (found : s.job_list.get jid' = some k) : jid ≠ jid' := by
    rintro rfl
    rw [unlisted] at found
    cases found
  exact {
    own_status := inv.own_status
    own_deletion := inv.own_deletion
    once := inv.once
    keys := inv.keys
    listed := fun jid' k found => current (inv.listed jid' k found) (listed found)
    stays := inv.stays
    used := fun e mem => Nat.lt_succ_of_lt (inv.used e mem)
    unique := inv.unique
    genuine := inv.genuine
    main := by
      apply sound
      refine ⟨Dict.get_set_self, unlisted, Nat.lt_succ_self _, ?_⟩
      intro e mem
      exact Nat.ne_of_lt (inv.used e mem)
    tasks := by
      intro t mem
      have sound := inv.tasks t mem
      have apart := List.all_eq_true.1 no_task t mem
      cases t with
      | pollRead jid' k =>
        have ne : jid ≠ jid' := by
          rintro rfl
          simp [Task.mayEnd] at apart
        exact (Dict.get_set_ne ne).trans sound
      | answering l =>
        refine ⟨sound.1, fun ends => ?_⟩
        have ne : jid ≠ l.jid := by
          rintro rfl
          simp [Task.mayEnd, ends] at apart
        exact (Dict.get_set_ne ne).trans (sound.2 ends)
      | poll _ | pollGet _ | cancel _ | cancelGet _ | cancelling _ _ => trivial
    held := inv.held
    distinct := inv.distinct
    retiring := inv.retiring
    window := by
      intro e eq
      obtain ⟨now, gone⟩ := inv.window e eq
      have open_window : s.window = some e := eq
      rw [open_window, Option.all_some, decide_eq_true_eq] at no_window
      exact ⟨current now (Ne.symm no_window), gone⟩ }

/-- A step that the observer does not note. -/
lemma note_silent {e : Event} (begins : s.begins e = none) (stores : s.stores e = none)
    (written : s.written e = none) (deletes : s.deletes e = none) : note s a e = a := by
  rw [note, begins, stores, written, deletes]
  simp

/-- A step that only writes a message. -/
lemma note_written {e : Event} (begins : s.begins e = none) (stores : s.stores e = none)
    (written : s.written e = some l) (deletes : s.deletes e = none) : note s a e = a.wrote l := by
  rw [note, begins, stores, written, deletes]
  simp [Log.wrote]

/-- The main thread keeps the invariant. -/
lemma mainStep (inv : Inv s a) (outcome : Option String) :
    Inv (s.mainStep outcome) (note s a (.main outcome)) := by
  have main := inv.main
  cases at_main : s.main with
  | idle =>
    have silent : note s a (.main outcome) = a := by
      apply note_silent rfl _ _ rfl
      · cases outcome with
        | none => rfl
        | some _ => simp only [stores, at_main]
      · simp only [written, at_main]
    rw [silent, Threads.mainStep, at_main]
    exact inv
  | submitting jid n =>
    rw [at_main] at main
    rw [Threads.mainStep, at_main]
    cases outcome with
    | none =>
      rw [note_silent rfl rfl (by simp only [written, at_main]) rfl]
      exact inv.main_to rfl
    | some remote =>
      have stored : note s a (.main (some remote)) =
          { a with stored := a.stored ++ [(jid, n)] } := by
        simp [note, begins, stores, written, deletes, at_main]
      rw [stored]
      exact inv.store main fun _ _ _ => rfl
  | recovering jid n =>
    rw [at_main] at main
    rw [Threads.mainStep, at_main]
    cases outcome with
    | none =>
      rw [note_silent rfl rfl (by simp only [written, at_main]) rfl]
      exact inv.main_to rfl
    | some status =>
      have stored : note s a (.main (some status)) =
          { a with stored := a.stored ++ [(jid, n)] } := by
        simp [note, begins, stores, written, deletes, at_main]
      rw [stored]
      have stored_status := inv.status_to (s.status.set n status)
      exact stored_status.store (m := .recovered jid n) main fun _ _ _ => trivial
  | recovered jid n =>
    rw [note_silent rfl (by cases outcome <;> simp only [stores, at_main])
      (by simp only [written, at_main]) rfl, Threads.mainStep, at_main]
    exact inv.main_to rfl
  | answering l =>
    rw [at_main] at main
    rw [note_written rfl (by cases outcome <;> simp only [stores, at_main])
      (by simp only [written, at_main]; rfl) rfl, Threads.mainStep, at_main]
    refine (inv.wrote (.inr main) fun ends => ?_).main_to trivial
    have goesOn : l.ends = false := main
    rw [goesOn] at ends
    cases ends

/-- A task of the pool keeps the invariant. -/
lemma taskStep (inv : Inv s a) {k : Nat} {t : Task} (ok : Bool) (at_task : s.tasks[k]? = some t) :
    Inv (s.taskStep k t ok) (note s a (.task k ok)) := by
  have own := inv.tasks t (List.mem_of_getElem? at_task)
  have next (t' : Task) (sound : t'.Sound a) : Inv { s with tasks := s.tasks.set k t' } a := by
    apply inv.tasks_to
    intro u mem
    obtain old | rfl := List.mem_or_eq_of_mem_set mem
    · exact inv.tasks u old
    · exact sound
  have silent (quiet : ∀ l, t ≠ .answering l) : note s a (.task k ok) = a := by
    apply note_silent rfl rfl _ rfl
    simp only [written, at_task]
    cases t with
    | answering l => exact absurd rfl (quiet l)
    | _ => rfl
  cases t with
  | poll jid =>
    rw [silent nofun, Threads.taskStep]
    by_cases here : s.job_list.has jid
    · rw [if_pos here]
      exact next _ trivial
    · rw [if_neg here]
      exact next _ ⟨nofun, nofun⟩
  | pollGet jid =>
    rw [silent nofun, Threads.taskStep]
    cases found : s.job_list.get jid with
    | none => exact next _ ⟨nofun, nofun⟩
    | some n => exact next _ (inv.listed jid n found).latest
  | pollRead jid n =>
    rw [silent nofun, Threads.taskStep]
    exact next _ ⟨nofun, fun _ => own⟩
  | cancel jid =>
    rw [silent nofun, Threads.taskStep]
    by_cases here : s.job_list.has jid
    · rw [if_pos here]
      exact next _ trivial
    · rw [if_neg here]
      exact next _ ⟨nofun, nofun⟩
  | cancelGet jid =>
    rw [silent nofun, Threads.taskStep]
    cases found : s.job_list.get jid with
    | none => exact next _ ⟨nofun, nofun⟩
    | some n => exact next _ trivial
  | cancelling jid n =>
    rw [silent nofun, Threads.taskStep]
    exact next _ ⟨nofun, nofun⟩
  | answering l =>
    rw [note_written rfl rfl (by simp only [written, at_task]; rfl) rfl, Threads.taskStep]
    apply (inv.wrote (.inl own.1) own.2).tasks_to
    intro u mem
    exact (inv.wrote (.inl own.1) own.2).tasks u (List.mem_of_mem_eraseIdx mem)

/-- The callback thread keeps the invariant. -/
lemma callerStep (inv : Inv s a) (outcome : Option String) :
    Inv (s.callerStep outcome) (note s a (.callback outcome)) := by
  have held := inv.held
  have distinct := inv.distinct
  have closed (c : ∀ jid n new todo, s.caller ≠ .report jid n new todo) : s.window = none := by
    rw [Threads.window]
    cases at_caller : s.caller with
    | report jid n new todo => exact absurd at_caller (c jid n new todo)
    | _ => rfl
  cases at_caller : s.caller with
  | asleep =>
    rw [note_silent rfl rfl (by simp only [written, at_caller]) (by simp only [deletes, at_caller]),
      Threads.callerStep, at_caller]
    apply inv.caller_to
    · intro e mem
      exact Dict.get_of_mem inv.keys mem
    · exact inv.keys
    · trivial
    · exact closed (by simp [at_caller])
    · rfl
  | next todo =>
    rw [at_caller] at held distinct
    rw [note_silent rfl rfl (by simp only [written, at_caller]) (by simp only [deletes, at_caller]),
      Threads.callerStep, at_caller]
    cases todo with
    | nil => exact inv.caller_to nofun List.nodup_nil trivial (closed (by simp [at_caller])) rfl
    | cons e todo => exact inv.caller_to held distinct trivial (closed (by simp [at_caller])) rfl
  | refresh jid n old todo =>
    rw [at_caller] at held distinct
    rw [note_silent rfl rfl (by simp only [written, at_caller]) (by simp only [deletes, at_caller]),
      Threads.callerStep, at_caller]
    cases outcome with
    | none =>
      apply inv.caller_to
      · intro e mem
        exact held e (List.mem_cons_of_mem _ mem)
      · exact (List.nodup_cons.1 distinct).2
      · trivial
      · exact closed (by simp [at_caller])
      · rfl
    | some status =>
      have refreshed := inv.status_to (s.status.set n status)
      exact refreshed.caller_to (c := .compare jid n old todo) held distinct trivial
        (closed (by simp [at_caller])) rfl
  | compare jid n old todo =>
    rw [at_caller] at held distinct
    rw [note_silent rfl rfl (by simp only [written, at_caller]) (by simp only [deletes, at_caller]),
      Threads.callerStep, at_caller]
    have later : ∀ e ∈ todo, s.job_list.get e.1 = some e.2 :=
      fun e mem => held e (List.mem_cons_of_mem _ mem)
    have rest := (List.nodup_cons.1 distinct).2
    dsimp only
    by_cases ends : Mad.terminal (s.status.get n) = true
    · rw [if_pos ends]
      exact inv.caller_to held distinct ends (closed (by simp [at_caller])) rfl
    · rw [if_neg ends]
      by_cases changed : old ≠ s.status.get n
      · rw [if_pos changed]
        exact inv.caller_to later rest trivial (closed (by simp [at_caller])) (if_neg ends)
      · rw [if_neg changed]
        exact inv.caller_to later rest trivial (closed (by simp [at_caller])) rfl
  | retire jid n new todo =>
    have noted : note s a (.callback outcome) =
        { a with deleted := a.deleted ++ [(n, s.job_list.get jid)] } := by
      simp [note, begins, stores, written, deletes, at_caller]
    rw [noted, Threads.callerStep, at_caller]
    exact inv.retire at_caller
  | report jid n new todo =>
    rw [at_caller] at held distinct
    rw [note_written rfl rfl (by simp only [written, at_caller]; rfl)
      (by simp only [deletes, at_caller]), Threads.callerStep, at_caller]
    by_cases ends : Mad.terminal new = true
    · exact inv.reportEnd at_caller ends _ rfl
    · have quiet : ({ op := .callback, jid, ok := true, status := new, sub := some n } :
          Line).ends = false := by
        simpa [Line.ends] using ends
      refine (inv.wrote (.inr quiet) ?_).caller_to held distinct trivial ?_ rfl
      · intro this
        rw [quiet] at this
        cases this
      · have before : s.window = none := by
          rw [Threads.window, at_caller]
          exact if_neg ends
        exact before
  | fail jid n todo =>
    rw [at_caller] at held distinct
    rw [note_written rfl rfl (by simp only [written, at_caller]; rfl)
      (by simp only [deletes, at_caller]), Threads.callerStep, at_caller]
    refine (inv.wrote (.inr rfl) (fun ends => ?_)).caller_to held distinct trivial ?_ rfl
    · cases ends
    · exact closed (by simp [at_caller])

/-- A step in which an id is used again when it is settled keeps the invariant. -/
lemma step {e : Event} (inv : Inv s a) (ok : s.orderly e = true) :
    Inv (s.step e) (note s a e) := by
  cases e with
  | submit jid =>
    rw [Threads.step]
    by_cases idle : s.main = .idle
    · have settled : s.settled jid = true := by simpa [orderly, begins, idle] using ok
      have noted : note s a (.submit jid) = { a with latest := a.latest.set jid s.next } := by
        simp [note, begins, stores, written, deletes, idle]
      rw [if_pos idle, noted]
      exact inv.begin settled id
    · have none_begins : s.begins (.submit jid) = none := if_neg idle
      rw [if_neg idle, note_silent none_begins rfl rfl rfl]
      exact inv
  | recover jid =>
    rw [Threads.step]
    by_cases idle : s.main = .idle
    · have settled : s.settled jid = true := by simpa [orderly, begins, idle] using ok
      have noted : note s a (.recover jid) = { a with latest := a.latest.set jid s.next } := by
        simp [note, begins, stores, written, deletes, idle]
      rw [if_pos idle, noted]
      exact inv.begin settled id
    · have none_begins : s.begins (.recover jid) = none := if_neg idle
      rw [if_neg idle, note_silent none_begins rfl rfl rfl]
      exact inv
  | poll jid | cancel jid =>
    rw [note_silent rfl rfl rfl rfl, Threads.step]
    by_cases idle : s.main = .idle
    · rw [if_pos idle]
      apply inv.tasks_to
      intro t mem
      obtain old | new := List.mem_append.1 mem
      · exact inv.tasks t old
      · rw [List.mem_singleton] at new
        subst new
        trivial
    · rw [if_neg idle]
      exact inv
  | main outcome => exact inv.mainStep outcome
  | task k done =>
    rw [Threads.step]
    cases at_task : s.tasks[k]? with
    | none =>
      rw [note_silent rfl rfl (by simp only [written, at_task]) rfl]
      exact inv
    | some t => exact inv.taskStep done at_task
  | callback outcome => exact inv.callerStep outcome

/-- What is claimed of the ends holds unless the callback thread is between a deletion and its
report. -/
lemma orderly_iff (inv : Inv s a) : OneReport s a ↔ s.window = none := by
  constructor
  · intro all
    by_contra opened
    obtain ⟨e, eq⟩ := Option.ne_none_iff_exists'.1 opened
    obtain ⟨now, gone⟩ := inv.window e eq
    obtain listed | reported := all.stays e now.stored
    · rw [gone] at listed
      cases listed
    · exact now.unreported reported
  · intro closed
    refine { inv.toOwned with stays := fun e stored => ?_ }
    obtain listed | reported | last := inv.stays e stored
    · exact .inl listed
    · exact .inr reported
    · rw [closed] at last
      cases last

end Inv

/-- In a run in which an id is used again when it is settled, what is said and done about ends concerns
the right submission, and each submission is listed until it was reported, unless the callback thread
is between a deletion and its report. -/
theorem one_report_iff (evs : List Event)
    (guarded : Machine.Guarded observed (fun p e => p.1.orderly e = true) ({}, {}) evs) :
    let p := Machine.run observed ({}, {}) evs
    Owned p.2 ∧ (OneReport p.1 p.2 ↔ p.1.window = none) := by
  have inv := Machine.run_induction (fun p : Threads × Log => Inv p.1 p.2)
    (fun p e inv ok => inv.step ok) Inv.init guarded
  exact ⟨inv.toOwned, inv.orderly_iff⟩

/-- A job is submitted, polled, found to have ended and reported; its id is used again. -/
def orderlyRun : List Event :=
  [.submit "5", .main (some ""), .main none, .poll "5", .task 0 true, .callback none, .callback none,
    .callback (some "DONE"), .callback none, .task 0 true, .task 0 true, .task 0 true,
    .callback none, .callback none, .submit "5", .main (some ""), .main none]

theorem one_report_orderly :
    Machine.Guarded observed (fun p e => p.1.orderly e = true) ({}, {}) orderlyRun ∧
      OneReport (Machine.run observed ({}, {}) orderlyRun).1
        (Machine.run observed ({}, {}) orderlyRun).2 := by
  have guarded :
      Machine.Guarded observed (fun p e => p.1.orderly e = true) ({}, {}) orderlyRun := by
    decide
  exact ⟨guarded, (one_report_iff orderlyRun guarded).2.2 (by decide)⟩

/-- A poll says that the first job has ended, its id is used again, and the callback thread takes the
second job out of the list and reports it as ended. -/
def hastyRun : List Event :=
  [.submit "5", .main (some ""), .main none, .callback none, .callback none,
    .callback (some "DONE"), .poll "5", .task 0 true, .task 0 true, .task 0 true, .task 0 true,
    .submit "5", .main (some ""), .main none, .callback none, .callback none, .callback none]

theorem second_job_deleted :
    Machine.Guarded observed (fun p e => reuses p.1 p.2 e = true) ({}, {}) hastyRun ∧
      let p := Machine.run observed ({}, {}) hastyRun
      p.1.window = none ∧ p.1.job_list.get "5" = none ∧ ¬OneReport p.1 p.2 := by
  refine ⟨by decide, by decide, by decide, ?_⟩
  intro all
  have mixed := all.own_deletion (0, some 1) (by decide) 1 rfl
  cases mixed

end Threads

end GridWay.Drm4g
