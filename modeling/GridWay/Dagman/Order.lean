import GridWay.Dagman.Runner

/-!
# The order of the commands

* `Dag.Justified`: what the commands before a command have to be.
* `Dag.Completes`, `Dag.Stops`: which jobs get done, and when the runner exits, from the answers alone.
* `Dag.Kept`: the account that the runner keeps; `Dag.after_kept`: it holds after every round, and an
  exit has its reason.
-/

namespace GridWay.Dagman.Dag

variable {J : Type} [DecidableEq J] (d : Dag J) (w : World J)

/-- The job was submitted. -/
def Submitted (events : List (Event J)) (j : J) : Prop := ∃ t a, .submit j t a ∈ events

/-- The script of a phase was run. -/
def Ran (events : List (Event J)) (phase : Phase) (j : J) : Prop :=
  ∃ command ok, .script phase j command ok ∈ events

/-- The job was seen as done, and its POST script was run. -/
structure Completed (events : List (Event J)) (j : J) : Prop where
  seen : ∃ out, .ps j (some out) ∈ events ∧ stateOf out = some "done".toList
  post : ∀ script, (d.node j).post = some script →
    .script .post j ((d.node j).command script) true ∈ events

/-- The job is to be run, and its parents are done. -/
structure Ready (events : List (Event J)) (j : J) : Prop where
  job : j ∈ d.jobs
  unmarked : ¬d.Marked j
  parents : ∀ p ∈ d.parents j, d.Marked p ∨ d.Completed events p

/-- What the commands before a command have to be. -/
def Justified (before : List (Event J)) : Event J → Prop
  | .wait _ => True
  | .ps j _ => Submitted before j
  | .script .pre j _ _ => d.Ready before j ∧ ¬Ran before .pre j ∧ ¬Submitted before j
  | .submit j _ _ =>
    d.Ready before j ∧ ¬Submitted before j ∧
      ∀ script, (d.node j).pre = some script →
        .script .pre j ((d.node j).command script) true ∈ before
  | .script .post j _ _ =>
    Submitted before j ∧ (∃ out, .ps j (some out) ∈ before ∧ stateOf out = some "done".toList) ∧
      ¬Ran before .post j
  | .kill j => d.Completed before j

/-- Every command is justified by those before it. -/
def Legal (events : List (Event J)) : Prop :=
  ∀ before e later, events = before ++ e :: later → d.Justified before e

/-- The PRE script and the submission of a job succeed. -/
structure Starts (j : J) : Prop where
  pre : (d.node j).pre.isSome → w.script .pre j = true
  submit : ((w.submit j).bind jobIdOf).isSome

/-- The POST script of a job succeeds. -/
def Closes (j : J) : Prop := (d.node j).post.isSome → w.script .post j = true

/-- The job gets done. -/
inductive Completes : J → Prop where
  | marked {j : J} (marked : d.Marked j) : Completes j
  | ran {j : J} (job : j ∈ d.jobs) (parents : ∀ p ∈ d.parents j, Completes p)
    (starts : d.Starts w j) (succeeds : w.succeeds j = true) (closes : d.Closes w j) : Completes j

/-- A script or a submission fails, of a job whose turn comes. -/
def Stops : Prop :=
  ∃ j ∈ d.jobs, ¬d.Marked j ∧ (∀ p ∈ d.parents j, d.Completes w p) ∧
    (d.Starts w j → w.succeeds j = true ∧ ¬d.Closes w j)

/-- A command has failed. -/
def Refused (events : List (Event J)) : Prop :=
  (∃ phase j command, .script phase j command false ∈ events) ∨
    ∃ j t a, .submit j t a ∈ events ∧ (a.bind jobIdOf).isNone

/-- The account of the runner. -/
structure Kept (s : State J) : Prop where
  legal : d.Legal s.events
  accepted : ¬Refused s.events
  unstarted : ∀ j ∈ s.to_do, j ∈ d.jobs ∧ ¬d.Marked j ∧ ¬Ran s.events .pre j ∧ ¬Submitted s.events j
  started : ∀ j, j ∈ s.running ∨ j ∈ s.done →
    Submitted s.events j ∧ d.Starts w j ∧ (∀ p ∈ d.parents j, d.Completes w p) ∧ j ∈ d.jobs ∧
      ¬d.Marked j
  running : ∀ j ∈ s.running, ¬Ran s.events .post j ∧ j ∉ s.to_do ∧ j ∉ s.done
  done : ∀ j ∈ s.done, d.Completed s.events j ∧ d.Completes w j ∧ j ∉ s.to_do ∧
    (s.gridway j).done? = true
  seen : ∀ j, (s.gridway j).done? = true → (j ∈ s.running ∨ j ∈ s.done) ∧ w.succeeds j = true ∧
    ∃ out, .ps j (some out) ∈ s.events ∧ stateOf out = some "done".toList
  all : ∀ j ∈ d.jobs, d.Marked j ∨ j ∈ s.to_do ∨ j ∈ s.running ∨ j ∈ s.done
  distinct : s.to_do.Nodup ∧ s.running.Nodup

/-- What is left behind at an exit. -/
structure Left (s : State J) : Prop where
  legal : d.Legal s.events
  refused : Refused s.events
  stops : d.Stops w

variable {d w} {s s' : State J} {events events' : List (Event J)} {e : Event J} {j p : J} {k : ℕ}

section Events

omit [DecidableEq J] in
lemma Submitted.append (submitted : Submitted events j) : Submitted (events ++ events') j := by
  obtain ⟨t, a, mem⟩ := submitted
  exact ⟨t, a, List.mem_append_left _ mem⟩

omit [DecidableEq J] in
lemma Completed.append (completed : d.Completed events j) : d.Completed (events ++ events') j where
  seen := by
    obtain ⟨out, mem, done⟩ := completed.seen
    exact ⟨out, List.mem_append_left _ mem, done⟩
  post script has := List.mem_append_left _ (completed.post script has)

omit [DecidableEq J] in
lemma submitted_tell :
    Submitted (s.tell e).events j ↔ Submitted s.events j ∨ ∃ t a, e = .submit j t a := by
  simp only [Submitted, State.tell, List.mem_append, List.mem_singleton, exists_or, eq_comm]

omit [DecidableEq J] in
lemma ran_tell {phase : Phase} :
    Ran (s.tell e).events phase j ↔
      Ran s.events phase j ∨ ∃ command ok, e = .script phase j command ok := by
  simp only [Ran, State.tell, List.mem_append, List.mem_singleton, exists_or, eq_comm]

omit [DecidableEq J] in
lemma refused_tell :
    Refused (s.tell e).events ↔ Refused s.events ∨
      (∃ phase j command, e = .script phase j command false) ∨
        ∃ j t a, e = .submit j t a ∧ (a.bind jobIdOf).isNone := by
  simp only [Refused, State.tell, List.mem_append, List.mem_singleton, exists_or, or_and_right,
    @eq_comm _ _ e]
  exact or_or_or_comm

lemma legal_nil : d.Legal [] := by
  intro before e later eq
  have length := congrArg List.length eq
  simp at length

/-- A justified command after legal ones. -/
lemma Legal.tell (legal : d.Legal s.events) (justified : d.Justified s.events e) :
    d.Legal (s.tell e).events := by
  intro before e' later eq
  obtain rfl | ⟨later', last, rfl⟩ := List.eq_nil_or_concat' later
  · obtain ⟨rfl, single⟩ := List.append_inj' eq rfl
    cases single
    exact justified
  · rw [← List.cons_append, ← List.append_assoc] at eq
    exact legal before e' later' (List.append_inj' eq rfl).1

end Events

/-- Noting what is no submission and no script. -/
lemma Kept.tell (kept : d.Kept w s) (justified : d.Justified s.events e)
    (quiet : (∀ j t a, e ≠ .submit j t a) ∧ ∀ phase j c ok, e ≠ .script phase j c ok) :
    d.Kept w (s.tell e) where
  legal := kept.legal.tell justified
  accepted := by
    rw [refused_tell]
    rintro (old | ⟨phase, j, c, eq⟩ | ⟨j, t, a, eq, -⟩)
    · exact kept.accepted old
    · exact quiet.2 _ _ _ _ eq
    · exact quiet.1 _ _ _ eq
  unstarted j mem := by
    obtain ⟨job, unmarked, fresh, new⟩ := kept.unstarted j mem
    refine ⟨job, unmarked, ?_, ?_⟩
    · rw [ran_tell]
      rintro (old | ⟨c, ok, eq⟩)
      · exact fresh old
      · exact quiet.2 _ _ _ _ eq
    · rw [submitted_tell]
      rintro (old | ⟨t, a, eq⟩)
      · exact new old
      · exact quiet.1 _ _ _ eq
  started j mem := by
    obtain ⟨submitted, rest⟩ := kept.started j mem
    exact ⟨submitted.append, rest⟩
  running j mem := by
    obtain ⟨fresh, rest⟩ := kept.running j mem
    refine ⟨?_, rest⟩
    rw [ran_tell]
    rintro (old | ⟨c, ok, eq⟩)
    · exact fresh old
    · exact quiet.2 _ _ _ _ eq
  done j mem := by
    obtain ⟨completed, rest⟩ := kept.done j mem
    exact ⟨completed.append, rest⟩
  seen j state := by
    obtain ⟨mem, succeeds, out, told, done⟩ := kept.seen j state
    exact ⟨mem, succeeds, out, List.mem_append_left _ told, done⟩
  all := kept.all
  distinct := kept.distinct

lemma kept_start : d.Kept w d.start where
  legal := legal_nil
  accepted := by
    rintro (⟨_, _, _, none⟩ | ⟨_, _, _, none, -⟩)
    · cases none
    · cases none
  unstarted j mem := by
    rw [start, List.mem_filter] at mem
    refine ⟨mem.1, fun marked => ?_, ?_, ?_⟩
    · have unmarked := mem.2
      rw [done?, if_pos (show (d.node j).done = true from marked)] at unmarked
      cases unmarked
    · rintro ⟨_, _, none⟩
      cases none
    · rintro ⟨_, _, none⟩
      cases none
  started j mem := by
    obtain none | none := mem
    · cases none
    · cases none
  running j mem := by cases mem
  done j mem := by cases mem
  seen j state := by cases state
  all j job := by
    by_cases marked : d.Marked j
    · exact .inl marked
    · refine .inr (.inl (List.mem_filter.2 ⟨job, ?_⟩))
      rw [done?, if_neg (show ¬(d.node j).done = true from marked)]
      rfl
  distinct := ⟨d.nodup.filter _, List.nodup_nil⟩

lemma done?_iff {g : Gridway} : g.done? = true ↔ g.state = some "done".toList := by
  rw [Gridway.done?]
  cases g.state with
  | none => exact ⟨nofun, nofun⟩
  | some state => exact decide_eq_true_iff.trans (Option.some_inj).symm

section Look

/-- Looking at a job that runs. -/
lemma Kept.get_info (kept : d.Kept w s) (runs : j ∈ s.running) :
    d.Kept w (get_info w k s j) := by
  have told : d.Kept w (s.tell (.ps j (w.ps k j))) := by
    apply kept.tell
    · exact (kept.started j (.inl runs)).1
    · exact ⟨nofun, nofun⟩
  rw [Dag.get_info]
  cases answer : w.ps k j with
  | none =>
    rw [answer] at told
    exact told
  | some out =>
    rw [answer] at told
    refine { told with done := ?_, seen := ?_ }
    · intro i mem
      have other : i ≠ j := fun same => (kept.running j runs).2.2 (same ▸ mem)
      dsimp only
      rw [Function.update_of_ne other]
      exact told.done i mem
    · intro i state
      dsimp only at state
      by_cases same : i = j
      · subst same
        rw [Function.update_self, done?_iff] at state
        exact ⟨.inl runs, w.seen_done k i out answer state, out,
          List.mem_append_right _ (List.mem_singleton_self _), state⟩
      · rw [Function.update_of_ne same] at state
        exact told.seen i state

lemma get_info_same : (get_info w k s j).running = s.running ∧ (get_info w k s j).to_do = s.to_do ∧
    (get_info w k s j).done = s.done := by
  rw [Dag.get_info]
  cases w.ps k j <;> exact ⟨rfl, rfl, rfl⟩

/-- Looking at some of the jobs that run. -/
lemma Kept.looks (l : List J) (kept : d.Kept w s) (run : ∀ j ∈ l, j ∈ s.running) :
    d.Kept w (l.foldl (Dag.get_info w k) s) := by
  induction l generalizing s with
  | nil => exact kept
  | cons j l ih =>
    obtain ⟨first, rest⟩ := List.forall_mem_cons.1 run
    apply ih (kept.get_info first)
    intro i mem
    rw [get_info_same.1]
    exact rest i mem

lemma looks_same (l : List J) : (l.foldl (get_info w k) s).running = s.running ∧
    (l.foldl (get_info w k) s).to_do = s.to_do ∧ (l.foldl (get_info w k) s).done = s.done := by
  induction l generalizing s with
  | nil => exact ⟨rfl, rfl, rfl⟩
  | cons j l ih =>
    obtain ⟨running, to_do, done⟩ := ih (s := get_info w k s j)
    obtain ⟨running', to_do', done'⟩ := get_info_same (w := w) (k := k) (s := s) (j := j)
    exact ⟨running.trans running', to_do.trans to_do', done.trans done'⟩

lemma Kept.check_jobs (kept : d.Kept w s) : d.Kept w (check_jobs w k s) := by
  rw [Dag.check_jobs]
  split
  · have told : d.Kept w (s.tell (.wait (s.running.map fun j => (s.gridway j).job_id))) := by
      apply kept.tell
      · trivial
      · exact ⟨nofun, nofun⟩
    exact told.looks _ fun _ mem => mem
  · exact kept.looks _ fun _ mem => mem

end Look

/-- The lists are the same, and what was asked for since is about one job. -/
structure Follows (j : J) (s s' : State J) : Prop where
  gridway : s'.gridway = s.gridway
  to_do : s'.to_do = s.to_do
  running : s'.running = s.running
  done : s'.done = s.done
  events : ∃ more, s'.events = s.events ++ more
  ran : ∀ i phase, i ≠ j → Ran s'.events phase i → Ran s.events phase i
  submitted : ∀ i, i ≠ j → Submitted s'.events i → Submitted s.events i

omit [DecidableEq J] in
lemma Follows.refl : Follows j s s :=
  ⟨rfl, rfl, rfl, rfl, ⟨[], (List.append_nil _).symm⟩, fun _ _ _ => id, fun _ _ => id⟩

omit [DecidableEq J] in
lemma Follows.trans {s'' : State J} (one : Follows j s s') (two : Follows j s' s'') :
    Follows j s s'' where
  gridway := two.gridway.trans one.gridway
  to_do := two.to_do.trans one.to_do
  running := two.running.trans one.running
  done := two.done.trans one.done
  events := by
    obtain ⟨more, eq⟩ := one.events
    obtain ⟨more', eq'⟩ := two.events
    exact ⟨more ++ more', by rw [eq', eq, List.append_assoc]⟩
  ran i phase other ran := one.ran i phase other (two.ran i phase other ran)
  submitted i other submitted := one.submitted i other (two.submitted i other submitted)

omit [DecidableEq J] in
lemma follows_script {phase : Phase} {command : List Char} {ok : Bool} :
    Follows j s (s.tell (.script phase j command ok)) := by
  refine ⟨rfl, rfl, rfl, rfl, ⟨_, rfl⟩, ?_, ?_⟩
  · intro i phase' other
    rw [ran_tell]
    rintro (old | ⟨c, ok', eq⟩)
    · exact old
    · cases eq
      exact absurd rfl other
  · intro i _
    rw [submitted_tell]
    rintro (old | ⟨t, a, eq⟩)
    · exact old
    · cases eq

omit [DecidableEq J] in
lemma follows_submit {t : List Char} {a : Option (List Char)} :
    Follows j s (s.tell (.submit j t a)) := by
  refine ⟨rfl, rfl, rfl, rfl, ⟨_, rfl⟩, ?_, ?_⟩
  · intro i phase _
    rw [ran_tell]
    rintro (old | ⟨c, ok, eq⟩)
    · exact old
    · cases eq
  · intro i other
    rw [submitted_tell]
    rintro (old | ⟨t', a', eq⟩)
    · exact old
    · cases eq
      exact absurd rfl other

omit [DecidableEq J] in
/-- What was done stays done, and stays so for the others. -/
lemma Follows.completed (follows : Follows j s s') {i : J} (completed : d.Completed s.events i) :
    d.Completed s'.events i := by
  obtain ⟨more, eq⟩ := follows.events
  rw [eq]
  exact completed.append

/-- What is left of the account when something was asked for a job. -/
lemma Kept.follows (kept : d.Kept w s) (follows : Follows j s s') :
    (∀ i ∈ s'.to_do, i ≠ j → i ∈ d.jobs ∧ ¬d.Marked i ∧ ¬Ran s'.events .pre i ∧
      ¬Submitted s'.events i) ∧
    (∀ i, i ∈ s'.running ∨ i ∈ s'.done → Submitted s'.events i ∧ d.Starts w i ∧
      (∀ p ∈ d.parents i, d.Completes w p) ∧ i ∈ d.jobs ∧ ¬d.Marked i) ∧
    (∀ i ∈ s'.running, i ≠ j → ¬Ran s'.events .post i ∧ i ∉ s'.to_do ∧ i ∉ s'.done) ∧
    (∀ i ∈ s'.done, d.Completed s'.events i ∧ d.Completes w i ∧ i ∉ s'.to_do ∧
      (s'.gridway i).done? = true) ∧
    (∀ i, (s'.gridway i).done? = true → (i ∈ s'.running ∨ i ∈ s'.done) ∧ w.succeeds i = true ∧
      ∃ out, .ps i (some out) ∈ s'.events ∧ stateOf out = some "done".toList) ∧
    (∀ i ∈ d.jobs, d.Marked i ∨ i ∈ s'.to_do ∨ i ∈ s'.running ∨ i ∈ s'.done) ∧
    s'.to_do.Nodup ∧ s'.running.Nodup := by
  obtain ⟨more, eq⟩ := follows.events
  rw [follows.to_do, follows.running, follows.done, follows.gridway]
  refine ⟨?_, ?_, ?_, ?_, ?_, kept.all, kept.distinct⟩
  · intro i mem other
    obtain ⟨job, unmarked, fresh, new⟩ := kept.unstarted i mem
    exact ⟨job, unmarked, fun ran => fresh (follows.ran i _ other ran),
      fun submitted => new (follows.submitted i other submitted)⟩
  · intro i mem
    obtain ⟨submitted, rest⟩ := kept.started i mem
    rw [eq]
    exact ⟨submitted.append, rest⟩
  · intro i mem other
    obtain ⟨fresh, rest⟩ := kept.running i mem
    exact ⟨fun ran => fresh (follows.ran i _ other ran), rest⟩
  · intro i mem
    obtain ⟨completed, rest⟩ := kept.done i mem
    exact ⟨follows.completed completed, rest⟩
  · intro i state
    obtain ⟨mem, succeeds, out, told, done⟩ := kept.seen i state
    rw [eq]
    exact ⟨mem, succeeds, out, List.mem_append_left _ told, done⟩

/-- What a script that succeeds leaves. -/
structure Scripted (d : Dag J) (w : World J) (phase : Phase) (j : J) (s s' : State J) : Prop where
  follows : Follows j s s'
  legal : d.Legal s'.events
  succeeds : ((d.node j).script phase).isSome → w.script phase j = true
  noted : ∀ script, (d.node j).script phase = some script →
    .script phase j ((d.node j).command script) true ∈ s'.events
  ran : ∀ other, other ≠ phase → Ran s'.events other j → Ran s.events other j
  submitted : Submitted s'.events j → Submitted s.events j
  accepted : Refused s'.events → Refused s.events

/-- What a script that fails leaves. -/
structure Broken (d : Dag J) (w : World J) (phase : Phase) (j : J) (s' : State J) : Prop where
  legal : d.Legal s'.events
  refused : Refused s'.events
  script : ((d.node j).script phase).isSome
  fails : w.script phase j = false

lemma runScript_post {phase : Phase} (legal : d.Legal s.events)
    (justified : ∀ script, (d.node j).script phase = some script →
      d.Justified s.events (.script phase j ((d.node j).command script) (w.script phase j))) :
    Exit.Post (d.Scripted w phase j s) (d.Broken w phase j) (d.runScript w phase s j) := by
  rw [runScript]
  cases has : (d.node j).script phase with
  | none =>
    have none_has {script : Script} : (d.node j).script phase ≠ some script := by
      rw [has]
      exact nofun
    refine ⟨.refl, legal, ?_, fun script eq => absurd eq none_has, fun _ _ => id, id, id⟩
    rw [has]
    exact nofun
  | some script =>
    have told := legal.tell (justified script has)
    dsimp only
    cases result : w.script phase j with
    | true =>
      rw [result] at told
      refine ⟨follows_script, told, fun _ => result, ?_, ?_, ?_, ?_⟩
      · intro script' eq
        cases has.symm.trans eq
        exact List.mem_append_right _ (List.mem_singleton_self _)
      · intro other ne
        rw [ran_tell]
        rintro (old | ⟨c, ok, eq⟩)
        · exact old
        · cases eq
          exact absurd rfl ne
      · rw [submitted_tell]
        rintro (old | ⟨t, a, eq⟩)
        · exact old
        · cases eq
      · rw [refused_tell]
        rintro (old | ⟨phase, j, c, eq⟩ | ⟨j, t, a, eq, -⟩)
        · exact old
        · cases eq
        · cases eq
    | false =>
      rw [result] at told
      refine ⟨told, .inl ⟨phase, j, _, List.mem_append_right _ (List.mem_singleton_self _)⟩, ?_,
        result⟩
      rw [has]
      rfl

/-- A finished job is taken off the list. -/
lemma Kept.finalize (kept : d.Kept w s) (runs : j ∈ s.running)
    (seen : (s.gridway j).done? = true) (scripted : d.Scripted w .post j s s') :
    d.Kept w (finalize s' j) := by
  obtain ⟨follows, legal, closes, noted, ran, submitted, accepted⟩ := scripted
  obtain ⟨unstarted, started, running, done, told, all, distinct⟩ := kept.follows follows
  have completed : d.Completed s'.events j := by
    refine ⟨?_, noted⟩
    rw [← follows.gridway] at seen
    exact (told j seen).2.2
  obtain ⟨-, starts, parents, job, unmarked⟩ := kept.started j (.inl runs)
  have completes : d.Completes w j :=
    .ran job parents starts (kept.seen j seen).2.1 closes
  have moved (i : J) : (i ∈ s'.running ∨ i ∈ s'.done ↔
      i ∈ s'.running.filter (· ≠ j) ∨ i ∈ s'.done ++ [j]) := by
    rw [List.mem_filter, List.mem_append, List.mem_singleton]
    by_cases same : i = j
    · subst same
      rw [follows.running]
      simp [runs]
    · simp [same]
  have apart : j ∉ s'.to_do := by
    rw [follows.to_do]
    exact (kept.running j runs).2.1
  have base : d.Kept w { s' with done := s'.done ++ [j], running := s'.running.filter (· ≠ j) } := by
    refine ⟨legal, fun h => kept.accepted (accepted h), ?_, ?_, ?_, ?_, ?_, ?_, distinct.1,
      distinct.2.filter _⟩
    · intro i mem
      exact unstarted i mem fun same => apart (same ▸ mem)
    · intro i mem
      exact started i ((moved i).2 mem)
    · intro i mem
      obtain ⟨mem, ne⟩ := List.mem_filter.1 mem
      replace ne := of_decide_eq_true ne
      obtain ⟨fresh, waits, ended⟩ := running i mem ne
      refine ⟨fresh, waits, ?_⟩
      rw [List.mem_append, List.mem_singleton]
      exact fun h => h.elim ended ne
    · intro i mem
      obtain old | new := List.mem_append.1 mem
      · exact done i old
      · cases List.mem_singleton.1 new
        refine ⟨completed, completes, apart, ?_⟩
        dsimp only
        rw [follows.gridway]
        exact seen
    · intro i state
      obtain ⟨mem, rest⟩ := told i state
      exact ⟨(moved i).1 mem, rest⟩
    · intro i job
      rw [← moved i]
      exact all i job
  exact base.tell completed ⟨nofun, nofun⟩

/-- A submitted job is moved from one list to the other. -/
lemma Kept.launch (kept : d.Kept w s) (waits : j ∈ s.to_do) (follows : Follows j s s')
    (legal : d.Legal s'.events) (accepted : ¬Refused s'.events)
    (fresh : ¬Ran s'.events .post j) (submitted : Submitted s'.events j)
    (starts : d.Starts w j) (parents : ∀ p ∈ d.parents j, d.Completes w p) (id : List Char) :
    d.Kept w (launch s' j id) := by
  obtain ⟨unstarted, started, running, done, told, all, distinct⟩ := kept.follows follows
  obtain ⟨job, unmarked, -, new⟩ := kept.unstarted j waits
  have idle : j ∉ s'.running ∧ j ∉ s'.done := by
    rw [follows.running, follows.done]
    exact ⟨fun mem => (kept.running j mem).2.1 waits, fun mem => (kept.done j mem).2.2.1 waits⟩
  have state (i : J) : ((Dag.launch s' j id).gridway i).done? = (s'.gridway i).done? := by
    rw [Dag.launch]
    dsimp only
    by_cases same : i = j
    · subst same
      rw [Function.update_self]
      rfl
    · rw [Function.update_of_ne same]
  refine ⟨legal, accepted, ?_, ?_, ?_, ?_, ?_, ?_, distinct.1.filter _, ?_⟩
  · intro i mem
    obtain ⟨mem, ne⟩ := List.mem_filter.1 mem
    exact unstarted i mem (of_decide_eq_true ne)
  · intro i mem
    by_cases same : i = j
    · subst same
      exact ⟨submitted, starts, parents, job, unmarked⟩
    · apply started i
      apply mem.imp_left
      intro mem
      exact (List.mem_append.1 mem).resolve_right fun new => same (List.mem_singleton.1 new)
  · intro i mem
    have left (h : i ∈ s'.to_do.filter (· ≠ j)) : i ∈ s'.to_do ∧ i ≠ j :=
      ⟨(List.mem_filter.1 h).1, of_decide_eq_true (List.mem_filter.1 h).2⟩
    obtain old | new := List.mem_append.1 mem
    · obtain ⟨fresh, waits, rest⟩ := running i old fun same => idle.1 (same ▸ old)
      exact ⟨fresh, fun h => waits (left h).1, rest⟩
    · cases List.mem_singleton.1 new
      exact ⟨fresh, fun h => (left h).2 rfl, idle.2⟩
  · intro i mem
    obtain ⟨completed, completes, waits, seen⟩ := done i mem
    rw [state]
    exact ⟨completed, completes, fun h => waits (List.mem_filter.1 h).1, seen⟩
  · intro i seen
    rw [state] at seen
    obtain ⟨mem, rest⟩ := told i seen
    exact ⟨mem.imp_left (List.mem_append_left _), rest⟩
  · intro i job
    show _ ∨ i ∈ s'.to_do.filter (· ≠ j) ∨ i ∈ s'.running ++ [j] ∨ i ∈ s'.done
    by_cases same : i = j
    · exact .inr (.inr (.inl (List.mem_append_right _ (List.mem_singleton.2 same))))
    · obtain marked | waits | runs | done := all i job
      · exact .inl marked
      · exact .inr (.inl (List.mem_filter.2 ⟨waits, decide_eq_true same⟩))
      · exact .inr (.inr (.inl (List.mem_append_left _ runs)))
      · exact .inr (.inr (.inr done))
  · show (s'.running ++ [j]).Nodup
    rw [List.nodup_append]
    refine ⟨distinct.2, List.nodup_singleton j, ?_⟩
    rintro i mem _ one rfl
    exact idle.1 (List.mem_singleton.1 one ▸ mem)

lemma finish_post (kept : d.Kept w s) (runs : j ∈ s.running) (seen : (s.gridway j).done? = true) :
    Exit.Post
      (fun s' => d.Kept w s' ∧ s'.done = s.done ++ [j] ∧ s'.running = s.running.filter (· ≠ j) ∧
        s'.to_do = s.to_do ∧ s'.gridway = s.gridway)
      (d.Left w) (d.finish w s j) := by
  obtain ⟨-, succeeds, told⟩ := kept.seen j seen
  obtain ⟨submitted, starts, parents, job, unmarked⟩ := kept.started j (.inl runs)
  have sound : (s.gridway j).state ≠ some "failed".toList := by
    rw [done?_iff.1 seen]
    decide
  rw [finish, if_neg sound]
  have script : Exit.Post (d.Scripted w .post j s) (d.Left w) (d.runScript w .post s j) := by
    have post : Exit.Post (d.Scripted w .post j s) (d.Broken w .post j) _ :=
      runScript_post kept.legal fun _ _ => ⟨submitted, told, (kept.running j runs).1⟩
    cases result : d.runScript w .post s j with
    | ok s' => exact post.of_ok result
    | error s' =>
      have broken := post.of_error result
      refine ⟨broken.legal, broken.refused, j, job, unmarked, parents, fun _ => ⟨succeeds, ?_⟩⟩
      intro closes
      cases broken.fails.symm.trans (closes broken.script)
  apply script.bind
  intro s' scripted
  have same := scripted.follows
  refine ⟨kept.finalize runs seen scripted, ?_, ?_, same.to_do, same.gridway⟩
  · exact congrArg (· ++ [j]) same.done
  · exact congrArg (List.filter _) same.running

lemma submit_post (kept : d.Kept w s) (waits : j ∈ s.to_do)
    (parents : ∀ p ∈ d.parents j, d.Marked p ∨ p ∈ s.done) (scripted : d.Scripted w .pre j s s') :
    Exit.Post
      (fun s'' => d.Kept w s'' ∧ s''.done = s.done ∧ s''.running = s.running ++ [j] ∧
        s''.to_do = s.to_do.filter (· ≠ j) ∧ ∀ i, (s''.gridway i).done? = (s.gridway i).done?)
      (d.Left w) (d.submit w s' j) := by
  obtain ⟨follows, legal, succeeds, noted, ran, submitted, accepted⟩ := scripted
  obtain ⟨job, unmarked, fresh, new⟩ := kept.unstarted j waits
  have unposted : ¬Ran s.events .post j := by
    rintro ⟨command, ok, mem⟩
    obtain ⟨before, later, cut⟩ := List.append_of_mem mem
    obtain ⟨⟨t, a, there⟩, -⟩ := kept.legal before _ later cut
    exact new ⟨t, a, cut ▸ List.mem_append_left _ there⟩
  have completes : ∀ p ∈ d.parents j, d.Completes w p := by
    intro p parent
    obtain marked | done := parents p parent
    · exact .marked marked
    · exact (kept.done p done).2.1
  have ready : d.Ready s'.events j := by
    refine ⟨job, unmarked, fun p parent => ?_⟩
    apply (parents p parent).imp_right
    intro done
    exact follows.completed (kept.done p done).1
  have told := legal.tell (e := .submit j (d.node j).template (w.submit j))
    ⟨ready, fun h => new (submitted h), noted⟩
  rw [submit]
  cases answer : (w.submit j).bind jobIdOf with
  | none =>
    refine ⟨told, ?_, j, job, unmarked, completes, ?_⟩
    · refine .inr ⟨j, _, w.submit j, List.mem_append_right _ (List.mem_singleton_self _), ?_⟩
      rw [answer]
      rfl
    · intro starts
      have accepted := starts.submit
      rw [answer] at accepted
      cases accepted
  | some id =>
    have starts : d.Starts w j := by
      refine ⟨succeeds, ?_⟩
      rw [answer]
      rfl
    have follows' := follows.trans (follows_submit (t := (d.node j).template) (a := w.submit j))
    refine ⟨kept.launch waits follows' told ?_ ?_ ?_ starts completes id, follows.done, ?_, ?_, ?_⟩
    · rw [refused_tell]
      rintro (old | ⟨phase, j, c, eq⟩ | ⟨j, t, a, eq, none⟩)
      · exact kept.accepted (accepted old)
      · cases eq
      · cases eq
        rw [answer] at none
        cases none
    · rw [ran_tell]
      rintro (old | ⟨c, ok, eq⟩)
      · exact unposted (ran .post nofun old)
      · cases eq
    · exact ⟨_, _, List.mem_append_right _ (List.mem_singleton_self _)⟩
    · exact congrArg (· ++ [j]) follows.running
    · exact congrArg (List.filter _) follows.to_do
    · intro i
      rw [Dag.launch]
      dsimp only
      by_cases same : i = j
      · subst same
        rw [Function.update_self, ← follows.gridway]
        rfl
      · rw [Function.update_of_ne same, ← follows.gridway]
        rfl

lemma run_post (kept : d.Kept w s) (waits : j ∈ s.to_do)
    (parents : ∀ p ∈ d.parents j, d.Marked p ∨ p ∈ s.done) :
    Exit.Post
      (fun s' => d.Kept w s' ∧ s'.done = s.done ∧ s'.running = s.running ++ [j] ∧
        s'.to_do = s.to_do.filter (· ≠ j) ∧ ∀ i, (s'.gridway i).done? = (s.gridway i).done?)
      (d.Left w) (d.run w s j) := by
  obtain ⟨job, unmarked, fresh, new⟩ := kept.unstarted j waits
  have completed : ∀ p ∈ d.parents j, d.Marked p ∨ d.Completed s.events p := by
    intro p parent
    exact (parents p parent).imp_right fun done => (kept.done p done).1
  have completes : ∀ p ∈ d.parents j, d.Completes w p := by
    intro p parent
    obtain marked | done := parents p parent
    · exact .marked marked
    · exact (kept.done p done).2.1
  have script : Exit.Post (d.Scripted w .pre j s) (d.Left w) (d.runScript w .pre s j) := by
    have post : Exit.Post (d.Scripted w .pre j s) (d.Broken w .pre j) _ :=
      runScript_post kept.legal fun _ _ => ⟨⟨job, unmarked, completed⟩, fresh, new⟩
    cases result : d.runScript w .pre s j with
    | ok s' => exact post.of_ok result
    | error s' =>
      have broken := post.of_error result
      refine ⟨broken.legal, broken.refused, j, job, unmarked, completes, ?_⟩
      intro starts
      cases broken.fails.symm.trans (starts.pre broken.script)
  rw [run]
  apply script.bind
  intro s' scripted
  exact submit_post kept waits parents scripted

/-- Some of the jobs that are done are still to be finished. -/
structure Finishing (d : Dag J) (w : World J) (s : State J) (rest : List J) (s' : State J) : Prop where
  kept : d.Kept w s'
  to_do : s'.to_do = s.to_do
  gridway : s'.gridway = s.gridway
  left : ∀ i ∈ rest, i ∈ s'.running ∧ (s'.gridway i).done? = true
  distinct : rest.Nodup
  older : ∀ i ∈ s'.running, i ∈ s.running
  running : ∀ i ∈ s.running, i ∈ s'.running ∨ i ∈ s'.done
  done : ∀ i ∈ s.done, i ∈ s'.done
  ended : ∀ i ∈ s.running, (s.gridway i).done? = true → i ∈ rest ∨ i ∈ s'.done

/-- Some of the jobs that can be run are still to be submitted. -/
structure Launching (d : Dag J) (w : World J) (s : State J) (l rest : List J) (s' : State J) :
    Prop where
  kept : d.Kept w s'
  done : s'.done = s.done
  state : ∀ i, (s'.gridway i).done? = (s.gridway i).done?
  left : ∀ i ∈ rest, i ∈ s'.to_do ∧ i ∈ l
  distinct : rest.Nodup
  running : ∀ i ∈ s.running, i ∈ s'.running
  launched : ∀ i ∈ l, i ∈ rest ∨ i ∈ s'.running
  others : ∀ i ∈ s'.running, i ∈ s.running ∨ i ∈ l

lemma Finishing.next {rest : List J} (finishing : d.Finishing w s (j :: rest) s') :
    Exit.Post (d.Finishing w s rest) (d.Left w) (d.finish w s' j) := by
  obtain ⟨⟨runs, seen⟩, later⟩ := List.forall_mem_cons.1 finishing.left
  obtain ⟨apart, distinct⟩ := List.nodup_cons.1 finishing.distinct
  apply (finish_post finishing.kept runs seen).mono
  rintro s'' ⟨kept, done, running, to_do, gridway⟩
  have still {i : J} (there : i ∈ s'.running) : i ∈ s''.running ∨ i ∈ s''.done := by
    rw [running, done, List.mem_filter, List.mem_append, List.mem_singleton]
    by_cases same : i = j
    · exact .inr (.inr same)
    · exact .inl ⟨there, decide_eq_true same⟩
  have stays {i : J} (there : i ∈ s'.done) : i ∈ s''.done := by
    rw [done]
    exact List.mem_append_left _ there
  refine ⟨kept, to_do.trans finishing.to_do, gridway.trans finishing.gridway, ?_, distinct, ?_, ?_,
    fun i mem => stays (finishing.done i mem), ?_⟩
  · intro i mem
    rw [running, gridway]
    refine ⟨List.mem_filter.2 ⟨(later i mem).1, ?_⟩, (later i mem).2⟩
    exact decide_eq_true fun same => apart (same ▸ mem)
  · intro i mem
    rw [running] at mem
    exact finishing.older i (List.mem_filter.1 mem).1
  · intro i mem
    obtain runs | done := finishing.running i mem
    · exact still runs
    · exact .inr (stays done)
  · intro i mem state
    obtain waits | done' := finishing.ended i mem state
    · obtain rfl | later := List.mem_cons.1 waits
      · rw [done]
        exact .inr (List.mem_append_right _ (List.mem_singleton_self _))
      · exact .inl later
    · exact .inr (stays done')

lemma Launching.next {l rest : List J} (launching : d.Launching w s l (j :: rest) s')
    (parents : ∀ i ∈ l, ∀ p ∈ d.parents i, d.Marked p ∨ p ∈ s.done) :
    Exit.Post (d.Launching w s l rest) (d.Left w) (d.run w s' j) := by
  obtain ⟨⟨waits, named⟩, later⟩ := List.forall_mem_cons.1 launching.left
  obtain ⟨apart, distinct⟩ := List.nodup_cons.1 launching.distinct
  rw [← launching.done] at parents
  apply (run_post launching.kept waits (parents j named)).mono
  rintro s'' ⟨kept, done, running, to_do, state⟩
  refine ⟨kept, done.trans launching.done, fun i => (state i).trans (launching.state i), ?_, distinct,
    ?_, ?_, ?_⟩
  · intro i mem
    rw [to_do]
    refine ⟨List.mem_filter.2 ⟨(later i mem).1, ?_⟩, (later i mem).2⟩
    exact decide_eq_true fun same => apart (same ▸ mem)
  · intro i mem
    rw [running]
    exact List.mem_append_left _ (launching.running i mem)
  · intro i mem
    rw [running]
    obtain waits | runs := launching.launched i mem
    · obtain rfl | later := List.mem_cons.1 waits
      · exact .inr (List.mem_append_right _ (List.mem_singleton_self _))
      · exact .inl later
    · exact .inr (List.mem_append_left _ runs)
  · intro i runs
    rw [running] at runs
    obtain old | new := List.mem_append.1 runs
    · exact launching.others i old
    · exact .inr (List.mem_singleton.1 new ▸ named)

/-- What a round does when it does not exit. -/
structure Round (d : Dag J) (w : World J) (k : ℕ) (s s' : State J) : Prop where
  kept : d.Kept w s'
  settled : ∀ i ∈ s'.running, (s'.gridway i).done? = false
  done : ∀ i ∈ s.done, i ∈ s'.done
  running : ∀ i ∈ s.running, i ∈ s'.running ∨ i ∈ s'.done
  ended : ∀ i ∈ s.running, ∀ out, w.ps k i = some out → stateOf out = some "done".toList →
    i ∈ s'.done
  launched : ∀ i ∈ s.to_do, (∀ p ∈ d.parents i, d.Marked p ∨ p ∈ s.done) → i ∈ s'.running

lemma looks_state {out : List Char} (l : List J) (mem : j ∈ l) (answer : w.ps k j = some out) :
    ((l.foldl (get_info w k) s).gridway j).state = stateOf out := by
  have one (i : J) (s : State J) : ((get_info w k s i).gridway j).state =
      if j = i then stateOf out else (s.gridway j).state := by
    rw [get_info]
    by_cases same : j = i
    · subst same
      rw [answer, if_pos rfl]
      dsimp only
      rw [Function.update_self]
    · rw [if_neg same]
      cases w.ps k i with
      | none => rfl
      | some out' =>
        dsimp only
        rw [Function.update_of_ne same]
        rfl
  have still (l : List J) (s : State J) (here : (s.gridway j).state = stateOf out) :
      ((l.foldl (get_info w k) s).gridway j).state = stateOf out := by
    induction l generalizing s with
    | nil => exact here
    | cons i l ih =>
      apply ih
      rw [one, here, ite_self]
  induction l generalizing s with
  | nil => cases mem
  | cons i l ih =>
    obtain rfl | later := List.mem_cons.1 mem
    · exact still l _ ((one j s).trans (if_pos rfl))
    · exact ih later

lemma check_jobs_same : (check_jobs w k s).running = s.running ∧ (check_jobs w k s).to_do = s.to_do ∧
    (check_jobs w k s).done = s.done := by
  rw [check_jobs]
  split
  · exact looks_same _
  · exact looks_same _

lemma check_jobs_state {out : List Char} (runs : j ∈ s.running) (answer : w.ps k j = some out) :
    ((check_jobs w k s).gridway j).state = stateOf out := by
  rw [check_jobs]
  split
  · exact looks_state _ runs answer
  · exact looks_state _ runs answer

/-- A job that waits is not done. -/
lemma Kept.waiting (kept : d.Kept w s) (waits : j ∈ s.to_do) : (s.gridway j).done? = false := by
  by_contra seen
  rw [Bool.not_eq_false] at seen
  obtain runs | done := (kept.seen j seen).1
  · exact (kept.running j runs).2.1 waits
  · exact (kept.done j done).2.2.1 waits

omit [DecidableEq J] in
lemma done?_unmarked (unmarked : ¬d.Marked j) : d.done? s j = (s.gridway j).done? := if_neg unmarked

lemma runable?_iff : d.runable? s j = true ↔
    d.done? s j = false ∧ ∀ p ∈ d.parents j, d.done? s p = true := by
  rw [runable?]
  cases d.done? s j with
  | true => exact ⟨nofun, fun h => nomatch h.1⟩
  | false =>
    rw [if_neg Bool.false_ne_true, Option.isNone_iff_eq_none, List.find?_eq_none, and_iff_right rfl]
    simp

/-- The jobs that are done are taken off the list. -/
lemma Kept.finishes (kept : d.Kept w s) :
    Exit.Post (d.Finishing w s []) (d.Left w)
      ((s.running.filter (d.done? s)).foldlM (d.finish w) s) := by
  apply Exit.Post.foldlM
  · intro j rest s' finishing
    exact finishing.next
  · refine ⟨kept, rfl, rfl, ?_, kept.distinct.2.filter _, fun _ => id, fun _ => .inl, fun _ => id, ?_⟩
    · intro i mem
      obtain ⟨runs, done⟩ := List.mem_filter.1 mem
      rw [done?_unmarked (kept.started i (.inl runs)).2.2.2.2] at done
      exact ⟨runs, done⟩
    · intro i runs state
      refine .inl (List.mem_filter.2 ⟨runs, ?_⟩)
      rw [done?_unmarked (kept.started i (.inl runs)).2.2.2.2]
      exact state

/-- The jobs whose parents are done are submitted. -/
lemma Kept.launches (kept : d.Kept w s) (settled : ∀ i ∈ s.running, (s.gridway i).done? = false) :
    Exit.Post (d.Launching w s (s.to_do.filter (d.runable? s)) []) (d.Left w)
      ((s.to_do.filter (d.runable? s)).foldlM (d.run w) s) := by
  have parents : ∀ i ∈ s.to_do.filter (d.runable? s), ∀ p ∈ d.parents i,
      d.Marked p ∨ p ∈ s.done := by
    intro i mem p parent
    have done := (runable?_iff.1 (List.mem_filter.1 mem).2).2 p parent
    by_cases marked : d.Marked p
    · exact .inl marked
    · rw [done?_unmarked marked] at done
      refine .inr ((kept.seen p done).1.resolve_left ?_)
      intro runs
      cases done.symm.trans (settled p runs)
  apply Exit.Post.foldlM
  · intro j rest s' launching
    exact launching.next parents
  · exact ⟨kept, rfl, fun _ => rfl, fun i mem => ⟨(List.mem_filter.1 mem).1, mem⟩,
      kept.distinct.1.filter _, fun _ => id, fun _ => .inl, fun _ => .inl⟩

/-- A round of the runner. -/
theorem iterate_post (kept : d.Kept w s) :
    Exit.Post (d.Round w k s) (d.Left w) (d.iterate w k s) := by
  obtain ⟨running, to_do, done⟩ := check_jobs_same (w := w) (k := k) (s := s)
  rw [iterate]
  apply kept.check_jobs.finishes.bind
  intro s₁ finishing
  have kept₁ := finishing.kept
  have settled : ∀ i ∈ s₁.running, (s₁.gridway i).done? = false := by
    intro i runs
    by_contra seen
    rw [Bool.not_eq_false, finishing.gridway] at seen
    obtain none | ended := finishing.ended i (finishing.older i runs) seen
    · cases none
    · exact (kept₁.running i runs).2.2 ended
  apply (kept₁.launches settled).mono
  intro s₂ launching
  have kept₂ := launching.kept
  refine ⟨kept₂, ?_, ?_, ?_, ?_, ?_⟩
  · intro i runs
    rw [launching.state]
    obtain old | new := launching.others i runs
    · exact settled i old
    · exact kept₁.waiting (List.mem_filter.1 new).1
  · intro i mem
    rw [launching.done]
    exact finishing.done i (done ▸ mem)
  · intro i mem
    rw [launching.done]
    exact (finishing.running i (running ▸ mem)).imp_left (launching.running i)
  · intro i mem out answer seen
    rw [launching.done]
    refine (finishing.ended i (running ▸ mem) ?_).resolve_left List.not_mem_nil
    rw [done?_iff, check_jobs_state mem answer, seen]
  · intro i mem parents
    rw [← to_do, ← finishing.to_do] at mem
    refine (launching.launched i (List.mem_filter.2 ⟨mem, ?_⟩)).resolve_left List.not_mem_nil
    rw [runable?_iff, done?_unmarked (kept₁.unstarted i mem).2.1]
    refine ⟨kept₁.waiting mem, fun p parent => ?_⟩
    obtain marked | old := parents p parent
    · exact if_pos marked
    · rw [done?_unmarked (kept₁.started p (.inr (finishing.done p (done ▸ old)))).2.2.2.2]
      exact (kept₁.done p (finishing.done p (done ▸ old))).2.2.2

/-- The account holds after every round, and an exit has its reason. -/
theorem after_kept (d : Dag J) (w : World J) (k : ℕ) :
    Exit.Post (d.Kept w) (d.Left w) (d.after w k) := by
  induction k with
  | zero => exact kept_start
  | succ k ih =>
    rw [after]
    apply ih.bind
    intro s kept
    split
    · exact kept
    · exact (iterate_post kept).mono fun _ round => round.kept

end GridWay.Dagman.Dag
