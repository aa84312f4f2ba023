import GridWay.Drm4g.Frame

/-!
# Contacts

A job is named to the core by its contact, the host and the remote id of the job with a colon in
between. After a restart the contact is all that the driver gets back.

* `Job.Address`: what the methods take from a job to name it on its resource.
* `Mad.hosts`: the hosts that a resource reports.
* `Mad.contact_recovers_iff`: a contact is read back exactly when there is no colon in its host.
-/

namespace GridWay.Drm4g

open Proc

/-- What names a job on its resource: only CREAM has sites. -/
structure Job.Address where
  manager : Manager
  resource : String
  site : Option String
  jobId : String
deriving DecidableEq, Repr

/-- The address of a job. -/
def Job.address (heap : Heap) (job : Job) : Address where
  manager := job.manager
  resource := job.name
  site := if job.manager = .cream then (heap.deref job.resfeatures).get "host" else none
  jobId := job.jobId

/-- The commands that renew the proxy of a job, ask for its state and cancel it. -/
def Job.commands (here : Local) (heap : Heap) (job : Job) : List String :=
  match job.manager with
  | .cream =>
    let d := heap.deref job.resfeatures
    match d.get "vo", d.get "host" with
    | some vo, some host =>
      [renewCommand here vo host,
        tool here vo "glite-ce-job-status" ++ " " ++ job.jobId ++ " -L 2",
        tool here vo "glite-ce-job-cancel" ++ " -N " ++ job.jobId]
    | _, _ => []
  | manager => statusCommand manager job.jobId :: cancelCommands manager job.jobId

namespace Mad

variable {here : Local} {o o' : Outside} {jid host_jm rslPath host jm given : String}
variable {job fresh : Job} {s s' r : Mad}

/-- The hosts that a resource reports, `Resource.hosts`: the sites of a VO for CREAM, which
`ldapsearch` finds, and its own name otherwise. -/
def hosts (manager : Manager) (name : String) (d : Features) (sites : List String) : List String :=
  if manager = .cream ∧ d.has "vo" then sites.map fun site => name ++ "::" ++ site else [name]

/-- A driver rebuilds a job from its contact: the commands for the job are the same as before. -/
def Recovers (here : Local) (o : Outside) (given : String) (r : Mad) (heap : Heap) (job : Job) :
    Prop :=
  ∃ job' t, rebuild here o given r = (.ok job', t) ∧
    job'.address t.heap = job.address heap ∧ job'.commands here t.heap = job.commands here heap

/-- A host without a site is the name of its resource. -/
lemma findResource_name {heap : Heap} {resources : Dict String Ref} {name : String} {r : Ref}
    (single : Cut.hasPair ':' host.toList = false)
    (found : findResource heap host resources = .ok (name, r)) : name = host := by
  induction resources with
  | nil => cases found
  | cons e resources ih =>
    obtain ⟨resname, ref⟩ := e
    rw [findResource] at found
    by_cases cloud : (heap.deref ref).has "cloud_provider" = true
    · rw [if_pos cloud] at found
      exact ih found
    · rw [if_neg cloud, single, if_neg Bool.false_ne_true] at found
      by_cases other : resname ≠ host
      · rw [if_pos other] at found
        exact ih found
      · rw [if_neg other] at found
        cases found
        exact not_not.1 other

/-- What is returned by an expression that did not raise. -/
lemma raising_ok {α : Type} {x : Except String α} {a : α} (h : raising x s = (.ok a, s')) :
    x = .ok a ∧ s' = s := by
  cases x with
  | ok b =>
    cases h
    exact ⟨rfl, rfl⟩
  | error err => cases h

lemma communicatorOf_keeps {α : Type} {view : Mad → α} {name : String} {d : Features}
    (apart : ∀ (s : Mad) communicators, view { s with communicators } = view s) :
    Keeps view (communicatorOf here name d) := by
  apply keeps_bind keeps_get
  intro s
  split
  · exact keeps_pure
  · exact keeps_throw
  · apply keeps_bind
    · apply keeps_modify
      intro s
      exact apart s _
    · intro _
      exact keeps_pure

/-- The job object that is made for a host. -/
lemma update_resource_ok (h : update_resource here o host s = (.ok job, s')) :
    ∃ resources, findResource s'.heap host resources = .ok (job.name, job.resfeatures) := by
  obtain ⟨_, s₁, reloaded, h₁⟩ := bind_ok h
  obtain ⟨_, _, got, h₂⟩ := bind_ok h₁
  cases got
  obtain ⟨⟨name, r⟩, t₁, found, h₃⟩ := bind_ok h₂
  obtain ⟨communicator, s₂, made, h₄⟩ := bind_ok h₃
  obtain ⟨manager, t₂, managed, h₅⟩ := bind_ok h₄
  obtain ⟨found, back₁⟩ := raising_ok found
  obtain ⟨-, back₂⟩ := raising_ok managed
  have kept : Keeps Mad.heap (communicatorOf here name (s₁.heap.deref r)) :=
    communicatorOf_keeps fun _ _ => rfl
  have same : s₂.heap = t₁.heap := kept.result made
  cases h₅
  refine ⟨s₁.configure.resources, ?_⟩
  rw [back₂, same, back₁]
  exact found

/-- The parts of a submission that succeeded. -/
lemma submit_ok {result : String × Job} (cut : Py.splitLast '/' host_jm = some (host, jm))
    (h : submit here o jid host_jm rslPath s = (.ok result, s')) :
    ∃ fresh rsl s₁ s₂, describe here o host jm rslPath s = (.ok (fresh, rsl), s₁) ∧
      launch here o rslPath fresh rsl s₁ = (.ok result.2, s₂) ∧ result.1 = host ∧
      s' = { s₂ with job_list := s₂.job_list.set jid result.2 } := by
  rw [submit, cut] at h
  obtain ⟨⟨fresh, rsl⟩, s₁, described, h₁⟩ := bind_ok h
  obtain ⟨job, s₂, launched, h₂⟩ := bind_ok h₁
  cases h₂
  exact ⟨fresh, rsl, s₁, s₂, described, launched, rfl, rfl⟩

/-- The job object of a submission is the one that was made for its host. -/
lemma describe_ok {rsl : Rsl} (h : describe here o host jm rslPath s = (.ok (job, rsl), s')) :
    ∃ s₁, update_resource here o host s = (.ok job, s₁) := by
  obtain ⟨fresh, s₁, made, h₁⟩ := bind_ok h
  obtain ⟨parsed, s₂, read, h₂⟩ := bind_ok h₁
  obtain ⟨_, _, got, h₃⟩ := bind_ok h₂
  obtain ⟨_, s₃, noted, h₄⟩ := bind_ok h₃
  obtain ⟨located, s₄, found, h₅⟩ := bind_ok h₄
  cases h₅
  exact ⟨s₁, made⟩

/-- The script of a job does not change what names it. -/
lemma jobTemplate_ok {rsl : Rsl} {script : String}
    (h : fresh.jobTemplate o rsl s = (.ok (script, job), s')) :
    job.manager = fresh.manager ∧ job.name = fresh.name ∧ job.resfeatures = fresh.resfeatures := by
  rw [Job.jobTemplate] at h
  by_cases cream : fresh.manager = .cream
  · rw [if_pos cream] at h
    obtain ⟨_, _, _, h₁⟩ := bind_ok h
    obtain ⟨p, _, _, h₂⟩ := bind_ok h₁
    obtain ⟨_, _, _, h₃⟩ := bind_ok h₂
    obtain ⟨_, _, _, h₄⟩ := bind_ok h₃
    obtain ⟨text, _, _, h₅⟩ := bind_ok h₄
    cases h₅
    exact ⟨rfl, rfl, rfl⟩
  · rw [if_neg cream] at h
    obtain ⟨_, _, _, h₁⟩ := bind_ok h
    cases h₁
    exact ⟨rfl, rfl, rfl⟩

/-- What is done outside, and the list of file names, leave the dictionaries alone. -/
lemma inner_heap : Inner Mad.heap := fun _ _ => rfl

/-- A job of CREAM is submitted for a VO. -/
lemma jobSubmit_vo {wrapper_file jobId : String} (cream : job.manager = .cream)
    (h : job.jobSubmit here o wrapper_file s = (.ok jobId, s')) :
    (s.heap.deref job.resfeatures).has "vo" = true := by
  rw [Job.jobSubmit, if_pos cream] at h
  obtain ⟨vo, t, read, -⟩ := bind_ok h
  obtain ⟨_, _, got, h₁⟩ := bind_ok read
  cases got
  obtain ⟨found, -⟩ := raising_ok h₁
  rw [Dict.has]
  rw [Configuration.item] at found
  cases value : (s.heap.deref job.resfeatures).get "vo" with
  | some v => rfl
  | none =>
    rw [value] at found
    cases found

/-- The wrapper of a job is submitted: the job gets its id, and keeps what names it otherwise. -/
lemma launch_ok {rsl : Rsl} (h : launch here o rslPath fresh rsl s = (.ok job, s')) :
    (job.manager = fresh.manager ∧ job.name = fresh.name ∧ job.resfeatures = fresh.resfeatures) ∧
      s'.heap = s.heap ∧
      (job.manager = .cream → (s.heap.deref job.resfeatures).has "vo" = true) := by
  obtain ⟨executable, t, read, h₁⟩ := bind_ok h
  obtain ⟨-, back⟩ := raising_ok read
  obtain ⟨⟨script, rendered⟩, s₁, template, h₂⟩ := bind_ok h₁
  obtain ⟨_, s₂, written, h₃⟩ := bind_ok h₂
  obtain ⟨_, s₃, copied, h₄⟩ := bind_ok h₃
  obtain ⟨jobId, s₄, submitted, h₅⟩ := bind_ok h₄
  have same₁ : s₁.heap = s.heap := by
    have kept : Keeps Mad.heap (fresh.jobTemplate o rsl) := Job.jobTemplate_keeps fun _ _ => rfl
    rw [← back]
    exact kept.result template
  have same₂ : s₂.heap = s₁.heap := (createWrapper_keeps inner_heap).result written
  have same₃ : s₃.heap = s₂.heap := (copyWrapper_keeps inner_heap).result copied
  have same₄ : s₄.heap = s₃.heap := (Job.jobSubmit_keeps inner_heap).result submitted
  have before : s₃.heap = s.heap := same₃.trans (same₂.trans same₁)
  have names := jobTemplate_ok template
  cases h₅
  refine ⟨names, same₄.trans before, ?_⟩
  intro cream
  rw [← before]
  exact jobSubmit_vo cream submitted

/-- An answer that says success carries the text of the operation. -/
lemma answer_success {operation : String} {work : M String}
    (said : (answer operation jid work s).2.out.getLast? =
      some (operation ++ " " ++ jid ++ " SUCCESS " ++ given)) :
    ∃ t, work s = (.ok given, t) ∧ (answer operation jid work s).2.job_list = t.job_list ∧
      (answer operation jid work s).2.heap = t.heap := by
  cases result : work s with
  | mk r t =>
    cases r with
    | ok line =>
      rw [answer_of_ok result] at said ⊢
      have same : operation ++ " " ++ jid ++ " SUCCESS " ++ line =
          operation ++ " " ++ jid ++ " SUCCESS " ++ given := by simpa using said
      rw [String.append_right_inj] at same
      rw [same]
      exact ⟨t, rfl, rfl, rfl⟩
    | error err =>
      rw [answer_of_error result] at said
      have same : operation ++ " " ++ jid ++ " FAILURE " ++ err =
          operation ++ " " ++ jid ++ " SUCCESS " ++ given := by simpa using said
      have letters := congrArg String.toList same
      simp at letters

/-- A submission that was accepted. -/
structure Accepted (here : Local) (o : Outside) (host jid host_jm rslPath given : String) (s : Mad)
    (job : Job) : Prop where
  cut : ∃ jm, Py.splitLast '/' host_jm = some (host, jm)
  answered : (do_SUBMIT here o jid host_jm rslPath s).2.out.getLast? =
    some ("SUBMIT" ++ " " ++ jid ++ " SUCCESS " ++ given)
  stored : (do_SUBMIT here o jid host_jm rslPath s).2.job_list.get jid = some job

/-- What is known of a job that was submitted. -/
lemma Accepted.facts (h : Accepted here o host jid host_jm rslPath given s job) :
    given = contact host job ∧ (Cut.hasPair ':' host.toList = false → job.name = host) ∧
      (job.manager = .cream →
        ((do_SUBMIT here o jid host_jm rslPath s).2.heap.deref job.resfeatures).has "vo" = true) := by
  obtain ⟨jm, cut⟩ := h.cut
  obtain ⟨t, worked, list, heap⟩ := answer_success h.answered
  obtain ⟨⟨host', job'⟩, s₁, submitted, h₁⟩ := bind_ok worked
  obtain ⟨fresh, rsl, s₂, s₃, described, launched, rfl, rfl⟩ := submit_ok cut submitted
  obtain ⟨⟨-, name, -⟩, same, vo⟩ := launch_ok launched
  obtain ⟨s₄, made⟩ := describe_ok described
  obtain ⟨resources, found⟩ := update_resource_ok made
  cases h₁
  have stored := h.stored
  rw [do_SUBMIT, list] at stored
  rw [do_SUBMIT, heap]
  obtain rfl : job' = job := by simpa using stored
  refine ⟨rfl, ?_, ?_⟩
  · intro single
    rw [name]
    exact findResource_name single found
  · intro cream
    show (s₃.heap.deref job'.resfeatures).has "vo" = true
    rw [same]
    exact vo cream

/-- A host without a colon is not the site of a VO. -/
lemma not_cream_of_hosts {heap : Heap} {sites : List String} (whole : ':' ∉ host.toList)
    (vo : job.manager = .cream → (heap.deref job.resfeatures).has "vo" = true)
    (mem : host ∈ hosts job.manager job.name (heap.deref job.resfeatures) sites) :
    job.manager ≠ .cream := by
  intro cream
  rw [hosts, if_pos ⟨cream, vo cream⟩] at mem
  obtain ⟨site, -, rfl⟩ := List.mem_map.1 mem
  apply whole
  simp

/-- The job of a contact whose host has no colon. -/
lemma rebuild_contact (whole : ':' ∉ host.toList)
    (found : update_resource here o' host s = (.ok fresh, s')) :
    rebuild here o' (contact host job) s = (.ok { fresh with jobId := job.jobId }, s') := by
  have parts : Py.splitFirst ':' (contact host job) = some (host, job.jobId) := by
    rw [Py.splitFirst, contact, String.toList_append, String.toList_append, List.append_assoc]
    show (Cut.atFirst ':' (host.toList ++ ':' :: job.jobId.toList)).map _ = _
    rw [Cut.atFirst_append whole]
    simp
  rw [rebuild, parts]
  exact bind_of_ok found

/-- The id of a contact whose host has a colon comes back longer. -/
lemma rebuild_longer {job' : Job} (split : ':' ∈ host.toList)
    (rebuilt : rebuild here o' (contact host job) s = (.ok job', s')) : job'.jobId ≠ job.jobId := by
  obtain ⟨before, after, parts, longer⟩ := Cut.atFirst_append_mem split job.jobId.toList
  have cut : Py.splitFirst ':' (contact host job) = some (String.ofList before, String.ofList after) := by
    rw [Py.splitFirst, contact, String.toList_append, String.toList_append, List.append_assoc]
    show (Cut.atFirst ':' (host.toList ++ ':' :: job.jobId.toList)).map _ = _
    rw [parts]
    rfl
  rw [rebuild, cut] at rebuilt
  obtain ⟨fresh, t, -, h⟩ := bind_ok rebuilt
  cases h
  intro same
  rw [← show (String.ofList after) = job.jobId from same, String.toList_ofList] at longer
  exact Nat.lt_irrefl _ longer

/-- For every host that the information driver reports and every remote id, a driver that knows the
resource of the host rebuilds the job from the contact that a successful submission answered exactly
when the host has no colon. -/
theorem contact_recovers_iff (accepted : Accepted here o host jid host_jm rslPath given s job)
    (reported : ∃ sites, host ∈ hosts job.manager job.name
      ((do_SUBMIT here o jid host_jm rslPath s).2.heap.deref job.resfeatures) sites)
    (known : ∃ fresh t, update_resource here o' host r = (.ok fresh, t) ∧
      fresh.manager = job.manager) :
    Recovers here o' given r (do_SUBMIT here o jid host_jm rslPath s).2.heap job ↔
      ':' ∉ host.toList := by
  obtain ⟨rfl, name, vo⟩ := accepted.facts
  obtain ⟨fresh, t, found, same⟩ := known
  constructor
  · rintro ⟨job', t', rebuilt, address, -⟩ split
    exact rebuild_longer split rebuilt (congrArg Job.Address.jobId address)
  · intro whole
    obtain ⟨sites, mem⟩ := reported
    have batch := not_cream_of_hosts whole vo mem
    have single := Cut.hasPair_of_not_mem whole
    obtain ⟨resources, looked⟩ := update_resource_ok found
    have names : fresh.name = job.name := (findResource_name single looked).trans (name single).symm
    refine ⟨_, t, rebuild_contact whole found, ?_, ?_⟩
    · rw [Job.address, Job.address, if_neg batch, if_neg (by rw [same]; exact batch)]
      rw [Job.Address.mk.injEq]
      exact ⟨same, names, rfl, rfl⟩
    · rw [Job.commands, Job.commands]
      rw [same]
      cases kind : job.manager with
      | cream => exact absurd kind batch
      | _ => rfl

/-- A machine on which every module can be imported and every file is there. -/
def anywhere : Local where
  imports _ := .found
  communicates _ := true
  expand path := path
  isfile _ := true
  instances _ := .ok []
  remote_jobs_dir := "/home/u/.drm4g/jobs"
  remote_vos_dir := "/home/u/.drm4g/security"

/-- A resource file with a cluster and a VO. -/
def twoSections : File where
  mtime := 1
  sections :=
    [("meteo", [("enable", "true"), ("communicator", "local"), ("frontend", "localhost"),
        ("lrms", "pbs"), ("max_jobs_running", "8")]),
      ("esrvo", [("enable", "true"), ("communicator", "local"), ("frontend", "localhost"),
        ("lrms", "cream"), ("vo", "esr")])]

/-- A world that answers what is done one after the other. -/
def answering (outputs : List String) : Outside where
  file := twoSections
  rsl _ := .ok {
    values := [("executable", ".wrapper"), ("stdout", "stdout.wrapper"),
      ("stderr", "stderr.wrapper"), ("count", "1"), ("queue", "long")]
    environment := some [("GW_JOB_ID", "5")] }
  read _ := .ok ""
  reply sent := .ok (outputs[sent.length - 1]?.getD "", "")
  script _ _ := .ok ""
  percent _ text := .ok text
  estate _ := .ok ""

/-- The cluster accepts a job. -/
def atMeteo : Outside := answering ["/home/u/jobs\n", "", "", "17.meteo\n"]

/-- A site of the VO accepts a job. -/
def atSite : Outside :=
  answering ["/home/u/jobs\n", "", "", "succesfully delegated",
    "https://ce01.site.es:8443/CREAM123\n"]

/-- The communicator of both resources. -/
def onLocalhost : Communicator where
  module := "drm4g.communicators.local"
  username := none
  frontend := some "localhost"
  private_key := none
  public_key := none
  work_directory := "/home/u/.drm4g/jobs"

/-- A job of the cluster. -/
def meteoJob : Job where
  manager := .pbs
  name := "meteo"
  resfeatures := 0
  communicator := onLocalhost
  jobId := "17.meteo"

/-- A job of the VO, on one of its sites. -/
def voJob : Job where
  manager := .cream
  name := "esrvo"
  resfeatures := 1
  communicator := onLocalhost
  jobId := "https://ce01.site.es:8443/CREAM123"
  local_output_directory := some "/home/u/jobs"

lemma meteo_accepted : Accepted anywhere atMeteo "meteo" "5" "meteo/pbs"
    "/var/5/job.rsl.0" "meteo:17.meteo" (start twoSections) meteoJob where
  cut := ⟨"pbs", by decide⟩
  answered := by decide
  stored := by decide

lemma vo_accepted : Accepted anywhere atSite
    "esrvo::ce01.site.es" "5" "esrvo::ce01.site.es/cream-pbs" "/var/5/job.rsl.0"
    "esrvo::ce01.site.es:https://ce01.site.es:8443/CREAM123" (start twoSections) voJob where
  cut := ⟨"cream-pbs", by decide⟩
  answered := by decide
  stored := by decide

theorem contact_recovers_meteo :
    Recovers anywhere atMeteo "meteo:17.meteo" (start twoSections)
      (do_SUBMIT anywhere atMeteo "5" "meteo/pbs" "/var/5/job.rsl.0"
        (start twoSections)).2.heap meteoJob := by
  refine (contact_recovers_iff meteo_accepted ⟨[], ?_⟩ ⟨{ meteoJob with jobId := "None" }, _,
    Prod.ext (by decide) rfl, rfl⟩).2 (by decide)
  decide

/-- The site of a VO is reported with two colons, and the contact is cut at the first of them: what
comes back as the id of the job is not the id that was submitted. -/
theorem vo_contact_lost :
    Accepted anywhere atSite
      "esrvo::ce01.site.es" "5" "esrvo::ce01.site.es/cream-pbs" "/var/5/job.rsl.0"
      "esrvo::ce01.site.es:https://ce01.site.es:8443/CREAM123" (start twoSections) voJob ∧
    "esrvo::ce01.site.es" ∈ hosts .cream "esrvo" [("vo", "esr")] ["ce01.site.es"] ∧
    ¬Recovers anywhere atSite
      "esrvo::ce01.site.es:https://ce01.site.es:8443/CREAM123" (start twoSections)
      (do_SUBMIT anywhere atSite "5"
        "esrvo::ce01.site.es/cream-pbs" "/var/5/job.rsl.0" (start twoSections)).2.heap voJob := by
  refine ⟨vo_accepted, by decide, ?_⟩
  rintro ⟨job', t, rebuilt, address, -⟩
  have ids : (rebuild anywhere atSite
      "esrvo::ce01.site.es:https://ce01.site.es:8443/CREAM123" (start twoSections)).1.toOption.map
        Job.jobId = some ":ce01.site.es:https://ce01.site.es:8443/CREAM123" := by decide
  rw [rebuilt] at ids
  have given : job'.jobId = ":ce01.site.es:https://ce01.site.es:8443/CREAM123" := Option.some.inj ids
  have kept : job'.jobId = voJob.jobId := congrArg Job.Address.jobId address
  rw [given] at kept
  exact absurd kept (by decide)

end Mad

end GridWay.Drm4g
