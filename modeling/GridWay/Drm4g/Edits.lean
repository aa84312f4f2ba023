import GridWay.Drm4g.Independent
import GridWay.Drm4g.Tables
import GridWay.Drm4g.TmMad

/-!
# Edits of the resources file

The resources file is edited while the drivers run. The execution driver reads it again unless its
time has just changed, the transfer driver for every transfer; both keep the communicators that they
made, and neither forgets a section.

* `Site.step`: the edits of the file, the requests of the execution driver and the transfers.
* `Site.Fresh`: a request uses what the file says as it is then.
* `Site.Allowed`: the edits that take nothing back, and the requests that do not follow an edit.
* `Site.fresh_run`: every request of a run whose steps are allowed is fresh.
-/

namespace GridWay.Drm4g

open Proc

/-- The resource that a host names. -/
def resourceOf (host : String) : Option String :=
  if Cut.hasPair ':' host.toList then
    match Py.splitPairs ':' host with
    | [name, _] => some name
    | _ => none
  else some host

/-- The resource that a host belongs to, with its dictionary. -/
def belongs (tells : String → Option Features) (host : String) : Option (String × Features) :=
  (resourceOf host).bind fun name => (tells name).bind fun d =>
    if d.has "cloud_provider" then none else some (name, d)

/-- What the execution driver takes for a host: the resource with its dictionary, its manager and its
communicator. -/
structure Use where
  resource : String
  features : Features
  manager : Manager
  communicator : Communicator
deriving DecidableEq, Repr

/-- What is used for a resource whose communicator is given. -/
def useOf (here : Local) (found : String × Features) (communicator : Option Communicator) :
    Option Use :=
  communicator.bind fun communicator => (Configuration.make_manager here found.2).map fun manager =>
    { resource := found.1, features := found.2, manager, communicator }

/-- What the file says about a host. -/
def File.use (here : Local) (file : File) (host : String) : Option Use :=
  (belongs (Configuration.declared here file) host).bind fun found =>
    useOf here found (Configuration.make_communicator here found.2)

/-- The communicator that the file declares for a host. -/
def File.communicator (here : Local) (file : File) (host : String) : Option Communicator :=
  (belongs (Configuration.declared here file) host).bind fun found =>
    Configuration.make_communicator here found.2

/-- What the execution driver uses for a host. -/
def Mad.uses (here : Local) (o : Outside) (host : String) (s : Mad) : Option Use :=
  match update_resource here o host s with
  | (.ok job, s) =>
    some { resource := job.name, features := s.heap.deref job.resfeatures, manager := job.manager
           communicator := job.communicator }
  | (.error _, _) => none

/-- The communicator that the transfer driver uses for a host. -/
def TmMad.uses (here : Local) (file : File) (host : String) (s : TmMad) : Option Communicator :=
  match (update_com here file host s).1 with
  | .ok communicator => communicator
  | .error _ => none

/-- The host of a request. -/
def Request.host : Request → Option String
  | .submit _ host_jm _ => (Py.splitLast '/' host_jm).map Prod.fst
  | .recover _ host_jm => (Py.splitFirst ':' host_jm).map Prod.fst
  | .poll _ => none
  | .callback => none

/-- A request that is served while the file is the given one. -/
def Round.during (r : Round) (file : File) : Round := { r with outside := { r.outside with file } }

/-- The resources file and the two drivers. -/
structure Site where
  file : File
  em : Mad
  tm : TmMad
deriving DecidableEq, Repr

/-- What happens: the file is edited, or a driver has a request. -/
inductive Site.Event where
  | edit (file : File)
  | em (r : Round)
  | tm (host : String)

/-- The time that an edit gives to the file. -/
def Site.Event.time : Site.Event → Option Nat
  | .edit file => some file.mtime
  | .em _ => none
  | .tm _ => none

namespace Site

/-- The drivers were started. -/
def start (file : File) : Site := { file, em := Mad.start file, tm := TmMad.start file }

def step (here : Local) (s : Site) : Event → Site
  | .edit file => { s with file }
  | .em r => { s with em := s.em.serve here (r.during s.file) }
  | .tm host => { s with tm := (TmMad.update_com here s.file host s.tm).2 }

/-- A request uses what the file says as it is then. The transfer driver finds a host of a VO only when
it has a communicator already; that communicator is the one that the file declares. -/
def Fresh (here : Local) (s : Site) : Event → Prop
  | .edit _ => True
  | .em r => ∀ host, r.request.host = some host →
    s.em.uses here (r.during s.file).outside host = s.file.use here host
  | .tm host =>
    (∀ communicator, s.tm.uses here s.file host = some communicator →
      s.file.communicator here host = some communicator) ∧
    (Cut.hasPair ':' host.toList = false →
      s.tm.uses here s.file host = s.file.communicator here host)

/-- The times of the file in a run: the one at the start and those of the edits. -/
def times (file : File) (evs : List Event) : List Nat := file.mtime :: evs.filterMap Event.time

/-- A file still has the resources that a driver knows, and the communicators that it holds are those
that the file declares. -/
structure Extended (here : Local) (file : File) (resources : Dict String Ref)
    (communicators : Dict String Communicator) : Prop where
  known : ∀ name ∈ resources.keys, name ∈ Configuration.readNames here file.sections
  same : ∀ e ∈ communicators, ∀ d, Configuration.declared here file e.1 = some d →
    Configuration.make_communicator here d = some e.2

/-- What the execution driver holds about the resource of a host is what the file says. -/
def Current (here : Local) (s : Site) (host : String) : Prop :=
  ∀ name, resourceOf host = some name →
    (Configuration.table (s.em.configure, s.em.heap)).get name =
      Configuration.declared here s.file name

instance decidableSome {α : Type} (o : Option α) (p : α → Prop) [DecidablePred p] :
    Decidable (∀ a, o = some a → p a) :=
  match o with
  | none => isTrue fun _ eq => nomatch eq
  | some a => decidable_of_iff (p a) (by simp)

instance (here : Local) (file : File) (resources : Dict String Ref)
    (communicators : Dict String Communicator) :
    Decidable (Extended here file resources communicators) :=
  decidable_of_iff ((∀ name ∈ resources.keys, name ∈ Configuration.readNames here file.sections) ∧
      ∀ e ∈ communicators, ∀ d, Configuration.declared here file e.1 = some d →
        Configuration.make_communicator here d = some e.2)
    ⟨fun h => ⟨h.1, h.2⟩, fun h => ⟨h.known, h.same⟩⟩

instance (here : Local) (s : Site) (host : String) : Decidable (s.Current here host) := by
  unfold Current
  infer_instance

/-- The steps after which the drivers are still fresh: an edit that deletes no section that a driver
has read and changes no communicator that a driver holds, a request to the execution driver that does
not follow an edit of its section, and any transfer. -/
def Allowed (here : Local) (s : Site) : Event → Prop
  | .edit file => Extended here file s.em.configure.resources s.em.communicators ∧
    Extended here file s.tm.configure.resources s.tm.communicator
  | .em r => ∀ host, r.request.host = some host →
    s.em.Rereads (r.during s.file).outside ∨ s.Current here host
  | .tm _ => True

instance (here : Local) (s : Site) (e : Event) : Decidable (s.Allowed here e) := by
  unfold Allowed
  cases e <;> infer_instance

instance (here : Local) (s : Site) (e : Event) : Decidable (s.Fresh here e) := by
  unfold Fresh
  cases e <;> infer_instance

end Site

variable {here : Local} {o : Outside} {host : String} {file : File} {tells : String → Option Features}
variable {resources : Dict String Ref} {heap : Heap}

section Search

lemma belongs_none : belongs (fun _ => none) host = none := by
  rw [belongs]
  cases resourceOf host with
  | none => rfl
  | some name => rfl

/-- A resource that is not the one of the host, or that is a cloud, is passed over. -/
lemma belongs_cons {name : String} {d : Features} {t : Dict String Features}
    (fresh : name ∉ t.keys) :
    belongs (Dict.get ((name, d) :: t)) host =
      if resourceOf host = some name ∧ d.has "cloud_provider" = false then some (name, d)
      else belongs t.get host := by
  rw [belongs, belongs]
  cases resourceOf host with
  | none => rw [if_neg (by simp)]; rfl
  | some n =>
    show (Dict.get ((name, d) :: t) n).bind _ = _
    rw [Dict.get]
    by_cases same : name = n
    · subst same
      rw [if_pos rfl]
      cases cloud : d.has "cloud_provider" with
      | false =>
        rw [if_pos ⟨rfl, rfl⟩]
        show (if d.has "cloud_provider" = true then none else some (name, d)) = _
        rw [cloud]
        rfl
      | true =>
        rw [if_neg (by simp)]
        show (if d.has "cloud_provider" = true then none else some (name, d)) = _
        rw [if_pos cloud]
        show none = (t.get name).bind _
        rw [Dict.get_eq_none fresh]
        rfl
    · rw [if_neg same, if_neg fun h => same (Option.some.inj h.1).symm]
      rfl

/-- The first resource of a table whose dictionaries lie on a heap. -/
lemma belongs_resource {name : String} {r : Ref}
    (names : (Dict.keys ((name, r) :: resources)).Nodup) :
    belongs (Dict.get (Dict.mapValues heap.deref ((name, r) :: resources))) host =
      if resourceOf host = some name ∧ (heap.deref r).has "cloud_provider" = false then
        some (name, heap.deref r)
      else belongs (Dict.get (Dict.mapValues heap.deref resources)) host := by
  have fresh : name ∉ Dict.keys (Dict.mapValues heap.deref resources) := by
    rw [Dict.keys_mapValues]
    exact (List.nodup_cons.1 names).1
  exact belongs_cons fresh

/-- A host that names a resource of a VO badly names none. -/
lemma resourceOf_many (vo : Cut.hasPair ':' host.toList = true)
    (many : ∀ first second, Py.splitPairs ':' host ≠ [first, second]) : resourceOf host = none := by
  rw [resourceOf, if_pos vo]
  split
  · next first second pieces => exact absurd pieces (many first second)
  · rfl

lemma resourceOf_pair {first second : String} (vo : Cut.hasPair ':' host.toList = true)
    (pieces : Py.splitPairs ':' host = [first, second]) : resourceOf host = some first := by
  rw [resourceOf, if_pos vo, pieces]

lemma belongs_of_none (nothing : resourceOf host = none) : belongs tells host = none := by
  rw [belongs, nothing]
  rfl

/-- The search of the execution driver, on tables. -/
lemma findResource_eq (host : String) (names : (Dict.keys resources).Nodup) :
    (Mad.findResource heap host resources).toOption.map (fun e => (e.1, heap.deref e.2)) =
      belongs (Dict.get (Dict.mapValues heap.deref resources)) host := by
  induction resources with
  | nil =>
    rw [belongs]
    cases resourceOf host with
    | none => rfl
    | some name => rfl
  | cons e resources ih =>
    obtain ⟨name, r⟩ := e
    have later := ih (List.nodup_cons.1 names).2
    rw [belongs_resource names, Mad.findResource]
    by_cases cloud : (heap.deref r).has "cloud_provider" = true
    · rw [if_pos cloud, if_neg fun h => absurd cloud (Bool.eq_false_iff.1 h.2)]
      exact later
    · have plain : (heap.deref r).has "cloud_provider" = false := Bool.eq_false_iff.2 cloud
      rw [if_neg cloud, plain]
      by_cases vo : Cut.hasPair ':' host.toList = true
      · rw [if_pos vo]
        split
        · next first second pieces =>
          rw [resourceOf_pair vo pieces]
          by_cases other : name = first
          · rw [if_neg (not_not.2 other), if_pos ⟨by rw [other], rfl⟩]
            rfl
          · rw [if_pos other, if_neg fun h => other (Option.some.inj h.1).symm]
            exact later
        · next many =>
          have nothing := resourceOf_many vo many
          rw [if_neg fun h => (by cases nothing.symm.trans h.1), belongs_of_none nothing]
          rfl
      · have single : resourceOf host = some host := if_neg vo
        rw [if_neg vo, single]
        by_cases other : name = host
        · rw [if_neg (not_not.2 other), if_pos ⟨by rw [other], rfl⟩]
          rfl
        · rw [if_pos other, if_neg fun h => other (Option.some.inj h.1).symm]
          exact later

variable {name : String} {d : Features} {s t : TmMad}

lemma get_bind_tm {β : Type} {f : TmMad → Proc TmMad β} : (get >>= f) t = f t t := rfl

lemma cached_run : TmMad.cached name t = match t.communicator.get name with
    | some communicator => (.ok communicator, t)
    | none => (.error (Py.keyError name), t) := by
  unfold TmMad.cached
  rw [run_bind, run_get]
  dsimp only
  cases t.communicator.get name with
  | none => rfl
  | some communicator => rfl

lemma make_run : TmMad.make here name d t =
    match t.communicator.get name, Configuration.make_communicator here d with
    | some _, _ => (.ok ⟨⟩, t)
    | none, none => (.error (Py.keyError name), t)
    | none, some communicator =>
      (.ok ⟨⟩, { t with communicator := t.communicator.set name communicator }) := by
  unfold TmMad.make
  rw [run_bind, run_get]
  dsimp only
  cases t.communicator.get name with
  | some communicator => rfl
  | none =>
    cases Configuration.make_communicator here d with
    | none => rfl
    | some communicator => rfl

/-- What the transfer driver does with the resource of a host. -/
def take (here : Local) (host : String) (found : String × Features) :
    Proc TmMad (Option Communicator) :=
  if Cut.hasPair ':' host.toList then do
    return some (← TmMad.cached found.1)
  else do
    TmMad.make here found.1 found.2
    return some (← TmMad.cached found.1)

/-- The search of the transfer driver, on tables. -/
lemma search_eq (here : Local) (host : String) (names : (Dict.keys resources).Nodup) :
    match belongs (Dict.get (Dict.mapValues t.heap.deref resources)) host with
    | some found => TmMad.search here host resources t = take here host found t
    | none => (TmMad.search here host resources t).2 = t ∧
        ∀ communicator, (TmMad.search here host resources t).1 ≠ .ok (some communicator) := by
  induction resources with
  | nil =>
    have empty : belongs (Dict.get (Dict.mapValues t.heap.deref [])) host = none := by
      rw [belongs]
      cases resourceOf host with
      | none => rfl
      | some name => rfl
    rw [empty]
    exact ⟨rfl, fun communicator h => by cases h⟩
  | cons e resources ih =>
    obtain ⟨name, r⟩ := e
    have later := ih (List.nodup_cons.1 names).2
    rw [belongs_resource names, TmMad.search, get_bind_tm]
    by_cases cloud : (t.heap.deref r).has "cloud_provider" = true
    · rw [if_pos cloud, if_neg fun h => absurd cloud (Bool.eq_false_iff.1 h.2)]
      exact later
    · have plain : (t.heap.deref r).has "cloud_provider" = false := Bool.eq_false_iff.2 cloud
      rw [if_neg cloud, plain]
      by_cases vo : Cut.hasPair ':' host.toList = true
      · rw [if_pos vo]
        by_cases two : ∃ first second, Py.splitPairs ':' host = [first, second]
        · obtain ⟨first, second, pieces⟩ := two
          rw [resourceOf_pair vo pieces, pieces]
          dsimp only
          by_cases other : name = first
          · rw [if_neg (not_not.2 other), if_pos ⟨by rw [other], rfl⟩]
            show _ = take here host (name, t.heap.deref r) t
            rw [take, if_pos vo]
          · rw [if_pos other, if_neg fun h => other (Option.some.inj h.1).symm]
            exact later
        · have many : ∀ first second, Py.splitPairs ':' host ≠ [first, second] := by
            intro first second pieces
            exact two ⟨first, second, pieces⟩
          have nothing := resourceOf_many vo many
          rw [if_neg fun h => (by cases nothing.symm.trans h.1), belongs_of_none nothing]
          match pieces : Py.splitPairs ':' host with
          | [] => exact ⟨rfl, fun communicator h => by cases h⟩
          | [first] => exact ⟨rfl, fun communicator h => by cases h⟩
          | [first, second] => exact absurd pieces (many first second)
          | first :: second :: third :: rest => exact ⟨rfl, fun communicator h => by cases h⟩
      · have single : resourceOf host = some host := if_neg vo
        rw [if_neg vo, single]
        by_cases other : name = host
        · rw [if_neg (not_not.2 other), if_pos ⟨by rw [other], rfl⟩]
          show _ = take here host (name, t.heap.deref r) t
          rw [take, if_neg vo]
        · rw [if_pos other, if_neg fun h => other (Option.some.inj h.1).symm]
          exact later

end Search

namespace Mad

variable {s s₁ : Mad} {name : String} {d : Features} {found : String × Features}

/-- The resources of the driver. -/
def table (s : Mad) : String → Option Features := (Configuration.table (s.configure, s.heap)).get

/-- No two resources of the driver share a dictionary. -/
def Apart (s : Mad) : Prop := Configuration.Apart (s.configure, s.heap)

lemma communicatorOf_run : communicatorOf here name d s =
    match s.communicators.get name, Configuration.make_communicator here d with
    | some communicator, _ => (.ok communicator, s)
    | none, none => (.error (Py.keyError name), s)
    | none, some communicator =>
      (.ok communicator, { s with communicators := s.communicators.set name communicator }) := by
  unfold communicatorOf
  rw [run_bind, run_get]
  dsimp only
  cases s.communicators.get name with
  | some communicator => rfl
  | none =>
    cases Configuration.make_communicator here d with
    | none => rfl
    | some communicator => rfl

/-- A request that found the file in order. -/
lemma uses_of_reload (apart : s₁.Apart) (done : reload here o s = (.ok ⟨⟩, s₁)) :
    s.uses here o host = (belongs s₁.table host).bind fun found => useOf here found
      ((s₁.communicators.get found.1).or (Configuration.make_communicator here found.2)) := by
  have tables : belongs s₁.table host = _ := (findResource_eq host apart.names).symm
  unfold uses update_resource
  rw [bind_of_ok done, get_bind]
  cases search : findResource s₁.heap host s₁.configure.resources with
  | error err =>
    rw [search] at tables
    rw [tables]
    rfl
  | ok e =>
    obtain ⟨name, r⟩ := e
    rw [search] at tables
    rw [tables, raising_bind]
    show _ = useOf here (name, s₁.heap.deref r) ((s₁.communicators.get name).or
      (Configuration.make_communicator here (s₁.heap.deref r)))
    unfold useOf managerOf
    dsimp only
    rw [run_bind, communicatorOf_run]
    cases s₁.communicators.get name with
    | some communicator =>
      cases Configuration.make_manager here (s₁.heap.deref r) with
      | none => rfl
      | some manager => rfl
    | none =>
      cases Configuration.make_communicator here (s₁.heap.deref r) with
      | none => rfl
      | some communicator =>
        cases Configuration.make_manager here (s₁.heap.deref r) with
        | none => rfl
        | some manager => rfl

lemma uses_of_error {err : String} (raised : reload here o s = (.error err, s₁)) :
    s.uses here o host = none := by
  unfold uses update_resource
  rw [bind_of_error raised]

/-- The communicators after a request: those that were there before, and the one that was made for the
resource of the host. -/
lemma update_resource_communicators (apart : s₁.Apart) (done : reload here o s = (.ok ⟨⟩, s₁)) :
    ∀ e ∈ (update_resource here o host s).2.communicators, e ∈ s₁.communicators ∨
      ∃ d, belongs s₁.table host = some (e.1, d) ∧
        Configuration.make_communicator here d = some e.2 := by
  have tables : belongs s₁.table host = _ := (findResource_eq host apart.names).symm
  intro e mem
  unfold update_resource at mem
  rw [bind_of_ok done, get_bind] at mem
  cases search : findResource s₁.heap host s₁.configure.resources with
  | error err =>
    rw [search] at mem
    exact .inl mem
  | ok f =>
    obtain ⟨name, r⟩ := f
    rw [search] at tables mem
    rw [raising_bind] at mem
    have after : (communicatorOf here name (s₁.heap.deref r) s₁).2.communicators = s₁.communicators ∨
        ∃ communicator, Configuration.make_communicator here (s₁.heap.deref r) = some communicator ∧
          (communicatorOf here name (s₁.heap.deref r) s₁).2.communicators =
            s₁.communicators.set name communicator := by
      rw [communicatorOf_run]
      cases s₁.communicators.get name with
      | some communicator => exact .inl rfl
      | none =>
        cases Configuration.make_communicator here (s₁.heap.deref r) with
        | none => exact .inl rfl
        | some communicator => exact .inr ⟨communicator, rfl, rfl⟩
    have kept (f : Communicator → M Job) (keeps : ∀ a, Keeps Mad.communicators (f a)) :
        ((communicatorOf here name (s₁.heap.deref r) >>= f) s₁).2.communicators =
          (communicatorOf here name (s₁.heap.deref r) s₁).2.communicators := keeps_after keeps s₁
    rw [kept] at mem
    · obtain same | ⟨communicator, made, same⟩ := after
      · rw [same] at mem
        exact .inl mem
      · rw [same] at mem
        obtain rfl | ⟨old, -⟩ := Dict.mem_set mem
        · exact .inr ⟨_, tables, made⟩
        · exact .inl old
    · intro communicator
      apply keeps_bind raising_keeps
      intro manager
      exact keeps_pure

/-- What a driver holds from one request to the next. -/
def held (s : Mad) : Configuration × Nat × Dict String Communicator :=
  (s.configure, s.heap.length, s.communicators)

lemma inner_held : Inner held := fun _ _ => rfl

lemma held_eq {t : Mad} (same : held t = held s) : t.configure = s.configure ∧
    t.heap.length = s.heap.length ∧ t.communicators = s.communicators := by
  simpa only [held, Prod.mk.injEq] using same

lemma noteSite_keeps {job : Job} {jm rslPath : String} {rsl : Rsl} :
    Keeps held (noteSite job host jm rslPath rsl) := by
  have writes {key value : String} : Keeps held (setFeature job key value) := by
    apply keeps_modify
    intro s
    rw [held, held, Heap.length_write]
  apply keeps_bind keeps_get
  intro s
  dsimp only
  split
  · split
    · apply keeps_bind writes
      intro _
      apply keeps_bind writes
      intro _
      apply keeps_bind writes
      intro _
      apply keeps_bind raising_keeps
      intro queue
      exact writes
    · exact keeps_throw
  · exact keeps_pure

lemma launch_keeps {job : Job} {rslPath : String} {rsl : Rsl} :
    Keeps held (launch here o rslPath job rsl) := by
  unfold launch
  dsimp only
  apply keeps_bind raising_keeps
  intro executable
  apply keeps_bind
  · apply Job.jobTemplate_keeps
    intro s files
    rfl
  · intro p
    apply keeps_bind (createWrapper_keeps inner_held)
    intro _
    apply keeps_bind (copyWrapper_keeps inner_held)
    intro _
    apply keeps_bind (Job.jobSubmit_keeps inner_held)
    intro jobId
    exact keeps_pure

lemma describe_held {jm rslPath : String} :
    held (describe here o host jm rslPath s).2 = held (update_resource here o host s).2 := by
  apply keeps_after
  intro job
  apply keeps_bind raising_keeps
  intro rsl
  apply keeps_bind keeps_get
  intro s
  apply keeps_bind noteSite_keeps
  intro _
  apply keeps_bind (locate_keeps inner_held)
  intro located
  exact keeps_pure

lemma answer_held {operation jid : String} {work : M String} :
    held (answer operation jid work s).2 = held (work s).2 := by
  cases result : work s with
  | mk r t =>
    cases r with
    | ok line =>
      rw [answer_of_ok result]
      rfl
    | error err =>
      rw [answer_of_error result]
      rfl

lemma do_SUBMIT_held {jid host_jm rslPath : String} :
    held (do_SUBMIT here o jid host_jm rslPath s).2 =
      match (Py.splitLast '/' host_jm).map Prod.fst with
      | some host => held (update_resource here o host s).2
      | none => held s := by
  have submitted : held (do_SUBMIT here o jid host_jm rslPath s).2 =
      held (submit here o jid host_jm rslPath s).2 := by
    rw [do_SUBMIT, answer_held]
    apply keeps_after
    intro p
    exact keeps_pure
  rw [submitted, submit]
  cases Py.splitLast '/' host_jm with
  | none => rfl
  | some p =>
    obtain ⟨host, jm⟩ := p
    refine Eq.trans (keeps_after ?_ s) describe_held
    intro described
    apply keeps_bind launch_keeps
    intro job
    apply keeps_bind
    · apply keeps_modify
      intro s
      rfl
    · intro _
      exact keeps_pure

lemma do_RECOVER_held {jid host_jm : String} :
    held (do_RECOVER here o jid host_jm s).2 =
      match (Py.splitFirst ':' host_jm).map Prod.fst with
      | some host => held (update_resource here o host s).2
      | none => held s := by
  have rebuilt : held (do_RECOVER here o jid host_jm s).2 = held (rebuild here o host_jm s).2 := by
    rw [do_RECOVER, answer_held]
    apply keeps_after
    intro job
    apply keeps_bind (refreshJobStatus_keeps inner_held)
    intro job
    apply keeps_bind
    · apply keeps_modify
      intro s
      rfl
    · intro _
      exact keeps_pure
  rw [rebuilt, rebuild]
  cases Py.splitFirst ':' host_jm with
  | none => rfl
  | some p =>
    obtain ⟨host, id⟩ := p
    apply keeps_after
    intro job
    exact keeps_pure

lemma stdout_keeps {line : String} : Keeps held (stdout line) := by
  apply keeps_modify
  intro s
  rfl

lemma report_keeps {jid : String} {oldStatus newStatus : Option String} :
    Keeps held (report jid oldStatus newStatus) := by
  unfold report
  split
  · apply keeps_bind
    · unfold retire
      split
      · apply keeps_modify
        intro s
        rfl
      · exact keeps_pure
    · intro _
      exact stdout_keeps
  · exact keeps_pure

lemma callback_keeps {jid : String} {job : Job} : Keeps held (callback here o jid job) := by
  apply keeps_handle
  · apply keeps_bind (refreshJobStatus_keeps inner_held)
    intro job'
    apply keeps_bind
    · apply keeps_modify
      intro s
      rfl
    · intro _
      exact report_keeps
  · intro err
    exact stdout_keeps

lemma callbacks_keeps (jobs : Dict String Job) : Keeps held (callbacks here o jobs) := by
  induction jobs with
  | nil => exact keeps_pure
  | cons e jobs ih =>
    apply keeps_bind callback_keeps
    intro _
    exact ih

lemma do_POLL_keeps {jid : String} : Keeps held (do_POLL jid) := by
  apply keeps_bind keeps_get
  intro s
  split
  · exact stdout_keeps
  · exact stdout_keeps

/-- Serving a request changes what the driver holds as the search for its host does. -/
lemma serve_held (s : Mad) (here : Local) (r : Round) : held (s.serve here r) =
    match r.request.host with
    | some host => held (update_resource here r.outside host s).2
    | none => held s := by
  obtain ⟨request, o⟩ := r
  cases request with
  | submit jid host_jm rslPath => exact do_SUBMIT_held
  | recover jid host_jm => exact do_RECOVER_held
  | poll jid => exact do_POLL_keeps s
  | callback => exact keeps_bind keeps_get (fun s => callbacks_keeps s.job_list) s

end Mad

section Extended

variable {name : String} {d : Features} {communicators : Dict String Communicator}
variable {tells' : String → Option Features}

lemma belongs_some (found : belongs tells host = some (name, d)) :
    resourceOf host = some name ∧ tells name = some d := by
  rw [belongs] at found
  obtain ⟨n, named, found⟩ := Option.bind_eq_some_iff.1 found
  obtain ⟨d', told, found⟩ := Option.bind_eq_some_iff.1 found
  split at found
  · cases found
  · cases found
    exact ⟨named, told⟩

lemma belongs_congr (same : ∀ name, resourceOf host = some name → tells name = tells' name) :
    belongs tells host = belongs tells' host := by
  rw [belongs, belongs]
  cases named : resourceOf host with
  | none => rfl
  | some name =>
    show (tells name).bind _ = (tells' name).bind _
    rw [same name named]

/-- A communicator that a driver holds for a resource of the file is the one that would be made. -/
lemma Site.Extended.held_eq (extended : Site.Extended here file resources communicators)
    (told : Configuration.declared here file name = some d) {communicator : Communicator}
    (holds : communicators.get name = some communicator) :
    Configuration.make_communicator here d = some communicator :=
  extended.same (name, communicator) (Dict.mem_of_get holds) d told

lemma Site.Extended.or_eq (extended : Site.Extended here file resources communicators)
    (told : Configuration.declared here file name = some d) :
    (communicators.get name).or (Configuration.make_communicator here d) =
      Configuration.make_communicator here d := by
  cases holds : communicators.get name with
  | none => rfl
  | some communicator =>
    rw [extended.held_eq told holds]
    rfl

/-- Only the names of the resources and the number of dictionaries matter. -/
lemma Configuration.Apart.congr {c c' : Configuration × Heap} (apart : Configuration.Apart c)
    (resources : c'.1.resources = c.1.resources) (length : c'.2.length = c.2.length) :
    Configuration.Apart c' where
  inside e mem := by
    rw [resources] at mem
    rw [length]
    exact apart.inside e mem
  names := by
    rw [resources]
    exact apart.names
  refs e mem f mem' := by
    rw [resources] at mem mem'
    exact apart.refs e mem f mem'

end Extended

namespace Mad

variable {s s₁ : Mad}

/-- The driver knows nothing that the file does not say. -/
structure Good (here : Local) (file : File) (s : Mad) : Prop where
  apart : s.Apart
  extended : Site.Extended here file s.configure.resources s.communicators

lemma reload_of_not_rereads_ok (reads : ¬Rereads s o) : (reload here o s).1 = .ok ⟨⟩ := by
  have now : ¬(!(s.configure.check_update o.file).1 ||
      (s.configure.check_update o.file).2.resources.isEmpty) = true := by
    rw [check_update_resources]
    intro reread
    apply reads
    rw [Bool.or_eq_true, Bool.not_eq_true', List.isEmpty_iff] at reread
    exact reread
  unfold reload
  rw [run_bind, run_get]
  dsimp only
  rw [if_neg now]
  rfl

lemma reload_error {err : String} (reads : Rereads s o) (raised : (reload here o s).1 = .error err) :
    (checked here o s).1 ≠ .ok [] := by
  have now : (!(s.configure.check_update o.file).1 ||
      (s.configure.check_update o.file).2.resources.isEmpty) = true := by
    rw [check_update_resources]
    obtain same | none_read := reads
    · rw [same]
      rfl
    · rw [none_read]
      exact Bool.or_true _
  unfold reload at raised
  rw [run_bind, run_get] at raised
  dsimp only at raised
  rw [if_pos now, bind_of_ok run_set, ← loaded, ← checked] at raised
  intro passed
  rw [passed] at raised
  cases raised

lemma Good.congr {t : Mad} (good : s.Good here file) (same : held t = held s) :
    t.Good here file := by
  obtain ⟨configure, length, communicators⟩ := held_eq same
  refine ⟨?_, ?_⟩
  · apply good.apart.congr
    · show t.configure.resources = s.configure.resources
      rw [configure]
    · exact length
  · rw [configure, communicators]
    exact good.extended

/-- What a request finds after the file was brought up to date. -/
lemma reload_good (good : s.Good here o.file)
    (current : s.Rereads o ∨ ∀ name, resourceOf host = some name →
      s.table name = Configuration.declared here o.file name) :
    (reload here o s).2.Good here o.file ∧
      (reload here o s).2.communicators = s.communicators ∧
      ((reload here o s).1 = .ok ⟨⟩ → ∀ name, resourceOf host = some name →
        (reload here o s).2.table name = Configuration.declared here o.file name) ∧
      ((reload here o s).1 ≠ .ok ⟨⟩ → ∀ name, Configuration.declared here o.file name = none) := by
  by_cases reads : s.Rereads o
  · have before : Configuration.Apart ((s.configure.check_update o.file).2, s.heap) :=
      good.apart.congr check_update_resources rfl
    have known : ∀ n ∈ Dict.keys (s.configure.check_update o.file).2.resources,
        n ∈ Configuration.readNames here o.file.sections := by
      rw [check_update_resources]
      exact good.extended.known
    obtain ⟨told, failed⟩ := Configuration.check_declared (c := (_, s.heap)) before known rfl
    have error := @reload_error here o s
    obtain ⟨same, passed⟩ := @reload_of_rereads here o s reads
    rw [same]
    refine ⟨⟨?_, ?_, ?_⟩, rfl, ?_, ?_⟩
    · have read := (Configuration.load_table here o.file.sections before).1
      apply read.congr
      · rfl
      · exact (Configuration.check_extends here _ _).2
    · intro name mem
      obtain new | old := Configuration.mem_load before mem
      · exact new
      · exact known name old
    · exact good.extended.same
    · intro ok name _
      exact told (passed ok) name
    · intro notOk
      apply failed
      cases result : (reload here o s).1 with
      | ok _ => exact absurd result notOk
      | error err => exact error reads result
  · have same := @reload_of_not_rereads here o s reads
    have ok : (reload here o s).1 = .ok ⟨⟩ := reload_of_not_rereads_ok reads
    have still : s.Apart := good.apart
    rw [same]
    refine ⟨⟨?_, ?_⟩, rfl, ?_, fun notOk => absurd ok notOk⟩
    · exact still.congr check_update_resources rfl
    · refine ⟨?_, good.extended.same⟩
      show ∀ name ∈ Dict.keys (s.configure.check_update o.file).2.resources, _
      rw [check_update_resources]
      exact good.extended.known
    · intro _ name named
      have kept : table { s with configure := (s.configure.check_update o.file).2 } = s.table := by
        rw [table, table, Configuration.table, Configuration.table]
        dsimp only
        rw [check_update_resources]
      rw [kept]
      exact (current.resolve_left reads) name named

/-- A request to the execution driver. -/
lemma request_good (good : s.Good here o.file)
    (current : s.Rereads o ∨ ∀ name, resourceOf host = some name →
      s.table name = Configuration.declared here o.file name) :
    s.uses here o host = o.file.use here host ∧
      (update_resource here o host s).2.Good here o.file := by
  obtain ⟨good', same, told, failed⟩ := reload_good good current
  cases done : reload here o s with
  | mk result s₁ =>
    rw [done] at good' same told failed
    cases result with
    | error err =>
      have nothing : ∀ name, Configuration.declared here o.file name = none :=
        failed fun h => (by cases h)
      constructor
      · rw [uses_of_error done, File.use, funext nothing, belongs_none]
        rfl
      · have raised : update_resource here o host s = (.error err, s₁) := by
          unfold update_resource
          exact bind_of_error done
        rw [raised]
        exact good'
    | ok _ =>
      have agree : belongs s₁.table host = belongs (Configuration.declared here o.file) host :=
        belongs_congr (told rfl)
      constructor
      · rw [uses_of_reload good'.apart done, File.use, agree]
        cases found : belongs (Configuration.declared here o.file) host with
        | none => rfl
        | some e =>
          obtain ⟨name, d⟩ := e
          have told_d := (belongs_some found).2
          show useOf here (name, d) ((s₁.communicators.get name).or _) = useOf here (name, d) _
          rw [good'.extended.or_eq told_d]
      · have ground : ground (update_resource here o host s).2 = Mad.ground s₁ := by
          rw [update_resource_ground, done]
        obtain ⟨configure, heap, -, -⟩ := ground_eq ground
        refine ⟨?_, ?_, ?_⟩
        · apply good'.apart.congr
          · show (update_resource here o host s).2.configure.resources = _
            rw [configure]
          · show (update_resource here o host s).2.heap.length = _
            rw [heap]
        · rw [configure]
          exact good'.extended.known
        · intro e mem d told_d
          obtain old | ⟨d', found, made⟩ := update_resource_communicators good'.apart done e mem
          · exact good'.extended.same e old d told_d
          · rw [agree] at found
            have eq := (belongs_some found).2
            rw [told_d] at eq
            cases eq
            exact made

end Mad

namespace TmMad

variable {s s₁ : TmMad}

/-- The driver knows nothing that the file does not say. -/
structure Good (here : Local) (file : File) (s : TmMad) : Prop where
  apart : Configuration.Apart (s.configure, s.heap)
  extended : Site.Extended here file s.configure.resources s.communicator

/-- The driver after the file was read. -/
def loaded (here : Local) (file : File) (s : TmMad) : Configuration × Heap :=
  Configuration.load here file.sections (s.configure, s.heap)

/-- The check of the file that was read. -/
def checked (here : Local) (file : File) (s : TmMad) : Except String (List String) × Heap :=
  Configuration.check here (loaded here file s).1.resources (loaded here file s).2

lemma reload_run : (reload here file s).2 =
      { s with configure := (loaded here file s).1, heap := (checked here file s).2 } ∧
    ((reload here file s).1 = .ok ⟨⟩ ↔ (checked here file s).1 = .ok []) := by
  unfold reload
  rw [get_bind_tm]
  dsimp only
  rw [bind_of_ok run_set, ← loaded, ← checked]
  cases (checked here file s).1 with
  | error err => exact ⟨rfl, fun h => (by cases h), fun h => (by cases h)⟩
  | ok errors =>
    cases errors with
    | nil => exact ⟨rfl, fun _ => rfl, fun _ => rfl⟩
    | cons err errors => exact ⟨rfl, fun h => (by cases h), fun h => (by cases h)⟩

/-- What a transfer finds after the file was read. -/
lemma reload_good (good : s.Good here file) :
    (reload here file s).2.Good here file ∧
      ((reload here file s).1 = .ok ⟨⟩ →
        (Configuration.table ((reload here file s).2.configure, (reload here file s).2.heap)).get =
          Configuration.declared here file) ∧
      ((reload here file s).1 ≠ .ok ⟨⟩ → ∀ name, Configuration.declared here file name = none) := by
  obtain ⟨same, ok⟩ := @reload_run here file s
  obtain ⟨told, failed⟩ := Configuration.check_declared good.apart good.extended.known rfl
  rw [same]
  refine ⟨⟨?_, ?_, good.extended.same⟩, ?_, fun notOk => failed fun passed => notOk (ok.2 passed)⟩
  · apply (Configuration.load_table here file.sections good.apart).1.congr
    · rfl
    · exact (Configuration.check_extends here _ _).2
  · intro name mem
    obtain new | old := Configuration.mem_load good.apart mem
    · exact new
    · exact good.extended.known name old
  · intro passed
    funext name
    exact told (ok.1 passed) name

/-- What is done with the resource of a host. -/
lemma take_good (host : String) {name : String} {d : Features} (good : s.Good here file)
    (told : Configuration.declared here file name = some d) :
    (∀ communicator, (take here host (name, d) s).1 = .ok (some communicator) →
        Configuration.make_communicator here d = some communicator) ∧
      (Cut.hasPair ':' host.toList = false →
        ∀ communicator, Configuration.make_communicator here d = some communicator →
          (take here host (name, d) s).1 = .ok (some communicator)) ∧
      (take here host (name, d) s).2.Good here file := by
  unfold take
  by_cases vo : Cut.hasPair ':' host.toList = true
  · rw [if_pos vo, run_bind, cached_run]
    dsimp only
    cases holds : s.communicator.get name with
    | none => exact ⟨fun _ h => (by cases h), fun single => absurd vo (Bool.eq_false_iff.1 single), good⟩
    | some communicator =>
      refine ⟨?_, fun single => absurd vo (Bool.eq_false_iff.1 single), good⟩
      intro communicator' h
      cases h
      exact good.extended.held_eq told holds
  · rw [if_neg vo, run_bind, make_run]
    dsimp only
    cases holds : s.communicator.get name with
    | some communicator =>
      have made := good.extended.held_eq told holds
      dsimp only
      rw [run_bind, cached_run, holds]
      refine ⟨?_, ?_, good⟩
      · intro communicator' h
        cases h
        exact made
      · intro _ communicator' made'
        rw [made] at made'
        cases made'
        rfl
    | none =>
      cases made : Configuration.make_communicator here d with
      | none => exact ⟨fun _ h => (by cases h), fun _ _ h => (by cases h), good⟩
      | some communicator =>
        dsimp only
        rw [run_bind, cached_run]
        dsimp only
        rw [Dict.get_set_self]
        refine ⟨?_, ?_, good.apart, good.extended.known, ?_⟩
        · intro communicator' h
          cases h
          rfl
        · intro _ communicator' h
          cases h
          rfl
        · intro e mem d' told'
          obtain rfl | ⟨old, -⟩ := Dict.mem_set mem
          · rw [told] at told'
            cases told'
            exact made
          · exact good.extended.same e old d' told'

/-- A transfer. -/
lemma request_good (host : String) (good : s.Good here file) :
    (∀ communicator, s.uses here file host = some communicator →
        file.communicator here host = some communicator) ∧
      (Cut.hasPair ':' host.toList = false →
        s.uses here file host = file.communicator here host) ∧
      (update_com here file host s).2.Good here file := by
  obtain ⟨good', told, failed⟩ := reload_good good
  cases done : reload here file s with
  | mk result s₁ =>
    rw [done] at good' told failed
    cases result with
    | error err =>
      have raised : update_com here file host s = (.error err, s₁) := bind_of_error done
      have nothing := funext (failed fun h => (by cases h))
      unfold uses File.communicator
      rw [raised, nothing, belongs_none]
      exact ⟨fun _ h => (by cases h), fun _ => rfl, good'⟩
    | ok _ =>
      have searched : update_com here file host s =
          search here host s₁.configure.resources s₁ := by
        unfold update_com
        rw [bind_of_ok done, get_bind_tm]
      have found := search_eq here host (t := s₁) good'.apart.names
      have tables : Dict.get (Dict.mapValues s₁.heap.deref s₁.configure.resources) =
          Configuration.declared here file := told rfl
      rw [tables] at found
      unfold uses File.communicator
      rw [searched]
      cases told_so : belongs (Configuration.declared here file) host with
      | none =>
        rw [told_so] at found
        obtain ⟨same, nothing⟩ := found
        refine ⟨?_, ?_, ?_⟩
        · intro communicator answer
          split at answer
          · next result =>
            rw [answer] at result
            exact absurd result (nothing communicator)
          · cases answer
        · intro _
          split
          · next answer result =>
            cases answer with
            | none => rfl
            | some communicator => exact absurd result (nothing communicator)
          · rfl
        · rw [same]
          exact good'
      | some e =>
        obtain ⟨name, d⟩ := e
        rw [told_so] at found
        dsimp only at found
        rw [found]
        obtain ⟨sound, complete, after⟩ := take_good host good' (belongs_some told_so).2
        refine ⟨?_, ?_, after⟩
        · intro communicator answer
          split at answer
          · next result =>
            rw [answer] at result
            exact sound communicator result
          · cases answer
        · intro single
          show _ = Configuration.make_communicator here d
          split
          · next answer result =>
            cases answer with
            | none =>
              cases made : Configuration.make_communicator here d with
              | none => rfl
              | some communicator =>
                rw [complete single communicator made] at result
                cases result
            | some communicator => exact (sound communicator result).symm
          · next err result =>
            cases made : Configuration.make_communicator here d with
            | none => rfl
            | some communicator =>
              rw [complete single communicator made] at result
              cases result

end TmMad

namespace Site

variable {s : Site} {e : Event}

/-- The drivers know nothing that the file does not say. -/
structure Inv (here : Local) (s : Site) : Prop where
  em : s.em.Good here s.file
  tm : s.tm.Good here s.file

lemma start_inv (here : Local) (file : File) : (start file).Inv here where
  em := {
    apart := Configuration.apart_nil _ _
    extended := { known := fun _ mem => (by cases mem), same := fun _ mem => (by cases mem) } }
  tm := {
    apart := Configuration.apart_nil _ _
    extended := { known := fun _ mem => (by cases mem), same := fun _ mem => (by cases mem) } }

/-- An allowed step leaves the drivers with what the file says. -/
lemma Inv.step (inv : s.Inv here) (allowed : s.Allowed here e) : (s.step here e).Inv here := by
  cases e with
  | edit file =>
    obtain ⟨em, tm⟩ := allowed
    exact ⟨⟨inv.em.apart, em⟩, ⟨inv.tm.apart, tm⟩⟩
  | em r =>
    refine ⟨?_, inv.tm⟩
    have same := s.em.serve_held here (r.during s.file)
    have host_same : (r.during s.file).request.host = r.request.host := rfl
    rw [host_same] at same
    cases named : r.request.host with
    | none =>
      rw [named] at same
      exact inv.em.congr same
    | some host =>
      rw [named] at same
      exact (Mad.request_good inv.em (allowed host named)).2.congr same
  | tm host => exact ⟨inv.em, (TmMad.request_good host inv.tm).2.2⟩

/-- An allowed request is fresh. -/
lemma Inv.fresh (inv : s.Inv here) (allowed : s.Allowed here e) : s.Fresh here e := by
  cases e with
  | edit file => exact trivial
  | em r =>
    intro host named
    exact (Mad.request_good inv.em (allowed host named)).1
  | tm host =>
    obtain ⟨sound, complete, -⟩ := TmMad.request_good host inv.tm
    exact ⟨sound, complete⟩

/-- Every request of a run whose steps are allowed uses what the file says as it is then. -/
theorem fresh_run (here : Local) (file : File) (evs : List Event)
    (allowed : Machine.Guarded (step here) (Allowed here) (start file) evs) :
    Machine.Guarded (step here) (Fresh here) (start file) evs := by
  apply Machine.guarded_of_inv (Inv here)
  · intro s e inv allowed
    exact inv.step allowed
  · intro s e inv allowed
    exact inv.fresh allowed
  · exact start_inv here file
  · exact allowed

/-- A recovery of a job on a host. -/
def recovery (host : String) : Event := .em ⟨.recover "5" (host ++ ":17"), Mad.atMeteo⟩

/-- The file with another cluster, and the limit of the first one changed. -/
def grown : File where
  mtime := 2
  sections :=
    [("meteo", [("enable", "true"), ("communicator", "local"), ("frontend", "localhost"),
        ("lrms", "pbs"), ("max_jobs_running", "4")]),
      ("esrvo", [("enable", "true"), ("communicator", "local"), ("frontend", "localhost"),
        ("lrms", "cream"), ("vo", "esr")]),
      ("ui", [("enable", "true"), ("communicator", "local"), ("frontend", "localhost"),
        ("lrms", "fork"), ("max_jobs_running", "1")])]

/-- The file with the cluster at another place and without the VO. -/
def moved : File where
  mtime := 2
  sections :=
    [("meteo", [("enable", "true"), ("communicator", "local"), ("frontend", "node1"),
        ("scratch", "/scratch"), ("lrms", "pbs"), ("max_jobs_running", "8")])]

theorem fresh_grown : Machine.Guarded (step Mad.anywhere) (Fresh Mad.anywhere) (start Mad.twoSections)
    [recovery "meteo", .tm "meteo", .edit grown, .tm "meteo", recovery "esrvo::site",
      recovery "meteo", .tm "ui"] :=
  fresh_run Mad.anywhere Mad.twoSections _ (by decide)

/-- After an edit the execution driver uses the old dictionary, the transfer driver uses the old
communicator, and both find a section that was deleted. -/
theorem stale_after_edit :
    ((times Mad.twoSections [recovery "meteo", .edit moved, recovery "meteo"]).Nodup ∧
      ¬Machine.Guarded (step Mad.anywhere) (Fresh Mad.anywhere) (start Mad.twoSections)
        [recovery "meteo", .edit moved, recovery "meteo"]) ∧
    ((times Mad.twoSections [.tm "meteo", .edit moved, .tm "meteo"]).Nodup ∧
      ¬Machine.Guarded (step Mad.anywhere) (Fresh Mad.anywhere) (start Mad.twoSections)
        [.tm "meteo", .edit moved, .tm "meteo"]) ∧
    ((times Mad.twoSections [.tm "esrvo", .edit moved, .tm "esrvo"]).Nodup ∧
      ¬Machine.Guarded (step Mad.anywhere) (Fresh Mad.anywhere) (start Mad.twoSections)
        [.tm "esrvo", .edit moved, .tm "esrvo"]) ∧
    (times Mad.twoSections [recovery "esrvo", .edit moved, recovery "esrvo", recovery "esrvo"]).Nodup ∧
      ¬Machine.Guarded (step Mad.anywhere) (Fresh Mad.anywhere) (start Mad.twoSections)
        [recovery "esrvo", .edit moved, recovery "esrvo", recovery "esrvo"] := by
  decide

end Site

end GridWay.Drm4g
