import GridWay.Drm4g.Tables

/-!
# The information driver

`drm4g/core/im_mad.py`: a discovery reads the configuration anew and asks each resource for its hosts;
a host is monitored by the first resource that has it.

* `ImMad.do_DISCOVER`, `ImMad.do_MONITOR`: the operations.
* `ImMad.do_DISCOVER_ok`: what the driver holds after a discovery that found no errors.
* `ImMad.search_iff`: the resource that monitors a host.
-/

namespace GridWay.Drm4g

/-- The object of a resource. -/
structure ImResource where
  manager : Manager
  features : Ref
  host_list : List String := []
deriving DecidableEq, Repr

/-- The information driver. A resource whose manager could not be made has no object. -/
structure ImMad where
  configure : Configuration
  heap : Heap := []
  resources : Dict String (Option ImResource) := []
deriving DecidableEq, Repr

namespace ImMad

/-- What the driver asks: whether a resource can be reached, the information system of a VO with a
filter and a server, and the properties of a host. -/
structure World where
  connect : String → Except String Unit
  ldapsearch : String → String → String → Except String (List String)
  host_properties : String → String → Except String String

/-- `make_resources`. -/
def make_resources (here : Local) (c : Configuration × Heap) : Dict String (Option ImResource) :=
  c.1.resources.map fun e =>
    (e.1, (Configuration.make_manager here (c.2.deref e.2)).map fun manager =>
      { manager, features := e.2 })

/-- `_hosts_vo`: the sites of a VO. -/
def hosts_vo (w : World) (name : String) (d : Features) : Except String (List String) := do
  let filt := "(&(objectclass=GlueCE)(GlueCEAccessControlBaseRule=VO:" ++ (d.get "vo").getD "" ++
    ")(GlueCEImplementationName=CREAM)"
  let bdii := (d.get "bdii").getD "$LCG_GFAL_INFOSYS"
  let filters := match d.get "host_filter" with
    | some host_filter => (Py.splitAll ',' host_filter).map fun host =>
      filt ++ "(GlueCEHostingCluster=" ++ Py.strip host ++ "))"
    | none => [filt ++ ")"]
  let result ← filters.mapM fun filt => w.ldapsearch name filt bdii
  return result.flatten.map fun host => name ++ "::" ++ host

/-- `hosts`: the hosts of a resource. -/
def hosts (w : World) (name : String) (manager : Manager) (d : Features) :
    Except String (List String) :=
  if manager = .cream ∧ d.has "vo" then hosts_vo w name d else .ok [name]

/-- `enable` is `false`. -/
def isFalse (enable : String) : Bool := enable.toLower == "false"

/-- The hosts that a discovery finds in a resource; `none` when the resource is left out, or what it
does raises. Every resource of a configuration without errors has the key `enable`. -/
def found (here : Local) (w : World) (name : String) (d : Features) : Option (List String) :=
  match Configuration.item d "enable" with
  | .error _ => none
  | .ok enable =>
    if isFalse enable then none
    else if d.has "cloud_provider" then none
    else
      match Configuration.make_manager here d, Configuration.make_communicator here d,
        w.connect name with
      | some manager, some _, .ok _ =>
        match hosts w name manager d with
        | .ok list => some list
        | .error _ => none
      | _, _, _ => none

/-- The hosts of a resource are noted in its object. -/
def note (resname : String) (list : List String) (resources : Dict String (Option ImResource)) :
    Dict String (Option ImResource) :=
  resources.map fun e =>
    if e.1 = resname then (e.1, e.2.map fun r => { r with host_list := list }) else e

/-- The body of the loop over the resources. -/
def visit (here : Local) (w : World) (c : Configuration × Heap)
    (s : String × Dict String (Option ImResource)) (resname : String) :
    String × Dict String (Option ImResource) :=
  match (c.1.resources.get resname).bind fun r => found here w resname (c.2.deref r) with
  | some list => (s.1 ++ " " ++ Py.joinWith " " list, note resname list s.2)
  | none => s

/-- `sorted`. -/
def sorted (names : List String) : List String := names.mergeSort fun a b => decide (a ≤ b)

/-- `do_DISCOVER`: the hosts, or the error. -/
def do_DISCOVER (here : Local) (w : World) (file : File) (s : ImMad) :
    Except String String × ImMad :=
  let c := Configuration.load here file.sections (⟨[], file.mtime⟩, [])
  let (errors, heap) := Configuration.check here c.1.resources c.2
  let s := { s with configure := c.1, heap }
  match errors with
  | .error err => (.error err, s)
  | .ok (err :: errors) => (.error (Py.joinWith " " (err :: errors)), s)
  | .ok [] =>
    let resources := make_resources here (c.1, heap)
    let (hosts, resources) := (sorted resources.keys).foldl (visit here w (c.1, heap)) ("", resources)
    (.ok hosts, { s with resources })

/-- The loop of `do_MONITOR`: the resource that has the host. A resource that is not enabled, or has
no object, raises. -/
def search (c : Configuration × Heap) (HOST : String) :
    Dict String (Option ImResource) → Except String (Option String)
  | [] => .ok none
  | (resname, resdict) :: resources => do
    let d ← match c.1.resources.get resname with
      | some r => Except.ok (c.2.deref r)
      | none => .error (Py.keyError resname)
    let enable ← Configuration.item d "enable"
    if isFalse enable then throw ("Resource '" ++ resname ++ "' is not enable")
    match resdict with
    | none => throw (Py.keyError "Resource")
    | some r => if HOST ∈ r.host_list then return some resname else search c HOST resources

/-- `do_MONITOR`: the properties of a host. -/
def do_MONITOR (w : World) (HOST : String) (s : ImMad) : Except String String := do
  match ← search (s.configure, s.heap) HOST s.resources with
  | none => throw ("Host '" ++ HOST ++ "' is not available")
  | some resname =>
    let info ← w.host_properties resname HOST
    if info = "" then throw ("Host '" ++ HOST ++ "' is not available")
    return info

variable {here : Local} {w : World} {c : Configuration × Heap} {HOST name : String} {d : Features}
variable {t : Dict String Features} {file : File} {s : ImMad}

/-- The hosts that a discovery finds in the resource of a name. -/
def lookup (here : Local) (w : World) (c : Configuration × Heap) (name : String) :
    Option (List String) :=
  (c.1.resources.get name).bind fun r => found here w name (c.2.deref r)

/-- The object of a resource after a discovery. -/
def noted (here : Local) (w : World) (c : Configuration × Heap) (names : List String)
    (e : String × Option ImResource) : String × Option ImResource :=
  match if e.1 ∈ names then lookup here w c e.1 else none with
  | some list => (e.1, e.2.map fun r => { r with host_list := list })
  | none => e

/-- The loop over the resources. -/
lemma foldl_visit (names : List String) (s : String × Dict String (Option ImResource)) :
    (names.foldl (visit here w c) s).2 = s.2.map (noted here w c names) := by
  induction names generalizing s with
  | nil =>
    symm
    exact List.map_id s.2
  | cons n names ih =>
    rw [List.foldl_cons, ih, visit, ← lookup]
    cases listed : lookup here w c n with
    | none =>
      apply List.map_congr_left
      intro e _
      rw [noted, noted]
      by_cases same : e.1 = n
      · rw [same, listed, ite_self, ite_self]
      · simp only [List.mem_cons, same, false_or]
    | some list =>
      dsimp only
      rw [note, List.map_map]
      apply List.map_congr_left
      intro e _
      rw [Function.comp_apply]
      by_cases same : e.1 = n
      · have first : n ∈ n :: names := List.mem_cons_self
        rw [if_pos same, noted, noted, same, listed, if_pos first]
        by_cases later : n ∈ names
        · rw [if_pos later]
          cases e.2 with
          | none => rfl
          | some r => rfl
        · rw [if_neg later]
      · rw [if_neg same, noted, noted]
        simp only [List.mem_cons, same, false_or]

/-- The hosts that the loop reports. -/
lemma foldl_visit_text (names : List String) (s : String × Dict String (Option ImResource)) :
    Py.words (names.foldl (visit here w c) s).1 =
      Py.words s.1 ++ names.flatMap fun n => ((lookup here w c n).getD []).flatMap Py.words := by
  induction names generalizing s with
  | nil => exact (List.append_nil _).symm
  | cons n names ih =>
    rw [List.foldl_cons, ih, visit, ← lookup, List.flatMap_cons, ← List.append_assoc]
    congr 1
    cases lookup here w c n with
    | none => exact (List.append_nil _).symm
    | some list => rw [Py.words_append, Py.words_joinWith, Option.getD_some]

/-- The search for a host, on the dictionaries of the resources. -/
def searchTable (here : Local) (w : World) (HOST : String) :
    Dict String Features → Except String (Option String)
  | [] => .ok none
  | (name, d) :: t => do
    let enable ← Configuration.item d "enable"
    if isFalse enable then throw ("Resource '" ++ name ++ "' is not enable")
    match Configuration.make_manager here d with
    | none => throw (Py.keyError "Resource")
    | some _ =>
      if HOST ∈ (found here w name d).getD [] then return some name else searchTable here w HOST t

/-- The configuration that a discovery reads. -/
def loaded (here : Local) (file : File) : Configuration × Heap :=
  Configuration.load here file.sections (⟨[], file.mtime⟩, [])

/-- The configuration after its check. -/
def checked (here : Local) (file : File) : Configuration × Heap :=
  ((loaded here file).1,
    (Configuration.check here (loaded here file).1.resources (loaded here file).2).2)

lemma checked_apart (here : Local) (file : File) : Configuration.Apart (checked here file) := by
  have apart := (Configuration.load_table here file.sections
    (Configuration.apart_nil file.mtime [])).1
  refine ⟨fun e mem => ?_, apart.names, apart.refs⟩
  show e.2 < (Configuration.check here (loaded here file).1.resources (loaded here file).2).2.length
  rw [(Configuration.check_extends here _ _).2]
  exact apart.inside e mem

/-- A file without errors. -/
def Accepted (here : Local) (file : File) : Prop :=
  Configuration.Passes here (Configuration.readTable here file)

instance (here : Local) (file : File) : Decidable (Accepted here file) := by
  unfold Accepted
  infer_instance

lemma check_accepted (accepted : Accepted here file) :
    (Configuration.check here (loaded here file).1.resources (loaded here file).2).1 = .ok [] := by
  obtain ⟨apart, read⟩ := Configuration.load_table here file.sections
    (Configuration.apart_nil file.mtime [])
  have same : Configuration.table (loaded here file) = Configuration.readTable here file := read
  have passes : Configuration.Passes here (Configuration.table (loaded here file)) := by
    rw [same]
    exact accepted
  exact (Configuration.check_table here apart).1.2 passes

/-- What the driver holds after a discovery that found no errors. -/
lemma do_DISCOVER_ok (accepted : Accepted here file) :
    (∃ hosts, (do_DISCOVER here w file s).1 = .ok hosts ∧ ∀ HOST, HOST ∈ Py.words hosts ↔
        ∃ name ∈ (make_resources here (checked here file)).keys,
          ∃ x ∈ (lookup here w (checked here file) name).getD [], HOST ∈ Py.words x) ∧
      ((do_DISCOVER here w file s).2.configure, (do_DISCOVER here w file s).2.heap) =
        checked here file ∧
      (do_DISCOVER here w file s).2.resources = (make_resources here (checked here file)).map
        (noted here w (checked here file) (make_resources here (checked here file)).keys) := by
  have run : do_DISCOVER here w file s =
      (.ok ((sorted (make_resources here (checked here file)).keys).foldl
          (visit here w (checked here file)) ("", make_resources here (checked here file))).1,
        { configure := (checked here file).1
          heap := (checked here file).2
          resources := ((sorted (make_resources here (checked here file)).keys).foldl
            (visit here w (checked here file)) ("", make_resources here (checked here file))).2 }) := by
    unfold do_DISCOVER
    rw [← loaded]
    simp only [check_accepted accepted]
    rfl
  rw [run]
  refine ⟨⟨_, rfl, fun HOST => ?_⟩, rfl, ?_⟩
  · rw [foldl_visit_text]
    show HOST ∈ [] ++ _ ↔ _
    rw [List.nil_append, List.mem_flatMap]
    simp only [sorted, List.mem_mergeSort, List.mem_flatMap]
  dsimp only
  rw [foldl_visit]
  apply List.map_congr_left
  intro e _
  simp only [noted, sorted, List.mem_mergeSort]

/-- The search through the objects of resources, on their dictionaries. -/
lemma search_eq (HOST : String) {names : List String} {resources : Dict String Ref}
    (known : ∀ e ∈ resources, c.1.resources.get e.1 = some e.2) (all : ∀ e ∈ resources, e.1 ∈ names) :
    search c HOST ((resources.map fun e =>
        (e.1, (Configuration.make_manager here (c.2.deref e.2)).map fun manager =>
          ({ manager, features := e.2 } : ImResource))).map (noted here w c names)) =
      searchTable here w HOST (Dict.mapValues c.2.deref resources) := by
  induction resources with
  | nil => rfl
  | cons e resources ih =>
    have rest := ih (fun f mem => known f (List.mem_cons_of_mem _ mem))
      fun f mem => all f (List.mem_cons_of_mem _ mem)
    have first := known e List.mem_cons_self
    have listed : lookup here w c e.1 = found here w e.1 (c.2.deref e.2) := by
      rw [lookup, first]
      rfl
    have object (o : Option ImResource) : noted here w c names (e.1, o) =
        (e.1, match found here w e.1 (c.2.deref e.2) with
          | some list => o.map fun r => { r with host_list := list }
          | none => o) := by
      rw [noted, if_pos (all e List.mem_cons_self), listed]
      cases found here w e.1 (c.2.deref e.2) with
      | none => rfl
      | some list => rfl
    rw [List.map_cons, List.map_cons, object]
    show _ = searchTable here w HOST ((e.1, c.2.deref e.2) :: Dict.mapValues c.2.deref resources)
    unfold search searchTable
    rw [first, rest]
    cases Configuration.make_manager here (c.2.deref e.2) with
    | none =>
      cases found here w e.1 (c.2.deref e.2) with
      | none => rfl
      | some list => rfl
    | some manager =>
      cases found here w e.1 (c.2.deref e.2) with
      | none => rfl
      | some list => rfl

/-- The search of a driver that made a discovery. -/
lemma search_discovered (accepted : Accepted here file) (HOST : String) :
    search ((do_DISCOVER here w file s).2.configure, (do_DISCOVER here w file s).2.heap) HOST
        (do_DISCOVER here w file s).2.resources =
      searchTable here w HOST (Configuration.table (checked here file)) := by
  obtain ⟨-, configure, resources⟩ := do_DISCOVER_ok (w := w) (s := s) accepted
  rw [configure, resources]
  apply search_eq
  · intro e mem
    exact Dict.get_of_mem (checked_apart here file).names mem
  · intro e mem
    exact List.mem_map.2 ⟨_, List.mem_map.2 ⟨e, mem, rfl⟩, rfl⟩

/-- A resource that lets a search for a host go on. -/
def Passed (here : Local) (w : World) (HOST : String) (e : String × Features) : Prop :=
  (∃ enable, e.2.get "enable" = some enable ∧ isFalse enable = false) ∧
    (Configuration.make_manager here e.2).isSome ∧ HOST ∉ (found here w e.1 e.2).getD []

/-- A resource that has hosts is enabled and has a manager. -/
lemma found_enabled {list : List String} (there : found here w name d = some list) :
    (∃ enable, d.get "enable" = some enable ∧ isFalse enable = false) ∧
      (∃ manager, Configuration.make_manager here d = some manager ∧
        hosts w name manager d = .ok list) ∧
      (∃ communicator, Configuration.make_communicator here d = some communicator) ∧
      d.has "cloud_provider" = false := by
  rw [found, Configuration.item] at there
  cases enable : d.get "enable" with
  | none =>
    rw [enable] at there
    cases there
  | some value =>
    rw [enable] at there
    dsimp only at there
    by_cases off : isFalse value = true
    · rw [if_pos off] at there
      cases there
    · rw [if_neg off] at there
      by_cases cloud : d.has "cloud_provider" = true
      · rw [if_pos cloud] at there
        cases there
      · rw [if_neg cloud] at there
        cases manager : Configuration.make_manager here d with
        | none =>
          rw [manager] at there
          cases there
        | some manager' =>
          cases communicator : Configuration.make_communicator here d with
          | none =>
            rw [manager, communicator] at there
            cases there
          | some communicator' =>
            cases reached : w.connect name with
            | error err =>
              rw [manager, communicator, reached] at there
              cases there
            | ok _ =>
              rw [manager, communicator, reached] at there
              dsimp only at there
              cases answer : hosts w name manager' d with
              | error err =>
                rw [answer] at there
                cases there
              | ok list' =>
                rw [answer] at there
                cases there
                exact ⟨⟨value, rfl, Bool.eq_false_iff.2 off⟩, ⟨manager', rfl, answer⟩,
                  ⟨communicator', rfl⟩, Bool.eq_false_iff.2 cloud⟩

/-- One step of the search. -/
lemma searchTable_cons (here : Local) (w : World) (HOST : String) (e : String × Features) (t : Dict String Features) :
    (Passed here w HOST e ∧ searchTable here w HOST (e :: t) = searchTable here w HOST t) ∨
      (¬Passed here w HOST e ∧ HOST ∈ (found here w e.1 e.2).getD [] ∧
        searchTable here w HOST (e :: t) = .ok (some e.1)) ∨
      (¬Passed here w HOST e ∧ HOST ∉ (found here w e.1 e.2).getD [] ∧
        ∃ err, searchTable here w HOST (e :: t) = .error err) := by
  obtain ⟨name, d⟩ := e
  rw [searchTable, Configuration.item, Passed]
  dsimp only
  by_cases listed : HOST ∈ (found here w name d).getD []
  · have some_found : ∃ list, found here w name d = some list := by
      cases result : found here w name d with
      | none =>
        rw [result] at listed
        cases listed
      | some list => exact ⟨list, rfl⟩
    obtain ⟨list, there⟩ := some_found
    obtain ⟨⟨enable, given, on⟩, ⟨manager, made, -⟩, -⟩ := found_enabled there
    refine .inr (.inl ⟨fun h => h.2.2 listed, listed, ?_⟩)
    rw [given, made]
    show (if isFalse enable = true then _ else _) = _
    rw [on]
    show (if HOST ∈ (found here w name d).getD [] then _ else _) = _
    rw [if_pos listed]
    rfl
  · cases given : d.get "enable" with
    | none =>
      refine .inr (.inr ⟨fun h => ?_, listed, _, rfl⟩)
      obtain ⟨⟨enable, eq, -⟩, -⟩ := h
      cases eq
    | some enable =>
      show _ ∨ _ ∨ _ ∧ _ ∧ ∃ err, (if isFalse enable = true then _ else _) = _
      by_cases off : isFalse enable = true
      · refine .inr (.inr ⟨fun h => ?_, listed, ?_⟩)
        · obtain ⟨⟨enable', eq, on⟩, -⟩ := h
          cases eq
          rw [off] at on
          cases on
        · rw [if_pos off]
          exact ⟨_, rfl⟩
      · cases made : Configuration.make_manager here d with
        | none =>
          refine .inr (.inr ⟨fun h => (by cases h.2.1), listed, ?_⟩)
          rw [if_neg off]
          exact ⟨_, rfl⟩
        | some manager =>
          refine .inl ⟨⟨⟨enable, rfl, Bool.eq_false_iff.2 off⟩, rfl, listed⟩, ?_⟩
          show (if isFalse enable = true then _ else _) = _
          rw [if_neg off]
          show (if HOST ∈ (found here w name d).getD [] then _ else _) = _
          rw [if_neg listed]

/-- The resource that monitors a host: those before it are enabled, have a manager, and do not have the
host. -/
lemma search_iff (HOST : String) : searchTable here w HOST t = .ok (some name) ↔
    ∃ pre d post, t = pre ++ (name, d) :: post ∧ (∀ e ∈ pre, Passed here w HOST e) ∧
      HOST ∈ (found here w name d).getD [] := by
  induction t with
  | nil =>
    constructor
    · intro h
      cases h
    · intro ⟨pre, d, post, eq, _⟩
      cases pre with
      | nil => cases eq
      | cons e pre => cases eq
  | cons e t ih =>
    obtain ⟨passed, same⟩ | ⟨stops, listed, same⟩ | ⟨stops, unlisted, err, same⟩ :=
      searchTable_cons here w HOST e t
    · rw [same, ih]
      constructor
      · intro ⟨pre, d, post, eq, before, listed⟩
        exact ⟨e :: pre, d, post, by rw [eq, List.cons_append],
          List.forall_mem_cons.2 ⟨passed, before⟩, listed⟩
      · intro ⟨pre, d, post, eq, before, listed⟩
        cases pre with
        | nil =>
          cases eq
          exact absurd listed passed.2.2
        | cons f pre =>
          cases eq
          exact ⟨pre, d, post, rfl, (List.forall_mem_cons.1 before).2, listed⟩
    · rw [same]
      constructor
      · intro eq
        cases eq
        exact ⟨[], e.2, t, rfl, fun f mem => (by cases mem), listed⟩
      · intro ⟨pre, d, post, eq, before, _⟩
        cases pre with
        | nil =>
          cases eq
          rfl
        | cons f pre =>
          cases eq
          exact absurd (before e List.mem_cons_self) stops
    · rw [same]
      constructor
      · intro eq
        cases eq
      · intro ⟨pre, d, post, eq, before, listed⟩
        cases pre with
        | nil =>
          cases eq
          exact absurd listed unlisted
        | cons f pre =>
          cases eq
          exact absurd (before e List.mem_cons_self) stops

end ImMad

end GridWay.Drm4g
