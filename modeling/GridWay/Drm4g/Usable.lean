import GridWay.Drm4g.Edits
import GridWay.Drm4g.ImMad
import GridWay.Drm4g.Url

/-!
# A host that was discovered

The three drivers look for the resource of a host in three ways: the information driver asks each
resource in turn for the host, the execution driver cuts the name of the resource off the host, and the
transfer driver has the host of a URL.

* `Usable`: all three come to the resource that a discovery found the host in.
* `Clear`: no resource in the way of the host, and the name of its resource can be read in it.
* `usable_iff`: the one is so exactly when the other is, after any requests.
-/

namespace GridWay.Drm4g

open Proc

variable {here : Local} {w : ImMad.World} {file : File} {name host : String} {d : Features}

/-- A file was read that says about the resource `name` what is in its section `d`, and a discovery
reported a host of it. -/
structure Reported (here : Local) (w : ImMad.World) (file : File) (name : String) (d : Features)
    (host : String) : Prop where
  section_of : (Configuration.readTable here file).get name = some d
  listed : ∃ x ∈ (ImMad.found here w name (Configuration.ruled here name d).2).getD [],
    host ∈ Py.words x

/-- The part of a host before the path. -/
def authority (host : Url.Text) : Url.Text := host.takeWhile fun c => c ∉ ['/', '?', '#']

/-- The URL of a file on a host. -/
def transferUrl (host : String) (path : Url.Text) : Url.Text :=
  "remote".toList ++ Url.separator ++ (host.toList ++ '/' :: path)

/-- `lower`, on the characters of the schemes. -/
def lower (s : Url.Text) : Url.Text := s.map Char.toLower

/-- The three drivers come to the resource of a host, and take what its own section says. -/
structure Usable (here : Local) (w : ImMad.World) (s : Site) (g : Url.Globals) (path : Url.Text)
    (name : String) (d : Features) (host : String) : Prop where
  monitor : ∀ im : ImMad,
    let im := (ImMad.do_DISCOVER here w s.file im).2
    ImMad.search (im.configure, im.heap) host im.resources = .ok (some name)
  em : ∀ o : Outside, o.file = s.file → s.em.uses here o host =
    useOf here (name, (Configuration.ruled here name d).2)
      (Configuration.make_communicator here (Configuration.ruled here name d).2)
  tm : ∃ resource, (Url.urlparse lower (transferUrl host path) g).netloc.bind Url.gethost =
      some resource.toList ∧
    belongs (Configuration.declared here s.file) resource =
      some (name, (Configuration.ruled here name d).2) ∧
    s.tm.uses here s.file resource =
      Configuration.make_communicator here (Configuration.ruled here name d).2

/-- What has to be so: the resources before that of the host are enabled, have a manager and do not have
the host, which is one word; and its resource can be read in it. -/
structure Clear (here : Local) (w : ImMad.World) (file : File) (name host : String) : Prop where
  way : ∃ pre d post, Configuration.table (ImMad.checked here file) = pre ++ (name, d) :: post ∧
    (∀ e ∈ pre, ImMad.Passed here w host e) ∧ host ∈ (ImMad.found here w name d).getD []
  resource : resourceOf host = some name
  address : Url.gethost (authority host.toList) = some name.toList

section Address

variable {c : Char} {xs ys : Url.Text}

/-- What is before a separator, or all. -/
lemma before_eq : (match Cut.atFirst c xs with
    | some (ys, _) => ys
    | none => xs) = xs.takeWhile (· ≠ c) := by
  induction xs with
  | nil => rfl
  | cons x xs ih =>
    rw [Cut.atFirst]
    by_cases same : x = c
    · rw [if_pos same, List.takeWhile_cons_of_neg (by simpa using same)]
    · rw [if_neg same, List.takeWhile_cons_of_pos (by simpa using same), ← ih]
      cases Cut.atFirst c xs with
      | none => rfl
      | some cut => rfl

/-- The authority of a transfer, whatever was parsed before. -/
lemma netloc_transfer (host : String) (path : Url.Text) (g : Url.Globals) :
    (Url.urlparse lower (transferUrl host path) g).netloc = some (authority host.toList) := by
  have cut : Cut.atSub Url.separator (transferUrl host path) =
      some ("remote".toList, host.toList ++ '/' :: path) :=
    Cut.atSub_append (by decide) _
  have rest : Url.afterScheme (transferUrl host path) = host.toList ++ '/' :: path := by
    rw [Url.afterScheme, cut]
  have scheme : Url.ownScheme lower (transferUrl host path) g = some "remote".toList := by
    rw [Url.ownScheme, cut]
    have same : lower "remote".toList = "remote".toList := by decide
    show some (lower _) = _
    rw [same]
  have other : some "remote".toList ≠ some Url.file := by decide
  have reference : Url.beforeFragment (transferUrl host path) =
      (host.toList ++ '/' :: path).takeWhile (· ≠ '#') := by
    rw [Url.beforeFragment, rest]
    exact before_eq
  have query : Url.beforeQuery (transferUrl host path) =
      ((host.toList ++ '/' :: path).takeWhile (· ≠ '#')).takeWhile (· ≠ '?') := by
    rw [Url.beforeQuery, reference]
    exact before_eq
  have own : Url.ownNetloc (some "remote".toList) (transferUrl host path) =
      (Url.beforeQuery (transferUrl host path)).takeWhile (· ≠ '/') := by
    rw [Url.ownNetloc, ← before_eq]
    simp only [if_neg other]
    cases Cut.atFirst '/' (Url.beforeQuery (transferUrl host path)) with
    | none => rfl
    | some parts => rfl
  rw [Url.urlparse_eq, scheme]
  dsimp only
  rw [own, query, List.takeWhile_takeWhile, List.takeWhile_takeWhile, authority]
  congr 1
  induction host.toList with
  | nil => exact List.takeWhile_cons_of_neg (by simp)
  | cons c cs ih =>
    rw [List.cons_append, List.takeWhile_cons, List.takeWhile_cons, ih]
    simp only [List.mem_cons, List.not_mem_nil, or_false, not_or, decide_eq_true_eq, ne_eq,
      and_assoc]

/-- The name of a host has no colon in it. -/
lemma gethost_clean {netloc : Url.Text} {host : Url.Text} (found : Url.gethost netloc = some host) :
    ':' ∉ host := by
  have clean : ':' ∉ Url.beforePort (Url.afterUser netloc) := by
    rw [Url.beforePort]
    cases parts : Cut.atFirst ':' (Url.afterUser netloc) with
    | none => exact Cut.atFirst_eq_none_iff.1 parts
    | some cut => exact (Cut.atFirst_eq_some_iff.1 parts).2
  rw [Url.gethost] at found
  split at found
  · cases found
  · rw [← Option.some.inj found]
    exact clean

lemma resourceOf_single (single : ':' ∉ host.toList) : resourceOf host = some host := by
  rw [resourceOf, Cut.hasPair_of_not_mem single, if_neg Bool.false_ne_true]

end Address

namespace Site

variable {s : Site} {e : Event} {evs : List Event}

/-- The file is the one that the drivers were started with, and each request to the execution driver
reads it again. -/
structure Still (here : Local) (file : File) (s : Site) : Prop where
  inv : s.Inv here
  same : s.file = file
  time : s.em.configure.init_time = file.mtime

lemma check_update_same {c : Configuration} (time : c.init_time = file.mtime) :
    c.check_update file = (false, c) := by
  rw [Configuration.check_update, if_neg fun h => h time.symm]

lemma Still.rereads (still : s.Still here file) {o : Outside} (same : o.file = file) :
    s.em.Rereads o := by
  left
  rw [same, check_update_same still.time]

lemma load_time (sections : List (String × Features)) (c : Configuration × Heap) :
    (Configuration.load here sections c).1.init_time = c.1.init_time := by
  have all (es : Dict String Features) (c : Configuration × Heap) :
      (Configuration.putAll es c).1.init_time = c.1.init_time := by
    induction es generalizing c with
    | nil => rfl
    | cons e es ih => exact ih (Configuration.put e.1 e.2 c)
  rw [Configuration.load_eq]
  exact all _ c

/-- Without edits every request is allowed. -/
lemma Still.allowed (still : s.Still here file) (quiet : e.time = none) : s.Allowed here e := by
  cases e with
  | edit file => cases quiet
  | em r =>
    intro host named
    exact .inl (still.rereads still.same)
  | tm host => exact trivial

lemma Still.step (still : s.Still here file) (quiet : e.time = none) :
    (s.step here e).Still here file := by
  refine ⟨still.inv.step (still.allowed quiet), ?_, ?_⟩
  · cases e with
    | edit file => cases quiet
    | em r => exact still.same
    | tm host => exact still.same
  · cases e with
    | edit file => cases quiet
    | tm host => exact still.time
    | em r =>
      have held := s.em.serve_held here (r.during s.file)
      show (s.em.serve here (r.during s.file)).configure.init_time = _
      cases named : (r.during s.file).request.host with
      | none =>
        rw [named] at held
        rw [(Mad.held_eq held).1]
        exact still.time
      | some host =>
        rw [named] at held
        have reads : s.em.Rereads (r.during s.file).outside := still.rereads still.same
        have ground : Mad.ground (Mad.update_resource here (r.during s.file).outside host s.em).2 =
            Mad.ground (Mad.reload here (r.during s.file).outside s.em).2 := Mad.update_resource_ground
        obtain ⟨configure, -⟩ := Mad.ground_eq ground
        rw [(Mad.held_eq held).1, configure, (Mad.reload_of_rereads reads).1]
        show (Configuration.load here _ _).1.init_time = _
        rw [load_time]
        have same : (r.during s.file).outside.file = file := still.same
        rw [same, check_update_same still.time]
        exact still.time

/-- After any requests. -/
lemma still_run (here : Local) (file : File) (quiet : ∀ e ∈ evs, e.time = none) :
    (Machine.run (step here) (start file) evs).Still here file := by
  have run {s : Site} (still : s.Still here file) : (Machine.run (step here) s evs).Still here file := by
    induction evs generalizing s with
    | nil => exact still
    | cons e evs ih =>
      exact ih (fun f mem => quiet f (List.mem_cons_of_mem _ mem))
        (still.step (quiet e List.mem_cons_self))
  exact run ⟨start_inv here file, rfl, rfl⟩

end Site

/-- The dictionary of a resource after a discovery is that of its own section. -/
lemma table_checked (accepted : ImMad.Accepted here file) (name : String) :
    (Configuration.table (ImMad.checked here file)).get name =
      ((Configuration.readTable here file).get name).map fun d =>
        (Configuration.ruled here name d).2 := by
  have told := (Configuration.check_declared (Configuration.apart_nil file.mtime [])
    (fun n mem => (by cases mem)) rfl).1 (ImMad.check_accepted accepted) name
  have passes : Configuration.Passes here (Configuration.readTable here file) := accepted
  rw [Configuration.declared, if_pos passes] at told
  exact told

/-- The hosts that a discovery answers with are those that are reported of some resource. -/
lemma do_DISCOVER_reported (accepted : ImMad.Accepted here file) (im : ImMad) :
    ∃ hosts, (ImMad.do_DISCOVER here w file im).1 = .ok hosts ∧
      ∀ host, host ∈ Py.words hosts ↔ ∃ name d, Reported here w file name d host := by
  obtain ⟨⟨hosts, ok, reports⟩, -⟩ := ImMad.do_DISCOVER_ok (w := w) (s := im) accepted
  refine ⟨hosts, ok, fun host => (reports host).trans ?_⟩
  have named (name : String) : ImMad.lookup here w (ImMad.checked here file) name =
      ((Configuration.readTable here file).get name).bind fun d =>
        ImMad.found here w name (Configuration.ruled here name d).2 := by
    have same := table_checked accepted name
    rw [Configuration.table, Dict.get_mapValues] at same
    rw [ImMad.lookup]
    cases there : (ImMad.checked here file).1.resources.get name with
    | none =>
      rw [there] at same
      cases section_of : (Configuration.readTable here file).get name with
      | none => rfl
      | some d =>
        rw [section_of] at same
        cases same
    | some r =>
      rw [there] at same
      cases section_of : (Configuration.readTable here file).get name with
      | none =>
        rw [section_of] at same
        cases same
      | some d =>
        rw [section_of] at same
        show ImMad.found here w name ((ImMad.checked here file).2.deref r) = _
        rw [Option.some.inj same]
        rfl
  constructor
  · rintro ⟨name, _, x, listed, mem⟩
    rw [named] at listed
    cases section_of : (Configuration.readTable here file).get name with
    | none =>
      rw [section_of] at listed
      cases listed
    | some d =>
      rw [section_of] at listed
      exact ⟨name, d, section_of, x, listed, mem⟩
  · rintro ⟨name, d, section_of, x, listed, mem⟩
    have here_named := named name
    rw [section_of] at here_named
    refine ⟨name, ?_, x, ?_, mem⟩
    · have keys : (ImMad.make_resources here (ImMad.checked here file)).keys =
          Dict.keys (ImMad.checked here file).1.resources := by
        rw [ImMad.make_resources, Dict.keys, Dict.keys, List.map_map]
        rfl
      rw [keys, Dict.mem_keys_iff]
      cases there : (ImMad.checked here file).1.resources.get name with
      | none =>
        have same := table_checked accepted name
        rw [Configuration.table, Dict.get_mapValues, there, section_of] at same
        cases same
      | some r => exact ⟨r, rfl⟩
    · rw [here_named]
      exact listed

/-- The resource that a discovery found a host in is declared, and can be used. -/
lemma Reported.declared (accepted : ImMad.Accepted here file)
    (reported : Reported here w file name d host) :
    Configuration.declared here file name = some (Configuration.ruled here name d).2 ∧
      (∃ manager communicator,
        Configuration.make_manager here (Configuration.ruled here name d).2 = some manager ∧
        Configuration.make_communicator here (Configuration.ruled here name d).2 = some communicator) ∧
      (Configuration.ruled here name d).2.has "cloud_provider" = false := by
  obtain ⟨section_of, x, listed, -⟩ := reported
  have there : ∃ list, ImMad.found here w name (Configuration.ruled here name d).2 = some list := by
    cases result : ImMad.found here w name (Configuration.ruled here name d).2 with
    | none =>
      rw [result] at listed
      cases listed
    | some list => exact ⟨list, rfl⟩
  obtain ⟨list, there⟩ := there
  obtain ⟨-, ⟨manager, made, -⟩, ⟨communicator, made'⟩, cloud⟩ := ImMad.found_enabled there
  refine ⟨?_, ⟨manager, communicator, made, made'⟩, cloud⟩
  have passes : Configuration.Passes here (Configuration.readTable here file) := accepted
  rw [Configuration.declared, if_pos passes, section_of]
  rfl

lemma belongs_of {tells : String → Option Features} (named : resourceOf host = some name)
    (told : tells name = some d) (cloud : d.has "cloud_provider" = false) :
    belongs tells host = some (name, d) := by
  rw [belongs, named]
  show (tells name).bind _ = _
  rw [told]
  show (if d.has "cloud_provider" = true then _ else _) = _
  rw [cloud]
  rfl

/-- After any requests, a host that a discovery reported can be used exactly when its way is clear. -/
theorem usable_iff (accepted : ImMad.Accepted here file) (reported : Reported here w file name d host)
    {evs : List Site.Event} (quiet : ∀ e ∈ evs, e.time = none) (g : Url.Globals) (path : Url.Text) :
    Usable here w (Machine.run (Site.step here) (Site.start file) evs) g path name d host ↔
      Clear here w file name host := by
  have still := Site.still_run here file quiet
  have same := still.same
  obtain ⟨told, ⟨manager, communicator, made, made'⟩, cloud⟩ := reported.declared accepted
  have em (o : Outside) (during : o.file = file) :
      (Machine.run (Site.step here) (Site.start file) evs).em.uses here o host =
        file.use here host := by
    have good : (Machine.run (Site.step here) (Site.start file) evs).em.Good here o.file := by
      have good := still.inv.em
      rw [same] at good
      rw [during]
      exact good
    have answer : (Machine.run (Site.step here) (Site.start file) evs).em.uses here o host =
        o.file.use here host := (Mad.request_good good (.inl (still.rereads during))).1
    rw [answer, during]
  have tm (resource : String) (single : Cut.hasPair ':' resource.toList = false) :
      (Machine.run (Site.step here) (Site.start file) evs).tm.uses here file resource =
        file.communicator here resource := by
    have good := still.inv.tm
    rw [same] at good
    exact (TmMad.request_good resource good).2.1 single
  have use : useOf here (name, (Configuration.ruled here name d).2)
      (Configuration.make_communicator here (Configuration.ruled here name d).2) =
      some { resource := name, features := (Configuration.ruled here name d).2, manager,
             communicator } := by
    rw [made', useOf]
    show (Configuration.make_manager here (Configuration.ruled here name d).2).map _ = _
    rw [made]
    rfl
  constructor
  · rintro ⟨monitored, executed, transferred⟩
    rw [same] at monitored executed transferred
    refine ⟨?_, ?_, ?_⟩
    · have search := monitored { configure := ⟨[], 0⟩ }
      exact (ImMad.search_iff host).1 ((ImMad.search_discovered accepted host).symm.trans search)
    · have answer := executed { Mad.atMeteo with file := file } rfl
      rw [em _ rfl, use, File.use] at answer
      obtain ⟨⟨n, d'⟩, found, used⟩ := Option.bind_eq_some_iff.1 answer
      obtain ⟨communicator', -, used⟩ := Option.bind_eq_some_iff.1 used
      obtain ⟨manager', -, used⟩ := Option.map_eq_some_iff.1 used
      have eq : n = name := congrArg Use.resource used
      rw [← eq]
      exact (belongs_some found).1
    · obtain ⟨resource, found, belongs_to, -⟩ := transferred
      rw [netloc_transfer] at found
      have named := (belongs_some belongs_to).1
      rw [resourceOf_single (gethost_clean found)] at named
      rw [← Option.some.inj named]
      exact found
  · rintro ⟨way, resource, address⟩
    have single : ':' ∉ name.toList := gethost_clean address
    refine ⟨?_, ?_, ?_⟩
    · intro im
      rw [same]
      dsimp only
      rw [ImMad.search_discovered accepted]
      exact (ImMad.search_iff host).2 way
    · intro o during
      rw [same] at during
      rw [em o during, File.use, belongs_of resource told cloud]
      rfl
    · refine ⟨name, ?_, ?_, ?_⟩
      · rw [netloc_transfer]
        exact address
      · rw [same]
        exact belongs_of (resourceOf_single single) told cloud
      · rw [same, tm name (Cut.hasPair_of_not_mem single), File.communicator,
          belongs_of (resourceOf_single single) told cloud]
        rfl

/-- A world in which every resource can be reached and the VO has one site. -/
def reachable : ImMad.World where
  connect _ := .ok ()
  ldapsearch _ _ _ := .ok ["ce01.site.es"]
  host_properties _ _ := .ok "HOSTNAME=\"ce01\""

/-- The file with a resource that is not enabled before the cluster. -/
def disabledFirst : File where
  mtime := 1
  sections :=
    [("ui", [("enable", "false"), ("communicator", "local"), ("frontend", "localhost"),
        ("lrms", "fork"), ("max_jobs_running", "1")]),
      ("meteo", [("enable", "true"), ("communicator", "local"), ("frontend", "localhost"),
        ("lrms", "pbs"), ("max_jobs_running", "8")])]

/-- The cluster of the files. -/
def meteo : Features :=
  [("enable", "true"), ("communicator", "local"), ("frontend", "localhost"), ("lrms", "pbs"),
    ("max_jobs_running", "8")]

lemma meteo_reported (there : (Configuration.readTable Mad.anywhere file).get "meteo" = some meteo) :
    Reported Mad.anywhere reachable file "meteo" meteo "meteo" where
  section_of := there
  listed := ⟨"meteo", by decide +kernel, by decide +kernel⟩

/-- A cluster can be used after requests about it and about a site of a VO. -/
theorem usable_twoSections :
    Usable Mad.anywhere reachable (Machine.run (Site.step Mad.anywhere) (Site.start Mad.twoSections)
        [.tm "meteo", Site.recovery "esrvo::site"]) {} "~/.gw_u_1/stdout".toList "meteo" meteo
      "meteo" := by
  have reported : Reported Mad.anywhere reachable Mad.twoSections "meteo" meteo "meteo" :=
    meteo_reported (by decide)
  refine (usable_iff (by decide) reported (by decide) _ _).2 ?_
  refine ⟨⟨[], _, _, rfl, fun e mem => (by cases mem), ?_⟩, by decide, by decide⟩
  decide +kernel

/-- A resource that is not enabled makes the monitoring of the resources after it fail. -/
theorem not_usable : ImMad.Accepted Mad.anywhere disabledFirst ∧
    Reported Mad.anywhere reachable disabledFirst "meteo" meteo "meteo" ∧
    ¬Usable Mad.anywhere reachable (Site.start disabledFirst) {} "~/.gw_u_1/stdout".toList "meteo" meteo
      "meteo" := by
  have accepted : ImMad.Accepted Mad.anywhere disabledFirst := by decide
  refine ⟨accepted, meteo_reported (by decide), fun usable => ?_⟩
  have search := (ImMad.search_discovered accepted "meteo").symm.trans
    (usable.monitor { configure := ⟨[], 0⟩ })
  exact absurd search (by decide +kernel)

end GridWay.Drm4g
