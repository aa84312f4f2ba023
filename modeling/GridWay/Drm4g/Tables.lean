import GridWay.Drm4g.Fresh

/-!
# The resources as a table

The dictionaries of the resources lie on a heap. What a driver knows of the resources is a table from
names to dictionaries; reading and checking the file are functions on such tables.

* `Configuration.table`: the table of a configuration.
* `Configuration.entries`: the dictionaries that reading the file makes.
* `Configuration.load_table`, `Configuration.check_table`: reading and checking, on tables.
* `Configuration.declared`: what a file says about a resource.
* `Mad.findResource_eq`: the search for a host, on tables.
-/

namespace GridWay.Drm4g

namespace Configuration

variable {here : Local} {c : Configuration × Heap} {resources : Dict String Ref} {heap : Heap}
variable {sections : List (String × Features)} {name : String} {d : Features}
variable {t t' : Dict String Features}

/-- The table of a configuration. -/
def table (c : Configuration × Heap) : Dict String Features := c.1.resources.mapValues c.2.deref

/-- The dictionaries that reading the sections makes, with the names of their resources. An exception
ends the reading. -/
def entries (here : Local) : List (String × Features) → Dict String Features
  | [] => []
  | (name, d) :: sections =>
    match d.get "lrms" with
    | none => [(name, d)]
    | some lrms =>
      if lrms = "rocci" then
        match here.instances name with
        | .error _ => [(name, d)]
        | .ok instances =>
          (name, d) :: instances.map (fun i => (name ++ "_" ++ i.ext_ip, insdict i)) ++
            entries here sections
      else (name, d) :: entries here sections

/-- The table that is read from the file alone. -/
def readTable (here : Local) (file : File) : Dict String Features :=
  (entries here file.sections).store []

/-- The check of one resource. -/
def ruled (here : Local) (name : String) (d : Features) : Except String (List String) × Features :=
  applyRules here name d.keys rules d

/-- No resource of the table has an error. -/
def Passes (here : Local) (t : Dict String Features) : Prop :=
  ∀ e ∈ t, (ruled here e.1 e.2).1 = .ok []

instance (here : Local) (t : Dict String Features) : Decidable (Passes here t) := by
  unfold Passes
  infer_instance

/-- What a file says about a resource; nothing when it has an error. -/
def declared (here : Local) (file : File) (name : String) : Option Features :=
  let t := readTable here file
  if Passes here t then (t.get name).map fun d => (ruled here name d).2 else none

/-- The dictionaries of the resources are there, and no two resources share one. -/
structure Apart (c : Configuration × Heap) : Prop where
  inside : ∀ e ∈ c.1.resources, e.2 < c.2.length
  names : (Dict.keys c.1.resources).Nodup
  refs : ∀ e ∈ c.1.resources, ∀ f ∈ c.1.resources, e.2 = f.2 → e = f

lemma apart_nil (init_time : Nat) (heap : Heap) :
    Apart (({ resources := [], init_time } : Configuration), heap) where
  inside e mem := by cases mem
  names := List.nodup_nil
  refs e mem := by cases mem

/-- A resource gets a dictionary of its own. -/
lemma put_apart (name : String) (d : Features) (apart : Apart c) : Apart (put name d c) where
  inside e mem := by
    rw [put, List.length_append, List.length_singleton]
    obtain rfl | ⟨old, -⟩ := Dict.mem_set mem
    · exact Nat.lt_succ_self _
    · exact Nat.lt_succ_of_lt (apart.inside e old)
  names := Dict.nodup_set apart.names
  refs e mem f mem' same := by
    obtain rfl | ⟨old, -⟩ := Dict.mem_set mem
    · obtain rfl | ⟨old', -⟩ := Dict.mem_set mem'
      · rfl
      · exact absurd same (apart.inside f old').ne'
    · obtain rfl | ⟨old', -⟩ := Dict.mem_set mem'
      · exact absurd same (apart.inside e old).ne
      · exact apart.refs e old f old' same

lemma put_table (name : String) (d : Features) (apart : Apart c) :
    table (put name d c) = (table c).set name d := by
  have last : (c.2 ++ [d]).deref c.2.length = d := Heap.deref_last
  show Dict.mapValues (c.2 ++ [d]).deref (c.1.resources.set name c.2.length) = _
  rw [← Dict.set_mapValues, last, table]
  congr 1
  apply Dict.mapValues_congr
  intro e mem
  exact Heap.deref_append (apart.inside e mem)

/-- Dictionaries are made for a list of resources. -/
def putAll (es : Dict String Features) (c : Configuration × Heap) : Configuration × Heap :=
  es.foldl (fun c e => put e.1 e.2 c) c

lemma putAll_table (es : Dict String Features) (apart : Apart c) :
    Apart (putAll es c) ∧ table (putAll es c) = es.store (table c) := by
  induction es generalizing c with
  | nil => exact ⟨apart, rfl⟩
  | cons e es ih =>
    obtain ⟨apart', same⟩ := ih (put_apart e.1 e.2 apart)
    rw [put_table e.1 e.2 apart] at same
    exact ⟨apart', same⟩

/-- Reading the file makes the dictionaries of its entries. -/
lemma load_eq (sections : List (String × Features)) :
    load here sections c = putAll (entries here sections) c := by
  induction sections generalizing c with
  | nil => rfl
  | cons e sections ih =>
    obtain ⟨name, d⟩ := e
    rw [load, loadSection, entries]
    cases d.get "lrms" with
    | none => rfl
    | some lrms =>
      dsimp only
      by_cases cloud : lrms = "rocci"
      · rw [if_pos cloud, if_pos cloud]
        cases here.instances name with
        | error err => rfl
        | ok instances =>
          dsimp only
          rw [ih, putAll, putAll, List.cons_append, List.foldl_cons, List.foldl_append,
            List.foldl_map]
      · rw [if_neg cloud, if_neg cloud]
        exact ih

lemma readNames_eq (sections : List (String × Features)) :
    readNames here sections = (entries here sections).keys := by
  induction sections with
  | nil => rfl
  | cons e sections ih =>
    obtain ⟨name, d⟩ := e
    rw [readNames, entries]
    cases d.get "lrms" with
    | none => rfl
    | some lrms =>
      dsimp only
      by_cases cloud : lrms = "rocci"
      · rw [if_pos cloud, if_pos cloud]
        cases here.instances name with
        | error err => rfl
        | ok instances =>
          dsimp only
          rw [ih, Dict.keys, Dict.keys, List.map_append, List.map_cons, List.map_map]
          rfl
      · rw [if_neg cloud, if_neg cloud, ih]
        rfl

/-- Reading the file, on tables. -/
lemma load_table (here : Local) (sections : List (String × Features)) (apart : Apart c) :
    Apart (load here sections c) ∧
      table (load here sections c) = (entries here sections).store (table c) := by
  rw [load_eq]
  exact putAll_table _ apart

/-- The resources after the file was read: those of the file and those that were there before. -/
lemma mem_load (apart : Apart c) (mem : name ∈ Dict.keys (load here sections c).1.resources) :
    name ∈ readNames here sections ∨ name ∈ Dict.keys c.1.resources := by
  have same := (load_table here sections apart).2
  have there : name ∈ Dict.keys (table (load here sections c)) := by
    rw [table, Dict.keys_mapValues]
    exact mem
  rw [same] at there
  rw [readNames_eq]
  obtain read | old := Dict.mem_keys_store there
  · exact .inl read
  · rw [table, Dict.keys_mapValues] at old
    exact .inr old

/-- The check leaves dictionaries alone that are not the dictionary of a resource. -/
lemma check_other {r : Ref} (other : ∀ e ∈ resources, e.2 ≠ r) :
    (check here resources heap).2.deref r = heap.deref r := by
  induction resources generalizing heap with
  | nil => rfl
  | cons e resources ih =>
    obtain ⟨name, r'⟩ := e
    have rest := fun e mem => other e (List.mem_cons_of_mem _ mem)
    have kept (d : Features) : Heap.deref (List.set heap r' d) r = heap.deref r :=
      Heap.deref_set_ne (other (name, r') List.mem_cons_self)
    rw [check]
    cases one : applyRules here name (heap.deref r').keys rules (heap.deref r') with
    | mk result d =>
      cases result with
      | error err => exact kept d
      | ok errors =>
        have next := @ih (List.set heap r' d) rest
        dsimp only
        cases more : check here resources (List.set heap r' d) with
        | mk result heap' =>
          rw [more] at next
          cases result with
          | error err => exact next.trans (kept d)
          | ok errors' => exact next.trans (kept d)

lemma Apart.tail {init_time : Nat} {e : String × Ref} {d : Features}
    (apart : Apart (⟨e :: resources, init_time⟩, heap)) :
    Apart (⟨resources, init_time⟩, List.set heap e.2 d) where
  inside f mem := by
    rw [List.length_set]
    exact apart.inside f (List.mem_cons_of_mem _ mem)
  names := (List.nodup_cons.1 apart.names).2
  refs f mem f' mem' same :=
    apart.refs f (List.mem_cons_of_mem _ mem) f' (List.mem_cons_of_mem _ mem') same

/-- The first resource is not among the others. -/
lemma Apart.head {init_time : Nat} {e : String × Ref}
    (apart : Apart (⟨e :: resources, init_time⟩, heap)) : ∀ f ∈ resources, f.2 ≠ e.2 := by
  intro f mem same
  have eq := apart.refs f (List.mem_cons_of_mem _ mem) e List.mem_cons_self same
  subst eq
  exact (List.nodup_cons.1 apart.names).1 (List.mem_map_of_mem mem)

/-- Checking the resources, on tables: the check finds no error when every resource passes, and
then each dictionary is the one that its own check made of it. -/
lemma check_table (here : Local) {init_time : Nat} (apart : Apart (⟨resources, init_time⟩, heap)) :
    ((check here resources heap).1 = .ok [] ↔ Passes here (Dict.mapValues heap.deref resources)) ∧
      ((check here resources heap).1 = .ok [] → ∀ e ∈ resources,
        (check here resources heap).2.deref e.2 = (ruled here e.1 (heap.deref e.2)).2) := by
  induction resources generalizing heap with
  | nil =>
    refine ⟨⟨fun _ e mem => ?_, fun _ => rfl⟩, fun _ e mem => ?_⟩
    · cases mem
    · cases mem
  | cons e resources ih =>
    obtain ⟨name, r⟩ := e
    have others := apart.head
    have here_inside : r < heap.length := apart.inside (name, r) List.mem_cons_self
    have cut : Passes here (Dict.mapValues heap.deref ((name, r) :: resources)) ↔
        (ruled here name (heap.deref r)).1 = .ok [] ∧
          Passes here (Dict.mapValues heap.deref resources) := List.forall_mem_cons
    rw [cut, check]
    have one : ruled here name (heap.deref r) =
      applyRules here name (heap.deref r).keys rules (heap.deref r) := rfl
    rw [← one]
    cases first : ruled here name (heap.deref r) with
    | mk result d =>
      have rest := ih (apart.tail (d := d))
      have same : Dict.mapValues (Heap.deref (List.set heap r d)) resources =
          Dict.mapValues heap.deref resources := by
        apply Dict.mapValues_congr
        intro f mem
        exact Heap.deref_set_ne (others f mem).symm
      have kept : (check here resources (List.set heap r d)).2.deref r = d := by
        rw [check_other others, Heap.deref_set_self here_inside]
      have later : ∀ f ∈ resources, ruled here f.1 (Heap.deref (List.set heap r d) f.2) =
          ruled here f.1 (heap.deref f.2) := by
        intro f mem
        rw [Heap.deref_set_ne (others f mem).symm]
      rw [same] at rest
      cases result with
      | error err =>
        constructor
        · constructor
          · intro h
            cases h
          · intro h
            cases h.1
        · intro h
          cases h
      | ok errors =>
        dsimp only
        cases more : check here resources (List.set heap r d) with
        | mk result heap' =>
          rw [more] at rest kept
          cases result with
          | error err =>
            constructor
            · constructor
              · intro h
                cases h
              · intro h
                cases rest.1.2 h.2
            · intro h
              cases h
          | ok errors' =>
            constructor
            · constructor
              · intro h
                obtain ⟨rfl, rfl⟩ := List.append_eq_nil_iff.1 (Except.ok.inj h)
                exact ⟨rfl, rest.1.1 rfl⟩
              · intro h
                have none_here : errors = [] := Except.ok.inj h.1
                have none_later : errors' = [] := Except.ok.inj (rest.1.2 h.2)
                rw [none_here, none_later]
                rfl
            · intro h e mem
              obtain ⟨rfl, rfl⟩ := List.append_eq_nil_iff.1 (Except.ok.inj h)
              rw [List.mem_cons] at mem
              obtain rfl | old := mem
              · rw [first]
                exact kept
              · exact (rest.2 rfl e old).trans (congrArg Prod.snd (later e old))

lemma passes_iff (names : (Dict.keys t).Nodup) :
    Passes here t ↔ ∀ n d, t.get n = some d → (ruled here n d).1 = .ok [] := by
  constructor
  · intro passes n d found
    exact passes (n, d) (Dict.mem_of_get found)
  · intro all e mem
    exact all e.1 e.2 (Dict.get_of_mem names mem)

/-- Reading the file from scratch gives each resource one entry. -/
lemma readTable_nodup (file : File) : (Dict.keys (readTable here file)).Nodup := by
  have same := putAll_table (entries here file.sections) (apart_nil 0 [])
  have eq : readTable here file = table (putAll (entries here file.sections) (⟨[], 0⟩, [])) :=
    same.2.symm
  rw [eq, table, Dict.keys_mapValues]
  exact same.1.names

/-- When every resource that a driver knows is in the file, it knows what the file says. -/
theorem check_declared {file : File} {c c' : Configuration × Heap} (apart : Apart c)
    (known : ∀ n ∈ Dict.keys c.1.resources, n ∈ readNames here file.sections)
    (read : load here file.sections c = c') :
    ((check here c'.1.resources c'.2).1 = .ok [] → ∀ n,
        (table (c'.1, (check here c'.1.resources c'.2).2)).get n = declared here file n) ∧
      ((check here c'.1.resources c'.2).1 ≠ .ok [] → ∀ n, declared here file n = none) := by
  obtain ⟨apart', same⟩ := load_table here file.sections apart
  rw [read] at apart' same
  have agree (n : String) : (table c').get n = (readTable here file).get n := by
    rw [same]
    apply Dict.get_store_congr
    intro absent
    rw [← readNames_eq] at absent
    rw [table, Dict.get_mapValues, Dict.get_eq_none fun mem => absent (known n mem)]
    rfl
  have names : (Dict.keys (table c')).Nodup := by
    rw [table, Dict.keys_mapValues]
    exact apart'.names
  obtain ⟨passes, dictionaries⟩ := check_table here apart'
  have passes' : (check here c'.1.resources c'.2).1 = .ok [] ↔
      Passes here (readTable here file) := by
    have eq : Passes here (Dict.mapValues c'.2.deref c'.1.resources) ↔ Passes here (table c') := Iff.rfl
    rw [passes, eq, passes_iff names, passes_iff (readTable_nodup _)]
    constructor
    · intro all n d found
      exact all n d ((agree n).trans found)
    · intro all n d found
      exact all n d ((agree n).symm.trans found)
  constructor
  · intro ok n
    rw [declared, if_pos (passes'.1 ok), ← agree n, table, table, Dict.get_mapValues,
      Dict.get_mapValues]
    cases found : c'.1.resources.get n with
    | none => rfl
    | some r => exact congrArg some (dictionaries ok (n, r) (Dict.mem_of_get found))
  · intro failed n
    rw [declared, if_neg fun ok => failed (passes'.2 ok)]

end Configuration

end GridWay.Drm4g
