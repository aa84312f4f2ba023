import GridWay.Dagman.Parse

/-!
# Dags as they are written

What a file says, and what `DAGMan::Parse` makes of it after `merge_data`.

* `AsWritten`: the nodes are the jobs of the file with their scripts, and the edges its dependencies.
* `parsed_iff`: the lines with which every file is read as it is written.
-/

namespace GridWay.Dagman

/-- The job of a line, if it has the key. -/
def Line.node (key : Name) (line : Line) : Option Node :=
  match line.entry with
  | .job node => if upcase node.name = key then some node else none
  | _ => none

/-- The script of a line, if it is of the phase and its job has the key. -/
def Line.scriptFor (phase : Phase) (key : Name) (line : Line) : Option Script :=
  match line.entry with
  | .script other script_job value => if other = phase ∧ upcase script_job = key then some value else none
  | _ => none

/-- A line makes a job wait for another. -/
def Line.Edge (q c : Name) (line : Line) : Prop :=
  match line.entry with
  | .dependency parents children => q ∈ parents.map upcase ∧ c ∈ children.map upcase
  | _ => False

/-- The parents that a line names. -/
def Line.parents (line : Line) : List Name :=
  match line.entry with
  | .dependency parents _ => parents
  | _ => []

/-- The jobs that a line refers to. -/
def Line.uses (line : Line) : List Name :=
  match line.entry with
  | .job _ => []
  | .script _ script_job _ => [upcase script_job]
  | .dependency parents children => (parents ++ children).map upcase

/-- The last job of a key. -/
def declared (file : List Line) (key : Name) : Option Node := file.reverse.findSome? (Line.node key)

/-- The last script of a job for a phase. -/
def scriptOf (file : List Line) (phase : Phase) (key : Name) : Option Script :=
  file.reverse.findSome? (Line.scriptFor phase key)

/-- A file makes a job wait for another. -/
def Edge (file : List Line) (q c : Name) : Prop := ∃ line ∈ file, line.Edge q c

/-- The names of a phase in the dictionaries. -/
def Phase.capitals : Phase → List Char
  | .pre => "PRE".toList
  | .post => "POST".toList

/-- The jobs that a file refers to are in it. -/
def Listed (file : List Line) : Prop :=
  ∀ line ∈ file, ∀ key ∈ line.uses, (declared file key).isSome = true

/-- What is read of a file. -/
def read (file : List Line) : Parse := (file.map Line.text).foldl Parse.parse {}

/-- A node with the scripts that a file has for it. -/
def withScripts (file : List Line) (key : Name) (node : Node) : Node :=
  { node with pre := scriptOf file .pre key, post := scriptOf file .post key }

instance (file : List Line) : Decidable (Listed file) :=
  inferInstanceAs (Decidable (∀ line ∈ file, ∀ key ∈ line.uses, _))

/-- The dag of a file is what the file says. -/
def AsWritten (file : List Line) : Prop :=
  ∃ nodes g, (read file).merge_data = some (nodes, g) ∧
    (∀ key, nodes.get key = (declared file key).map (withScripts file key)) ∧
    (∀ q c, q ∈ g.parents c ↔ Edge file q c) ∧ ∀ q c, c ∈ g.children q ↔ Edge file q c

/-- A file whose dependencies are read as they are written, and for each job and phase, the last script that
is found again is the last one. -/
def Readable (file : List Line) : Prop :=
  (∀ line ∈ file, line.Straight) ∧
    ∀ phase key, scriptOf (file.filter Line.Stored) phase key = scriptOf file phase key

section Graph

variable {g g' : Graph Name} {nodes : Dict Name Node} {c p q j : Name} {ps : List Name}

/-- An edge is noted at both of its ends. -/
def Converse (g : Graph Name) : Prop := ∀ q c, c ∈ g.children q ↔ q ∈ g.parents c

lemma converse_add_parent (h : Converse g) : Converse (g.add_parent c p) := by
  rw [Graph.add_parent]
  by_cases there : p ∈ g.parents c
  · rw [if_pos there]
    exact h
  · rw [if_neg there]
    have fresh : c ∉ g.children p := fun mem => there ((h p c).1 mem)
    rw [Graph.add_child, if_neg fresh]
    intro q d
    show d ∈ Function.update g.children p (g.children p ++ [c]) q ↔
      q ∈ Function.update g.parents c (g.parents c ++ [p]) d
    by_cases own : q = p
    · by_cases same : d = c
      · rw [own, same, Function.update_self, Function.update_self]
        simp
      · rw [own, Function.update_self, Function.update_of_ne same, List.mem_append, List.mem_singleton,
          or_iff_left same]
        exact h p d
    · by_cases same : d = c
      · rw [same, Function.update_of_ne own, Function.update_self, List.mem_append, List.mem_singleton,
          or_iff_left own]
        exact h q c
      · rw [Function.update_of_ne own, Function.update_of_ne same]
        exact h q d

/-- The parents of a job that are nodes are added. -/
lemma add_parents_all (child : nodes.has c = true) (all : ∀ p ∈ ps, nodes.has p = true) :
    ps.foldlM (Parse.add_parents nodes c) g = some (ps.foldl (fun g p => g.add_parent c p) g) := by
  induction ps generalizing g with
  | nil => rfl
  | cons p ps ih =>
    rw [List.foldlM_cons, Parse.add_parents, if_pos ⟨child, all p List.mem_cons_self⟩]
    exact ih fun q mem => all q (List.mem_cons_of_mem _ mem)

lemma converse_add_parents (h : Converse g) : Converse (ps.foldl (fun g p => g.add_parent c p) g) := by
  induction ps generalizing g with
  | nil => exact h
  | cons p ps ih => exact ih (converse_add_parent h)

/-- The dependencies between nodes are added. -/
lemma merge_all (deps : Dict Name (List Name))
    (all : ∀ d ∈ deps, ∀ p ∈ d.2, nodes.has d.1 = true ∧ nodes.has p = true) :
    deps.foldlM (fun g d => d.2.foldlM (Parse.add_parents nodes d.1) g) g =
      some (deps.foldl (fun g d => d.2.foldl (fun g p => g.add_parent d.1 p) g) g) := by
  induction deps generalizing g with
  | nil => rfl
  | cons d deps ih =>
    have later := fun e mem => all e (List.mem_cons_of_mem _ mem)
    have first : d.2.foldlM (Parse.add_parents nodes d.1) g =
        some (d.2.foldl (fun g p => g.add_parent d.1 p) g) := by
      cases here : d.2 with
      | nil => rfl
      | cons p ps =>
        have own := all d List.mem_cons_self
        rw [here] at own
        exact add_parents_all (own p List.mem_cons_self).1 fun q mem => (own q mem).2
    rw [List.foldlM_cons, first]
    exact ih later

lemma add_parents_known {g' : Graph Name} (added : ps.foldlM (Parse.add_parents nodes c) g = some g') :
    ∀ p ∈ ps, nodes.has c = true ∧ nodes.has p = true := by
  induction ps generalizing g with
  | nil => exact fun p mem => absurd mem List.not_mem_nil
  | cons p ps ih =>
    rw [List.foldlM_cons] at added
    obtain ⟨g₁, first, rest⟩ := Option.bind_eq_some_iff.1 added
    obtain ⟨known, -⟩ := Option.ite_none_right_eq_some.1 first
    intro q mem
    obtain rfl | later := List.mem_cons.1 mem
    · exact known
    · exact ih rest q later

/-- A dependency whose ends are not both nodes is an error. -/
lemma merge_known {g' : Graph Name} {deps : Dict Name (List Name)}
    (merged : deps.foldlM (fun g d => d.2.foldlM (Parse.add_parents nodes d.1) g) g = some g') :
    ∀ d ∈ deps, ∀ p ∈ d.2, nodes.has d.1 = true ∧ nodes.has p = true := by
  induction deps generalizing g with
  | nil => exact fun d mem => absurd mem List.not_mem_nil
  | cons d deps ih =>
    rw [List.foldlM_cons] at merged
    obtain ⟨g₁, first, rest⟩ := Option.bind_eq_some_iff.1 merged
    intro e mem
    obtain rfl | later := List.mem_cons.1 mem
    · exact add_parents_known first
    · exact ih rest e later

lemma converse_merge (deps : Dict Name (List Name)) (h : Converse g) :
    Converse (deps.foldl (fun g d => d.2.foldl (fun g p => g.add_parent d.1 p) g) g) := by
  induction deps generalizing g with
  | nil => exact h
  | cons d deps ih => exact ih (converse_add_parents h)

end Graph

section Scripts

variable {nodes : Dict Name Node} {scripts : Dict Name (Dict (List Char) Script)} {key : Name}

/-- The scripts of the jobs are added to their nodes. -/
lemma add_scripts_all (distinct : (Dict.keys scripts).Nodup)
    (all : ∀ key ∈ Dict.keys scripts, nodes.has key = true) :
    ∃ nodes', scripts.foldlM Parse.add_scripts nodes = some nodes' ∧
      ∀ key, nodes'.get key = (nodes.get key).map fun node =>
        match scripts.get key with
        | some s => { node with pre := s.get "PRE".toList, post := s.get "POST".toList }
        | none => node := by
  induction scripts generalizing nodes with
  | nil =>
    refine ⟨nodes, rfl, fun key => ?_⟩
    show _ = (nodes.get key).map id
    rw [Option.map_id, id]
  | cons e scripts ih =>
    obtain ⟨job, s⟩ := e
    obtain ⟨fresh, rest⟩ := List.nodup_cons.1 distinct
    obtain ⟨node, found⟩ := Option.isSome_iff_exists.1 (all job List.mem_cons_self)
    have kept : ∀ key ∈ Dict.keys scripts, Dict.has (nodes.set job
        { node with pre := s.get "PRE".toList, post := s.get "POST".toList }) key = true := by
      intro key mem
      have other : job ≠ key := fun same => fresh (same ▸ mem)
      rw [Dict.has, Dict.get_set_ne other]
      exact all key (List.mem_cons_of_mem _ mem)
    obtain ⟨nodes', merged, values⟩ := ih rest kept
    refine ⟨nodes', ?_, fun key => ?_⟩
    · rw [List.foldlM_cons, Parse.add_scripts, found]
      exact merged
    · rw [values, Dict.get_set, Dict.get]
      by_cases same : job = key
      · subst same
        rw [if_pos rfl, if_pos rfl, found, Dict.get_eq_none fresh]
        rfl
      · rw [if_neg same, if_neg same]

end Scripts

section Lines

variable {p : Parse} {q c key : Name} {parents children names : List Name} {front : Front}
  {file : List Line} {line : Line}

/-- A dependency that was read. -/
def Parse.Edge (p : Parse) (q c : Name) : Prop := ∃ names, p.dependencies.get c = some names ∧ q ∈ names

lemma mem_sorted : q ∈ Parse.sorted names ↔ q ∈ names := by
  rw [Parse.sorted, List.mem_dedup, List.mem_mergeSort]

/-- The dependencies of a line are added to those before it. -/
lemma edge_add {d : Dict Name (List Name)} :
    (∃ names, (children.foldl (Parse.add_dependency parents) d).get c = some names ∧ q ∈ names) ↔
      (∃ names, d.get c = some names ∧ q ∈ names) ∨ q ∈ parents ∧ c ∈ children := by
  induction children generalizing d with
  | nil => simp
  | cons child children ih =>
    have step : (∃ names, (Parse.add_dependency parents d child).get c = some names ∧ q ∈ names) ↔
        (∃ names, d.get c = some names ∧ q ∈ names) ∨ q ∈ parents ∧ c = child := by
      rw [Parse.add_dependency, Dict.get_set]
      by_cases same : child = c
      · subst same
        rw [if_pos rfl]
        simp only [Option.some.injEq, exists_eq_left', mem_sorted, List.mem_append, and_true]
        cases d.get child with
        | none => simp
        | some names => simp
      · rw [if_neg same]
        exact (or_iff_left fun new => same new.2.symm).symm
    rw [List.foldl_cons, ih, step, or_assoc, ← and_or_left, List.mem_cons]

lemma nodup_add {d : Dict Name (List Name)} (distinct : (Dict.keys d).Nodup) :
    (Dict.keys (children.foldl (Parse.add_dependency parents) d)).Nodup := by
  induction children generalizing d with
  | nil => exact distinct
  | cons child children ih => exact ih (Dict.nodup_set distinct)

/-- The dependencies that were read of a file so far. A name that ends in the keyword is the start of a longer
one, and blanks that are too many leave a name without a letter. -/
structure Links (file : List Line) (p : Parse) : Prop where
  distinct : (Dict.keys p.dependencies).Nodup
  edges : (∀ line ∈ file, line.Straight) → ∀ q c, p.Edge q c ↔ Edge file q c
  cut : ∀ q c, p.Edge q c → Line.EndsInChild q →
    ∃ line ∈ file, ∃ r ∈ line.parents, Line.EndsInChild r ∧ q.length < r.length
  blank : ∀ line ∈ file, ¬line.Straight → (∀ r ∈ line.parents, ¬Line.EndsInChild r) →
    ∃ q c, p.Edge q c ∧ (q = [] ∨ c = [])

/-- What was read of a file so far. -/
structure Reads (file : List Line) (p : Parse) : Prop where
  jobs : ∀ key, p.jobs.get key = declared file key
  scripts : ∀ phase key, ((p.scripts.get key).getD []).get (Phase.capitals phase) =
    scriptOf (file.filter Line.Stored) phase key
  apart : (Dict.keys p.scripts).Nodup
  used : ∀ key ∈ Dict.keys p.scripts, ∃ line ∈ file, key ∈ line.uses
  links : Links file p

lemma reads_nil : Reads [] {} where
  jobs _ := rfl
  scripts phase _ := by cases phase <;> rfl
  apart := List.nodup_nil
  used := nofun
  links := by
    have no_edge (q c : Name) : ¬Parse.Edge {} q c := by
      rintro ⟨names, found, -⟩
      cases found
    constructor
    · exact List.nodup_nil
    · intro _ q c
      apply iff_of_false (no_edge q c)
      rintro ⟨line, mem, -⟩
      cases mem
    · intro q c edge
      exact absurd edge (no_edge q c)
    · intro line mem
      cases mem

lemma declared_concat (file : List Line) (line : Line) (key : Name) :
    declared (file ++ [line]) key = (line.node key).or (declared file key) := by
  rw [declared, List.reverse_append, List.reverse_singleton, List.singleton_append, List.findSome?_cons]
  cases line.node key <;> rfl

lemma scriptOf_concat (file : List Line) (line : Line) (phase : Phase) (key : Name) :
    scriptOf (file ++ [line]) phase key = (line.scriptFor phase key).or (scriptOf file phase key) := by
  rw [scriptOf, List.reverse_append, List.reverse_singleton, List.singleton_append, List.findSome?_cons]
  cases line.scriptFor phase key <;> rfl

lemma edge_concat (file : List Line) (line : Line) (q c : Name) :
    Edge (file ++ [line]) q c ↔ Edge file q c ∨ line.Edge q c := by
  constructor
  · rintro ⟨l, mem, edge⟩
    obtain old | new := List.mem_append.1 mem
    · exact .inl ⟨l, old, edge⟩
    · rw [List.mem_singleton.1 new] at edge
      exact .inr edge
  · rintro (⟨l, mem, edge⟩ | edge)
    · exact ⟨l, List.mem_append_left _ mem, edge⟩
    · exact ⟨line, by simp, edge⟩

lemma stored_concat (file : List Line) (line : Line) (phase : Phase) (key : Name) :
    scriptOf ((file ++ [line]).filter Line.Stored) phase key =
      (if line.Stored then line.scriptFor phase key else none).or
        (scriptOf (file.filter Line.Stored) phase key) := by
  rw [List.filter_append]
  cases here : line.Stored with
  | true => rw [List.filter_cons_of_pos here, List.filter_nil, scriptOf_concat, if_pos rfl]
  | false =>
    rw [List.filter_cons_of_neg (by rw [here]; exact Bool.false_ne_true), List.filter_nil, List.append_nil]
    rfl

/-- A line without dependencies. -/
lemma links_other {p' : Parse} (h : Links file p) (same : p'.dependencies = p.dependencies)
    (no_edge : ∀ q c, ¬line.Edge q c) (straight : line.Straight) : Links (file ++ [line]) p' := by
  have edge (q c : Name) : p'.Edge q c ↔ p.Edge q c := by rw [Parse.Edge, same, Parse.Edge]
  constructor
  · rw [same]
    exact h.distinct
  · intro all q c
    rw [edge, edge_concat, h.edges (fun l mem => all l (List.mem_append_left _ mem))]
    exact (or_iff_left (no_edge q c)).symm
  · intro q c read ends
    obtain ⟨l, mem, longer⟩ := h.cut q c ((edge q c).1 read) ends
    exact ⟨l, List.mem_append_left _ mem, longer⟩
  · intro l mem crooked whole
    obtain old | new := List.mem_append.1 mem
    · obtain ⟨q, c, read, empty⟩ := h.blank l old crooked whole
      exact ⟨q, c, (edge q c).2 read, empty⟩
    · rw [List.mem_singleton.1 new] at crooked
      exact absurd straight crooked

/-- A line of a job. -/
lemma parse_job {name gap template trail : List Char} {mark : Option (List Char × List Char)}
    (written : (Line.job front name gap template mark trail).Written) :
    p.parse (Line.job front name gap template mark trail).text =
      { p with jobs := p.jobs.set (upcase name) { name, template, done := mark.isSome } } := by
  rw [Parse.parse, Regex.JOB_REG_job written]

lemma reads_job {name gap template trail : List Char} {mark : Option (List Char × List Char)}
    (written : (Line.job front name gap template mark trail).Written) (h : Reads file p) :
    Reads (file ++ [.job front name gap template mark trail])
      (p.parse (Line.job front name gap template mark trail).text) := by
  rw [parse_job written]
  constructor
  · intro key
    rw [declared_concat, ← h.jobs]
    show Dict.get (p.jobs.set _ _) key = _
    rw [Dict.get_set]
    show _ = (if upcase name = key then some _ else none).or _
    by_cases own : upcase name = key
    · rw [if_pos own, if_pos own, Option.some_or]
    · rw [if_neg own, if_neg own, Option.none_or]
  · intro phase key
    rw [stored_concat]
    exact h.scripts phase key
  · exact h.apart
  · intro key mem
    obtain ⟨line, old, use⟩ := h.used key mem
    exact ⟨line, List.mem_append_left _ old, use⟩
  · exact links_other h.links rfl (fun _ _ edge => edge.elim) trivial

/-- A line of a script. It is stored under its type as it is written. -/
lemma parse_script {type gap₁ job gap₂ name after : List Char}
    (written : (Line.script front type gap₁ job gap₂ name after).Written) :
    p.parse (Line.script front type gap₁ job gap₂ name after).text =
      if after = [] then p
      else
        { p with
          scripts := p.scripts.set (upcase job) (((p.scripts.get (upcase job)).getD []).set type
            ⟨name, Regex.rest (after.dropWhile Scan.isSpace)⟩) } := by
  rw [Parse.parse, Regex.JOB_REG_script written, Regex.SCRIPT_REG_script written]
  by_cases none_after : after = []
  · rw [if_pos none_after, if_pos none_after, Regex.PARENT_REG_script written]
  · rw [if_neg none_after, if_neg none_after]

lemma reads_script {type gap₁ job gap₂ name after : List Char}
    (written : (Line.script front type gap₁ job gap₂ name after).Written) (h : Reads file p) :
    Reads (file ++ [.script front type gap₁ job gap₂ name after])
      (p.parse (Line.script front type gap₁ job gap₂ name after).text) := by
  rw [parse_script written]
  have links {p' : Parse} (same : p'.dependencies = p.dependencies) :
      Links (file ++ [.script front type gap₁ job gap₂ name after]) p' :=
    links_other h.links same (fun _ _ edge => edge.elim) trivial
  have old_used (key : Name) (mem : key ∈ Dict.keys p.scripts) :
      ∃ line ∈ file ++ [.script front type gap₁ job gap₂ name after], key ∈ line.uses := by
    obtain ⟨line, old, use⟩ := h.used key mem
    exact ⟨line, List.mem_append_left _ old, use⟩
  by_cases none_after : after = []
  · rw [if_pos none_after]
    have lost : (Line.script front type gap₁ job gap₂ name after).Stored = false :=
      decide_eq_false fun stored => stored.2 none_after
    refine ⟨fun key => ?_, fun phase key => ?_, h.apart, old_used, links rfl⟩
    · rw [declared_concat]
      exact h.jobs key
    · rw [stored_concat, lost]
      exact h.scripts phase key
  · rw [if_neg none_after]
    have own (phase : Phase) : type = Phase.capitals phase ↔
        (type = "PRE".toList ∨ type = "POST".toList) ∧
          (if upcase type = "PRE".toList then Phase.pre else .post) = phase := by
      constructor
      · rintro rfl
        cases phase <;> decide
      · rintro ⟨rfl | rfl, rfl⟩
        · decide
        · decide
    refine ⟨fun key => ?_, fun phase key => ?_, Dict.nodup_set h.apart, fun key mem => ?_, links rfl⟩
    · rw [declared_concat]
      exact h.jobs key
    · rw [stored_concat, ← h.scripts]
      show ((Dict.get (p.scripts.set (upcase job) _) key).getD []).get (Phase.capitals phase) =
        (if decide ((type = "PRE".toList ∨ type = "POST".toList) ∧ after ≠ []) then
          if (if upcase type = "PRE".toList then Phase.pre else .post) = phase ∧ upcase job = key then some _
          else none
        else none).or _
      rw [Dict.get_set]
      by_cases same : upcase job = key
      · subst same
        rw [if_pos rfl, Option.getD_some, Dict.get_set]
        by_cases typed : type = Phase.capitals phase
        · obtain ⟨capitals, phased⟩ := (own phase).1 typed
          rw [if_pos typed, if_pos (decide_eq_true ⟨capitals, none_after⟩), if_pos ⟨phased, rfl⟩, Option.some_or]
        · rw [if_neg typed]
          by_cases capitals : type = "PRE".toList ∨ type = "POST".toList
          · rw [if_pos (decide_eq_true ⟨capitals, none_after⟩),
              if_neg fun both => typed ((own phase).2 ⟨capitals, both.1⟩), Option.none_or]
          · rw [if_neg fun stored => capitals (of_decide_eq_true stored).1, Option.none_or]
      · rw [if_neg same]
        split
        · rw [if_neg fun both => same both.2, Option.none_or]
        · rw [Option.none_or]
    · obtain ⟨v, found⟩ := Dict.mem_keys_iff.1 mem
      rw [Dict.get_set] at found
      by_cases same : upcase job = key
      · refine ⟨.script front type gap₁ job gap₂ name after, by simp, ?_⟩
        rw [← same]
        exact List.mem_singleton_self _
      · rw [if_neg same] at found
        exact old_used key (Dict.mem_keys_iff.2 ⟨v, found⟩)

/-- The names of parents with one blank between two of them. -/
lemma gapped_plain {parents : List (Name × List Char)} (single : ∀ p ∈ parents.dropLast, p.2.length = 1) :
    Regex.gapped parents = parents.map Prod.fst := by
  obtain rfl | ⟨init, last, rfl⟩ := List.eq_nil_or_concat parents
  · rfl
  · rw [List.concat_eq_append] at *
    rw [List.dropLast_concat] at single
    rw [Regex.gapped, List.dropLast_concat, List.getLast?_concat, List.map_append]
    have names : init.flatMap (fun p => p.1 :: List.replicate (p.2.length - 1) []) = init.map Prod.fst := by
      induction init with
      | nil => rfl
      | cons p init ih =>
        rw [List.flatMap_cons, single p List.mem_cons_self, ih fun q mem => single q (List.mem_cons_of_mem _ mem)]
        rfl
    rw [names]
    rfl

lemma mem_gapped {crew : List (Name × List Char)} (mem : q ∈ Regex.gapped crew) :
    (∃ r ∈ crew, r.1 = q) ∨ q = [] := by
  obtain inner | last := List.mem_append.1 mem
  · obtain ⟨r, there, part⟩ := List.mem_flatMap.1 inner
    obtain rfl | empty := List.mem_cons.1 part
    · exact .inl ⟨r, List.dropLast_subset _ there, rfl⟩
    · exact .inr (List.mem_replicate.1 empty).2
  · obtain ⟨r, there, rfl⟩ := Option.map_eq_some_iff.1 (Option.mem_toList.1 last)
    exact .inl ⟨r, List.mem_of_getLast? there, rfl⟩

lemma gapped_ne_nil {crew : List (Name × List Char)} (some_parent : crew ≠ []) : Regex.gapped crew ≠ [] := by
  rw [Regex.gapped, List.getLast?_eq_some_getLast some_parent]
  exact List.append_ne_nil_of_right_ne_nil _ (List.cons_ne_nil _ _)

lemma spread_ne_nil {heirs : List (List Char × Name)} (some_child : heirs ≠ []) :
    Regex.spread heirs ≠ [] := by
  obtain ⟨c, cs, rfl⟩ := List.exists_cons_of_ne_nil some_child
  exact List.cons_ne_nil _ _

/-- A gap of several blanks has more than one. -/
lemma nil_mem_replicate {gap : List Char} (between : Gap gap) (wide : gap.length ≠ 1) :
    ([] : Name) ∈ List.replicate (gap.length - 1) [] := by
  have some_blank := List.length_pos_iff.2 between.1
  exact List.mem_replicate.2 ⟨by omega, rfl⟩

lemma blank_gapped {crew : List (Name × List Char)} {r : Name × List Char} (there : r ∈ crew.dropLast)
    (between : Gap r.2) (wide : r.2.length ≠ 1) : [] ∈ Regex.gapped crew := by
  apply List.mem_append_left
  exact List.mem_flatMap.2 ⟨r, there, List.mem_cons_of_mem _ (nil_mem_replicate between wide)⟩

lemma blank_spread {heirs : List (List Char × Name)} {d : List Char × Name} (there : d ∈ heirs.tail)
    (between : Gap d.1) (wide : d.1.length ≠ 1) : [] ∈ Regex.spread heirs := by
  apply List.mem_append_right
  exact List.mem_flatMap.2 ⟨d, there, List.mem_append_left _ (nil_mem_replicate between wide)⟩

/-- The names of children with one blank between two of them. -/
lemma spread_plain {children : List (List Char × Name)} (single : ∀ c ∈ children.tail, c.1.length = 1) :
    Regex.spread children = children.map Prod.snd := by
  cases children with
  | nil => rfl
  | cons c children =>
    have names : children.flatMap (fun c => List.replicate (c.1.length - 1) [] ++ [c.2]) =
        children.map Prod.snd := by
      rw [List.tail_cons] at single
      induction children with
      | nil => rfl
      | cons d children ih =>
        rw [List.flatMap_cons, single d List.mem_cons_self, ih fun e mem => single e (List.mem_cons_of_mem _ mem)]
        rfl
    show [c.2] ++ children.flatMap _ = _
    rw [names]
    rfl

section Parents

variable {crew : List (Name × List Char)} {child trail : List Char} {heirs : List (List Char × Name)}

lemma upcase_ends : Line.EndsInChild (upcase q) ↔ Line.EndsInChild q := by
  have same : upcase (upcase q) = upcase q := by
    rw [upcase, upcase, List.map_map]
    apply List.map_congr_left
    intro c _
    exact Regex.toUpper_toUpper c
  rw [Line.EndsInChild, same, Line.EndsInChild]

/-- A line of dependencies. -/
lemma parse_parent (written : (Line.parent front crew child heirs trail).Written) :
    ∃ read_parents read_children : List Name,
      p.parse (Line.parent front crew child heirs trail).text =
        { p with
          dependencies := (read_children.map upcase).foldl
            (Parse.add_dependency (read_parents.map upcase)) p.dependencies } ∧
      (∀ q ∈ read_parents, Line.EndsInChild q →
        ∃ r ∈ crew, Line.EndsInChild r.1 ∧ q.length < r.1.length) ∧
      ((∀ r ∈ crew, ¬Line.EndsInChild r.1) →
        read_parents = Regex.gapped crew ∧ read_children = Regex.spread heirs) := by
  obtain ⟨-, some_parent, words, -, some_child, names, trails⟩ := id written
  by_cases ends : ∃ r ∈ crew, Line.EndsInChild r.1
  · obtain ⟨found, matched, cut⟩ := Regex.PARENT_REG_ends written ends
    refine ⟨Regex.split found.1, Regex.split found.2, ?_, cut, fun whole => ?_⟩
    · rw [Parse.parse, Regex.JOB_REG_parent written, Regex.SCRIPT_REG_parent written, matched]
    · obtain ⟨r, mem, last⟩ := ends
      exact absurd last (whole r mem)
  · have others : ∀ r ∈ crew, ¬Line.EndsInChild r.1 := fun r mem last => ends ⟨r, mem, last⟩
    obtain ⟨c, children, rfl⟩ := List.exists_cons_of_ne_nil some_child
    refine ⟨Regex.gapped crew, Regex.spread (c :: children), ?_, fun q mem last => ?_, fun _ => ⟨rfl, rfl⟩⟩
    · rw [Parse.parse, Regex.JOB_REG_parent written, Regex.SCRIPT_REG_parent written,
        Regex.PARENT_REG_parent written others, ← Regex.split_parents some_parent words,
        ← Regex.split_children names (Regex.rest_trail trails)]
    · obtain ⟨r, there, rfl⟩ | rfl := mem_gapped mem
      · exact absurd last (others r there)
      · exact absurd (List.IsSuffix.length_le last) (by decide)

/-- A line of dependencies, with what is wrong where it is not read as it is written. -/
lemma reads_parent (written : (Line.parent front crew child heirs trail).Written) (h : Reads file p) :
    Reads (file ++ [.parent front crew child heirs trail])
      (p.parse (Line.parent front crew child heirs trail).text) := by
  obtain ⟨read_parents, read_children, parsed, cut, whole⟩ := parse_parent (p := p) written
  rw [parsed]
  have edge (q c : Name) : Parse.Edge { p with
      dependencies := (read_children.map upcase).foldl
        (Parse.add_dependency (read_parents.map upcase)) p.dependencies } q c ↔
      p.Edge q c ∨ q ∈ read_parents.map upcase ∧ c ∈ read_children.map upcase := edge_add
  refine ⟨fun key => ?_, fun phase key => ?_, h.apart, fun key mem => ?_, nodup_add h.links.distinct, ?_, ?_, ?_⟩
  · rw [declared_concat]
    exact h.jobs key
  · rw [stored_concat]
    exact h.scripts phase key
  · obtain ⟨line, old, use⟩ := h.used key mem
    exact ⟨line, List.mem_append_left _ old, use⟩
  · intro all q c
    obtain ⟨single, single', others⟩ := all (.parent front crew child heirs trail) (by simp)
    obtain ⟨rfl, rfl⟩ := whole others
    rw [edge, edge_concat, h.links.edges fun l mem => all l (List.mem_append_left _ mem),
      gapped_plain single, spread_plain single']
    rfl
  · intro q c read ends
    obtain old | ⟨new, -⟩ := (edge q c).1 read
    · obtain ⟨l, mem, longer⟩ := h.links.cut q c old ends
      exact ⟨l, List.mem_append_left _ mem, longer⟩
    · obtain ⟨name, mem, rfl⟩ := List.mem_map.1 new
      obtain ⟨r, there, last, longer⟩ := cut name mem (upcase_ends.1 ends)
      refine ⟨.parent front crew child heirs trail, by simp, r.1, List.mem_map_of_mem there, last, ?_⟩
      rw [Regex.upcase_length]
      exact longer
  · intro l mem crooked straight_names
    obtain old | new := List.mem_append.1 mem
    · obtain ⟨q, c, read, empty⟩ := h.links.blank l old crooked straight_names
      exact ⟨q, c, (edge q c).2 (.inl read), empty⟩
    · rw [List.mem_singleton.1 new] at crooked straight_names
      have others : ∀ r ∈ crew, ¬Line.EndsInChild r.1 :=
        fun r there => straight_names r.1 (List.mem_map_of_mem there)
      obtain ⟨rfl, rfl⟩ := whole others
      obtain ⟨-, some_parent, words, -, some_child, names, -⟩ := written
      obtain ⟨q, first⟩ := List.exists_mem_of_ne_nil _ (gapped_ne_nil some_parent)
      obtain ⟨c, second⟩ := List.exists_mem_of_ne_nil _ (spread_ne_nil some_child)
      by_cases single : ∀ r ∈ crew.dropLast, r.2.length = 1
      · have wide : ∃ c ∈ heirs.tail, c.1.length ≠ 1 := by
          by_contra single'
          push Not at single'
          exact crooked ⟨single, single', others⟩
        obtain ⟨d, there, wide⟩ := wide
        have empty := blank_spread there (names d (List.mem_of_mem_tail there)).1 wide
        exact ⟨upcase q, [], (edge _ _).2 (.inr ⟨List.mem_map_of_mem first, List.mem_map.2 ⟨[], empty, rfl⟩⟩),
          .inr rfl⟩
      · push Not at single
        obtain ⟨r, there, wide⟩ := single
        have empty := blank_gapped there (words r (List.dropLast_subset _ there)).2 wide
        exact ⟨[], upcase c, (edge _ _).2 (.inr ⟨List.mem_map.2 ⟨[], empty, rfl⟩, List.mem_map_of_mem second⟩),
          .inl rfl⟩

end Parents

/-- A line adds what it says, as far as it is read. -/
lemma reads_line (written : line.Written) (h : Reads file p) : Reads (file ++ [line]) (p.parse line.text) := by
  cases line with
  | job => exact reads_job written h
  | script => exact reads_script written h
  | parent => exact reads_parent written h

/-- What is read of a whole file. -/
lemma reads_file (written : ∀ line ∈ file, line.Written) : Reads file (read file) := by
  induction file using List.reverseRecOn with
  | nil => exact reads_nil
  | append_singleton file line ih =>
    have before := ih fun l mem => written l (List.mem_append_left _ mem)
    have step : read (file ++ [line]) = (read file).parse line.text := by
      rw [read, List.map_append, List.foldl_append]
      rfl
    rw [step]
    exact reads_line (written line (by simp)) before

/-- Both ends of an edge are referred to. -/
lemma edge_uses (edge : line.Edge q c) : q ∈ line.uses ∧ c ∈ line.uses := by
  cases line with
  | job => exact edge.elim
  | script => exact edge.elim
  | parent front parents child children trail =>
    show q ∈ (_ ++ _ : List Name).map upcase ∧ c ∈ (_ ++ _ : List Name).map upcase
    rw [List.map_append]
    exact ⟨List.mem_append_left _ edge.1, List.mem_append_right _ edge.2⟩

/-- A parent has a child. -/
lemma exists_edge {r : Name} (written : line.Written) (named : r ∈ line.parents) :
    ∃ c, line.Edge (upcase r) c := by
  cases line with
  | job => cases named
  | script => cases named
  | parent front parents child children trail =>
    obtain ⟨c, cs, rfl⟩ := List.exists_cons_of_ne_nil written.2.2.2.2.1
    exact ⟨upcase c.2, List.mem_map_of_mem named, List.mem_cons_self⟩

/-- A script is for a job that the line refers to. -/
lemma scriptFor_uses {phase : Phase} {script : Script} (found : line.scriptFor phase key = some script) :
    key ∈ line.uses := by
  cases line with
  | job => cases found
  | script front type gap₁ job gap₂ name after =>
    obtain ⟨⟨-, own⟩, -⟩ := Option.ite_none_right_eq_some.1 found
    rw [← own]
    exact List.mem_singleton_self _
  | parent => cases found

/-- A line of a job has no scripts, and its name has a letter. -/
lemma node_bare {node : Node} (written : line.Written) (found : line.node key = some node) :
    node.pre = none ∧ node.post = none ∧ key ≠ [] := by
  cases line with
  | job front name gap template mark trail =>
    obtain ⟨own, eq⟩ := Option.ite_none_right_eq_some.1 found
    cases eq
    refine ⟨rfl, rfl, ?_⟩
    rw [← own]
    exact fun empty => written.2.1.1 (List.map_eq_nil_iff.1 empty)
  | script => cases found
  | parent => cases found

lemma declared_bare {node : Node} (written : ∀ line ∈ file, line.Written)
    (found : declared file key = some node) : node.pre = none ∧ node.post = none ∧ key ≠ [] := by
  obtain ⟨line, mem, here⟩ := List.exists_of_findSome?_eq_some found
  exact node_bare (written line (List.mem_reverse.1 mem)) here

end Lines

section Dags

variable {file : List Line} {nodes : Dict Name Node} {g : Graph Name}

/-- The parents in a dag are those that were read. -/
lemma mem_graph (reads : Reads file (read file)) (q c : Name) :
    q ∈ ((read file).dependencies.foldl (fun g d => d.2.foldl (fun g p => g.add_parent d.1 p) g)
        ({} : Graph Name)).parents c ↔ (read file).Edge q c := by
  rw [Graph.mem_merged, or_iff_right List.not_mem_nil]
  constructor
  · rintro ⟨d, mem, rfl, parent⟩
    exact ⟨d.2, Dict.get_of_mem reads.links.distinct mem, parent⟩
  · rintro ⟨names, found, parent⟩
    exact ⟨(c, names), Dict.mem_of_get found, rfl, parent⟩

/-- The jobs with scripts are nodes. -/
lemma scripts_known (reads : Reads file (read file)) (listed : Listed file) :
    ∀ key ∈ Dict.keys (read file).scripts, (read file).jobs.has key = true := by
  intro key mem
  obtain ⟨line, there, use⟩ := reads.used key mem
  rw [Dict.has, reads.jobs]
  exact listed line there key use

/-- The nodes of a dag have the scripts that are found again. -/
lemma nodes_merged (reads : Reads file (read file)) (written : ∀ line ∈ file, line.Written)
    (listed : Listed file) : ∃ nodes, (read file).scripts.foldlM Parse.add_scripts (read file).jobs = some nodes ∧
      ∀ key, nodes.get key = (declared file key).map fun node =>
        { node with
          pre := scriptOf (file.filter Line.Stored) .pre key
          post := scriptOf (file.filter Line.Stored) .post key } := by
  obtain ⟨nodes, merged, values⟩ := add_scripts_all reads.apart (scripts_known reads listed)
  refine ⟨nodes, merged, fun key => ?_⟩
  rw [values, reads.jobs]
  apply Option.map_congr
  intro node found
  obtain ⟨bare, bare', -⟩ := declared_bare written found
  rw [← reads.scripts, ← reads.scripts]
  cases Dict.get (read file).scripts key with
  | some s => rfl
  | none =>
    cases node
    cases bare
    cases bare'
    rfl

/-- A file that is readable becomes the dag that it describes. -/
lemma Readable.asWritten (readable : Readable file) (written : ∀ line ∈ file, line.Written)
    (listed : Listed file) : AsWritten file := by
  obtain ⟨straight, stored⟩ := readable
  have reads := reads_file written
  have edges := reads.links.edges straight
  have known : ∀ d ∈ (read file).dependencies, ∀ q ∈ d.2,
      (read file).jobs.has d.1 = true ∧ (read file).jobs.has q = true := by
    intro d mem q parent
    obtain ⟨line, there, edge⟩ := (edges q d.1).1 ⟨d.2, Dict.get_of_mem reads.links.distinct mem, parent⟩
    obtain ⟨use, use'⟩ := edge_uses edge
    rw [Dict.has, Dict.has, reads.jobs, reads.jobs]
    exact ⟨listed line there _ use', listed line there _ use⟩
  obtain ⟨nodes, merged, values⟩ := nodes_merged reads written listed
  have graph := merge_all (g := {}) (read file).dependencies known
  have converse : Converse ({} : Graph Name) := fun q c => iff_of_false List.not_mem_nil List.not_mem_nil
  refine ⟨nodes, _, ?_, fun key => ?_, fun q c => (mem_graph reads q c).trans (edges q c), fun q c => ?_⟩
  · rw [Parse.merge_data, graph]
    show (_ >>= fun jobs => some (jobs, _)) = _
    rw [merged]
    rfl
  · rw [values, stored, stored]
    rfl
  · rw [← edges, ← mem_graph reads]
    exact converse_merge _ converse q c

/-- What a merged dag says of what was read. -/
lemma AsWritten.graph (h : AsWritten file) (written : ∀ line ∈ file, line.Written) :
    (∀ q c, (read file).Edge q c ↔ Edge file q c) ∧
      ∀ q c, (read file).Edge q c → (declared file q).isSome = true ∧ (declared file c).isSome = true := by
  obtain ⟨nodes, g, merged, -, edges, -⟩ := h
  have reads := reads_file written
  obtain ⟨g', graph, rest⟩ := Option.bind_eq_some_iff.1 merged
  obtain ⟨nodes', -, eq⟩ := Option.bind_eq_some_iff.1 rest
  have known := merge_known graph
  have same : g' = g := (Prod.mk.inj (Option.some.inj eq)).2
  rw [merge_all _ known] at graph
  rw [same] at graph
  constructor
  · intro q c
    rw [← edges, ← mem_graph reads, Option.some.inj graph]
  · rintro q c ⟨names, found, parent⟩
    obtain ⟨child, parent⟩ := known _ (Dict.mem_of_get found) q parent
    rw [Dict.has, reads.jobs] at child parent
    exact ⟨parent, child⟩

/-- The dependencies of a file whose dag is as it is written. -/
lemma AsWritten.straight (h : AsWritten file) (written : ∀ line ∈ file, line.Written) :
    ∀ line ∈ file, line.Straight := by
  obtain ⟨edges, known⟩ := h.graph written
  have links := (reads_file written).links
  have longer : ∀ r ∈ file.flatMap Line.parents, Line.EndsInChild r →
      ∃ r' ∈ file.flatMap Line.parents, Line.EndsInChild r' ∧ r.length < r'.length := by
    intro r mem ends
    obtain ⟨line, there, named⟩ := List.mem_flatMap.1 mem
    obtain ⟨c, edge⟩ := exists_edge (written line there) named
    obtain ⟨line', there', r', named', ends', longer⟩ :=
      links.cut _ c ((edges _ c).2 ⟨line, there, edge⟩) (upcase_ends.2 ends)
    rw [Regex.upcase_length] at longer
    exact ⟨r', List.mem_flatMap.2 ⟨line', there', named'⟩, ends', longer⟩
  -- A name that ends in the keyword has a longer one, up to the length of all names together.
  have whole (k : ℕ) : ∀ r ∈ file.flatMap Line.parents,
      (file.flatMap Line.parents).flatten.length < r.length + k → ¬Line.EndsInChild r := by
    induction k with
    | zero =>
      intro r mem long
      exact absurd (List.sublist_flatten_of_mem mem).length_le (Nat.not_le.2 long)
    | succ k ih =>
      intro r mem long ends
      obtain ⟨r', mem', ends', longer⟩ := longer r mem ends
      exact ih r' mem' (by omega) ends'
  intro line mem
  by_contra crooked
  obtain ⟨q, c, read, empty⟩ := links.blank line mem crooked fun r there =>
    whole _ r (List.mem_flatMap.2 ⟨line, mem, there⟩) (Nat.lt_add_left _ (Nat.lt_succ_self _))
  obtain ⟨parent, child⟩ := known q c read
  obtain ⟨node, found⟩ := Option.isSome_iff_exists.1 parent
  obtain ⟨node', found'⟩ := Option.isSome_iff_exists.1 child
  obtain rfl | rfl := empty
  · exact (declared_bare written found).2.2 rfl
  · exact (declared_bare written found').2.2 rfl

/-- The scripts of a file whose dag is as it is written. -/
lemma AsWritten.stored (h : AsWritten file) (written : ∀ line ∈ file, line.Written) (listed : Listed file)
    (phase : Phase) (key : Name) : scriptOf (file.filter Line.Stored) phase key = scriptOf file phase key := by
  obtain ⟨nodes, g, merged, values, -⟩ := h
  have reads := reads_file written
  obtain ⟨nodes', added, values'⟩ := nodes_merged reads written listed
  obtain ⟨g', -, rest⟩ := Option.bind_eq_some_iff.1 merged
  obtain ⟨nodes'', again, eq⟩ := Option.bind_eq_some_iff.1 rest
  have same : nodes'' = nodes := (Prod.mk.inj (Option.some.inj eq)).1
  rw [added, same] at again
  have own := values key
  rw [← Option.some.inj again, values'] at own
  cases here : declared file key with
  | some node =>
    rw [here] at own
    have fields := Option.some.inj own
    cases phase with
    | pre => exact congrArg Node.pre fields
    | post => exact congrArg Node.post fields
  | none =>
    have unused (lines : List Line) (sub : ∀ line ∈ lines, line ∈ file) : scriptOf lines phase key = none := by
      rw [scriptOf, List.findSome?_eq_none_iff]
      intro line mem
      rw [Option.eq_none_iff_forall_ne_some]
      intro script found
      have there := listed line (sub line (List.mem_reverse.1 mem)) key (scriptFor_uses found)
      rw [here] at there
      cases there
    rw [unused _ fun line mem => (List.mem_filter.1 mem).1, unused _ fun _ mem => mem]

/-- A file becomes the dag that it describes exactly when there is one blank between two parents and between two
children, no name of a parent ends in the keyword of the children, and for each job and phase, the last script
whose type is in capitals and that does not end the file is the last script. -/
theorem asWritten_iff (written : ∀ line ∈ file, line.Written) (listed : Listed file) :
    AsWritten file ↔ Readable file := by
  constructor
  · intro h
    exact ⟨h.straight written, h.stored written listed⟩
  · intro readable
    exact readable.asWritten written listed

/-- A line of a job whose template has its name. -/
def jobLine (name : String) : Line :=
  .job ⟨[], "JOB".toList, [' ']⟩ name.toList [' '] (name ++ ".jt").toList none ['\n']

/-- Two jobs, with a script that runs before the first one, which the second one waits for. -/
def twoJobs : List Line :=
  [jobLine "a", jobLine "B",
    .script ⟨[], "Script".toList, [' ']⟩ "PRE".toList [' ', '\t'] "A".toList [' '] "stage".toList ['\n'],
    .parent ⟨[' '], "parent".toList, [' ']⟩ [("A".toList, [' ', ' '])] "child".toList
      [([' ', ' '], "b".toList)] ['\n']]

theorem asWritten_twoJobs : AsWritten twoJobs ↔ Readable twoJobs :=
  asWritten_iff (by decide) (by decide)

/-- Two blanks between the names of two parents. -/
def spacedLine : Line :=
  .parent ⟨[], "PARENT".toList, [' ']⟩ [("a".toList, [' ', ' ']), ("b".toList, [' '])] "CHILD".toList
    [([' '], "c".toList)] ['\n']

def spaced : List Line := [jobLine "a", jobLine "b", jobLine "c", spacedLine]

/-- With two blanks in a row, a parent without a name is looked for among the jobs, which is an error. -/
theorem spaced_not_asWritten :
    ¬∀ file : List Line, (∀ line ∈ file, line.Written) → Listed file → AsWritten file := by
  intro always
  have written : ∀ line ∈ spaced, line.Written := by decide
  have straight := (always spaced written (by decide)).straight written spacedLine (by decide)
  have single := straight.1 ("a".toList, [' ', ' ']) List.mem_cons_self
  exact absurd single (by decide)

end Dags

end GridWay.Dagman
