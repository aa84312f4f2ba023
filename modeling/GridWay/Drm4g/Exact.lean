import GridWay.Drm4g.Check

/-!
# When the check of the configuration is exact

The file is read into a configuration that may hold resources already, and is checked, once or more
often.

* `Configuration.Reached`: the configurations that reading and checking files lead to.
* `Configuration.Exact`: the check neither raises nor errs, each resource is judged by itself, a second
  check finds the same, and a resource that breaks a rule does not end the reading.
* `Configuration.Orderly`: what the file and the resources have to be like for that.
* `Configuration.checked_exact_iff`: the one is so exactly when the other is.
-/

namespace GridWay.Drm4g.Configuration

/-- The sections that the parser makes are dictionaries. -/
def Parsed (sections : List (String × Features)) : Prop := ∀ e ∈ sections, e.2.keys.Nodup

instance (sections : List (String × Features)) : Decidable (Parsed sections) := by
  unfold Parsed
  infer_instance

/-- The configurations that reading and checking files lead to. -/
inductive Reached (here : Local) : Configuration × Heap → Prop where
  | start (init_time : Nat) : Reached here (⟨[], init_time⟩, [])
  | update {c : Configuration × Heap} (file : File) (reached : Reached here c) :
    Reached here ((c.1.check_update file).2, c.2)
  | load {c : Configuration × Heap} {sections : List (String × Features)} (parsed : Parsed sections)
    (reached : Reached here c) : Reached here (load here sections c)
  | check {c : Configuration × Heap} (reached : Reached here c) :
    Reached here (c.1, (check here c.1.resources c.2).2)

/-- The reading goes on after a section. -/
def Through (here : Local) (e : String × Features) : Prop :=
  ∃ lrms, e.2.get "lrms" = some lrms ∧
    (lrms = "rocci" → ∃ instances, here.instances e.1 = .ok instances)

/-- What is asked of the check of a file. -/
structure Exact (here : Local) (sections : List (String × Features)) (c : Configuration × Heap) :
    Prop where
  returns : ∃ errors, (check here (load here sections c).1.resources (load here sections c).2).1 =
    .ok errors
  empty : (check here (load here sections c).1.resources (load here sections c).2).1 = .ok [] ↔
    ∀ e ∈ table (load here sections c), Obeys here e.2
  alone : (check here (load here sections c).1.resources (load here sections c).2).1 =
    .ok ((load here sections c).1.resources.flatMap fun r =>
      errorsOf (check here [r] (load here sections c).2).1)
  again : (check here (load here sections c).1.resources
      (check here (load here sections c).1.resources (load here sections c).2).2).1 =
    (check here (load here sections c).1.resources (load here sections c).2).1
  loads : ∀ pre e post, sections = pre ++ e :: post → (∀ p ∈ pre, Through here p) →
    ¬Obeys here e.2 →
      load here sections c = load here post (loadSection here e.1 e.2 (load here pre c)).1

/-- What the file and the resources have to be like. -/
structure Orderly (here : Local) (sections : List (String × Features)) (c : Configuration × Heap) :
    Prop where
  total : ∀ e ∈ table (load here sections c), Total here e.2
  keys : (∀ e ∈ table (load here sections c), Tests here e.2) →
    ∀ e ∈ table (load here sections c), Public here e.2
  stable : ∀ e ∈ table (load here sections c), Stable here e.2
  pickles : ∀ pre e post err, sections = pre ++ e :: post → (∀ p ∈ pre, Through here p) →
    post ≠ [] → e.2.get "lrms" = some "rocci" → here.instances e.1 = .error err → Obeys here e.2

variable {here : Local} {name : String} {reslist : List String} {d d' : Features}
variable {errors : List String} {c : Configuration × Heap} {resources : Dict String Ref} {heap : Heap}
variable {sections pre post : List (String × Features)} {e : String × Features}

section Dictionaries

/-- A rule keeps a dictionary a dictionary. -/
lemma rule_nodup {rule : Rule} (mem : rule ∈ rules)
    (h : rule here name reslist d = .ok (errors, d')) (distinct : d.keys.Nodup) : d'.keys.Nodup := by
  have kinds : rule ∈ looks ∨ rule = ruleInQueue ∨ rule = ruleQueue ∨ rule = ruleKeys ∨
      rule = ruleCert := by
    simp only [rules, List.mem_cons, List.not_mem_nil, or_false] at mem
    simp only [looks, List.mem_cons, List.not_mem_nil, or_false]
    tauto
  obtain look | rfl | rfl | rfl | rfl := kinds
  · rw [looks_same look h]
    exact distinct
  · unfold ruleInQueue at h
    dsimp only at h
    split at h
    · obtain ⟨lrms, -, h₁⟩ := except_bind_ok h
      split at h₁
      · obtain ⟨running, -, h₂⟩ := except_bind_ok h₁
        cases h₂
        exact Dict.nodup_set distinct
      · cases h₁
        exact distinct
    · cases h
      exact distinct
  · unfold ruleQueue at h
    dsimp only at h
    split at h
    · obtain ⟨lrms, -, h₁⟩ := except_bind_ok h
      split at h₁
      · cases h₁
        exact Dict.nodup_set distinct
      · cases h₁
        exact distinct
    · cases h
      exact distinct
  · obtain ⟨communicator, -, h₁⟩ := except_bind_ok h
    dsimp only at h₁
    split at h₁
    · cases h₁
      exact distinct
    · split at h₁
      · cases h₁
        exact distinct
      · split at h₁
        · cases h₁
          exact Dict.nodup_set (Dict.nodup_set distinct)
        · cases h₁
          exact distinct
  · rw [ruleCert_eq] at h
    cases h
    rw [withCert]
    split
    · exact Dict.nodup_set distinct
    · exact distinct

lemma applyRules_nodup {rs : List Rule} (sub : ∀ rule ∈ rs, rule ∈ rules) (distinct : d.keys.Nodup) :
    (applyRules here name reslist rs d).2.keys.Nodup := by
  induction rs generalizing d with
  | nil => exact distinct
  | cons rule rs ih =>
    have sub' := fun rule mem => sub rule (List.mem_cons_of_mem _ mem)
    rw [applyRules]
    cases one : rule here name reslist d with
    | error err => exact distinct
    | ok found =>
      obtain ⟨errors, d₁⟩ := found
      have next := ih sub' (rule_nodup (sub rule List.mem_cons_self) one distinct)
      dsimp only
      rcases more : applyRules here name reslist rs d₁ with ⟨_ | _, d₂⟩
      all_goals
        rw [more] at next
        exact next

/-- All dictionaries are dictionaries. -/
def Proper (heap : Heap) : Prop := ∀ r, (heap.deref r).keys.Nodup

lemma proper_set {r : Ref} (proper : Proper heap) (distinct : d.keys.Nodup) :
    Proper (List.set heap r d) := by
  intro r'
  by_cases same : r = r'
  · subst same
    by_cases below : r < heap.length
    · rw [Heap.deref_set_self below]
      exact distinct
    · rw [List.set_eq_of_length_le (Nat.le_of_not_lt below)]
      exact proper r
  · rw [Heap.deref_set_ne same]
    exact proper r'

lemma proper_append (proper : Proper heap) (distinct : d.keys.Nodup) : Proper (heap ++ [d]) := by
  intro r
  obtain below | rfl | beyond := Nat.lt_trichotomy r heap.length
  · rw [Heap.deref_append below]
    exact proper r
  · rw [Heap.deref_last]
    exact distinct
  · have none : (heap ++ [d])[r]? = none := by
      rw [List.getElem?_eq_none_iff, List.length_append, List.length_singleton]
      exact beyond
    rw [Heap.deref, none]
    exact List.nodup_nil

lemma proper_putAll {es : Dict String Features} (proper : Proper c.2)
    (distinct : ∀ e ∈ es, (Dict.keys e.2).Nodup) : Proper (putAll es c).2 := by
  induction es generalizing c with
  | nil => exact proper
  | cons e es ih =>
    apply ih
    · exact proper_append proper (distinct e List.mem_cons_self)
    · intro f mem
      exact distinct f (List.mem_cons_of_mem _ mem)

lemma entries_nodup (parsed : Parsed sections) :
    ∀ e ∈ entries here sections, (Dict.keys e.2).Nodup := by
  induction sections with
  | nil =>
    intro e mem
    cases mem
  | cons f sections ih =>
    obtain ⟨name, d⟩ := f
    have rest := ih fun e mem => parsed e (List.mem_cons_of_mem _ mem)
    have first : d.keys.Nodup := parsed (name, d) List.mem_cons_self
    intro e mem
    rw [entries] at mem
    split at mem
    · rw [List.mem_singleton.1 mem]
      exact first
    · split at mem
      · split at mem
        · rw [List.mem_singleton.1 mem]
          exact first
        · rw [List.cons_append, List.mem_cons, List.mem_append, List.mem_map] at mem
          obtain rfl | ⟨i, -, rfl⟩ | later := mem
          · exact first
          · exact (by decide : ["username", "frontend", "communicator", "private_key", "enable",
              "lrms", "max_jobs_running"].Nodup)
          · exact rest e later
      · obtain rfl | later := List.mem_cons.1 mem
        · exact first
        · exact rest e later

lemma proper_check (proper : Proper heap) : Proper (check here resources heap).2 := by
  induction resources generalizing heap with
  | nil => exact proper
  | cons e resources ih =>
    obtain ⟨name, r⟩ := e
    have kept : (applyRules here name (heap.deref r).keys rules (heap.deref r)).2.keys.Nodup :=
      applyRules_nodup (fun _ mem => mem) (proper r)
    rw [check]
    rcases one : applyRules here name (heap.deref r).keys rules (heap.deref r) with ⟨_ | errors, d⟩
    · rw [one] at kept
      exact proper_set proper kept
    · rw [one] at kept
      have rest := ih (proper_set (r := r) proper kept)
      dsimp only
      rcases more : check here resources (List.set heap r d) with ⟨_ | _, heap'⟩
      all_goals
        rw [more] at rest
        exact rest

end Dictionaries

/-- The configurations that are reached hold dictionaries, one for each resource. -/
lemma Reached.proper (reached : Reached here c) : Apart c ∧ Proper c.2 := by
  induction reached with
  | start init_time => exact ⟨apart_nil init_time [], fun r => List.nodup_nil⟩
  | update file reached ih =>
    obtain ⟨⟨inside, names, refs⟩, proper⟩ := ih
    refine ⟨⟨?_, ?_, ?_⟩, proper⟩
    all_goals
      dsimp only
      rw [Mad.check_update_resources]
      assumption
  | load parsed reached ih =>
    refine ⟨(load_table here _ ih.1).1, ?_⟩
    rw [load_eq]
    exact proper_putAll ih.2 (entries_nodup parsed)
  | check reached ih =>
    refine ⟨⟨?_, ih.1.names, ih.1.refs⟩, proper_check ih.2⟩
    intro e mem
    dsimp only at mem ⊢
    rw [(check_extends here _ _).2]
    exact ih.1.inside e mem

/-- The check of a list of resources judges each dictionary by itself. -/
lemma check_each (here : Local) (init_time : Nat) (apart : Apart (⟨resources, init_time⟩, heap)) :
    ((∀ e ∈ resources, ∃ errors, (ruled here e.1 (heap.deref e.2)).1 = .ok errors) →
      (check here resources heap).1 = .ok (resources.flatMap fun e =>
        errorsOf (ruled here e.1 (heap.deref e.2)).1) ∧
      ∀ e ∈ resources, (check here resources heap).2.deref e.2 =
        (ruled here e.1 (heap.deref e.2)).2) ∧
    ((∃ errors, (check here resources heap).1 = .ok errors) →
      ∀ e ∈ resources, ∃ errors, (ruled here e.1 (heap.deref e.2)).1 = .ok errors) := by
  induction resources generalizing heap with
  | nil =>
    refine ⟨fun _ => ⟨rfl, fun e mem => ?_⟩, fun _ e mem => ?_⟩
    · cases mem
    · cases mem
  | cons e resources ih =>
    obtain ⟨name, r⟩ := e
    have others := apart.head
    have inside : r < heap.length := apart.inside (name, r) List.mem_cons_self
    have one : ruled here name (heap.deref r) =
      applyRules here name (heap.deref r).keys rules (heap.deref r) := rfl
    rw [check, ← one]
    rcases first : ruled here name (heap.deref r) with ⟨err | errors, d⟩
    · constructor
      · intro all
        obtain ⟨errors, ok⟩ := all (name, r) List.mem_cons_self
        rw [first] at ok
        cases ok
      · rintro ⟨errors, ok⟩
        cases ok
    · obtain ⟨rest, back⟩ := ih (apart.tail (d := d))
      have later : ∀ f ∈ resources, ruled here f.1 (Heap.deref (List.set heap r d) f.2) =
          ruled here f.1 (heap.deref f.2) := by
        intro f mem
        rw [Heap.deref_set_ne (others f mem).symm]
      have kept : (check here resources (List.set heap r d)).2.deref r = d := by
        rw [check_other others, Heap.deref_set_self inside]
      have same : (resources.flatMap fun e =>
          errorsOf (ruled here e.1 (Heap.deref (List.set heap r d) e.2)).1) =
          resources.flatMap fun e => errorsOf (ruled here e.1 (heap.deref e.2)).1 := by
        apply List.flatMap_congr
        intro f mem
        rw [later f mem]
      rw [same] at rest
      dsimp only
      constructor
      · intro all
        obtain ⟨found, dictionaries⟩ := rest fun f mem => by
          rw [later f mem]
          exact all f (List.mem_cons_of_mem _ mem)
        rcases more : check here resources (List.set heap r d) with ⟨err | errors', heap'⟩
        · rw [more] at found
          cases found
        · rw [more] at found dictionaries kept
          cases found
          dsimp only at dictionaries kept ⊢
          refine ⟨by rw [List.flatMap_cons, first]; rfl, fun f mem => ?_⟩
          obtain rfl | old := List.mem_cons.1 mem
          · rw [first]
            exact kept
          · rw [dictionaries f old, later f old]
      · rintro ⟨all, ok⟩ f mem
        have returned : ∃ errors', (check here resources (List.set heap r d)).1 = .ok errors' := by
          rcases more : check here resources (List.set heap r d) with ⟨err | errors', heap'⟩
          · rw [more] at ok
            cases ok
          · exact ⟨errors', rfl⟩
        obtain rfl | old := List.mem_cons.1 mem
        · exact ⟨errors, congrArg Prod.fst first⟩
        · rw [← later f old]
          exact back returned f old

/-- The check of one resource. -/
lemma check_alone (e : String × Ref) :
    errorsOf (check here [e] heap).1 = errorsOf (ruled here e.1 (heap.deref e.2)).1 := by
  obtain ⟨name, r⟩ := e
  have one : ruled here name (heap.deref r) =
    applyRules here name (heap.deref r).keys rules (heap.deref r) := rfl
  rw [check, ← one]
  rcases ruled here name (heap.deref r) with ⟨err | errors, d⟩
  · rfl
  · exact List.append_nil errors

lemma flatMap_le {α β : Type} {xs : List α} {f g : α → List β}
    (less : ∀ x ∈ xs, (f x).length ≤ (g x).length) :
    (xs.flatMap f).length ≤ (xs.flatMap g).length := by
  induction xs with
  | nil => exact Nat.le_refl 0
  | cons y xs ih =>
    rw [List.flatMap_cons, List.flatMap_cons, List.length_append, List.length_append]
    exact Nat.add_le_add (less y List.mem_cons_self)
      (ih fun x mem => less x (List.mem_cons_of_mem y mem))

/-- Lists of messages that only grow are the same together when each is the same. -/
lemma flatMap_grown {α β : Type} {xs : List α} {f g : α → List β}
    (less : ∀ x ∈ xs, (f x).length ≤ (g x).length) (same : xs.flatMap g = xs.flatMap f) :
    ∀ x ∈ xs, (g x).length = (f x).length := by
  induction xs with
  | nil =>
    intro x mem
    cases mem
  | cons y xs ih =>
    have less' := fun x mem => less x (List.mem_cons_of_mem y mem)
    have total := flatMap_le less'
    have first := less y List.mem_cons_self
    rw [List.flatMap_cons, List.flatMap_cons] at same
    have lengths := congrArg List.length same
    rw [List.length_append, List.length_append] at lengths
    have equal : (g y).length = (f y).length := by omega
    intro x mem
    obtain rfl | later := List.mem_cons.1 mem
    · exact equal
    · exact ih less' (List.append_inj same equal).2 x later

/-- The sections after one that the reading goes on after. -/
lemma load_through (through : Through here e) :
    load here (e :: post) c = load here post (loadSection here e.1 e.2 c).1 := by
  obtain ⟨name, d⟩ := e
  obtain ⟨lrms, found, instances⟩ := through
  rw [load, loadSection, found]
  dsimp only
  by_cases cloud : lrms = "rocci"
  · obtain ⟨instances, ok⟩ := instances cloud
    rw [if_pos cloud, ok]
  · rw [if_neg cloud]

lemma load_pre (through : ∀ p ∈ pre, Through here p) :
    load here (pre ++ post) c = load here post (load here pre c) := by
  induction pre generalizing c with
  | nil => rfl
  | cons e pre ih =>
    rw [List.cons_append, load_through (through e List.mem_cons_self),
      load_through (through e List.mem_cons_self)]
    exact ih fun p mem => through p (List.mem_cons_of_mem _ mem)

/-- A section that ends the reading. -/
lemma load_stop (post : List (String × Features)) (c : Configuration × Heap) (stops : ¬Through here e) :
    load here (e :: post) c = put e.1 e.2 c ∧ (loadSection here e.1 e.2 c).1 = put e.1 e.2 c ∧
      (e.2.get "lrms" = none ∨
        e.2.get "lrms" = some "rocci" ∧ ∃ err, here.instances e.1 = .error err) := by
  obtain ⟨name, d⟩ := e
  rw [load, loadSection]
  cases found : d.get "lrms" with
  | none => exact ⟨rfl, rfl, .inl rfl⟩
  | some lrms =>
    dsimp only
    by_cases cloud : lrms = "rocci"
    · subst cloud
      rw [if_pos rfl]
      cases pickled : here.instances name with
      | ok instances => exact absurd ⟨"rocci", found, fun _ => ⟨instances, pickled⟩⟩ stops
      | error err => exact ⟨rfl, rfl, .inr ⟨rfl, err, rfl⟩⟩
    · exact absurd ⟨lrms, found, fun rocci => absurd rocci cloud⟩ stops

/-- Reading sections makes dictionaries. -/
lemma load_grows (here : Local) (c : Configuration × Heap) (sections : List (String × Features))
    (some_section : sections ≠ []) :
    c.2.length < (load here sections c).2.length := by
  have all (es : Dict String Features) (c : Configuration × Heap) :
      (putAll es c).2.length = c.2.length + es.length := by
    induction es generalizing c with
    | nil => rfl
    | cons e es ih =>
      show (putAll es (put e.1 e.2 c)).2.length = _
      rw [ih, put, List.length_append, List.length_singleton, List.length_cons, Nat.add_assoc,
        Nat.add_comm 1]
  cases sections with
  | nil => exact absurd rfl some_section
  | cons e sections =>
    obtain ⟨name, d⟩ := e
    rw [load_eq, all, entries]
    apply Nat.lt_add_of_pos_right
    split
    · exact Nat.one_pos
    · split
      · split
        · exact Nat.one_pos
        · exact Nat.succ_pos _
      · exact Nat.succ_pos _

/-- The resources of a configuration, with their dictionaries. -/
lemma mem_table : e ∈ table c ↔ ∃ r ∈ c.1.resources, (r.1, c.2.deref r.2) = e := List.mem_map

/-- The check raises, or no resource makes it raise. -/
lemma check_returns (apart : Apart c) :
    (∃ errors, (check here c.1.resources c.2).1 = .ok errors) ↔ ∀ e ∈ table c, Total here e.2 := by
  obtain ⟨each, back⟩ := check_each here c.1.init_time apart
  constructor
  · intro ok e mem
    obtain ⟨r, there, rfl⟩ := mem_table.1 mem
    exact ruled_iff.1 (back ok r there)
  · intro total
    exact ⟨_, (each fun r there => ruled_iff.2 (total _ (mem_table.2 ⟨r, there, rfl⟩))).1⟩

section Total

variable (apart : Apart c) (total : ∀ e ∈ table c, Total here e.2)

include apart total

/-- The errors are those of the resources. -/
lemma check_total :
    (check here c.1.resources c.2).1 = .ok (c.1.resources.flatMap fun r =>
        errorsOf (ruled here r.1 (c.2.deref r.2)).1) ∧
      ∀ r ∈ c.1.resources, (check here c.1.resources c.2).2.deref r.2 =
        (ruled here r.1 (c.2.deref r.2)).2 := by
  have each := (check_each here c.1.init_time apart).1
  exact each fun r there => ruled_iff.2 (total _ (mem_table.2 ⟨r, there, rfl⟩))

lemma check_nil : (check here c.1.resources c.2).1 = .ok [] ↔ ∀ e ∈ table c, Tests here e.2 := by
  rw [(check_total apart total).1, Except.ok.injEq, List.flatMap_eq_nil_iff]
  constructor
  · intro none e mem
    obtain ⟨r, there, rfl⟩ := mem_table.1 mem
    obtain ⟨errors, ok⟩ := ruled_iff.2 (total _ mem)
    have nil := none r there
    rw [ok] at nil
    exact ruled_nil.1 (ok.trans (congrArg Except.ok nil))
  · intro tests r there
    rw [ruled_nil.2 (tests _ (mem_table.2 ⟨r, there, rfl⟩))]
    rfl

/-- A second check finds the same exactly when all paths are stable. -/
lemma check_again (proper : Proper c.2) :
    (check here c.1.resources (check here c.1.resources c.2).2).1 =
        (check here c.1.resources c.2).1 ↔ ∀ e ∈ table c, Stable here e.2 := by
  obtain ⟨first, dictionaries⟩ := check_total apart total
  have apart' : Apart (c.1, (check here c.1.resources c.2).2) := by
    refine ⟨fun r there => ?_, apart.names, apart.refs⟩
    rw [(check_extends here _ _).2]
    exact apart.inside r there
  have spec := fun r (there : r ∈ c.1.resources) =>
    ruled_again r.1 (total _ (mem_table.2 ⟨r, there, rfl⟩)) (proper r.2)
  have total' : ∀ e ∈ table (c.1, (check here c.1.resources c.2).2), Total here e.2 := by
    intro e mem
    obtain ⟨r, there, rfl⟩ := mem_table.1 mem
    dsimp only
    rw [dictionaries r there]
    exact (spec r there).1
  have second := (check_total apart' total').1
  dsimp only at second
  have same : (c.1.resources.flatMap fun r =>
      errorsOf (ruled here r.1 ((check here c.1.resources c.2).2.deref r.2)).1) =
      c.1.resources.flatMap fun r =>
        errorsOf (ruled here r.1 (ruled here r.1 (c.2.deref r.2)).2).1 := by
    apply List.flatMap_congr
    intro r there
    rw [dictionaries r there]
  rw [second, first, Except.ok.injEq, same]
  constructor
  · intro eq e mem
    obtain ⟨r, there, rfl⟩ := mem_table.1 mem
    exact (spec r there).2.2.1 (flatMap_grown (fun r there => (spec r there).2.1) eq r there)
  · intro stable
    apply List.flatMap_congr
    intro r there
    rw [(spec r there).2.2.2 (stable _ (mem_table.2 ⟨r, there, rfl⟩))]

end Total

/-- A section without a manager that ends the reading is a resource of the configuration. -/
lemma mem_table_put (apart : Apart c) : (name, d) ∈ table (put name d c) := by
  rw [put_table name d apart]
  exact Dict.mem_of_get Dict.get_set_self

/-- The check is exact when the file and the resources are orderly. -/
theorem checked_exact_iff (reached : Reached here c) (parsed : Parsed sections) :
    Exact here sections c ↔ Orderly here sections c := by
  obtain ⟨apart, proper⟩ := (Reached.load parsed reached).proper
  constructor
  · intro exact
    have total := (check_returns apart).1 exact.returns
    have nil := check_nil apart total
    refine ⟨total, ?_, (check_again apart total proper).1 exact.again, ?_⟩
    · intro tests e mem
      exact (exact.empty.1 (nil.2 tests) e mem).2
    · intro pre e post err cut through some_post rocci pickled
      by_contra disobeys
      have stops : ¬Through here e := by
        intro ⟨lrms, found, instances⟩
        obtain ⟨list, ok⟩ := instances (Option.some.inj (found.symm.trans rocci))
        rw [pickled] at ok
        cases ok
      obtain ⟨stopped, put_e, -⟩ := load_stop post (load here pre c) stops
      have same := exact.loads pre e post cut through disobeys
      rw [cut, load_pre through, stopped, put_e] at same
      have grown := load_grows here (put e.1 e.2 (load here pre c)) post some_post
      rw [← same] at grown
      exact Nat.lt_irrefl _ grown
  · intro orderly
    have nil := check_nil apart orderly.total
    refine ⟨(check_returns apart).2 orderly.total, ?_, ?_,
      (check_again apart orderly.total proper).2 orderly.stable, ?_⟩
    · rw [nil]
      constructor
      · intro tests e mem
        exact ⟨tests e mem, orderly.keys tests e mem⟩
      · intro obeys e mem
        exact (obeys e mem).1
    · rw [(check_total apart orderly.total).1]
      apply congrArg
      apply List.flatMap_congr
      intro r _
      exact (check_alone r).symm
    · intro pre e post cut through disobeys
      by_cases go : Through here e
      · rw [cut, load_pre through, load_through go]
      · obtain ⟨stopped, put_e, why⟩ := load_stop post (load here pre c) go
        rw [cut, load_pre through, stopped, put_e]
        obtain none | ⟨rocci, err, pickled⟩ := why
        · exfalso
          have there : (e.1, e.2) ∈ table (load here sections c) := by
            rw [cut, load_pre through, stopped]
            exact mem_table_put (load_table here pre reached.proper.1).1
          obtain ⟨L, C, lrms, -⟩ := orderly.total _ there
          dsimp only at lrms
          rw [none] at lrms
          cases lrms
        · cases post with
          | nil => rfl
          | cons f post =>
            exact absurd (orderly.pickles pre e (f :: post) err cut through (by simp) rocci pickled)
              disobeys

/-- A configuration before the file was read. -/
def fresh : Configuration × Heap := (⟨[], 1⟩, [])

theorem exact_twoSections : Exact Mad.anywhere Mad.twoSections.sections fresh := by
  refine (checked_exact_iff (c := fresh) (.start 1) (by decide)).2 ?_
  have read : table (load Mad.anywhere Mad.twoSections.sections fresh) = Mad.twoSections.sections := by
    decide
  have onLocal : ∀ e ∈ Mad.twoSections.sections, e.2.get "communicator" = some "local" := by decide
  have managed : ∀ e ∈ Mad.twoSections.sections, (e.2.get "lrms").isSome := by decide
  have keyless : ∀ e ∈ Mad.twoSections.sections, lacks e.2 "grid_cert" = true := by decide
  refine ⟨?_, ?_, ?_, ?_⟩
  · intro e mem
    rw [read] at mem
    obtain ⟨L, lrms⟩ := Option.isSome_iff_exists.1 (managed e mem)
    exact ⟨L, "local", lrms, onLocal e mem, ⟨true, rfl⟩, true, rfl⟩
  · intro _ e mem remote
    rw [read] at mem
    exact absurd (onLocal e mem) remote
  · intro e mem
    rw [read] at mem
    refine ⟨fun C found remote => ?_, fun given => ?_⟩
    · exact absurd (Option.some.inj (found.symm.trans (onLocal e mem))) remote
    · exact absurd given (lacks_iff.1 (keyless e mem))
  · intro pre e post err _ _ _ _ pickled
    cases pickled

/-- A section without a manager before another one. -/
def unmanaged : List (String × Features) :=
  [("ui", [("enable", "true"), ("communicator", "local"), ("frontend", "localhost")]),
    ("meteo", [("enable", "true"), ("communicator", "local"), ("frontend", "localhost"),
      ("lrms", "pbs"), ("max_jobs_running", "8")])]

/-- A cluster that is reached with a key. -/
def remote : List (String × Features) :=
  [("meteo", [("enable", "true"), ("communicator", "ssh"), ("username", "u"), ("frontend", "meteo"),
    ("private_key", "/home/u/.ssh/id_rsa"), ("lrms", "pbs"), ("max_jobs_running", "8")])]

/-- A machine with a private key only. -/
def keyOnly : Local := { Mad.anywhere with isfile path := path == "/home/u/.ssh/id_rsa" }

/-- A section without a manager makes the check raise and ends the reading, and a public key that is
not there is not found out. -/
theorem not_exact :
    (Parsed unmanaged ∧ ¬Exact Mad.anywhere unmanaged fresh ∧
      (load Mad.anywhere unmanaged fresh).1.resources.keys = ["ui"]) ∧
      Parsed remote ∧ ¬Exact keyOnly remote fresh := by
  refine ⟨⟨by decide, fun exact => ?_, by decide⟩, by decide, fun exact => ?_⟩
  · obtain ⟨errors, ok⟩ := exact.returns
    have raises : (check Mad.anywhere (load Mad.anywhere unmanaged fresh).1.resources
        (load Mad.anywhere unmanaged fresh).2).1 = .error (Py.keyError "lrms") := by decide
    rw [raises] at ok
    cases ok
  · have passes : (check keyOnly (load keyOnly remote fresh).1.resources
        (load keyOnly remote fresh).2).1 = .ok [] := by decide
    have read : table (load keyOnly remote fresh) = remote := by decide
    have obeys := exact.empty.1 passes
    rw [read] at obeys
    have there := (obeys _ List.mem_cons_self).2 (by decide)
    exact absurd there (by decide)

end GridWay.Drm4g.Configuration
