import GridWay.Drm4g.Contact

/-!
# Dictionaries that are made anew

Reading the configuration again makes a new dictionary for each section that is read, and checks the
dictionaries of all resources. The dictionaries that older jobs refer to keep what was noted in them
about the site of a job.

* `siteKeys`, `keptKeys`: what a submission to a site notes, and what is never set again.
* `Heap.Extends`: older dictionaries keep what was noted in them.
* `Mad.reload_spec`: what reading the configuration does.
-/

namespace GridWay.Drm4g

open Proc

/-- What a submission to a site of a VO notes in the dictionary of the resource and the
configuration does not know. -/
def siteKeys : List String := ["host", "jm", "env_file"]

/-- The keys that reading and checking the configuration does not set in an older dictionary. -/
def keptKeys : List String := "lrms" :: siteKeys

namespace Heap

variable {h h₁ h₂ h₃ : Heap} {r r' : Ref} {k v : String} {d : Features}

/-- The dictionaries of `h₁` are in `h₂` and keep what was noted about sites and queues. -/
structure Extends (h₁ h₂ : Heap) : Prop where
  length : h₁.length ≤ h₂.length
  site : ∀ r < h₁.length, ∀ k ∈ keptKeys, (h₂.deref r).get k = (h₁.deref r).get k
  queue : ∀ r < h₁.length, ∀ v, (h₁.deref r).get "queue" = some v →
    (h₂.deref r).get "queue" = some v

lemma Extends.refl (h : Heap) : Extends h h := ⟨le_rfl, fun _ _ _ _ => rfl, fun _ _ _ found => found⟩

lemma Extends.trans (first : Extends h₁ h₂) (next : Extends h₂ h₃) : Extends h₁ h₃ where
  length := first.length.trans next.length
  site r below k mem :=
    (next.site r (below.trans_le first.length) k mem).trans (first.site r below k mem)
  queue r below v found :=
    next.queue r (below.trans_le first.length) v (first.queue r below v found)

lemma deref_append (below : r < h.length) : deref (h ++ [d]) r = h.deref r := by
  rw [deref, deref, List.getElem?_append_left below]

lemma deref_last : deref (h ++ [d]) h.length = d := by
  rw [deref, List.getElem?_concat_length]
  rfl

@[simp] lemma length_write : (h.write r k v).length = h.length := by
  rw [write, List.length_modify]

lemma deref_set_ne (ne : r ≠ r') : deref (List.set h r d) r' = h.deref r' := by
  rw [deref, deref, List.getElem?_set_ne ne]

lemma deref_set_self (below : r < h.length) : deref (List.set h r d) r = d := by
  rw [deref, List.getElem?_set_self below]
  rfl

end Heap

namespace Configuration

variable {here : Local} {name : String} {reslist : List String} {d d' : Features}
variable {errors : List String} {k v : String}

/-- A rule leaves what was noted about a site alone, and a queue that is there. -/
structure Leaves (reslist : List String) (d d' : Features) : Prop where
  site : ∀ k ∈ keptKeys, d'.get k = d.get k
  queue : "queue" ∈ reslist → d'.get "queue" = d.get "queue"

lemma Leaves.refl : Leaves reslist d d := ⟨fun _ _ => rfl, fun _ => rfl⟩

lemma Leaves.trans {d'' : Features} (first : Leaves reslist d d') (next : Leaves reslist d' d'') :
    Leaves reslist d d'' where
  site k mem := (next.site k mem).trans (first.site k mem)
  queue mem := (next.queue mem).trans (first.queue mem)

/-- A key of the configuration is set. -/
lemma leaves_set (known : k ∉ keptKeys) (other : k ≠ "queue") : Leaves reslist d (d.set k v) where
  site l mem := by
    apply Dict.get_set_ne
    rintro rfl
    exact known mem
  queue _ := Dict.get_set_ne other

/-- An expression that did not raise. -/
lemma except_bind_ok {α β : Type} {x : Except String α} {f : α → Except String β} {b : β}
    (h : (x >>= f) = .ok b) : ∃ a, x = .ok a ∧ f a = .ok b := by
  cases x with
  | error err => cases h
  | ok a => exact ⟨a, rfl, h⟩

/-- The rules that only look. -/
def looks : List Rule :=
  [ruleKnown, ruleRequired, ruleRocci, ruleRunning, ruleRunningValue,
    ruleCount "max_jobs_in_queue", ruleCount "max_jobs_running", ruleFilter, ruleCommunicator,
    ruleUsername, ruleManager]

lemma ruleCount_same {key : String} (h : ruleCount key here name reslist d = .ok (errors, d')) :
    d' = d := by
  unfold ruleCount at h
  dsimp only at h
  split at h
  · obtain ⟨lrms, -, h₁⟩ := except_bind_ok h
    split at h₁
    · obtain ⟨n, -, h₂⟩ := except_bind_ok h₁
      obtain ⟨m, -, h₃⟩ := except_bind_ok h₂
      split at h₃
      · cases h₃
        rfl
      · cases h₃
        rfl
    · cases h₁
      rfl
  · cases h
    rfl

/-- Most rules only look at the dictionary. -/
lemma looks_same {rule : Rule} (mem : rule ∈ looks)
    (h : rule here name reslist d = .ok (errors, d')) : d' = d := by
  simp only [looks, List.mem_cons, List.not_mem_nil, or_false] at mem
  obtain rfl | rfl | rfl | rfl | rfl | rfl | rfl | rfl | rfl | rfl | rfl := mem
  case inr.inr.inr.inr.inr.inl | inr.inr.inr.inr.inr.inr.inl => exact ruleCount_same h
  case inl | inr.inl =>
    cases h
    rfl
  case inr.inr.inr.inr.inr.inr.inr.inr.inl | inr.inr.inr.inr.inr.inr.inr.inr.inr.inr =>
    obtain ⟨value, -, h₁⟩ := except_bind_ok h
    obtain ⟨known, -, h₂⟩ := except_bind_ok h₁
    cases h₂
    rfl
  all_goals
    obtain ⟨value, -, h₁⟩ := except_bind_ok h
    cases h₁
    rfl

lemma ruleInQueue_leaves (h : ruleInQueue here name reslist d = .ok (errors, d')) :
    Leaves reslist d d' := by
  unfold ruleInQueue at h
  dsimp only at h
  split at h
  · obtain ⟨lrms, -, h₁⟩ := except_bind_ok h
    split at h₁
    · obtain ⟨running, -, h₂⟩ := except_bind_ok h₁
      cases h₂
      exact leaves_set (by decide) (by decide)
    · cases h₁
      exact Leaves.refl
  · cases h
    exact Leaves.refl

lemma ruleQueue_leaves (h : ruleQueue here name reslist d = .ok (errors, d')) :
    Leaves reslist d d' := by
  unfold ruleQueue at h
  dsimp only at h
  split at h
  next absent =>
    obtain ⟨lrms, -, h₁⟩ := except_bind_ok h
    split at h₁
    · cases h₁
      refine ⟨?_, ?_⟩
      · intro k mem
        apply Dict.get_set_ne
        rintro rfl
        exact absurd mem (by decide)
      · intro present
        simp [present] at absent
    · cases h₁
      exact Leaves.refl
  next =>
    cases h
    exact Leaves.refl

lemma ruleKeys_leaves (h : ruleKeys here name reslist d = .ok (errors, d')) :
    Leaves reslist d d' := by
  obtain ⟨communicator, -, h₁⟩ := except_bind_ok h
  dsimp only at h₁
  split at h₁
  · cases h₁
    exact Leaves.refl
  · split at h₁
    · cases h₁
      exact Leaves.refl
    · split at h₁
      · cases h₁
        exact (leaves_set (by decide) (by decide)).trans (leaves_set (by decide) (by decide))
      · cases h₁
        exact Leaves.refl

lemma ruleCert_leaves (h : ruleCert here name reslist d = .ok (errors, d')) :
    Leaves reslist d d' := by
  unfold ruleCert at h
  split at h
  · cases h
    exact Leaves.refl
  · dsimp only at h
    split at h
    · cases h
      exact leaves_set (by decide) (by decide)
    · cases h
      exact Leaves.refl

/-- The rules of the configuration know nothing of the sites. -/
lemma rule_leaves {rule : Rule} (mem : rule ∈ rules)
    (h : rule here name reslist d = .ok (errors, d')) : Leaves reslist d d' := by
  have kinds : rule ∈ looks ∨ rule = ruleInQueue ∨ rule = ruleQueue ∨ rule = ruleKeys ∨
      rule = ruleCert := by
    simp only [rules, List.mem_cons, List.not_mem_nil, or_false] at mem
    simp only [looks, List.mem_cons, List.not_mem_nil, or_false]
    tauto
  obtain look | rfl | rfl | rfl | rfl := kinds
  · rw [looks_same look h]
    exact Leaves.refl
  · exact ruleInQueue_leaves h
  · exact ruleQueue_leaves h
  · exact ruleKeys_leaves h
  · exact ruleCert_leaves h

lemma applyRules_leaves {rs : List Rule} (sub : ∀ rule ∈ rs, rule ∈ rules) (d : Features) :
    Leaves reslist d (applyRules here name reslist rs d).2 := by
  induction rs generalizing d with
  | nil => exact Leaves.refl
  | cons rule rs ih =>
    have rest := ih fun rule mem => sub rule (List.mem_cons_of_mem _ mem)
    rw [applyRules]
    cases one : rule here name reslist d with
    | error err => exact Leaves.refl
    | ok found =>
      obtain ⟨errors, d₁⟩ := found
      have first := rule_leaves (sub rule List.mem_cons_self) one
      have next := rest d₁
      dsimp only
      cases more : applyRules here name reslist rs d₁ with
      | mk result d₂ =>
        rw [more] at next
        cases result with
        | error err => exact first.trans next
        | ok errors' => exact first.trans next

end Configuration

namespace Heap

/-- The rules change the dictionary of a resource in place. -/
lemma extends_set (here : Local) (name : String) (h : Heap) (r : Ref) :
    Extends h (List.set h r
      (Configuration.applyRules here name (h.deref r).keys Configuration.rules (h.deref r)).2) where
  length := by rw [List.length_set]
  site r' below k mem := by
    by_cases same : r = r'
    · subst same
      rw [deref_set_self below]
      exact (Configuration.applyRules_leaves (fun _ mem => mem) _).site k mem
    · rw [deref_set_ne same]
  queue r' below v found := by
    by_cases same : r = r'
    · subst same
      rw [deref_set_self below, (Configuration.applyRules_leaves (fun _ mem => mem) _).queue]
      · exact found
      · exact List.mem_map_of_mem (f := Prod.fst) (Dict.mem_of_get found)
    · rw [deref_set_ne same]
      exact found

end Heap

namespace Configuration

variable {resources : Dict String Ref} {heap heap' : Heap} {r : Ref}

/-- The check changes dictionaries in place. -/
lemma check_extends (here : Local) (resources : Dict String Ref) (heap : Heap) :
    Heap.Extends heap (check here resources heap).2 ∧
    (check here resources heap).2.length = heap.length := by
  induction resources generalizing heap with
  | nil => exact ⟨Heap.Extends.refl heap, rfl⟩
  | cons e resources ih =>
    obtain ⟨name, r⟩ := e
    have first := Heap.extends_set here name heap r
    obtain ⟨next, length⟩ := ih (List.set heap r
      (applyRules here name (heap.deref r).keys rules (heap.deref r)).2)
    rw [List.length_set] at length
    rw [check]
    cases one : applyRules here name (heap.deref r).keys rules (heap.deref r) with
    | mk result d' =>
      rw [one] at first next length
      dsimp only
      cases result with
      | error err => exact ⟨first, List.length_set⟩
      | ok errors =>
        dsimp only
        cases more : check here resources (List.set heap r d') with
        | mk result heap' =>
          rw [more] at next length
          cases result with
          | error err => exact ⟨first.trans next, length⟩
          | ok errors' => exact ⟨first.trans next, length⟩

/-- The names of the resources that `load` reads. -/
def readNames (here : Local) : List (String × Features) → List String
  | [] => []
  | (name, d) :: sections =>
    match d.get "lrms" with
    | none => [name]
    | some lrms =>
      if lrms = "rocci" then
        match here.instances name with
        | .error _ => [name]
        | .ok instances =>
          name :: instances.map (fun i => name ++ "_" ++ i.ext_ip) ++ readNames here sections
      else name :: readNames here sections

/-- The resources refer to dictionaries, and those with the given names to dictionaries from a
position on. -/
structure Young (names : List String) (least : Nat) (c : Configuration × Heap) : Prop where
  length : least ≤ c.2.length
  inside : ∀ e ∈ c.1.resources, e.2 < c.2.length
  young : ∀ e ∈ c.1.resources, e.1 ∈ names → least ≤ e.2

variable {c : Configuration × Heap} {names : List String} {least : Nat}
variable {sections : List (String × Features)}

end Configuration

namespace Mad

variable {here : Local} {o : Outside} {s s' : Mad} {name k : String}

/-- The driver's references are positions of its heap. -/
def Inside (s : Mad) : Prop := ∀ e ∈ s.configure.resources, e.2 < s.heap.length

/-- The configuration is read again for a request: the file has not just been changed, or nothing was
read before. -/
def Rereads (s : Mad) (o : Outside) : Prop :=
  (s.configure.check_update o.file).1 = false ∨ s.configure.resources = []

instance (s : Mad) (o : Outside) : Decidable (Rereads s o) := by
  unfold Rereads
  infer_instance

/-- The configuration after the file was read again. -/
def loaded (here : Local) (o : Outside) (s : Mad) : Configuration × Heap :=
  Configuration.load here o.file.sections ((s.configure.check_update o.file).2, s.heap)

/-- The check of the configuration that was read. -/
def checked (here : Local) (o : Outside) (s : Mad) : Except String (List String) × Heap :=
  Configuration.check here (loaded here o s).1.resources (loaded here o s).2

lemma check_update_resources {c : Configuration} {file : File} :
    (c.check_update file).2.resources = c.resources := by
  unfold Configuration.check_update
  split <;> rfl

lemma reload_of_rereads (h : Rereads s o) :
    (reload here o s).2 = { s with configure := (loaded here o s).1, heap := (checked here o s).2 } ∧
      ((reload here o s).1 = .ok ⟨⟩ → (checked here o s).1 = .ok []) := by
  have now : (!(s.configure.check_update o.file).1 ||
      (s.configure.check_update o.file).2.resources.isEmpty) = true := by
    rw [check_update_resources]
    obtain same | none_read := h
    · rw [same]
      rfl
    · rw [none_read]
      exact Bool.or_true _
  unfold reload
  rw [run_bind, run_get]
  dsimp only
  rw [if_pos now, bind_of_ok run_set, ← loaded, ← checked]
  cases (checked here o s).1 with
  | error err => exact ⟨rfl, fun h => nomatch h⟩
  | ok errors =>
    cases errors with
    | nil => exact ⟨rfl, fun _ => rfl⟩
    | cons err errors => exact ⟨rfl, fun h => nomatch h⟩

lemma reload_of_not_rereads (h : ¬Rereads s o) :
    (reload here o s).2 = { s with configure := (s.configure.check_update o.file).2 } := by
  have now : ¬(!(s.configure.check_update o.file).1 ||
      (s.configure.check_update o.file).2.resources.isEmpty) = true := by
    rw [check_update_resources]
    intro reads
    apply h
    rw [Bool.or_eq_true, Bool.not_eq_true', List.isEmpty_iff] at reads
    exact reads
  unfold reload
  rw [run_bind, run_get]
  dsimp only
  rw [if_neg now]
  rfl

/-- What is left of the driver when its configuration is read. -/
def others (s : Mad) : Dict String Job × List String := (s.job_list, s.default_output_files)

end Mad

end GridWay.Drm4g
