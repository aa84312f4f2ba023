import Mathlib.Data.List.Basic

/-!
# Dictionaries

A dictionary is a list of keys and values in the order in which the keys were first stored. A value
is stored under its key or at the end.

* `Dict.get_set`: what is found after a value was stored.
* `Dict.get_erase`: what is found after a key was removed.
* `Dict.mapValues`: the values are replaced.
-/

namespace GridWay

/-- A dictionary. -/
abbrev Dict (κ ν : Type) := List (κ × ν)

namespace Dict

variable {κ ν : Type} [DecidableEq κ] {d : Dict κ ν} {k l : κ} {v : ν}

/-- The value of a key. -/
def get (d : Dict κ ν) (k : κ) : Option ν :=
  match d with
  | [] => none
  | (l, v) :: d => if l = k then some v else get d k

/-- The key is in the dictionary. -/
def has (d : Dict κ ν) (k : κ) : Bool := (get d k).isSome

/-- A key is removed. -/
def erase (d : Dict κ ν) (k : κ) : Dict κ ν := d.filter fun e => e.1 ≠ k

/-- A value is stored under a key, which has one entry afterwards. -/
def set (d : Dict κ ν) (k : κ) (v : ν) : Dict κ ν :=
  match d with
  | [] => [(k, v)]
  | (l, w) :: d => if l = k then (k, v) :: erase d k else (l, w) :: set d k v

/-- The keys. -/
def keys (d : Dict κ ν) : List κ := d.map Prod.fst

@[simp] lemma get_nil : get ([] : Dict κ ν) k = none := rfl

lemma get_erase : get (erase d k) l = if k = l then none else get d l := by
  induction d with
  | nil => simp [erase]
  | cons e d ih =>
    obtain ⟨m, w⟩ := e
    rw [erase] at ih ⊢
    by_cases here : m = k
    · rw [List.filter_cons_of_neg (by simpa using here), ih, get, here]
      split <;> rfl
    · rw [List.filter_cons_of_pos (by simpa using here), get, get, ih]
      by_cases there : m = l
      · rw [if_pos there, if_pos there, if_neg fun eq => here (there.trans eq.symm)]
      · rw [if_neg there, if_neg there]

lemma get_set : get (set d k v) l = if k = l then some v else get d l := by
  induction d with
  | nil => rfl
  | cons e d ih =>
    obtain ⟨m, w⟩ := e
    rw [set]
    by_cases here : m = k
    · rw [if_pos here, get, get, here, get_erase]
      split <;> rfl
    · rw [if_neg here, get, get, ih]
      by_cases there : m = l
      · rw [if_pos there, if_pos there, if_neg fun eq => here (there.trans eq.symm)]
      · rw [if_neg there, if_neg there]

@[simp] lemma get_set_self : get (set d k v) k = some v := by
  rw [get_set, if_pos rfl]

lemma get_set_ne (ne : k ≠ l) : get (set d k v) l = get d l := by
  rw [get_set, if_neg ne]

lemma mem_erase {e : κ × ν} : e ∈ erase d k ↔ e ∈ d ∧ e.1 ≠ k := by
  simp [erase]

lemma mem_set {e : κ × ν} (mem : e ∈ set d k v) : e = (k, v) ∨ e ∈ d ∧ e.1 ≠ k := by
  induction d with
  | nil => exact .inl (List.mem_singleton.1 mem)
  | cons f d ih =>
    obtain ⟨m, w⟩ := f
    rw [set] at mem
    by_cases here : m = k
    · rw [if_pos here, List.mem_cons] at mem
      obtain first | later := mem
      · exact .inl first
      · obtain ⟨old, other⟩ := mem_erase.1 later
        exact .inr ⟨List.mem_cons_of_mem _ old, other⟩
    · rw [if_neg here, List.mem_cons] at mem
      obtain rfl | later := mem
      · exact .inr ⟨List.mem_cons_self, here⟩
      · obtain new | ⟨old, other⟩ := ih later
        · exact .inl new
        · exact .inr ⟨List.mem_cons_of_mem _ old, other⟩

/-- A key that is not there has no value. -/
lemma get_eq_none (fresh : k ∉ keys d) : get d k = none := by
  induction d with
  | nil => rfl
  | cons e d ih =>
    obtain ⟨m, w⟩ := e
    rw [keys, List.map_cons, List.mem_cons, not_or] at fresh
    rw [get, if_neg fun eq => fresh.1 eq.symm]
    exact ih fresh.2

lemma mem_of_get (found : get d k = some v) : (k, v) ∈ d := by
  induction d with
  | nil => cases found
  | cons e d ih =>
    obtain ⟨m, w⟩ := e
    rw [get] at found
    by_cases here : m = k
    · rw [if_pos here] at found
      cases found
      rw [here]
      exact List.mem_cons_self
    · rw [if_neg here] at found
      exact List.mem_cons_of_mem _ (ih found)

/-- A key that is there has a value. -/
lemma mem_keys_iff : k ∈ keys d ↔ ∃ v, get d k = some v := by
  constructor
  · intro mem
    induction d with
    | nil => cases mem
    | cons e d ih =>
      obtain ⟨m, w⟩ := e
      rw [get]
      by_cases here : m = k
      · exact ⟨w, if_pos here⟩
      · rw [if_neg here]
        obtain eq | later := List.mem_cons.1 mem
        · exact absurd eq.symm here
        · exact ih later
  · intro ⟨v, found⟩
    exact List.mem_map.2 ⟨(k, v), mem_of_get found, rfl⟩

/-- An entry of a dictionary whose keys differ is what is found. -/
lemma get_of_mem (distinct : (keys d).Nodup) (mem : (k, v) ∈ d) : get d k = some v := by
  induction d with
  | nil => cases mem
  | cons e d ih =>
    obtain ⟨m, w⟩ := e
    obtain ⟨new, rest⟩ := List.nodup_cons.1 distinct
    rw [get]
    obtain eq | later := List.mem_cons.1 mem
    · cases eq
      exact if_pos rfl
    · have other : m ≠ k := fun eq => new (List.mem_map.2 ⟨(k, v), later, eq.symm⟩)
      rw [if_neg other]
      exact ih rest later

/-- The keys still differ after a key was removed. -/
lemma nodup_erase (distinct : (keys d).Nodup) : (keys (erase d k)).Nodup :=
  distinct.sublist (List.filter_sublist.map Prod.fst)

/-- The keys still differ after a value was stored. -/
lemma nodup_set (distinct : (keys d).Nodup) : (keys (set d k v)).Nodup := by
  induction d with
  | nil => exact List.pairwise_singleton _ k
  | cons e d ih =>
    obtain ⟨m, w⟩ := e
    obtain ⟨new, rest⟩ := List.nodup_cons.1 distinct
    rw [set]
    by_cases here : m = k
    · rw [if_pos here]
      refine List.nodup_cons.2 ⟨fun mem => ?_, nodup_erase rest⟩
      obtain ⟨e, old, eq⟩ := List.mem_map.1 mem
      exact (mem_erase.1 old).2 eq
    · rw [if_neg here]
      refine List.nodup_cons.2 ⟨fun mem => ?_, ih rest⟩
      obtain ⟨e, stored, eq⟩ := List.mem_map.1 mem
      obtain rfl | ⟨old, -⟩ := mem_set stored
      · exact here eq.symm
      · exact new (List.mem_map.2 ⟨e, old, eq⟩)

/-- A value is stored under a key that is there, or the key is new. -/
lemma keys_set (distinct : (keys d).Nodup) :
    keys (set d k v) = if k ∈ keys d then keys d else keys d ++ [k] := by
  induction d with
  | nil => rfl
  | cons e d ih =>
    obtain ⟨m, w⟩ := e
    obtain ⟨new, rest⟩ := List.nodup_cons.1 distinct
    rw [set]
    by_cases same : m = k
    · subst same
      have erased : erase d m = d := by
        rw [erase, List.filter_eq_self]
        intro e mem
        rw [decide_eq_true_eq]
        intro eq
        exact new (List.mem_map.2 ⟨e, mem, eq⟩)
      have there : m ∈ keys ((m, w) :: d) := List.mem_cons_self
      rw [if_pos rfl, erased, if_pos there]
      rfl
    · rw [if_neg same]
      show m :: keys (set d k v) = if k ∈ m :: keys d then m :: keys d else m :: keys d ++ [k]
      rw [ih rest]
      by_cases there : k ∈ keys d
      · rw [if_pos there, if_pos (List.mem_cons_of_mem _ there)]
      · rw [if_neg there, if_neg, List.cons_append]
        intro mem
        obtain eq | later := List.mem_cons.1 mem
        · exact same eq.symm
        · exact there later

section Store

variable {es d' : Dict κ ν}

/-- Values are stored one after the other. -/
def store (es d : Dict κ ν) : Dict κ ν := es.foldl (fun d e => set d e.1 e.2) d

/-- What was there before is found when nothing was stored in its place. -/
lemma get_store_congr (same : l ∉ keys es → get d l = get d' l) :
    get (store es d) l = get (store es d') l := by
  induction es generalizing d d' with
  | nil => exact same List.not_mem_nil
  | cons e es ih =>
    apply ih
    intro later
    rw [get_set, get_set]
    by_cases here : e.1 = l
    · rw [if_pos here, if_pos here]
    · rw [if_neg here, if_neg here]
      apply same
      intro mem
      obtain first | rest := List.mem_cons.1 mem
      · exact here first.symm
      · exact later rest

lemma mem_keys_store (mem : l ∈ keys (store es d)) : l ∈ keys es ∨ l ∈ keys d := by
  induction es generalizing d with
  | nil => exact .inr mem
  | cons e es ih =>
    obtain later | there := ih mem
    · exact .inl (List.mem_cons_of_mem _ later)
    · obtain ⟨f, stored, rfl⟩ := List.mem_map.1 there
      obtain rfl | ⟨old, -⟩ := mem_set stored
      · exact .inl List.mem_cons_self
      · exact .inr (List.mem_map_of_mem old)

end Store

section Values

variable {μ : Type} {f : ν → μ}

/-- The values are replaced. -/
def mapValues (f : ν → μ) (d : Dict κ ν) : Dict κ μ := d.map fun e => (e.1, f e.2)

omit [DecidableEq κ] in
@[simp] lemma keys_mapValues : keys (mapValues f d) = keys d := by
  rw [keys, mapValues, List.map_map]
  rfl

lemma get_mapValues : get (mapValues f d) k = (get d k).map f := by
  induction d with
  | nil => rfl
  | cons e d ih =>
    obtain ⟨l, w⟩ := e
    show get ((l, f w) :: mapValues f d) k = _
    rw [get, get, ih]
    split <;> rfl

lemma erase_mapValues : erase (mapValues f d) k = mapValues f (erase d k) := by
  rw [erase, mapValues, List.filter_map]
  rfl

lemma set_mapValues : set (mapValues f d) k (f v) = mapValues f (set d k v) := by
  induction d with
  | nil => rfl
  | cons e d ih =>
    obtain ⟨l, w⟩ := e
    show set ((l, f w) :: mapValues f d) k (f v) = _
    rw [set, set]
    by_cases here : l = k
    · rw [if_pos here, if_pos here, erase_mapValues]
      rfl
    · rw [if_neg here, if_neg here, ih]
      rfl

omit [DecidableEq κ] in
/-- Values may be replaced in another way where they agree. -/
lemma mapValues_congr {g : ν → μ} (same : ∀ e ∈ d, f e.2 = g e.2) :
    mapValues f d = mapValues g d := by
  apply List.map_congr_left
  intro e mem
  rw [same e mem]

end Values

end Dict

end GridWay
