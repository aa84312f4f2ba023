import GridWay.Lib.Text
import Mathlib.Data.Finset.Basic
import Mathlib.Logic.Function.Basic
import Mathlib.Order.WellFoundedSet

/-!
# The nodes of a dag

The jobs of a file, with the scripts that run before and after them, and the edges between them. An edge
is noted at both of its ends.

* `mem_parents`: the parents of a job are those that the file names.
* `Dag.wellFounded`: a dag without a cycle has jobs without parents, and so on.
-/

namespace GridWay.Dagman

/-- The command of a script and its parameters. -/
structure Script where
  name : List Char
  params : List Char
deriving DecidableEq, Repr

/-- When a script runs. -/
inductive Phase where
  | pre
  | post
deriving DecidableEq, Repr

/-- A node. -/
structure Node where
  name : List Char
  template : List Char
  done : Bool := false
  pre : Option Script := none
  post : Option Script := none
  vars : List (List Char × List Char) := [("$JOB".toList, name), ("$RETURN".toList, "0".toList)]
deriving Repr

namespace Node

/-- The script of a phase. -/
def script (node : Node) : Phase → Option Script
  | .pre => node.pre
  | .post => node.post

/-- What a replacement stands for: a backslash with a character names the match or a part of the text
around it. -/
def regsub (before key after : List Char) : List Char → List Char
  | '\\' :: c :: val =>
    let part :=
      if c = '&' ∨ c = '0' then key
      else if c.isDigit then []
      else if c = Char.ofNat 96 then before
      else if c = Char.ofNat 39 then after
      else if c = '\\' then ['\\']
      else ['\\', c]
    part ++ regsub before key after val
  | c :: val => c :: regsub before key after val
  | [] => []

/-- Replaces every occurrence of a key. The first number counts what is left of the occurrence that the
text is in. -/
def gsub (key val : List Char) : Nat → List Char → List Char → List Char
  | _, _, [] => []
  | skip + 1, before, c :: str => gsub key val skip (before ++ [c]) str
  | 0, before, c :: str =>
    if key.isPrefixOf (c :: str) then
      regsub before key ((c :: str).drop key.length) val ++
        gsub key val (key.length - 1) (before ++ [c]) str
    else c :: gsub key val 0 (before ++ [c]) str

/-- Expands variables set by the job. -/
def expand_vars (node : Node) (str : List Char) : List Char :=
  node.vars.foldl (fun expanded v => gsub v.1 v.2 0 [] expanded) str

/-- The command line of a script. -/
def command (node : Node) (script : Script) : List Char :=
  script.name ++ ' ' :: node.expand_vars script.params

end Node

/-- The edges, as the nodes at both ends have them. -/
structure Graph (J : Type) where
  parents : J → List J := fun _ => []
  children : J → List J := fun _ => []

namespace Graph

variable {J : Type} [DecidableEq J]

/-- Adds a new child node if it does not exist. The call back to `add_parent` finds the parent that was
just added. -/
def add_child (g : Graph J) (node child : J) : Graph J :=
  if child ∈ g.children node then g
  else { g with children := Function.update g.children node (g.children node ++ [child]) }

/-- Adds a new parent node if it does not exist. -/
def add_parent (g : Graph J) (node parent : J) : Graph J :=
  if parent ∈ g.parents node then g
  else
    add_child { g with parents := Function.update g.parents node (g.parents node ++ [parent]) }
      parent node

/-- Adds the information about dependencies to the nodes. -/
def merge_data (dependencies : List (J × List J)) : Graph J :=
  dependencies.foldl (fun g d => d.2.foldl (fun g parent => g.add_parent d.1 parent) g) {}

variable {g : Graph J} {c p j q : J}

lemma add_child_parents : (g.add_child j c).parents = g.parents := by
  rw [add_child]
  split <;> rfl

lemma mem_add_parent : q ∈ (g.add_parent c p).parents j ↔ q ∈ g.parents j ∨ j = c ∧ q = p := by
  rw [add_parent]
  split
  case isTrue there =>
    constructor
    · exact .inl
    · rintro (old | ⟨rfl, rfl⟩)
      · exact old
      · exact there
  case isFalse =>
    rw [add_child_parents]
    show q ∈ Function.update g.parents c (g.parents c ++ [p]) j ↔ _
    by_cases same : j = c
    · subst same
      rw [Function.update_self, List.mem_append, List.mem_singleton, and_iff_right rfl]
    · rw [Function.update_of_ne same]
      exact ⟨.inl, fun h => h.resolve_right fun new => same new.1⟩

lemma mem_add_parents (ps : List J) :
    q ∈ (ps.foldl (fun g parent => g.add_parent c parent) g).parents j ↔
      q ∈ g.parents j ∨ j = c ∧ q ∈ ps := by
  induction ps generalizing g with
  | nil => simp
  | cons p ps ih =>
    rw [List.foldl_cons, ih, mem_add_parent, List.mem_cons, or_assoc, ← and_or_left]

lemma mem_merged (deps : List (J × List J)) :
    q ∈ (deps.foldl (fun g d => d.2.foldl (fun g parent => g.add_parent d.1 parent) g) g).parents j ↔
      q ∈ g.parents j ∨ ∃ d ∈ deps, j = d.1 ∧ q ∈ d.2 := by
  induction deps generalizing g with
  | nil => simp
  | cons d deps ih =>
    rw [List.foldl_cons, ih, mem_add_parents, List.exists_mem_cons_iff, or_assoc]

/-- The parents of a job are those that the file names. -/
theorem mem_parents {deps : List (J × List J)} :
    q ∈ (merge_data deps).parents j ↔ ∃ d ∈ deps, j = d.1 ∧ q ∈ d.2 := by
  rw [merge_data, mem_merged]
  exact or_iff_right List.not_mem_nil

end Graph

/-- The jobs of a file and what it says of them. No job waits for itself. -/
structure Dag (J : Type) where
  jobs : List J
  node : J → Node
  dependencies : List (J × List J)
  nodup : jobs.Nodup
  closed : ∀ d ∈ dependencies, d.1 ∈ jobs ∧ ∀ p ∈ d.2, p ∈ jobs
  acyclic : ∀ j, ¬Relation.TransGen (fun p c => ∃ d ∈ dependencies, c = d.1 ∧ p ∈ d.2) j j

namespace Dag

variable {J : Type} [DecidableEq J] (d : Dag J)

/-- The parents of a node. -/
def parents (j : J) : List J := (Graph.merge_data d.dependencies).parents j

/-- The job is marked as already completed. -/
def Marked (j : J) : Prop := (d.node j).done = true

variable {d} {p j : J}

lemma mem_jobs (parent : p ∈ d.parents j) : p ∈ d.jobs ∧ j ∈ d.jobs := by
  obtain ⟨dep, mem, rfl, named⟩ := Graph.mem_parents.1 parent
  exact ⟨(d.closed dep mem).2 p named, (d.closed dep mem).1⟩

/-- The jobs can be done in some order. -/
theorem wellFounded : WellFounded fun p c => p ∈ d.parents c := by
  let edge (p c : J) : Prop := ∃ dep ∈ d.dependencies, c = dep.1 ∧ p ∈ dep.2
  have strict : IsStrictOrder J (Relation.TransGen edge) :=
    { irrefl := d.acyclic, trans := fun _ _ _ => Relation.TransGen.trans }
  have ordered : {j | j ∈ d.jobs}.WellFoundedOn (Relation.TransGen edge) :=
    (List.finite_toSet d.jobs).wellFoundedOn
  rw [Set.wellFoundedOn_iff] at ordered
  refine Subrelation.wf ?_ ordered
  intro p c parent
  exact ⟨.single (Graph.mem_parents.1 parent), mem_jobs parent⟩

end Dag

end GridWay.Dagman
