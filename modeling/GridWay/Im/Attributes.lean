import GridWay.Im.Scanner

/-!
# What a host keeps of its reports

`gw_host_var.c`: the functions that get a variable of a host, and what they answer after a report. A
generic variable is kept under its name, an element of one under a text with the index; a get looks
for the name first.

* `Host.get`: a variable is read, for a queue.
* `Assign.gives`: what an assignment means for a variable.
* `Host.Keeps`: an assignment changes the variable that it is for, and nothing else.
* `Host.Suits`: when it does.
* `report_stored_iff`: a report is kept when its assignments suit the host.
* `storeFits_iff_short`: what this is for a generic variable whose name is not cut.
-/

namespace GridWay.Im

/-- The text of an element, as `snprintf` leaves it in the buffer. -/
def arrayName (var : String) (index : Int) : String :=
  String.ofList ((var ++ "[" ++ toString index ++ "]").toList.take 1022)

/-- What is read: a variable of the host, or a generic one, as a number or as a string. -/
inductive Ask where
  | var (int : Bool) (v : Var)
  | int (var : String)
  | str (var : String)
deriving DecidableEq, Repr

/-- What is read has a name that the scanner reads. -/
def Ask.Named : Ask → Prop
  | .var _ _ => True
  | .int name | .str name => isName name = true

namespace Host

/-- `gw_host_get_var_int` and `gw_host_get_var_str`: an index that is too large and a variable of
the other kind give 0 or `NULL`; an array is read below its start when the index is. -/
def get_var (host : Host) (int : Bool) (v : Var) (index : Int) : Option Value :=
  if index ≥ maxQueues ∨ v.isInt ≠ int then some (if int then .int 0 else .str none)
  else if v.isQueue then if index < 0 then none else some (host.vars v index.toNat)
  else some (host.vars v 0)

/-- `gw_host_get_genvar_int` and `gw_host_get_genvar_str`. -/
def get_genvar {ν : Type} (table : List (String × ν)) (unset : ν) (var : String) (index : Int) :
    ν :=
  if index ≥ maxQueues then unset
  else ((Dict.get table (genvarName var (-1))).or (Dict.get table (arrayName var index))).getD unset

/-- A variable is read. -/
def get (host : Host) (x : Ask) (index : Int) : Option Value :=
  match x with
  | .var int v => host.get_var int v index
  | .int var => some (.int (get_genvar host.genvarInt 0 var index))
  | .str var => some (.str (get_genvar host.genvarStr none var index))

end Host

/-- The number that is given to a generic variable. -/
def Given.asInt : Given → Option Int
  | .int n => some n
  | .str _ => none
  | .null => some 0

/-- The string that is given to a generic variable. -/
def Given.asStr : Given → Option (Option String)
  | .int _ => none
  | .str s => some s
  | .null => some none

namespace Assign

variable (a : Assign)

/-- An assignment for an element of an array has the index of a queue, and one for anything else has
it or has none. -/
def Accepted : Prop :=
  a.index < maxQueues ∧
    match a.target with
    | .var v => v.takes (a.given.value v) = true ∧ (0 ≤ a.index ∨ a.index = -1 ∧ v.isQueue = false)
    | .generic _ => -1 ≤ a.index

instance : Decidable a.Accepted := by
  unfold Accepted
  cases a.target <;> infer_instance

/-- An assignment without an index is for each queue. -/
def For (i : Nat) : Prop := a.index = -1 ∨ a.index = i

instance (i : Nat) : Decidable (a.For i) := inferInstanceAs (Decidable (_ ∨ _))

/-- The value that a variable has for a queue after an assignment that is accepted; none when it is
about something else. -/
def gives (x : Ask) (i : Nat) : Option Value :=
  if a.Accepted then
    match a.target, x with
    | .var v, .var int v' =>
      if v' = v ∧ int = v.isInt ∧ (v.isQueue = true → a.index = i) then some (a.given.value v)
      else none
    | .generic var, .int var' => if var' = var ∧ a.For i then a.given.asInt.map .int else none
    | .generic var, .str var' => if var' = var ∧ a.For i then a.given.asStr.map .str else none
    | _, _ => none
  else none

end Assign

/-- The value of the last accepted assignment to a variable. -/
def lastGiven (as : List Assign) (x : Ask) (i : Nat) : Option Value :=
  as.reverse.findSome? (·.gives x i)

namespace Host

variable (host : Host) (a : Assign)

/-- A report is kept: no assignment writes outside the arrays; after each of them a variable has the
value of the last one that was accepted for it, or the value it had; and one that is not accepted
changes nothing. -/
def Stored (as : List Assign) : Prop :=
  ∀ n ≤ as.length, ∃ host', (as.take n).foldlM assign host = some host' ∧
    (∀ x, x.Named → ∀ i < maxQueues,
      host'.get x i = (lastGiven (as.take n) x i).or (host.get x i)) ∧
    ∀ a ∈ as[n]?, ¬a.Accepted → host'.assign a = some host'

/-- An assignment gives its value to the variable that it is for, and changes nothing else. -/
def Keeps : Prop :=
  ∃ host', host.assign a = some host' ∧
    (∀ x, x.Named → ∀ i < maxQueues, host'.get x i = (a.gives x i).or (host.get x i)) ∧
    (¬a.Accepted → host' = host)

section Tables

variable {ν : Type} (table : List (String × ν)) (unset : ν) (var : String) (index : Int) (value : ν)

/-- A generic variable is read from the slot of a text. -/
def Reads (text : String) (var : String) (i : Nat) : Prop :=
  genvarName var (-1) = text ∨ Dict.get table (genvarName var (-1)) = none ∧ arrayName var i = text

instance (text : String) (i : Nat) : Decidable (Reads table text var i) :=
  inferInstanceAs (Decidable (_ ∨ _ ∧ _))

/-- A value in the slot of an assignment is what is read for its variable, and for no other: there
is no variable with the name of an element, nor one whose text is cut to the same, unless it has the
value. -/
structure Alone : Prop where
  scalar : index ≠ -1 → ∀ v ∈ Dict.get table (genvarName var (-1)), v = value
  other : ∀ var' i, isName var' = true → i < maxQueues → ¬(var' = var ∧ (index = -1 ∨ index = i)) →
    Reads table (genvarName var index) var' i → get_genvar table unset var' i = value

/-- A number or a string is given to a generic variable. Below -1, the index is of no queue. -/
def StoreFits : Prop :=
  if index < -1 then Dict.get table (genvarName var index) = some value
  else ((Dict.get table (genvarName var index)).isSome ∨ table.length < maxGenvars) ∧
    Alone table unset var index value

/-- The slot of a generic variable is cleared. -/
def ClearFits : Prop :=
  if index < -1 then Dict.get table (genvarName var index) = some unset
  else Alone table unset var index unset

/-- A generic variable is not set. -/
def Unset : Prop :=
  -1 ≤ index → ∀ i < maxQueues, index = -1 ∨ index = i → get_genvar table unset var i = unset

end Tables

/-- The table in which the slot with a text comes first, the one of the numbers or that of the
strings. -/
def firstSlot (text : String) : Option Bool :=
  match host.genvarInt.findIdx? (·.1 = text), host.genvarStr.findIdx? (·.1 = text) with
  | some p, some q => some (decide (p ≤ q))
  | some _, none => some true
  | none, some _ => some false
  | none, none => none

/-- When an assignment is kept. -/
def Suits : Prop :=
  maxQueues ≤ a.index ∨
    match a.target, a.given with
    | .var v, given =>
      v.takes (given.value v) = false ∨
        if v.isQueue then 0 ≤ a.index else -1 ≤ a.index ∨ host.vars v 0 = given.value v
    | .generic var, .int n => StoreFits host.genvarInt 0 var a.index n
    | .generic var, .str s => StoreFits host.genvarStr none var a.index s
    | .generic var, .null =>
      (if host.firstSlot (genvarName var a.index) = some true then
          ClearFits host.genvarInt 0 var a.index
        else Unset host.genvarInt 0 var a.index) ∧
      if host.firstSlot (genvarName var a.index) = some false then
        ClearFits host.genvarStr none var a.index
      else Unset host.genvarStr none var a.index

/-- The assignments suit the host, each as it is then. -/
def AllSuit (host : Host) : List Assign → Prop
  | [] => True
  | a :: as => host.Suits a ∧ ∀ host' ∈ host.assign a, AllSuit host' as

end Host

section Tables

variable {ν : Type} {table table' : List (String × ν)} {unset value : ν} {given : Option ν}
  {var text : String} {index : Int}

/-- A table has a value in the slot of a text, and is as another one elsewhere. -/
def Written (table table' : List (String × ν)) (text : String) (value : ν) : Prop :=
  ∀ text', Dict.get table' text' = if text = text' then some value else Dict.get table text'

lemma findIdx_isSome : (table.findIdx? (·.1 = text)).isSome = (Dict.get table text).isSome := by
  induction table with
  | nil => rfl
  | cons e table ih =>
    obtain ⟨text', v⟩ := e
    rw [List.findIdx?_cons, Dict.get]
    by_cases here : text' = text
    · rw [if_pos here, if_pos (decide_eq_true here)]
      rfl
    · rw [if_neg here, if_neg (fun found => here (of_decide_eq_true found)), Option.isSome_map, ih]

lemma written_set {p : Nat} (found : table.findIdx? (·.1 = text) = some p) :
    Written table (table.set p (text, value)) text value := by
  intro text'
  induction table generalizing p with
  | nil => cases found
  | cons e table ih =>
    obtain ⟨text'', v⟩ := e
    rw [List.findIdx?_cons] at found
    by_cases here : text'' = text
    · rw [if_pos (decide_eq_true here)] at found
      cases found
      subst here
      rw [List.set_cons_zero, Dict.get, Dict.get]
      split
      · rfl
      · rfl
    · rw [if_neg (fun found => here (of_decide_eq_true found))] at found
      obtain ⟨q, there, rfl⟩ := Option.map_eq_some_iff.1 found
      rw [List.set_cons_succ, Dict.get, Dict.get, ih there]
      by_cases eq : text'' = text'
      · rw [if_pos eq, if_pos eq, if_neg fun same => here (eq.trans same.symm)]
      · rw [if_neg eq, if_neg eq]

lemma written_append (missing : Dict.get table text = none) :
    Written table (table ++ [(text, value)]) text value := by
  intro text'
  induction table with
  | nil => rfl
  | cons e table ih =>
    obtain ⟨text'', v⟩ := e
    rw [Dict.get] at missing
    by_cases here : text'' = text
    · rw [if_pos here] at missing
      cases missing
    · rw [if_neg here] at missing
      rw [List.cons_append, Dict.get, Dict.get, ih missing]
      by_cases eq : text'' = text'
      · rw [if_pos eq, if_pos eq, if_neg fun same => here (eq.trans same.symm)]
      · rw [if_neg eq, if_neg eq]

/-- A value is stored when its text has a slot or there is a free one. -/
lemma store_room : (Host.store table text value).isSome = true ↔
    (Dict.get table text).isSome = true ∨ table.length < maxGenvars := by
  rw [← findIdx_isSome, Host.store]
  cases table.findIdx? (·.1 = text) with
  | some p => exact iff_of_true rfl (.inl rfl)
  | none =>
    rw [Option.isSome_ite]
    exact ⟨.inr, fun room => room.resolve_left Bool.false_ne_true⟩

lemma store_written (stored : Host.store table text value = some table') :
    Written table table' text value := by
  rw [Host.store] at stored
  cases found : table.findIdx? (·.1 = text) with
  | some p =>
    rw [found] at stored
    cases stored
    exact written_set found
  | none =>
    rw [found] at stored
    obtain ⟨-, eq⟩ := Option.ite_none_right_eq_some.1 stored
    cases eq
    refine written_append (Option.isNone_iff_eq_none.1 ?_)
    rw [← Option.not_isSome, ← findIdx_isSome, found]
    rfl

lemma genvarName_array (array : index ≠ -1) : genvarName var index = arrayName var index :=
  if_neg array

/-- A variable is read from the slot that was written, or as before. -/
lemma get_genvar_written (written : Written table table' text value) {i : Nat}
    (queue : i < maxQueues) :
    Host.get_genvar table' unset var i =
      if Host.Reads table text var i then value else Host.get_genvar table unset var i := by
  have inside : ¬(i : Int) ≥ maxQueues := Int.not_le.2 (Int.ofNat_lt.2 queue)
  rw [Host.get_genvar, Host.get_genvar, if_neg inside, if_neg inside, written, written]
  by_cases scalar : text = genvarName var (-1)
  · have reads : Host.Reads table text var i := .inl scalar.symm
    rw [if_pos scalar, if_pos reads]
    rfl
  · rw [if_neg scalar]
    cases found : Dict.get table (genvarName var (-1)) with
    | some v =>
      have unread : ¬Host.Reads table text var i := by
        rintro (same | ⟨missing, -⟩)
        · exact scalar same.symm
        · rw [found] at missing
          cases missing
      rw [if_neg unread]
      rfl
    | none =>
      by_cases array : text = arrayName var i
      · have reads : Host.Reads table text var i := .inr ⟨found, array.symm⟩
        rw [if_pos array, if_pos reads]
        rfl
      · have unread : ¬Host.Reads table text var i := by
          rintro (same | ⟨-, same⟩)
          · exact scalar same.symm
          · exact array same.symm
        rw [if_neg array, if_neg unread]

lemma get_genvar_scalar {v : ν} (found : Dict.get table (genvarName var (-1)) = some v) {i : Nat}
    (queue : i < maxQueues) : Host.get_genvar table unset var i = v := by
  rw [Host.get_genvar, if_neg (Int.not_le.2 (Int.ofNat_lt.2 queue)), found]
  rfl

/-- What is read of a table afterwards: the value that was given, or the one before. -/
def Right (table table' : List (String × ν)) (unset : ν) (var : String) (index : Int)
    (given : Option ν) : Prop :=
  ∀ var' i, isName var' = true → i < maxQueues → Host.get_genvar table' unset var' i =
    if var' = var ∧ (index = -1 ∨ index = i) then given.getD (Host.get_genvar table unset var' i)
    else Host.get_genvar table unset var' i

lemma right_none : Right table table unset var index none := by
  intro var' i named queue
  rw [Option.getD_none, ite_self]

/-- A table that is not written is right when the variable has the value. -/
lemma right_same (named : isName var = true) : Right table table unset var index (some value) ↔
    ∀ i < maxQueues, index = -1 ∨ index = i → Host.get_genvar table unset var i = value := by
  constructor
  · intro right i queue here
    rw [right var i named queue, if_pos ⟨rfl, here⟩]
    rfl
  · intro has var' i named queue
    split
    case isTrue here =>
      obtain ⟨rfl, here⟩ := here
      exact has i queue here
    case isFalse => rfl

/-- A table that is written is right when the slot is for the variable alone. -/
lemma right_written (written : Written table table' (genvarName var index) value)
    (named : isName var = true) (low : -1 ≤ index) (high : index < maxQueues) :
    Right table table' unset var index (some value) ↔ Host.Alone table unset var index value := by
  constructor
  · intro right
    have other : ∀ var' i, isName var' = true → i < maxQueues →
        ¬(var' = var ∧ (index = -1 ∨ index = i)) → Host.Reads table (genvarName var index) var' i →
          Host.get_genvar table unset var' i = value := by
      intro var' i named queue away reads
      have eq := right var' i named queue
      rw [get_genvar_written written queue, if_pos reads, if_neg away] at eq
      exact eq.symm
    refine ⟨?_, other⟩
    intro array v found
    have queue : index.toNat < maxQueues := by omega
    have here : (index.toNat : Int) = index := Int.toNat_of_nonneg (by omega)
    have concerned : var = var ∧ (index = -1 ∨ index = (index.toNat : Int)) := ⟨rfl, .inr here.symm⟩
    have eq := right var index.toNat named queue
    rw [get_genvar_written written queue, if_pos concerned] at eq
    split at eq
    case isTrue reads =>
      -- The text of the element is that of the name, so that every queue reads the slot.
      have scalar : genvarName var (-1) = genvarName var index := by
        refine reads.resolve_right fun missing => ?_
        rw [missing.1] at found
        cases found
      obtain ⟨j, bound, away⟩ : ∃ j < maxQueues, index ≠ (j : Int) := by
        by_cases zero : index = 0
        · exact ⟨1, by decide, by omega⟩
        · exact ⟨0, by decide, zero⟩
      rw [← other var j named bound (fun same => same.2.elim array away) (.inl scalar),
        get_genvar_scalar found bound]
    case isFalse =>
      rw [get_genvar_scalar found queue] at eq
      exact eq
  · intro alone var' i named queue
    rw [get_genvar_written written queue]
    split
    case isTrue reads =>
      split
      case isTrue => rfl
      case isFalse away => exact (alone.other var' i named queue away reads).symm
    case isFalse unread =>
      split
      case isTrue here =>
        obtain ⟨rfl, rfl | rfl⟩ := here
        · exact absurd (.inl rfl) unread
        · have array : (i : Int) ≠ -1 := by omega
          cases found : Dict.get table (genvarName var' (-1)) with
          | some v =>
            rw [get_genvar_scalar found queue]
            exact alone.scalar array v found
          | none => exact absurd (.inr ⟨found, (genvarName_array array).symm⟩) unread
      case isFalse => rfl

/-- A table as it is when nothing was to change, and right otherwise. -/
def Outcome (table table' : List (String × ν)) (unset : ν) (var : String) (index : Int)
    (given : Option ν) : Prop :=
  if index < -1 then table' = table else Right table table' unset var index given

lemma outcome_none : Outcome table table unset var index none := by
  unfold Outcome
  split
  · rfl
  · exact right_none

lemma set_same {p : Nat} (found : table.findIdx? (·.1 = text) = some p) :
    table.set p (text, value) = table ↔ Dict.get table text = some value := by
  constructor
  · intro same
    have eq : Dict.get (table.set p (text, value)) text = _ := written_set found text
    rw [same, if_pos rfl] at eq
    exact eq
  · intro has
    induction table generalizing p with
    | nil => cases found
    | cons e table ih =>
      obtain ⟨text', v⟩ := e
      rw [List.findIdx?_cons] at found
      rw [Dict.get] at has
      by_cases here : text' = text
      · rw [if_pos (decide_eq_true here)] at found
        rw [if_pos here] at has
        cases found
        cases has
        rw [List.set_cons_zero, here]
      · rw [if_neg (fun found => here (of_decide_eq_true found))] at found
        rw [if_neg here] at has
        obtain ⟨q, there, rfl⟩ := Option.map_eq_some_iff.1 found
        rw [List.set_cons_succ, ih there has]

lemma store_same : Host.store table text value = some table ↔ Dict.get table text = some value := by
  constructor
  · intro stored
    have eq := store_written stored text
    rw [if_pos rfl] at eq
    exact eq
  · intro has
    have slot : (table.findIdx? (·.1 = text)).isSome = true := by rw [findIdx_isSome, has]; rfl
    obtain ⟨p, found⟩ := Option.isSome_iff_exists.1 slot
    rw [Host.store, found]
    exact congrArg some ((set_same found).2 has)

/-- A value that is stored has the outcome that it should when it fits. -/
lemma storeFits_iff (named : isName var = true) (high : index < maxQueues) :
    (∃ table', Host.store table (genvarName var index) value = some table' ∧
      Outcome table table' unset var index (some value)) ↔
        Host.StoreFits table unset var index value := by
  unfold Outcome Host.StoreFits
  split
  case isTrue =>
    rw [← store_same]
    constructor
    · rintro ⟨table', stored, rfl⟩
      exact stored
    · intro stored
      exact ⟨table, stored, rfl⟩
  case isFalse low =>
    rw [← store_room]
    constructor
    · rintro ⟨table', stored, right⟩
      exact ⟨Option.isSome_iff_exists.2 ⟨table', stored⟩,
        (right_written (store_written stored) named (Int.not_lt.1 low) high).1 right⟩
    · rintro ⟨room, alone⟩
      obtain ⟨table', stored⟩ := Option.isSome_iff_exists.1 room
      exact ⟨table', stored,
        (right_written (store_written stored) named (Int.not_lt.1 low) high).2 alone⟩

/-- A slot that is cleared has the outcome that it should when it is for the variable alone. -/
lemma clearFits_iff {p : Nat} (found : table.findIdx? (·.1 = genvarName var index) = some p)
    (named : isName var = true) (high : index < maxQueues) :
    Outcome table (table.set p (genvarName var index, unset)) unset var index (some unset) ↔
      Host.ClearFits table unset var index := by
  unfold Outcome Host.ClearFits
  split
  case isTrue => exact set_same found
  case isFalse low => exact right_written (written_set found) named (Int.not_lt.1 low) high

/-- A table that is not cleared has the outcome that it should when the variable is not set. -/
lemma unset_iff (named : isName var = true) :
    Outcome table table unset var index (some unset) ↔ Host.Unset table unset var index := by
  unfold Outcome Host.Unset
  split
  case isTrue low => exact iff_of_true rfl fun high => absurd low (Int.not_lt.2 high)
  case isFalse low =>
    rw [right_same named]
    exact ⟨fun has _ => has, fun has => has (Int.not_lt.1 low)⟩

end Tables

section Names

variable {ν : Type} {table : List (String × ν)} {unset value : ν} {var var' : String} {index : Int}
  {i j : Nat}

end Names

section Steps

variable {host host' : Host} {a : Assign} {v : Var} {var : String} {x : Ask} {i : Nat}

lemma gives_rejected (rejected : ¬a.Accepted) : a.gives x i = none := if_neg rejected

/-- An assignment that is not accepted is kept when it changes nothing. -/
lemma keeps_rejected (rejected : ¬a.Accepted) : host.Keeps a ↔ host.assign a = some host := by
  constructor
  · rintro ⟨host', assigned, -, same⟩
    rw [assigned, same rejected]
  · intro assigned
    refine ⟨host, assigned, ?_, fun _ => rfl⟩
    intro x named i queue
    rw [gives_rejected rejected]
    rfl

/-- Values of a generic variable before and after an assignment. -/
lemma or_gives {ν : Type} {c : Prop} [Decidable c] {given : Option ν} {old new : ν} {f : ν → Value}
    (inj : ∀ v w, f v = f w → v = w) :
    some (f new) = (if c then given.map f else none).or (some (f old)) ↔
      new = if c then given.getD old else old := by
  have unwrap {v w : ν} : some (f v) = some (f w) ↔ v = w :=
    ⟨fun eq => inj v w (Option.some.inj eq), fun eq => by rw [eq]⟩
  split
  · cases given with
    | none => exact unwrap
    | some w => exact unwrap
  · exact unwrap

/-- Nothing is assigned: the first slot with the text is cleared. -/
lemma clear_cases (host : Host) (var : String) {index : Int} (high : index < maxQueues) :
    (∃ p, host.genvarInt.findIdx? (·.1 = genvarName var index) = some p ∧
      host.firstSlot (genvarName var index) = some true ∧ host.set_genvar var index .null =
        some { host with genvarInt := host.genvarInt.set p (genvarName var index, 0) }) ∨
    (∃ q, host.genvarStr.findIdx? (·.1 = genvarName var index) = some q ∧
      host.firstSlot (genvarName var index) = some false ∧ host.set_genvar var index .null =
        some { host with genvarStr := host.genvarStr.set q (genvarName var index, none) }) ∨
    host.firstSlot (genvarName var index) = none ∧ host.set_genvar var index .null = some host := by
  rw [Host.set_genvar, if_neg (Int.not_le.2 high), Host.firstSlot]
  cases host.genvarInt.findIdx? (·.1 = genvarName var index) with
  | some p =>
    cases host.genvarStr.findIdx? (·.1 = genvarName var index) with
    | some q =>
      by_cases le : p ≤ q
      · exact .inl ⟨p, rfl, congrArg some (decide_eq_true le), if_pos le⟩
      · exact .inr (.inl ⟨q, rfl, congrArg some (decide_eq_false le), if_neg le⟩)
    | none => exact .inl ⟨p, rfl, rfl, rfl⟩
  | none =>
    cases host.genvarStr.findIdx? (·.1 = genvarName var index) with
    | some q => exact .inr (.inl ⟨q, rfl, rfl, rfl⟩)
    | none => exact .inr (.inr ⟨rfl, rfl⟩)

/-- An assignment to a generic variable changes the two tables. -/
lemma set_genvar_tables {index : Int} {given : Given}
    (set : host.set_genvar var index given = some host') :
    ∃ ints strs, host' = { host with genvarInt := ints, genvarStr := strs } := by
  by_cases high : index < maxQueues
  · cases given with
    | int n =>
      rw [Host.set_genvar, if_neg (Int.not_le.2 high)] at set
      obtain ⟨table, -, rfl⟩ := Option.map_eq_some_iff.1 set
      exact ⟨_, _, rfl⟩
    | str s =>
      rw [Host.set_genvar, if_neg (Int.not_le.2 high)] at set
      obtain ⟨table, -, rfl⟩ := Option.map_eq_some_iff.1 set
      exact ⟨_, _, rfl⟩
    | null =>
      obtain ⟨p, -, -, eq⟩ | ⟨q, -, -, eq⟩ | ⟨-, eq⟩ := clear_cases host var high
      · exact ⟨_, _, Option.some.inj (set.symm.trans eq)⟩
      · exact ⟨_, _, Option.some.inj (set.symm.trans eq)⟩
      · exact ⟨_, _, Option.some.inj (set.symm.trans eq)⟩
  · have eq : host.set_genvar var index given = some host := if_pos (Int.not_lt.1 high)
    exact ⟨_, _, Option.some.inj (set.symm.trans eq)⟩

lemma accepted_generic (target : a.target = .generic var) (high : a.index < maxQueues) :
    a.Accepted ↔ ¬a.index < -1 := by
  rw [Assign.Accepted, target, Int.not_lt]
  exact and_iff_right high

lemma assign_generic (target : a.target = .generic var) :
    host.assign a = host.set_genvar var a.index a.given := by
  rw [Host.assign, target]

/-- An assignment to a generic variable is kept when each table has the outcome that it should. -/
lemma keeps_generic (target : a.target = .generic var) (high : a.index < maxQueues) : host.Keeps a ↔
    ∃ ints strs, host.assign a = some { host with genvarInt := ints, genvarStr := strs } ∧
      Outcome host.genvarInt ints 0 var a.index a.given.asInt ∧
      Outcome host.genvarStr strs none var a.index a.given.asStr := by
  have accepted := accepted_generic target high
  by_cases low : a.index < -1
  · have rejected : ¬a.Accepted := fun here => accepted.1 here low
    rw [keeps_rejected rejected]
    constructor
    · intro assigned
      exact ⟨_, _, assigned, by rw [Outcome, if_pos low], by rw [Outcome, if_pos low]⟩
    · rintro ⟨ints, strs, assigned, int, str⟩
      rw [Outcome, if_pos low] at int str
      rw [assigned, int, str]
  · have here := accepted.2 low
    have gives_int (var' : String) (i : Nat) : a.gives (.int var') i =
        if var' = var ∧ a.For i then a.given.asInt.map .int else none :=
      (if_pos here).trans (by rw [target])
    have gives_str (var' : String) (i : Nat) : a.gives (.str var') i =
        if var' = var ∧ a.For i then a.given.asStr.map .str else none :=
      (if_pos here).trans (by rw [target])
    have gives_var (kind : Bool) (v : Var) (i : Nat) : a.gives (.var kind v) i = none :=
      (if_pos here).trans (by rw [target])
    have inj_int (n m : Int) (eq : Value.int n = .int m) : n = m := Value.int.inj eq
    have inj_str (s t : Option String) (eq : Value.str s = .str t) : s = t := Value.str.inj eq
    constructor
    · rintro ⟨host', assigned, gets, -⟩
      obtain ⟨ints, strs, rfl⟩ := set_genvar_tables (assign_generic target ▸ assigned)
      refine ⟨ints, strs, assigned, ?_, ?_⟩
      · rw [Outcome, if_neg low]
        intro var' i named queue
        have got := gets (.int var') named i queue
        rw [gives_int] at got
        exact (or_gives inj_int).1 got
      · rw [Outcome, if_neg low]
        intro var' i named queue
        have got := gets (.str var') named i queue
        rw [gives_str] at got
        exact (or_gives inj_str).1 got
    · rintro ⟨ints, strs, assigned, int, str⟩
      rw [Outcome, if_neg low] at int str
      refine ⟨_, assigned, ?_, fun rejected => absurd here rejected⟩
      intro x named i queue
      cases x with
      | var kind v =>
        rw [gives_var]
        rfl
      | int var' =>
        rw [gives_int]
        exact (or_gives inj_int).2 (int var' i named queue)
      | str var' =>
        rw [gives_str]
        exact (or_gives inj_str).2 (str var' i named queue)

/-- An assignment to a generic variable is kept when it suits the host. -/
lemma keeps_generic_iff (target : a.target = .generic var) (named : isName var = true) :
    host.Keeps a ↔ host.Suits a := by
  by_cases high : a.index < maxQueues
  case neg =>
    have above := Int.not_lt.1 high
    have rejected : ¬a.Accepted := fun here => high here.1
    have assigned : host.assign a = some host := (assign_generic target).trans (if_pos above)
    exact iff_of_true ((keeps_rejected rejected).2 assigned) (.inl above)
  have below : ¬maxQueues ≤ a.index := Int.not_le.2 high
  rw [keeps_generic target high, Host.Suits, or_iff_right below, assign_generic target, target]
  cases given : a.given with
  | int n =>
    have set : host.set_genvar var a.index (.int n) =
        (Host.store host.genvarInt (genvarName var a.index) n).map
          fun table => { host with genvarInt := table } :=
      if_neg below
    rw [set]
    constructor
    · rintro ⟨ints, strs, stored, int, -⟩
      obtain ⟨table, stored, eq⟩ := Option.map_eq_some_iff.1 stored
      cases congrArg Host.genvarInt eq
      exact (storeFits_iff named high).1 ⟨_, stored, int⟩
    · intro fits
      obtain ⟨table, stored, int⟩ := (storeFits_iff named high).2 fits
      exact ⟨table, host.genvarStr, by rw [stored]; rfl, int, outcome_none⟩
  | str s =>
    have set : host.set_genvar var a.index (.str s) =
        (Host.store host.genvarStr (genvarName var a.index) s).map
          fun table => { host with genvarStr := table } :=
      if_neg below
    rw [set]
    constructor
    · rintro ⟨ints, strs, stored, -, str⟩
      obtain ⟨table, stored, eq⟩ := Option.map_eq_some_iff.1 stored
      cases congrArg Host.genvarStr eq
      exact (storeFits_iff named high).1 ⟨_, stored, str⟩
    · intro fits
      obtain ⟨table, stored, str⟩ := (storeFits_iff named high).2 fits
      exact ⟨host.genvarInt, table, by rw [stored]; rfl, outcome_none, str⟩
  | null =>
    have tables {host' : Host} {P : List (String × Int) → List (String × Option String) → Prop}
        (same : ∃ ints strs, host' = { host with genvarInt := ints, genvarStr := strs }) :
        (∃ ints strs, some host' = some { host with genvarInt := ints, genvarStr := strs } ∧
          P ints strs) ↔ P host'.genvarInt host'.genvarStr := by
      obtain ⟨ints, strs, rfl⟩ := same
      constructor
      · rintro ⟨ints', strs', eq, holds⟩
        cases Option.some.inj eq
        exact holds
      · intro holds
        exact ⟨ints, strs, rfl, holds⟩
    obtain ⟨p, found, first, eq⟩ | ⟨q, found, first, eq⟩ | ⟨first, eq⟩ :=
      clear_cases host var high
    · rw [eq, tables ⟨_, _, rfl⟩]
      show _ ↔ (if _ then _ else _) ∧ if _ then _ else _
      rw [if_pos first, if_neg (fun second => by rw [first] at second; cases second)]
      exact and_congr (clearFits_iff found named high) (unset_iff named)
    · rw [eq, tables ⟨_, _, rfl⟩]
      show _ ↔ (if _ then _ else _) ∧ if _ then _ else _
      rw [if_neg (fun second => by rw [first] at second; cases second), if_pos first]
      exact and_congr (unset_iff named) (clearFits_iff found named high)
    · rw [eq, tables ⟨_, _, rfl⟩]
      show _ ↔ (if _ then _ else _) ∧ if _ then _ else _
      rw [if_neg (fun second => by rw [first] at second; cases second),
        if_neg (fun second => by rw [first] at second; cases second)]
      exact and_congr (unset_iff named) (unset_iff named)

/-- Where the value of a variable for a queue is. -/
def slotOf (v : Var) (i : Nat) : Nat := if v.isQueue then i else 0

lemma get_var_slot (queue : i < maxQueues) :
    host.get_var v.isInt v i = some (host.vars v (slotOf v i)) := by
  have inside : ¬((i : Int) ≥ maxQueues ∨ v.isInt ≠ v.isInt) := by
    rintro (far | other)
    · exact absurd (Int.ofNat_lt.2 queue) (Int.not_lt.2 far)
    · exact other rfl
  rw [Host.get_var, if_neg inside, slotOf]
  have low : ¬(i : Int) < 0 := Int.not_lt.2 (Int.natCast_nonneg i)
  cases v.isQueue with
  | true =>
    rw [if_pos rfl, if_pos rfl, if_neg low]
    rfl
  | false => rfl

/-- A value in the slot of a variable is what is read for it, and for no other. -/
lemma get_setVar (target : a.target = .var v) (accepted : a.Accepted) (queue : i < maxQueues) :
    (host.setVar v (slotOf v a.index.toNat) (a.given.value v)).get x i =
      (a.gives x i).or (host.get x i) := by
  have low : v.isQueue = true → (a.index.toNat : Int) = a.index := by
    intro array
    obtain ⟨-, here⟩ := accepted
    rw [target] at here
    obtain ⟨-, low | ⟨-, plain⟩⟩ := here
    · exact Int.toNat_of_nonneg low
    · rw [array] at plain
      cases plain
  cases x with
  | int var =>
    have none : a.gives (.int var) i = none := (if_pos accepted).trans (by rw [target])
    rw [none]
    rfl
  | str var =>
    have none : a.gives (.str var) i = none := (if_pos accepted).trans (by rw [target])
    rw [none]
    rfl
  | var kind v' =>
    have gives : a.gives (.var kind v') i =
        if v' = v ∧ kind = v.isInt ∧ (v.isQueue = true → a.index = i) then some (a.given.value v)
        else none :=
      (if_pos accepted).trans (by rw [target])
    rw [gives, Host.get, Host.get]
    by_cases right : v'.isInt = kind
    case neg =>
      have other : ¬(v' = v ∧ kind = v.isInt ∧ (v.isQueue = true → a.index = i)) := by
        rintro ⟨rfl, same, -⟩
        exact right same.symm
      have unset (host : Host) :
          host.get_var kind v' i = some (if kind then .int 0 else .str none) :=
        if_pos (.inr right)
      rw [if_neg other, unset, unset]
      rfl
    subst right
    rw [get_var_slot queue, get_var_slot queue]
    have same : (v' = v ∧ slotOf v' i = slotOf v a.index.toNat) ↔
        v' = v ∧ v'.isInt = v.isInt ∧ (v.isQueue = true → a.index = i) := by
      constructor
      · rintro ⟨rfl, slot⟩
        refine ⟨rfl, rfl, ?_⟩
        intro array
        rw [slotOf, slotOf, if_pos array, if_pos array] at slot
        rw [← low array, slot]
      · rintro ⟨rfl, -, here⟩
        refine ⟨rfl, ?_⟩
        cases array : v'.isQueue with
        | true => rw [slotOf, slotOf, if_pos array, if_pos array, here array, Int.toNat_natCast]
        | false => rw [slotOf, slotOf, array]; rfl
    by_cases here : v' = v ∧ slotOf v' i = slotOf v a.index.toNat
    · rw [if_pos (same.1 here)]
      exact congrArg some (if_pos here)
    · rw [if_neg fun there => here (same.2 there)]
      exact congrArg some (if_neg here)

/-- An assignment to a variable of the host is kept when it suits the host. -/
lemma keeps_var_iff (target : a.target = .var v) : host.Keeps a ↔ host.Suits a := by
  have assigned : host.assign a = host.set_var v a.index (a.given.value v) := by
    rw [Host.assign, target]
  have accepted : a.Accepted ↔ a.index < maxQueues ∧ v.takes (a.given.value v) = true ∧
      (0 ≤ a.index ∨ a.index = -1 ∧ v.isQueue = false) := by
    rw [Assign.Accepted, target]
  by_cases ignored : a.index ≥ maxQueues ∨ v.takes (a.given.value v) = false
  · have rejected : ¬a.Accepted := by
      intro here
      obtain ⟨high, takes, -⟩ := accepted.1 here
      obtain above | other := ignored
      · exact absurd high (Int.not_lt.2 above)
      · rw [takes] at other
        cases other
    refine iff_of_true ((keeps_rejected rejected).2 (assigned.trans (if_pos ignored))) ?_
    rw [Host.Suits, target]
    exact ignored.imp_right .inl
  · obtain ⟨below, takes⟩ := not_or.1 ignored
    have set := assigned.trans (if_neg ignored)
    have suits : host.Suits a ↔
        if v.isQueue then 0 ≤ a.index else -1 ≤ a.index ∨ host.vars v 0 = a.given.value v := by
      rw [Host.Suits, target]
      exact (or_iff_right below).trans (or_iff_right takes)
    rw [suits]
    have kept (low : 0 ≤ a.index ∨ a.index = -1 ∧ v.isQueue = false)
        (set : host.assign a = some (host.setVar v (slotOf v a.index.toNat) (a.given.value v))) :
        host.Keeps a := by
      have here := accepted.2 ⟨Int.not_le.1 below, Bool.not_eq_false _ ▸ takes, low⟩
      exact ⟨_, set, fun x named i queue => get_setVar target here queue,
        fun rejected => absurd here rejected⟩
    cases array : v.isQueue with
    | true =>
      rw [array, if_pos rfl] at set
      rw [if_pos rfl]
      by_cases low : a.index < 0
      · rw [if_pos low] at set
        refine iff_of_false ?_ (Int.not_le.2 low)
        rintro ⟨host', written, -⟩
        rw [set] at written
        cases written
      · rw [if_neg low] at set
        refine iff_of_true (kept (.inl (Int.not_lt.1 low)) ?_) (Int.not_lt.1 low)
        rw [set, slotOf, if_pos array]
    | false =>
      rw [array, if_neg Bool.false_ne_true] at set
      rw [if_neg Bool.false_ne_true]
      by_cases low : -1 ≤ a.index
      · refine iff_of_true (kept ?_ ?_) (.inl low)
        · obtain some | none := Int.lt_or_eq_of_le low
          · exact .inl some
          · exact .inr ⟨none.symm, array⟩
        · rw [set, slotOf, array]
          rfl
      · have rejected : ¬a.Accepted := by
          intro here
          obtain ⟨-, -, some | ⟨none, -⟩⟩ := accepted.1 here
          · exact low (Int.le_trans (by decide) some)
          · exact low (Int.le_of_eq none.symm)
        rw [keeps_rejected rejected, set, or_iff_right low]
        constructor
        · intro same
          have value := congrFun (congrFun (congrArg Host.vars (Option.some.inj same)) v) 0
          exact value.symm.trans (if_pos ⟨rfl, rfl⟩)
        · intro value
          have same : (host.setVar v 0 (a.given.value v)).vars = host.vars := by
            funext v' i
            by_cases here : v' = v ∧ i = 0
            · obtain ⟨rfl, rfl⟩ := here
              exact (if_pos ⟨rfl, rfl⟩).trans value.symm
            · exact if_neg here
          exact congrArg some (congrArg (fun vars => { host with vars }) same)

/-- An assignment is kept when it suits the host. -/
theorem keeps_iff (named : a.Named) : host.Keeps a ↔ host.Suits a := by
  rw [Assign.Named] at named
  cases target : a.target with
  | var v => exact keeps_var_iff target
  | generic var =>
    rw [target] at named
    exact keeps_generic_iff target named

end Steps

section Runs

variable {host : Host} {a : Assign} {as : List Assign} {x : Ask} {i : Nat}

lemma lastGiven_cons : lastGiven (a :: as) x i = (lastGiven as x i).or (a.gives x i) := by
  rw [lastGiven, List.reverse_cons, List.findSome?_append]
  congr 1
  rw [List.findSome?_cons]
  cases a.gives x i with
  | none => rfl
  | some value => rfl

lemma foldlM_cons {n : Nat} {host' : Host} (assigned : host.assign a = some host') :
    ((a :: as).take (n + 1)).foldlM Host.assign host = (as.take n).foldlM Host.assign host' := by
  rw [List.take_succ_cons, List.foldlM_cons, assigned]
  rfl

/-- A report is kept when its first assignment is, and then the others. -/
lemma stored_cons :
    host.Stored (a :: as) ↔ host.Keeps a ∧ ∀ host' ∈ host.assign a, host'.Stored as := by
  constructor
  · intro stored
    obtain ⟨here, start, -, rejected⟩ := stored 0 (Nat.zero_le _)
    obtain rfl := Option.some.inj start
    obtain ⟨host₁, ran, gets, -⟩ := stored 1 (Nat.succ_le_succ (Nat.zero_le _))
    have assigned : host.assign a = some host₁ := by
      rw [List.take_succ_cons, List.foldlM_cons] at ran
      obtain ⟨host₂, assigned, eq⟩ := Option.bind_eq_some_iff.1 ran
      rw [assigned]
      exact eq
    have first :
        ∀ x, x.Named → ∀ i < maxQueues, host₁.get x i = (a.gives x i).or (host.get x i) := by
      intro x named i queue
      rw [gets x named i queue, List.take_succ_cons, lastGiven_cons]
      rfl
    refine ⟨⟨host₁, assigned, first, fun no => ?_⟩, ?_⟩
    · exact Option.some.inj (assigned.symm.trans (rejected a rfl no))
    · intro host' assigned' n le
      obtain rfl := Option.some.inj (assigned.symm.trans assigned')
      obtain ⟨host₂, ran, gets, rejected⟩ := stored (n + 1) (Nat.succ_le_succ le)
      refine ⟨host₂, (foldlM_cons assigned).symm.trans ran, ?_, rejected⟩
      intro x named i queue
      rw [gets x named i queue, List.take_succ_cons, lastGiven_cons, Option.or_assoc,
        first x named i queue]
  · rintro ⟨⟨host', assigned, first, same⟩, later⟩ n le
    cases n with
    | zero =>
      refine ⟨host, rfl, fun _ _ _ _ => rfl, ?_⟩
      intro b eq rejected
      obtain rfl := Option.some.inj eq
      rw [assigned, same rejected]
    | succ n =>
      obtain ⟨host₂, ran, gets, rejected⟩ := later host' assigned n (Nat.succ_le_succ_iff.1 le)
      refine ⟨host₂, (foldlM_cons assigned).trans ran, ?_, rejected⟩
      intro x named i queue
      rw [gets x named i queue, List.take_succ_cons, lastGiven_cons, Option.or_assoc,
        first x named i queue]

lemma stored_nil : host.Stored [] := by
  intro n le
  obtain rfl := Nat.le_zero.1 le
  exact ⟨host, rfl, fun _ _ _ _ => rfl, fun a eq => absurd eq (by simp)⟩

/-- Assignments are kept when each of them suits the host as it is then. -/
lemma stored_iff (named : ∀ a ∈ as, a.Named) : host.Stored as ↔ host.AllSuit as := by
  induction as generalizing host with
  | nil => exact iff_of_true stored_nil trivial
  | cons a as ih =>
    rw [stored_cons, keeps_iff (named a List.mem_cons_self)]
    refine and_congr_right fun suits => forall_congr' fun host' => forall_congr' fun assigned => ?_
    exact ih fun b mem => named b (List.mem_cons_of_mem _ mem)

/-- A report is kept if and only if its assignments suit the host, each as it is then. -/
theorem report_stored_iff (host : Host) (attr : List Char) :
    host.Stored (parse (scan attr)).1 ↔ host.AllSuit (parse (scan attr)).1 :=
  stored_iff (parse_named attr)

/-- An array without an index is written below its start. -/
theorem report_not_stored : ¬(Host.init 1).Stored (parse (scan "QUEUE_NODECOUNT=4".toList)).1 := by
  have parsed : (parse (scan "QUEUE_NODECOUNT=4".toList)).1 =
      [⟨.var .queueNodecount, -1, .int 4⟩] := by decide
  rw [parsed]
  intro stored
  obtain ⟨host', ran, -⟩ := stored 1 (Nat.le_refl 1)
  cases ran

end Runs

end GridWay.Im
