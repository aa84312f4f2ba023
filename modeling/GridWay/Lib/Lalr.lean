import Mathlib

/-!
# Generated parsers

A generated parser has a stack of states with values. Its tables say for a state and the next token
whether the token is shifted or a rule is reduced; the action of a rule makes a value from those of
its right side. The stack has a bound.

* `Tables`: the tables, with the names and the packing of the generator.
* `Parser.step`, `Parser.run`: the parser, and the parser with fuel.
* `Parser.Ends`: how a parser ends.
* `Certificate.Checks`: a finite check of the tables against their grammar.
* `Certificate.total`, `Certificate.accepted`: a parser whose tables are checked ends, and what it
  accepts is derived from the start symbol.
-/

namespace GridWay.Lalr

/-- The tables of a parser. An entry of `table` is for the state or token that `check` has in its
place. -/
structure Tables where
  ntokens : ℕ
  last : Int
  final : Int
  pactNinf : Int
  tableNinf : Int
  r1 : List ℕ
  r2 : List ℕ
  defact : List ℕ
  defgoto : List Int
  pact : List Int
  pgoto : List Int
  table : List Int
  check : List Int

/-- What is done in a state. -/
inductive Act where
  | shift (state : ℕ)
  | reduce (rule : ℕ)
  | error
deriving DecidableEq, Repr

namespace Tables

variable (t : Tables)

/-- The entry for a state or a token. -/
def entry (n : Int) (key : ℕ) : Option Int :=
  if 0 ≤ n ∧ n ≤ t.last ∧ t.check.getD n.toNat (-1) = key then some (t.table.getD n.toNat 0) else none

/-- What a state does without an entry for the next token. -/
def default (q : ℕ) : Act :=
  if t.defact.getD q 0 = 0 then .error else .reduce (t.defact.getD q 0)

/-- What a state does when a token comes next. -/
def action (q a : ℕ) : Act :=
  if t.pact.getD q t.pactNinf = t.pactNinf then t.default q
  else
    match t.entry (t.pact.getD q 0 + a) a with
    | none => t.default q
    | some n =>
      if n = 0 ∨ n = t.tableNinf then .error
      else if n < 0 then .reduce n.natAbs
      else .shift n.toNat

/-- The state after a rule was reduced above a state. -/
def goto (q r : ℕ) : ℕ :=
  let lhs := t.r1.getD r 0 - t.ntokens
  ((t.entry (t.pgoto.getD lhs 0 + q) q).getD (t.defgoto.getD lhs 0)).toNat

end Tables

/-- A parser: its tables, the bound of its stack, the number and the value of a token, and the
actions of the rules. An action gets the values of the right side; without a result its behaviour is
not defined. -/
structure Parser (T V R : Type) where
  tables : Tables
  maxDepth : ℕ
  code : T → ℕ
  value : T → V
  reduce : ℕ → List V → R → Option (V × R)

/-- A state of a parser: its stack with the last entry first, the tokens that are not shifted, and
the result so far. -/
structure Config (T V R : Type) where
  stack : List (ℕ × V)
  rest : List T
  result : R

/-- How a parser ends. -/
inductive Outcome (R : Type) where
  | accept (result : R)
  | abort
  | exhausted
  | undefined
deriving DecidableEq, Repr

namespace Parser

variable {T V R : Type} (P : Parser T V R)

/-- The number of the next token; the end has 0. -/
def lookahead (rest : List T) : ℕ := (rest.head?.map P.code).getD 0

/-- The state on top of a stack. -/
def top (stack : List (ℕ × V)) : ℕ := (stack.head?.map Prod.fst).getD 0

/-- An entry is pushed, when there is room for one more. -/
def push (entry : ℕ × V) (c : Config T V R) : Config T V R ⊕ Outcome R :=
  if c.stack.length + 1 < P.maxDepth then .inl { c with stack := entry :: c.stack } else .inr .exhausted

/-- A step. There is no rule for errors, so that the first one is the end. -/
def step (c : Config T V R) : Config T V R ⊕ Outcome R :=
  match P.tables.action (top c.stack) (P.lookahead c.rest) with
  | .error => .inr .abort
  | .shift q =>
    -- the end of the input is shifted only into this state
    if q = P.tables.final then .inr (.accept c.result)
    else
      match c.rest with
      | [] => .inr .abort
      | x :: rest => P.push (q, P.value x) { c with rest }
  | .reduce r =>
    let n := P.tables.r2.getD r 0
    match P.reduce r ((c.stack.take n).map Prod.snd).reverse c.result with
    | none => .inr .undefined
    | some (v, result) =>
      let stack := c.stack.drop n
      P.push (P.tables.goto (top stack) r, v) { c with stack, result }

/-- The parser; `none` when there is no fuel left. -/
def run : ℕ → Config T V R → Option (Outcome R)
  | 0, _ => none
  | fuel + 1, c =>
    match P.step c with
    | .inl c => run fuel c
    | .inr out => some out

/-- The parser, from its first state on. A token is shifted once, and takes part in few reductions.
-/
def parse (v : V) (result : R) (input : List T) : Option (Outcome R) :=
  P.run (4 * input.length + 3) ⟨[(0, v)], input, result⟩

/-- The parser ends in a way. -/
def Ends (c : Config T V R) (out : Outcome R) : Prop := ∃ fuel, P.run fuel c = some out

/-- The parser comes from one state to another. -/
def Reaches : Config T V R → Config T V R → Prop := Relation.ReflTransGen fun c c' => P.step c = .inl c'

/-- The parser does a computation: it comes to a state for the value, or ends as the computation
fails. -/
def Does {A : Type} (c : Config T V R) (x : Except (Outcome R) A)
    (after : A → Config T V R) : Prop :=
  match x with
  | .ok a => P.Reaches c (after a)
  | .error out => P.Ends c out

/-- An action without a result. -/
def lift {A : Type} (o : Option A) : Except (Outcome R) A := o.elim (.error .undefined) .ok

/-- There is room for one more entry. -/
def room {A : Type} (n : ℕ) (a : A) : Except (Outcome R) A :=
  if n < P.maxDepth then .ok a else .error .exhausted

/-- The states through which tokens are shifted. -/
def Path : ℕ → List (T × ℕ) → Prop
  | _, [] => True
  | q, (y, q') :: path => P.tables.action q (P.code y) = .shift q' ∧ (q' : Int) ≠ P.tables.final ∧ Path q' path

/-- A computation does not accept. -/
def Quiet {A : Type} (x : Except (Outcome R) A) : Prop := ∀ r, x ≠ .error (.accept r)

section Run

variable {P} {c c' : Config T V R} {out out' : Outcome R} {fuel fuel' : ℕ}

lemma run_mono (le : fuel ≤ fuel') (ran : P.run fuel c = some out) : P.run fuel' c = some out := by
  -- the induction is on the smaller fuel; where it is left the other is left as well
  induction fuel generalizing fuel' c with
  | zero => cases ran
  | succ fuel ih =>
    obtain ⟨fuel', rfl⟩ :=
      Nat.exists_eq_add_of_le' (Nat.le_trans (Nat.succ_le_succ (Nat.zero_le fuel)) le)
    rw [run] at ran ⊢
    cases stepped : P.step c with
    | inl c' =>
      rw [stepped] at ran
      exact ih (Nat.le_of_succ_le_succ le) ran
    | inr out' =>
      rw [stepped] at ran
      exact ran

/-- A parser has one end. -/
lemma Ends.unique (ends : P.Ends c out) (ends' : P.Ends c out') : out = out' := by
  obtain ⟨fuel, ran⟩ := ends
  obtain ⟨fuel', ran'⟩ := ends'
  have both := run_mono (Nat.le_max_left fuel fuel') ran
  rw [run_mono (Nat.le_max_right fuel fuel') ran'] at both
  exact (Option.some.inj both).symm

lemma Ends.now (stepped : P.step c = .inr out) : P.Ends c out := by
  refine ⟨1, ?_⟩
  rw [run, stepped]

lemma Ends.next (stepped : P.step c = .inl c') (ends : P.Ends c' out) : P.Ends c out := by
  obtain ⟨fuel, ran⟩ := ends
  refine ⟨fuel + 1, ?_⟩
  rw [run, stepped]
  exact ran

/-- A parser ends as it does from a state that it comes to. -/
lemma Reaches.ends (reached : P.Reaches c c') (ends : P.Ends c' out) : P.Ends c out := by
  induction reached using Relation.ReflTransGen.head_induction_on with
  | refl => exact ends
  | head stepped _ ih => exact Ends.next stepped ih

lemma Reaches.next (stepped : P.step c = .inl c') : P.Reaches c c' := Relation.ReflTransGen.single stepped

lemma push_eq {e : ℕ × V} (pushed : P.push e c = .inl c') : c' =
    { c with stack := e :: c.stack } := by
  unfold push at pushed
  split at pushed
  · exact (Sum.inl.inj pushed).symm
  · cases pushed

section Does

variable {A B : Type} {x : Except (Outcome R) A} {f : A → Except (Outcome R) B}
  {after : A → Config T V R}
  {after' : B → Config T V R} {a : A}

lemma Does.ok (reached : P.Reaches c (after a)) : P.Does c (.ok a) after := reached

lemma Does.bind (first : P.Does c x after)
    (second : ∀ a, x = .ok a → P.Does (after a) (f a) after') :
    P.Does c (x >>= f) after' := by
  cases x with
  | error out => exact first
  | ok a =>
    have second := second a rfl
    show P.Does c (f a) after'
    cases result : f a with
    | error out =>
      rw [result] at second
      exact Reaches.ends first second
    | ok b =>
      rw [result] at second
      exact Relation.ReflTransGen.trans first second

/-- The parser goes on where a computation is done. -/
lemma Does.reach {after' : A → Config T V R} (first : P.Does c x after)
    (on : ∀ a, x = .ok a → P.Reaches (after a) (after' a)) : P.Does c x after' := by
  cases x with
  | error out => exact first
  | ok a => exact Relation.ReflTransGen.trans first (on a rfl)

lemma bind_ok {b : B} (done : x >>= f = .ok b) : ∃ a, x = .ok a ∧ f a = .ok b := by
  cases x with
  | error out => cases done
  | ok a => exact ⟨a, rfl, done⟩

lemma room_ok {n : ℕ} {b : A} (fits : P.room n a = .ok b) : n < P.maxDepth ∧ a = b := by
  unfold room at fits
  split at fits
  case isTrue less => exact ⟨less, Except.ok.inj fits⟩
  case isFalse => cases fits

lemma Quiet.bind (first : Quiet x) (second : ∀ a, Quiet (f a)) : Quiet (x >>= f) := by
  cases x with
  | error out => exact fun r same => first r (congrArg Except.error (Except.error.inj same))
  | ok a => exact second a

lemma Quiet.room {n : ℕ} : Quiet (P.room n a) := by
  intro r same
  unfold Parser.room at same
  split at same <;> cases same

lemma Quiet.lift {o : Option A} : Quiet (lift (R := R) o) := by
  intro r same
  cases o <;> cases same

lemma lift_ok {o : Option A} (lifted : lift (R := R) o = .ok a) : o = some a := by
  cases o with
  | none => cases lifted
  | some b =>
    cases lifted
    rfl

/-- A token is shifted. -/
lemma Does.shift {q : ℕ} {y : T} {rest : List T} {stack : List (ℕ × V)} {r : R}
    (acted : P.tables.action (top stack) (P.code y) = .shift q) (inner : (q : Int) ≠ P.tables.final) :
    P.Does ⟨stack, y :: rest, r⟩ (P.room (stack.length + 1) a)
      fun _ => ⟨(q, P.value y) :: stack, rest, r⟩ := by
  have stepped : P.step ⟨stack, y :: rest, r⟩ = P.push (q, P.value y) ⟨stack, rest, r⟩ := by
    have acted : P.tables.action (top stack) (P.lookahead (y :: rest)) = .shift q := acted
    rw [step, acted]
    dsimp only
    rw [if_neg inner]
  rw [push] at stepped
  rw [room]
  split at stepped
  case isTrue less =>
    rw [if_pos less]
    exact Reaches.next stepped
  case isFalse full =>
    rw [if_neg full]
    exact Ends.now stepped

/-- Several tokens are shifted. -/
lemma Does.shifts {path : List (T × ℕ)} {rest : List T} {stack : List (ℕ × V)} {r : R}
    (follows : P.Path (top stack) path) (some_token : path ≠ []) :
    P.Does ⟨stack, path.map Prod.fst ++ rest, r⟩ (P.room (stack.length + path.length) a)
      fun _ => ⟨(path.map fun e => (e.2, P.value e.1)).reverse ++ stack, rest, r⟩ := by
  induction path generalizing stack with
  | nil => exact absurd rfl some_token
  | cons e path ih =>
    obtain ⟨y, q⟩ := e
    obtain ⟨acted, inner, follows⟩ := follows
    have first : P.Does ⟨stack, y :: (path.map Prod.fst ++ rest), r⟩ (P.room (stack.length + 1) ()) _ :=
      Does.shift acted inner
    by_cases last : path = []
    · subst last
      exact Does.shift acted inner
    · have more := first.bind fun _ _ => ih follows last
      have long : stack.length + ((y, q) :: path).length = ((q, P.value y) :: stack).length + path.length := by
        rw [List.length_cons, List.length_cons]
        omega
      -- where there is no room for the first token there is none for all
      have room : (P.room (stack.length + 1) () >>= fun _ =>
          P.room (((q, P.value y) :: stack).length + path.length) a) =
          P.room (stack.length + ((y, q) :: path).length) a := by
        rw [long]
        by_cases fits : stack.length + 1 < P.maxDepth
        · rw [Parser.room, if_pos fits]
          rfl
        · have full : ¬((q, P.value y) :: stack).length + path.length < P.maxDepth := by
            rw [List.length_cons]
            omega
          rw [Parser.room, Parser.room, if_neg fits, if_neg full]
          rfl
      have stacked : (((y, q) :: path).map fun e => (e.2, P.value e.1)).reverse ++ stack =
          (path.map fun e => (e.2, P.value e.1)).reverse ++ (q, P.value y) :: stack := by
        rw [List.map_cons, List.reverse_cons, List.append_assoc]
        rfl
      rw [room] at more
      rw [stacked]
      exact more

section Reduce

variable {q : ℕ} {stack : List (ℕ × V)} {rest : List T} {r r' : R} {v : V} (rule : ℕ)
  (front : List (ℕ × V))

/-- A rule is reduced, where the stack does not become longer than it was. -/
lemma Reaches.reduce (acted : P.tables.action (top (front ++ stack)) (P.lookahead rest) = .reduce rule)
    (size : P.tables.r2.getD rule 0 = front.length)
    (performed : P.reduce rule (front.map Prod.snd).reverse r = some (v, r'))
    (state : P.tables.goto (top stack) rule = q) (fits : stack.length + 1 < P.maxDepth) :
    P.Reaches ⟨front ++ stack, rest, r⟩ ⟨(q, v) :: stack, rest, r'⟩ := by
  refine Reaches.next ?_
  rw [step, acted]
  dsimp only
  rw [size, List.take_left, performed]
  dsimp only
  rw [List.drop_left, state, push, if_pos fits]

/-- A rule is reduced whose action may fail. -/
lemma Does.reduce {o : Option A} {val : A → V}
    (acted : P.tables.action (top (front ++ stack)) (P.lookahead rest) = .reduce rule)
    (size : P.tables.r2.getD rule 0 = front.length)
    (performed : P.reduce rule (front.map Prod.snd).reverse r = o.map fun a => (val a, r))
    (state : P.tables.goto (top stack) rule = q) (fits : stack.length + 1 < P.maxDepth) :
    P.Does ⟨front ++ stack, rest, r⟩ (lift o) fun a => ⟨(q, val a) :: stack, rest, r⟩ := by
  cases o with
  | some a => exact Reaches.reduce rule front acted size performed state fits
  | none =>
    refine Ends.now ?_
    rw [step, acted]
    dsimp only
    rw [size, List.take_left, performed]
    rfl

/-- The tokens of a right side are shifted, and its rule is reduced. -/
lemma Does.phrase {path : List (T × ℕ)} {o : Option A} {val : A → V} (follows : P.Path (top stack) path)
    (some_token : path ≠ [])
    (acted : P.tables.action (top ((path.map fun e => (e.2, P.value e.1)).reverse ++ stack)) (P.lookahead rest) =
      .reduce rule)
    (size : P.tables.r2.getD rule 0 = path.length)
    (performed : P.reduce rule (path.map fun e => P.value e.1) r = o.map fun a => (val a, r))
    (state : P.tables.goto (top stack) rule = q) :
    P.Does ⟨stack, path.map Prod.fst ++ rest, r⟩
      (P.room (stack.length + path.length) () >>= fun _ => lift o)
      fun a => ⟨(q, val a) :: stack, rest, r⟩ := by
  refine Does.bind (Does.shifts follows some_token) fun _ room => ?_
  refine Does.reduce rule _ acted ?_ ?_ state ?_
  · rw [size, List.length_reverse, List.length_map]
  · rw [List.map_reverse, List.reverse_reverse, List.map_map]
    exact performed
  · have long := List.length_pos_iff.2 some_token
    exact Nat.lt_of_le_of_lt (by omega) (room_ok room).1

end Reduce

end Does

/-- What a step that is not the last one does. -/
lemma step_cases (stepped : P.step c = .inl c') :
    (∃ q x, P.tables.action (top c.stack) (P.lookahead c.rest) = .shift q ∧ (q : Int) ≠ P.tables.final ∧
      c.rest = x :: c'.rest ∧ c'.stack = (q, P.value x) :: c.stack) ∨
    ∃ r v, P.tables.action (top c.stack) (P.lookahead c.rest) = .reduce r ∧ c'.rest = c.rest ∧
      c'.stack = (P.tables.goto (top (c.stack.drop (P.tables.r2.getD r 0))) r, v) ::
        c.stack.drop (P.tables.r2.getD r 0) := by
  rw [step] at stepped
  split at stepped
  case h_1 => cases stepped
  case h_2 q acted =>
    split at stepped
    case isTrue => cases stepped
    case isFalse inner =>
      split at stepped
      case h_1 => cases stepped
      case h_2 x rest here =>
        obtain rfl := push_eq stepped
        exact .inl ⟨q, x, acted, inner, here, rfl⟩
  case h_3 r acted =>
    dsimp only at stepped
    split at stepped
    case h_1 => cases stepped
    case h_2 v result _ =>
      obtain rfl := push_eq stepped
      exact .inr ⟨r, v, acted, rfl, rfl⟩

/-- The last step of a parser that accepts shifts the end. -/
lemma step_accept {result : R} (stepped : P.step c = .inr (.accept result)) :
    result = c.result ∧
      ∃ q, P.tables.action (top c.stack) (P.lookahead c.rest) = .shift q ∧ (q : Int) = P.tables.final := by
  rw [step] at stepped
  split at stepped
  case h_1 => cases stepped
  case h_2 q acted =>
    split at stepped
    case isTrue final =>
      cases stepped
      exact ⟨rfl, q, acted, final⟩
    case isFalse =>
      split at stepped
      case h_1 => cases stepped
      case h_2 =>
        unfold push at stepped
        split at stepped <;> cases stepped
  case h_3 r acted =>
    dsimp only at stepped
    split at stepped
    case h_1 => cases stepped
    case h_2 =>
      unfold push at stepped
      split at stepped <;> cases stepped

end Run

end Parser

/-! ### Checked tables -/

/-- A check of the tables: the symbol of each state and the states below it, and the right sides of
the rules. Symbols are counted as the tables count them, tokens first; a symbol has a weight. -/
structure Certificate where
  states : ℕ
  start : ℕ
  stos : List ℕ
  pred : List (List ℕ)
  rhs : List (List ℕ)
  weight : List ℕ

namespace Certificate

variable (k : Certificate) (t : Tables)

/-- All ways down from a state have symbols on them, and lead to states with a property. -/
def walk (ok : ℕ → Bool) : List ℕ → ℕ → Bool
  | [], q => ok q
  | x :: xs, q => q != 0 && k.stos.getD q 0 == x && (k.pred.getD q []).all fun p => walk ok xs p

/-- The weight of symbols. -/
def load (xs : List ℕ) : ℕ := (xs.map fun x => k.weight.getD x 0).sum

/-- A state that is on the stack; the last state of a parser that accepts is not. -/
def live (q : ℕ) : Bool := decide (q < k.states) && decide ((q : Int) ≠ t.final)

/-- What a state does is right: a token that is shifted has its state, and a rule is reduced only
above its right side. -/
def fits (q : ℕ) (a : ℕ) : Act → Bool
  | .error => true
  | .shift q' =>
    if q' = t.final then a == 0 && k.walk (· == 0) [k.start] q
    else a != 0 && k.live t q' && k.stos.getD q' 0 == a && (k.pred.getD q' []).contains q
  | .reduce r =>
    let rhs := k.rhs.getD r []
    let lhs := t.r1.getD r 0
    t.r2.getD r 0 == rhs.length && k.walk (fun p =>
      let q' := t.goto p r
      k.live t q' && k.stos.getD q' 0 == lhs && (k.pred.getD q' []).contains p) rhs.reverse q &&
    if rhs = [] then q == 0 && decide (k.weight.getD lhs 0 < 2) else decide (k.weight.getD lhs 0 < k.load rhs)

/-- The tables are checked. Nothing is below the first state, a token has a weight below 4, and no
state shifts the token for errors. -/
structure Checks : Prop where
  start : k.live t 0 = true
  ends : 0 < t.ntokens
  bottom : k.pred.getD 0 [] = []
  tokens : ∀ a < t.ntokens, k.weight.getD a 0 < 4
  actions : ∀ q < k.states, k.live t q = true → ∀ a < t.ntokens, k.fits t q a (t.action q a) = true
  recovery : ∀ q < k.states, t.pact.getD q 0 = t.pactNinf ∨ t.entry (t.pact.getD q 0 + 1) 1 = none

/-- Symbols yield tokens. -/
inductive Yields {T : Type} (code : T → ℕ) : List ℕ → List T → Prop
  | nil : Yields code [] []
  | token (x : T) {xs : List ℕ} {w : List T} (rest : Yields code xs w) : Yields code (code x :: xs) (x :: w)
  | rule (r : ℕ) {xs : List ℕ} {u w : List T} (side : Yields code (k.rhs.getD r []) u)
      (rest : Yields code xs w) : Yields code (t.r1.getD r 0 :: xs) (u ++ w)

/-- The symbols of a stack yield tokens. -/
inductive Spells {T V : Type} (code : T → ℕ) : List (ℕ × V) → List T → Prop
  | bottom (v : V) : Spells code [(0, v)] []
  | push {q p : ℕ} {v v' : V} {s : List (ℕ × V)} {w u : List T} (below : Spells code ((p, v) :: s) w)
      (state : k.live t q = true) (pred : p ∈ k.pred.getD q []) (part : Yields k t code [k.stos.getD q 0] u) :
      Spells code ((q, v') :: (p, v) :: s) (w ++ u)

/-- The weight of a stack. -/
def weigh {V : Type} : List (ℕ × V) → ℕ
  | [] | [_] => 0
  | e :: s => k.weight.getD (k.stos.getD e.1 0) 0 + weigh s

/-- What is left to do. -/
def measure {T V R : Type} (c : Config T V R) : ℕ :=
  4 * c.rest.length + k.weigh c.stack + if c.stack.length = 1 then 2 else 0

section Soundness

variable {k t} {T V R : Type} {P : Parser T V R} {code : T → ℕ} {xs ys : List ℕ} {u w : List T}
  {s : List (ℕ × V)} {c c' : Config T V R} {ok : ℕ → Bool}

lemma Yields.append (left : Yields k t code xs u) (right : Yields k t code ys w) :
    Yields k t code (xs ++ ys) (u ++ w) := by
  induction left with
  | nil => exact right
  | token x _ ih => exact Yields.token x ih
  | rule r side _ _ ih =>
    rw [List.append_assoc]
    exact Yields.rule r side ih

/-- What holds of the parts of a right side holds of the left side; then symbols yield such parts.
-/
theorem Yields.parts {holds : ℕ → List T → Prop} (token : ∀ x, holds (code x) [x])
    (rule : ∀ r us, List.Forall₂ holds (k.rhs.getD r []) us → holds (t.r1.getD r 0) us.flatten)
    (yields : Yields k t code xs w) : ∃ us, List.Forall₂ holds xs us ∧ us.flatten = w := by
  induction yields with
  | nil => exact ⟨[], .nil, rfl⟩
  | token x _ ih =>
    obtain ⟨us, all, rfl⟩ := ih
    exact ⟨[x] :: us, .cons (token x) all, rfl⟩
  | rule r _ _ ih ih' =>
    obtain ⟨us, all, rfl⟩ := ih
    obtain ⟨us', all', rfl⟩ := ih'
    exact ⟨us.flatten :: us', .cons (rule r us all) all', rfl⟩

lemma Spells.ne_nil (spells : Spells k t code s w) : s ≠ [] := by
  cases spells with
  | bottom => exact List.cons_ne_nil _ _
  | push => exact List.cons_ne_nil _ _

/-- The symbols that all ways down have are those of the stack. -/
lemma Spells.pop (spells : Spells k t code s w) (walked : k.walk ok xs (Parser.top s) = true) :
    ∃ w' u, Spells k t code (s.drop xs.length) w' ∧ Yields k t code xs.reverse u ∧ w = w' ++ u ∧
      ok (Parser.top (s.drop xs.length)) = true ∧ k.weigh s = k.weigh (s.drop xs.length) + k.load xs := by
  induction xs generalizing s w with
  | nil => exact ⟨w, [], spells, .nil, (List.append_nil w).symm, walked, rfl⟩
  | cons x xs ih =>
    rw [walk, Bool.and_eq_true, Bool.and_eq_true] at walked
    obtain ⟨⟨some_state, symbol⟩, ways⟩ := walked
    -- a way down does not go below the bottom
    cases spells with
    | bottom => cases some_state
    | @push q p v v' s w u below state pred part =>
      have symbol : k.stos.getD q 0 = x := eq_of_beq symbol
      obtain ⟨w', u', rest, yields, rfl, done, weight⟩ := ih below (List.all_eq_true.1 ways p pred)
      refine ⟨w', u' ++ u, rest, ?_, List.append_assoc _ _ _, done, ?_⟩
      · rw [List.reverse_cons]
        exact yields.append (symbol ▸ part)
      · show k.weight.getD (k.stos.getD q 0) 0 + k.weigh ((p, v) :: s) = _
        rw [weight, symbol, load, load, List.map_cons, List.sum_cons]
        exact Nat.add_left_comm _ _ _

lemma Spells.bottom_of (bottom : k.pred.getD 0 [] = []) (spells : Spells k t code s w)
    (top : Parser.top s = 0) : w = [] ∧ s.length = 1 := by
  cases spells with
  | bottom => exact ⟨rfl, rfl⟩
  | push below state pred part =>
    obtain rfl : _ = 0 := top
    rw [bottom] at pred
    exact absurd pred List.not_mem_nil

lemma Spells.live (checks : k.Checks t) (spells : Spells k t code s w) : k.live t
    (Parser.top s) = true := by
  cases spells with
  | bottom => exact checks.start
  | push below state pred part => exact state

lemma load_reverse : k.load xs.reverse = k.load xs := by
  rw [load, load, List.map_reverse, List.sum_reverse]

/-- The numbers of the tokens are those of the tables, and none is that of the end. -/
def Coded (P : Parser T V R) : Prop := ∀ x, P.code x ≠ 0 ∧ P.code x < P.tables.ntokens

lemma Checks.action (checks : k.Checks t) {q a : ℕ} (live : k.live t q = true)
    (token : a < t.ntokens) :
    k.fits t q a (t.action q a) = true :=
  checks.actions q (of_decide_eq_true (Bool.and_eq_true_iff.1 live).1) live a token

lemma lookahead_lt (checks : k.Checks P.tables) (coded : Coded P) (rest : List T) :
    P.lookahead rest < P.tables.ntokens := by
  cases rest with
  | nil => exact checks.ends
  | cons x rest => exact (coded x).2

lemma lookahead_zero (coded : Coded P) {rest : List T} (zero : P.lookahead rest = 0) : rest =
    [] := by
  cases rest with
  | nil => rfl
  | cons x rest => exact absurd zero (coded x).1

/-- A step takes tokens over to the stack, and brings the parser nearer to its end. -/
theorem step_spells (checks : k.Checks P.tables) (coded : Coded P)
    (spells : Spells k P.tables P.code c.stack w) (stepped : P.step c = .inl c') :
    ∃ w', Spells k P.tables P.code c'.stack w' ∧ w' ++ c'.rest = w ++ c.rest ∧ k.measure c' < k.measure c := by
  have right := checks.action (spells.live checks) (lookahead_lt checks coded c.rest)
  obtain ⟨q, x, acted, inner, here, stack⟩ | ⟨r, v, acted, rest, stack⟩ := Parser.step_cases stepped
  -- a token weighs less on the stack than in the rest
  · rw [acted, fits, if_neg inner, Bool.and_eq_true, Bool.and_eq_true, Bool.and_eq_true] at right
    obtain ⟨⟨⟨-, state⟩, symbol⟩, pred⟩ := right
    have symbol : k.stos.getD q 0 = P.code x := by
      rw [eq_of_beq symbol, here]
      rfl
    have part : Yields k P.tables P.code [k.stos.getD q 0] [x] := by
      rw [symbol]
      exact .token x .nil
    refine ⟨w ++ [x], ?_, ?_, ?_⟩
    · rw [stack]
      cases there : c.stack with
      | nil => exact absurd there spells.ne_nil
      | cons e s =>
        rw [there] at spells pred
        exact .push spells state (List.contains_iff_mem.1 pred) part
    · rw [here, List.append_assoc]
      rfl
    · have light := checks.tokens _ (coded x).2
      have bonus : (if c'.stack.length = 1 then 2 else 0) = 0 := by
        rw [stack]
        cases there : c.stack with
        | nil => exact absurd there spells.ne_nil
        | cons e s => rfl
      have weight : k.weigh c'.stack = k.weight.getD (P.code x) 0 + k.weigh c.stack := by
        rw [stack, ← symbol]
        cases there : c.stack with
        | nil => exact absurd there spells.ne_nil
        | cons e s => rfl
      rw [measure, measure, bonus, weight, here, List.length_cons]
      omega
  -- a left side weighs less than its right side; only the bottom gets something without one
  · rw [acted, fits, Bool.and_eq_true, Bool.and_eq_true] at right
    obtain ⟨⟨size, walked⟩, weight⟩ := right
    have size := eq_of_beq size
    obtain ⟨w', u, below, side, rfl, after, load⟩ := spells.pop walked
    rw [List.length_reverse] at below after load
    rw [List.reverse_reverse] at side
    dsimp only at after
    rw [Bool.and_eq_true, Bool.and_eq_true] at after
    obtain ⟨⟨state, symbol⟩, pred⟩ := after
    have symbol := eq_of_beq symbol
    rw [size] at stack
    have part : Yields k P.tables P.code [k.stos.getD (P.tables.goto (Parser.top
        (c.stack.drop (k.rhs.getD r []).length)) r) 0] u := by
      rw [symbol, ← List.append_nil u]
      exact .rule r side .nil
    refine ⟨w' ++ u, ?_, by rw [rest], ?_⟩
    · rw [stack]
      cases there : c.stack.drop (k.rhs.getD r []).length with
      | nil => exact absurd there below.ne_nil
      | cons e s =>
        rw [there] at below state pred part
        exact .push below state (List.contains_iff_mem.1 pred) part
    · have bonus : (if c'.stack.length = 1 then 2 else 0) = 0 := by
        rw [stack]
        cases there : c.stack.drop (k.rhs.getD r []).length with
        | nil => exact absurd there below.ne_nil
        | cons e s => rfl
      have new : k.weigh c'.stack = k.weight.getD (P.tables.r1.getD r 0) 0 +
          k.weigh (c.stack.drop (k.rhs.getD r []).length) := by
        rw [stack, ← symbol]
        cases there : c.stack.drop (k.rhs.getD r []).length with
        | nil => exact absurd there below.ne_nil
        | cons e s => rfl
      rw [measure, measure, bonus, new, rest, load, load_reverse]
      split at weight
      case isTrue empty =>
        obtain ⟨bottom, light⟩ := Bool.and_eq_true_iff.1 weight
        obtain ⟨-, single⟩ := spells.bottom_of checks.bottom (eq_of_beq bottom)
        have light := of_decide_eq_true light
        rw [if_pos single]
        omega
      case isFalse =>
        have light := of_decide_eq_true weight
        omega

/-- A parser whose tables are checked ends. -/
theorem total (checks : k.Checks P.tables) (coded : Coded P) (v : V) (result : R) (input : List T) :
    ∃ out, P.parse v result input = some out := by
  suffices ∀ n (c : Config T V R) w, Spells k P.tables P.code c.stack w → k.measure c < n →
      ∃ out, P.run n c = some out from
    this _ _ [] (.bottom v) (Nat.lt_succ_self (4 * input.length + 2))
  -- the measure bounds the number of steps
  intro n
  induction n with
  | zero =>
    intro c w spells small
    exact absurd small (Nat.not_lt_zero _)
  | succ n ih =>
    intro c w spells small
    rw [Parser.run]
    cases stepped : P.step c with
    | inl c' =>
      obtain ⟨w', spells', -, less⟩ := step_spells checks coded spells stepped
      exact ih c' w' spells' (by omega)
    | inr out => exact ⟨out, rfl⟩

/-- What a parser ends with is what it answers. -/
theorem parse_of_ends (checks : k.Checks P.tables) (coded : Coded P) {v : V} {result : R}
    {input : List T}
    {out : Outcome R} (ends : P.Ends ⟨[(0, v)], input, result⟩ out) : P.parse v result input = some out := by
  obtain ⟨out', parsed⟩ := total checks coded v result input
  rw [parsed, ends.unique ⟨_, parsed⟩]

/-- What is accepted is derived from the start symbol. -/
theorem accepted (checks : k.Checks P.tables) (coded : Coded P) {v : V} {result result' : R}
    {input : List T}
    (parsed : P.parse v result input = some (.accept result')) :
    Yields k P.tables P.code [k.start] input := by
  suffices ∀ fuel (c : Config T V R) w, Spells k P.tables P.code c.stack w →
      P.run fuel c = some (.accept result') → Yields k P.tables P.code [k.start] (w ++ c.rest) from
    this _ _ [] (.bottom v) parsed
  intro fuel
  induction fuel with
  | zero =>
    intro c w spells ran
    cases ran
  | succ fuel ih =>
    intro c w spells ran
    rw [Parser.run] at ran
    cases stepped : P.step c with
    | inl c' =>
      rw [stepped] at ran
      obtain ⟨w', spells', same, -⟩ := step_spells checks coded spells stepped
      rw [← same]
      exact ih c' w' spells' ran
    | inr out =>
      rw [stepped] at ran
      obtain rfl : out = .accept result' := Option.some.inj ran
      obtain ⟨-, q, acted, final⟩ := Parser.step_accept stepped
      have right := checks.action (spells.live checks) (lookahead_lt checks coded c.rest)
      rw [acted, fits, if_pos final] at right
      obtain ⟨ended, walked⟩ := Bool.and_eq_true_iff.1 right
      obtain ⟨w', u, below, side, rfl, bottom, -⟩ := spells.pop walked
      -- nothing but the bottom is below the start symbol
      obtain ⟨rfl, -⟩ := below.bottom_of checks.bottom (eq_of_beq bottom)
      rw [lookahead_zero coded (eq_of_beq ended), List.append_nil]
      exact side

end Soundness

end Certificate

end GridWay.Lalr
