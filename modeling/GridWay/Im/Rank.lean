import GridWay.Im.Attributes
import GridWay.Im.Layout
import GridWay.Lib.Lalr

/-!
# Rank expressions

`gw_host_rank_syntax.y`, with the tables of `gw_host_rank_syntax.c`, and `gw_host_compute_rank`: the
rank of a queue of a host is the value of an expression over the variables of the host.

* `Host.gw_host_compute_rank`: the call.
* `Expr`, `Reads`: expressions, and how the tokens of one are read.
* `Expr.value`: the value of an expression.
* `Rank.does_expr`: the parser computes the expression that it reads.
* `rank_evaluated`: the rank is the value of what is laid out, for every text.
-/

namespace GridWay.Im

open GridWay.Lalr

namespace Rank

/-- The tables. -/
def tables : Tables where
  ntokens := 14
  last := 38
  final := 11
  pactNinf := -5
  tableNinf := -1
  r1 := [0, 14, 15, 15, 15, 15, 16, 16, 16, 16, 16, 16, 16, 16, 16]
  r2 := [0, 2, 1, 2, 0, 1, 1, 1, 1, 3, 3, 3, 3, 2, 3]
  defact := [4, 0, 6, 7, 8, 5, 0, 0, 2, 13, 0, 1, 0, 0, 0, 0, 3, 14, 9, 10, 11, 12]
  defgoto := [-1, 7, 8]
  pact := [11, 17, -5, -5, -5, -5, 17, 4, 27, -4, 3, -5, 17, 17, 17, 17, -5, -5, -4, -4, -5, -5]
  pgoto := [-5, -5, -1]
  table := [9, 14, 15, 0, 11, 10, 12, 13, 14, 15, 0, 18, 19, 20, 21, 1, 17, 0, 2, 3, 4, 1, 5, 6, 2, 3, 4, 0,
    0, 6, 12, 13, 14, 15, 0, 0, 0, 0, 16]
  check := [1, 5, 6, -1, 0, 6, 3, 4, 5, 6, -1, 12, 13, 14, 15, 4, 13, -1, 7, 8, 9, 4, 11, 12, 7, 8, 9, -1,
    -1, 12, 3, 4, 5, 6, -1, -1, -1, -1, 11]

/-- `yytranslate` for a character; 2 is the number of all that the grammar does not have. -/
def symbol : Char → ℕ
  | '+' => 3
  | '-' => 4
  | '*' => 5
  | '/' => 6
  | ';' => 11
  | '(' => 12
  | ')' => 13
  | _ => 2

/-- The number of a token. -/
def translate : Token → ℕ
  | .var _ => 7
  | .generic _ => 8
  | .int _ => 9
  | .str _ => 10
  | .sym c => symbol c

/-- A value on the stack: a token, a number, or none. -/
inductive Val where
  | none
  | token (t : Token)
  | int (n : Int)
deriving DecidableEq, Repr

/-- A number of 32 bits; an overflow has no result. -/
def int32 (n : Int) : Option Int := if -2 ^ 31 ≤ n ∧ n < 2 ^ 31 then some n else .none

/-- A division. By 0 it has no result. -/
def divide (a b : Int) : Option Int := if b = 0 then .none else int32 (a.tdiv b)

/-- The value of a variable. -/
def getVarInt (host : Host) (queue : Int) (v : Var) : Option Int :=
  match host.get_var true v queue with
  | some (.int n) => some n
  | _ => .none

/-- The actions of the rules. `*result` is not set before a statement is read. -/
def reduce (host : Host) (queue : Int) (rule : ℕ) (args : List Val) (result : Option Int) :
    Option (Val × Option Int) :=
  match rule, args with
  | 2, [.int n] => some (.none, some n)
  | 3, [.int n, .token _] => some (.none, some n)
  | 4, [] => some (.none, some host.fixedPriority)
  | 5, [.token _] => some (.none, some host.fixedPriority)
  | 6, [.token (.var v)] => (getVarInt host queue v).map fun n => (.int n, result)
  | 7, [.token (.generic name)] => some (.int (Host.get_genvar host.genvarInt 0 name queue), result)
  | 8, [.token (.int n)] => some (.int n, result)
  | 9, [.int a, .token _, .int b] => (int32 (a + b)).map fun n => (.int n, result)
  | 10, [.int a, .token _, .int b] => (int32 (a - b)).map fun n => (.int n, result)
  | 11, [.int a, .token _, .int b] => (int32 (a * b)).map fun n => (.int n, result)
  | 12, [.int a, .token _, .int b] => (divide a b).map fun n => (.int n, result)
  | 13, [.token _, .int a] => (int32 (-a)).map fun n => (.int n, result)
  | 14, [.token _, .int a, .token _] => some (.int a, result)
  | _, _ => .none

/-- `host_rank_parse`, with `YYMAXDEPTH`. -/
def parser (host : Host) (queue : Int) : Parser Token Val (Option Int) where
  tables := tables
  maxDepth := 10000
  code := translate
  value := .token
  reduce := reduce host queue

/-- The rank after the parser has ended: 0 when it did not accept. -/
def answer : Lalr.Outcome (Option Int) → Option Int
  | .accept result => result
  | .abort | .exhausted => some 0
  | .undefined => .none

end Rank

/-- `gw_host_compute_rank`: 0 when there is no host or no expression, and after a syntax error. -/
def gw_host_compute_rank (host : Option Host) (queue : Int)
    (rank : Option (List Char)) : Option Int :=
  match host, rank with
  | some host, some rank => ((Rank.parser host queue).parse .none .none (scan rank)).bind Rank.answer
  | _, _ => some 0

namespace Rank

/-- The symbols of the states and the rules. -/
def certificate : Certificate where
  states := 22
  start := 15
  stos := [0, 4, 7, 8, 9, 11, 12, 15, 16, 16, 16, 0, 3, 4, 5, 6, 11, 13, 16, 16, 16, 16]
  pred :=
    let operand := [0, 1, 6, 12, 13, 14, 15]
    let sum := [8, 10]
    let product := [8, 9, 10, 18, 19]
    [[], operand, operand, operand, operand, [0], operand, [0], [0], [1], [6], [7], sum, sum, product, product,
      [8], [10], [12], [13], [14], [15]]
  rhs := [[], [15, 0], [16], [16, 11], [], [11], [7], [8], [9], [16, 3, 16], [16, 4, 16], [16, 5, 16],
    [16, 6, 16], [4, 16], [12, 16, 13]]
  weight := [0, 0, 0, 3, 3, 3, 3, 3, 3, 3, 3, 3, 3, 3, 0, 1, 2]

lemma checked : certificate.Checks tables where
  start := by decide
  ends := by decide
  bottom := rfl
  tokens := by decide
  actions := by decide
  recovery := by decide

/-- An operator between two expressions. -/
inductive Op where
  | add | sub | mul | div
deriving DecidableEq, Repr

namespace Op

/-- The operator as it is written. -/
def char : Op → Char
  | add => '+'
  | sub => '-'
  | mul => '*'
  | div => '/'

/-- The operators that bind tighter. -/
def tight : Op → Bool
  | add | sub => false
  | mul | div => true

/-- The value of an operator. -/
def apply : Op → Int → Int → Option Int
  | add, a, b => int32 (a + b)
  | sub, a, b => int32 (a - b)
  | mul, a, b => int32 (a * b)
  | div, a, b => divide a b

end Op

/-- An expression, with its parentheses. -/
inductive Expr where
  | int (n : Int)
  | var (v : Var)
  | generic (name : String)
  | paren (e : Expr)
  | neg (e : Expr)
  | bin (op : Op) (l r : Expr)
deriving DecidableEq, Repr

namespace Expr

/-- The tokens of an expression. -/
def tokens : Expr → List Token
  | int n => [.int n]
  | var v => [.var v]
  | generic name => [.generic name]
  | paren e => .sym '(' :: (e.tokens ++ [.sym ')'])
  | neg e => .sym '-' :: e.tokens
  | bin op l r => l.tokens ++ .sym op.char :: r.tokens

/-- The value of an expression for a queue of a host. It is not defined after a division by 0 or an
overflow. -/
def value (host : Host) (queue : Int) : Expr → Option Int
  | int n => some n
  | var v => getVarInt host queue v
  | generic name => some (Host.get_genvar host.genvarInt 0 name queue)
  | paren e => e.value host queue
  | neg e => (e.value host queue).bind fun a => int32 (-a)
  | bin op l r => (l.value host queue).bind fun a => (r.value host queue).bind (op.apply a)

/-- The entries of the stack that an expression needs. -/
def depth : Expr → ℕ
  | int _ | var _ | generic _ => 1
  | paren e => max (e.depth + 1) 3
  | neg e => e.depth + 1
  | bin _ l r => max l.depth (r.depth + 2)

end Expr

/-- How far the reading of an expression has come: a number, a variable or parentheses; a product
that ends with one of these; a product that may end with a negative product; a sum. -/
inductive Level where
  | atom | closed | product | sum
deriving DecidableEq, Repr

/-- An expression is read from its tokens: `*` and `/` bind tighter than `+` and `-` and than the
sign of a negative expression, and operators are left-associative. -/
inductive Reads : Level → Expr → Prop
  | int (n : Int) : Reads .atom (.int n)
  | var (v : Var) : Reads .atom (.var v)
  | generic (name : String) : Reads .atom (.generic name)
  | paren {e : Expr} : Reads .sum e → Reads .atom (.paren e)
  | closed {e : Expr} : Reads .atom e → Reads .closed e
  | tight {op : Op} {l r : Expr} : op.tight = true → Reads .closed l → Reads .atom r →
      Reads .closed (.bin op l r)
  | product {e : Expr} : Reads .closed e → Reads .product e
  | neg {e : Expr} : Reads .product e → Reads .product (.neg e)
  | tightNeg {op : Op} {l r : Expr} : op.tight = true → Reads .closed l → Reads .product r →
      Reads .product (.bin op l (.neg r))
  | sum {e : Expr} : Reads .product e → Reads .sum e
  | loose {op : Op} {l r : Expr} : op.tight = false → Reads .sum l → Reads .product r →
      Reads .sum (.bin op l r)

section Join

variable {op : Op} {x y z : Expr} {lvl : Level}

/-- Two expressions with an operator between them are an expression. -/
def Joined (lvl : Level) (op : Op) (x y : Expr) : Prop :=
  ∃ z, Reads lvl z ∧ z.tokens = x.tokens ++ .sym op.char :: y.tokens

/-- A product with something tight after it, when it ends with an atom. -/
lemma joined_closed (tight : op.tight = true) (left : Reads .closed x) (right : Reads lvl y) :
    match lvl with
    | .atom | .closed => Joined .closed op x y
    | .product => Joined .product op x y
    | .sum => Joined .sum op x y := by
  -- the left side goes to the first atom of the right side
  induction right with
  | int n => exact ⟨_, .tight tight left (.int n), rfl⟩
  | var v => exact ⟨_, .tight tight left (.var v), rfl⟩
  | generic name => exact ⟨_, .tight tight left (.generic name), rfl⟩
  | paren inner => exact ⟨_, .tight tight left (.paren inner), rfl⟩
  | closed _ ih => exact ih
  | product _ ih =>
    obtain ⟨z, reads, eq⟩ := ih
    exact ⟨z, .product reads, eq⟩
  | sum _ ih =>
    obtain ⟨z, reads, eq⟩ := ih
    exact ⟨z, .sum reads, eq⟩
  | neg inner _ => exact ⟨_, .tightNeg tight left inner, rfl⟩
  | @tight op' l r tight' _ right ih =>
    obtain ⟨z, reads, eq⟩ := ih
    refine ⟨.bin op' z r, .tight tight' reads right, ?_⟩
    simp only [Expr.tokens, eq, List.append_assoc, List.cons_append]
  | @tightNeg op' l r tight' _ right ih =>
    obtain ⟨z, reads, eq⟩ := ih
    refine ⟨.bin op' z (.neg r), .tightNeg tight' reads right, ?_⟩
    simp only [Expr.tokens, eq, List.append_assoc, List.cons_append]
  | @loose op' l r loose' _ right ih =>
    obtain ⟨z, reads, eq⟩ := ih
    refine ⟨.bin op' z r, .loose loose' reads right, ?_⟩
    simp only [Expr.tokens, eq, List.append_assoc, List.cons_append]

/-- A sum is a product, or a sum and a product. -/
lemma Reads.sum_cases {motive : Expr → Prop} (product : ∀ e, Reads .product e → motive e)
    (loose : ∀ op l r, op.tight = false → Reads .sum l → Reads .product r → motive l → motive (.bin op l r))
    (reads : Reads .sum x) : motive x := by
  -- the level is a variable for the induction, and only two rules end at a sum
  generalize level : Level.sum = lvl at reads
  induction reads with
  | sum inner _ => exact product _ inner
  | loose mild left right ih _ => exact loose _ _ _ mild left right (ih rfl)
  | int | var | generic | paren | closed | tight | product | neg | tightNeg => cases level

lemma joined_loose (loose : op.tight = false) (left : Reads .sum x) (right : Reads .sum y) :
    Joined .sum op x y := by
  refine right.sum_cases (fun e product => ⟨_, .loose loose left product, rfl⟩) ?_
  intro op' l r mild _ product ih
  obtain ⟨z, reads, eq⟩ := ih
  refine ⟨.bin op' z r, .loose mild reads product, ?_⟩
  simp only [Expr.tokens, eq, List.append_assoc, List.cons_append]

/-- A sign before a sum is read with its first product. -/
lemma negated (reads : Reads .sum x) : ∃ z, Reads .sum z ∧ z.tokens = .sym '-' :: x.tokens := by
  refine reads.sum_cases (motive := fun x => ∃ z, Reads .sum z ∧ z.tokens = .sym '-' :: x.tokens)
    (fun e product => ⟨.neg e, .sum (.neg product), rfl⟩) ?_
  intro op l r mild _ product ih
  obtain ⟨z, reads, eq⟩ := ih
  refine ⟨.bin op z r, .loose mild reads product, ?_⟩
  simp only [Expr.tokens, eq, List.cons_append]

lemma joined_tight (tight : op.tight = true) (left : Reads lvl x) (right : Reads .sum y) :
    Joined .sum op x y := by
  -- only the last product of the left side goes on
  induction left with
  | int n => exact joined_closed tight (.closed (.int n)) right
  | var v => exact joined_closed tight (.closed (.var v)) right
  | generic name => exact joined_closed tight (.closed (.generic name)) right
  | paren inner => exact joined_closed tight (.closed (.paren inner)) right
  | closed _ ih => exact ih
  | product _ ih => exact ih
  | sum _ ih => exact ih
  | tight tight' l r => exact joined_closed tight (.tight tight' l r) right
  | neg _ ih =>
    obtain ⟨z, reads, eq⟩ := ih
    obtain ⟨z', reads', eq'⟩ := negated reads
    exact ⟨z', reads', by rw [eq', eq]; rfl⟩
  | @tightNeg op' l r tight' closed _ _ ih =>
    obtain ⟨z, reads, eq⟩ := ih
    obtain ⟨z', reads', eq'⟩ := negated reads
    obtain ⟨z'', reads'', eq''⟩ : Joined .sum op' l z' := joined_closed tight' closed reads'
    refine ⟨z'', reads'', ?_⟩
    rw [eq'', eq', eq]
    simp only [Expr.tokens, List.append_assoc, List.cons_append]
  | @loose op' l r mild sum _ _ ih =>
    obtain ⟨z, reads, eq⟩ := ih
    obtain ⟨z', reads', eq'⟩ := joined_loose mild sum reads
    refine ⟨z', reads', ?_⟩
    rw [eq', eq]
    simp only [Expr.tokens, List.append_assoc, List.cons_append]

/-- Expressions with an operator between them are an expression, in another reading. -/
lemma joined (op : Op) (left : Reads .sum x) (right : Reads .sum y) : Joined .sum op x y := by
  cases kind : op.tight with
  | true => exact joined_tight kind left right
  | false => exact joined_loose kind left right

end Join

section Accepted

variable {op : Op} {x y : Expr} {us : List (List Token)} {u : List Token}

/-- The tokens of a statement: nothing or an expression, with a semicolon or none. -/
def Statement (ts : List Token) : Prop :=
  ∃ semicolon, (semicolon = [] ∨ semicolon = [.sym ';']) ∧
    (ts = semicolon ∨ ∃ e, Reads .sum e ∧ ts = e.tokens ++ semicolon)

/-- What the tokens of a symbol are. -/
def Holds (a : ℕ) (u : List Token) : Prop :=
  if a = 16 then ∃ e, Reads .sum e ∧ u = e.tokens
  else if a = 15 then Statement u
  else 0 < a ∧ a < 14 → ∃ x, translate x = a ∧ u = [x]

lemma symbol_mem (c : Char) : symbol c ∈ [2, 3, 4, 5, 6, 11, 12, 13] := by
  unfold symbol
  split <;> decide

lemma symbol_inj {c d : Char} (same : symbol c = symbol d) (known : symbol d ≠ 2) : c = d := by
  revert same known
  unfold symbol
  split <;> split <;> intro same known <;> first | rfl | exact absurd rfl known | cases same

lemma translate_sym {x : Token} {c : Char} (same : translate x = symbol c) (known : symbol c ≠ 2) :
    x = .sym c := by
  cases x with
  | sym d => rw [symbol_inj same known]
  | var | generic | int | str =>
    have mem := symbol_mem c
    rw [← same] at mem
    revert mem
    simp [translate]

/-- The numbers of the tokens are those of the tables. -/
lemma coded (host : Host) (queue : Int) : Certificate.Coded (parser host queue) := by
  intro x
  show translate x ≠ 0 ∧ translate x < 14
  cases x with
  | var | generic | int | str => exact ⟨Nat.succ_ne_zero _, of_decide_eq_true rfl⟩
  | sym c =>
    have all : ∀ a ∈ [2, 3, 4, 5, 6, 11, 12, 13], a ≠ 0 ∧ a < 14 := by decide
    exact all _ (symbol_mem c)

lemma holds_token (x : Token) : Holds (translate x) [x] := by
  have small : translate x < 14 := (coded ⟨0, fun v _ => v.unset, [], [], .discovered, 0⟩ 0 x).2
  rw [Holds, if_neg (by omega), if_neg (by omega)]
  exact fun _ => ⟨x, rfl, rfl⟩

lemma holds_sym {c : Char} (known : symbol c ≠ 2) (holds : Holds (symbol c) u) : u = [.sym c] := by
  have all : ∀ a ∈ [2, 3, 4, 5, 6, 11, 12, 13], a ≠ 16 ∧ a ≠ 15 ∧ 0 < a ∧ a < 14 := by decide
  obtain ⟨other, other', token⟩ := all _ (symbol_mem c)
  rw [Holds, if_neg other, if_neg other'] at holds
  obtain ⟨x, same, rfl⟩ := holds token
  rw [translate_sym same known]

lemma holds_expr : Holds 16 u ↔ ∃ e, Reads .sum e ∧ u = e.tokens := Iff.of_eq (if_pos rfl)

lemma holds_bin (op : Op) (parts : List.Forall₂ Holds [16, symbol op.char, 16] us) : Holds 16 us.flatten := by
  obtain _ | ⟨left, _ | ⟨middle, _ | ⟨right, _ | _⟩⟩⟩ := parts
  obtain ⟨l, reads, rfl⟩ := holds_expr.1 left
  obtain ⟨r, reads', rfl⟩ := holds_expr.1 right
  obtain rfl := holds_sym (by cases op <;> decide) middle
  obtain ⟨e, both, eq⟩ := joined op reads reads'
  refine holds_expr.2 ⟨e, both, ?_⟩
  rw [eq]
  simp

lemma holds_operand {a : ℕ} (operand : a = 7 ∨ a = 8 ∨ a = 9) (parts : List.Forall₂ Holds [a] us) :
    Holds 16 us.flatten := by
  have token : a ≠ 16 ∧ a ≠ 15 ∧ 0 < a ∧ a < 14 := by omega
  have known : a ∉ [2, 3, 4, 5, 6, 11, 12, 13] := by
    simp only [List.mem_cons, List.not_mem_nil, or_false]
    omega
  have other : a ≠ 10 := by omega
  obtain _ | ⟨holds, _ | _⟩ := parts
  rw [Holds, if_neg token.1, if_neg token.2.1] at holds
  obtain ⟨x, same, rfl⟩ := holds token.2.2
  refine holds_expr.2 ?_
  cases x with
  | var v => exact ⟨.var v, .sum (.product (.closed (.var v))), rfl⟩
  | generic name => exact ⟨.generic name, .sum (.product (.closed (.generic name))), rfl⟩
  | int n => exact ⟨.int n, .sum (.product (.closed (.int n))), rfl⟩
  | str s => exact absurd same.symm other
  | sym c =>
    have same : symbol c = a := same
    exact absurd (same ▸ symbol_mem c) known

lemma holds_neg (parts : List.Forall₂ Holds [symbol '-', 16] us) : Holds 16 us.flatten := by
  obtain _ | ⟨sign, _ | ⟨holds, _ | _⟩⟩ := parts
  obtain rfl := holds_sym (by decide) sign
  obtain ⟨e, reads, rfl⟩ := holds_expr.1 holds
  obtain ⟨z, reads', eq⟩ := negated reads
  refine holds_expr.2 ⟨z, reads', ?_⟩
  rw [eq]
  simp

lemma holds_paren (parts : List.Forall₂ Holds [symbol '(', 16, symbol ')'] us) : Holds 16 us.flatten := by
  obtain _ | ⟨left, _ | ⟨holds, _ | ⟨right, _ | _⟩⟩⟩ := parts
  obtain rfl := holds_sym (by decide) left
  obtain rfl := holds_sym (by decide) right
  obtain ⟨e, reads, rfl⟩ := holds_expr.1 holds
  exact holds_expr.2 ⟨.paren e, .sum (.product (.closed (.paren reads))), rfl⟩

lemma holds_statement (empty : us.flatten = [] ∨ Holds 16 us.flatten) : Statement us.flatten := by
  refine ⟨[], .inl rfl, ?_⟩
  rw [holds_expr] at empty
  simpa using empty

lemma holds_end {xs : List ℕ} (side : xs = [] ∨ xs = [16])
    (parts : List.Forall₂ Holds (xs ++ [symbol ';']) us) :
    Statement us.flatten := by
  refine ⟨[.sym ';'], .inr rfl, ?_⟩
  obtain rfl | rfl := side
  · obtain _ | ⟨semicolon, _ | _⟩ := parts
    obtain rfl := holds_sym (by decide) semicolon
    exact .inl rfl
  · obtain _ | ⟨holds, _ | ⟨semicolon, _ | _⟩⟩ := parts
    obtain rfl := holds_sym (by decide) semicolon
    obtain ⟨e, reads, rfl⟩ := holds_expr.1 holds
    exact .inr ⟨e, reads, by simp⟩

/-- The rules keep what the tokens of their symbols are. -/
lemma holds_rule (r : ℕ) (us : List (List Token))
    (parts : List.Forall₂ Holds (certificate.rhs.getD r []) us) :
    Holds (tables.r1.getD r 0) us.flatten := by
  -- the rules in their order; there is no rule 0, and rule 1 is that of the end
  obtain _ | _ | _ | _ | _ | _ | _ | _ | _ | _ | _ | _ | _ | _ | _ | r := r
  · exact fun token => absurd token.1 (Nat.lt_irrefl 0)
  · exact fun token => absurd token.2 (Nat.lt_irrefl 14)
  · obtain _ | ⟨holds, _ | _⟩ := parts
    exact holds_statement (.inr (by simpa using holds))
  · exact holds_end (.inr rfl) parts
  · obtain _ | _ := parts
    exact holds_statement (.inl rfl)
  · exact holds_end (.inl rfl) parts
  · exact holds_operand (.inl rfl) parts
  · exact holds_operand (.inr (.inl rfl)) parts
  · exact holds_operand (.inr (.inr rfl)) parts
  · exact holds_bin .add parts
  · exact holds_bin .sub parts
  · exact holds_bin .mul parts
  · exact holds_bin .div parts
  · exact holds_neg parts
  · exact holds_paren parts
  · exact fun token => absurd token.1 (Nat.lt_irrefl 0)

/-- A text that is accepted is a statement. -/
lemma accepted_statement {host : Host} {queue : Int} {ts : List Token} {result : Option Int}
    (parsed : (parser host queue).parse .none .none ts = some (.accept result)) : Statement ts := by
  have yields := Certificate.accepted checked (coded host queue) parsed
  obtain ⟨us, parts, rfl⟩ := yields.parts holds_token holds_rule
  obtain _ | ⟨holds, _ | _⟩ := parts
  rw [List.flatten_cons, List.flatten_nil, List.append_nil]
  exact holds

end Accepted

section Run

variable {host : Host} {queue : Int} {e : Expr} {lvl : Level} {stack : List (ℕ × Val)}
  {rest : List Token}
  {result : Option Int} {q : ℕ}

/-- The expression is computed above a stack of a length. -/
def Expr.compute (host : Host) (queue : Int) (n : ℕ) : Expr → Except (Lalr.Outcome (Option Int)) Int
  | .int k => (parser host queue).room (n + 1) k
  | .var v => (parser host queue).room (n + 1) () >>= fun _ => Parser.lift (getVarInt host queue v)
  | .generic name => (parser host queue).room (n + 1) (Host.get_genvar host.genvarInt 0 name queue)
  | .paren e =>
    (parser host queue).room (n + 1) () >>= fun _ => e.compute host queue (n + 1) >>= fun a =>
      (parser host queue).room (n + 3) a
  | .neg e =>
    (parser host queue).room (n + 1) () >>= fun _ => e.compute host queue (n + 1) >>= fun a =>
      Parser.lift (int32 (-a))
  | .bin op l r =>
    l.compute host queue n >>= fun a => (parser host queue).room (n + 2) () >>= fun _ =>
      r.compute host queue (n + 2) >>= fun b => Parser.lift (op.apply a b)

/-- The states in which an expression may begin, for its level. -/
def begins : Level → List ℕ
  | .atom => [0, 1, 6, 12, 13, 14, 15]
  | .closed | .product => [0, 1, 6, 12, 13]
  | .sum => [0, 6]

/-- The state with an expression above a state. -/
def next (q : ℕ) : ℕ := tables.goto q 8

/-- The next token does not go on with the expression. -/
def Level.Stops (lvl : Level) (a : ℕ) : Prop :=
  match lvl with
  | .atom | .closed => True
  | .product | .sum => a ≠ 5 ∧ a ≠ 6

/-- The state after an operator, and its rule. -/
def Op.state : Op → ℕ
  | .add => 12
  | .sub => 13
  | .mul => 14
  | .div => 15

def Op.rule : Op → ℕ
  | .add => 9
  | .sub => 10
  | .mul => 11
  | .div => 12

/-- A computation takes room. -/
lemma compute_room {n : ℕ} {a : Int} (computed : e.compute host queue n = .ok a) : n + 1 < 10000 := by
  induction e generalizing n a with
  | int k => exact (Parser.room_ok computed).1
  | generic name => exact (Parser.room_ok computed).1
  | var v =>
    obtain ⟨_, room, -⟩ := Parser.bind_ok computed
    exact (Parser.room_ok room).1
  | paren e _ =>
    obtain ⟨_, room, -⟩ := Parser.bind_ok computed
    exact (Parser.room_ok room).1
  | neg e _ =>
    obtain ⟨_, room, -⟩ := Parser.bind_ok computed
    exact (Parser.room_ok room).1
  | bin op l r ih _ =>
    obtain ⟨_, left, -⟩ := Parser.bind_ok computed
    exact ih left

/-- Where an expression may begin, its first token is shifted. -/
lemma begin_shift : ∀ q ∈ begins .atom, tables.action q 4 = .shift 1 ∧ tables.action q 7 = .shift 2 ∧
    tables.action q 8 = .shift 3 ∧ tables.action q 9 = .shift 4 ∧ tables.action q 12 = .shift 6 := by
  decide

lemma begins_atom : q ∈ begins lvl → q ∈ begins .atom := by
  have all : ∀ q ∈ [0, 1, 6, 12, 13], q ∈ begins .atom := by decide
  have some : ∀ q ∈ [0, 6], q ∈ begins .atom := by decide
  intro begin
  cases lvl with
  | atom => exact begin
  | closed => exact all q begin
  | product => exact all q begin
  | sum => exact some q begin

lemma inner (other : q ≠ 11) : (q : Int) ≠ (parser host queue).tables.final := by
  show (q : Int) ≠ 11
  omega

/-- The parser computes a negative expression when it computes what is after the sign. -/
lemma does_neg (begin : Parser.top stack ∈ begins .atom)
    (stops : Level.product.Stops ((parser host queue).lookahead rest))
    (after : (parser host queue).Does ⟨(1, .token (.sym '-')) :: stack, e.tokens ++ rest, result⟩
      (e.compute host queue (stack.length + 1))
      fun a => ⟨(9, .int a) :: (1, .token (.sym '-')) :: stack, rest, result⟩) :
    (parser host queue).Does ⟨stack, (Expr.neg e).tokens ++ rest, result⟩
      ((Expr.neg e).compute host queue stack.length)
      fun a => ⟨(next (Parser.top stack), .int a) :: stack, rest, result⟩ := by
  have first := (begin_shift _ begin).1
  refine Parser.Does.bind (Parser.Does.shift first (inner (by decide))) fun _ room => ?_
  refine after.bind fun a _ => ?_
  -- after a sign `*` and `/` are shifted first
  have all : ∀ b < 14, b ≠ 5 ∧ b ≠ 6 → tables.action 9 b = .reduce 13 := by decide
  refine Parser.Does.reduce 13 [(9, Val.int a), (1, Val.token (.sym '-'))] ?_ rfl rfl rfl ?_
  · exact all _ (Certificate.lookahead_lt checked (coded host queue) rest) stops
  · exact (Parser.room_ok room).1

/-- The parser computes an expression with an operator when it computes both sides. -/
lemma does_bin {op : Op} {l r : Expr}
    (shifts : tables.action (next (Parser.top stack)) (symbol op.char) = .shift op.state)
    (reduces : tables.action (next op.state) ((parser host queue).lookahead rest) = .reduce op.rule)
    (left : ∀ rest, (parser host queue).Does ⟨stack, l.tokens ++ .sym op.char :: rest, result⟩
      (l.compute host queue stack.length)
      fun a => ⟨(next (Parser.top stack), .int a) :: stack, .sym op.char :: rest, result⟩)
    (right : ∀ a, (parser host queue).Does
      ⟨(op.state, .token (.sym op.char)) :: (next (Parser.top stack), .int a) :: stack, r.tokens ++ rest, result⟩
      (r.compute host queue (stack.length + 2)) fun b => ⟨(next op.state, .int b) ::
        (op.state, .token (.sym op.char)) :: (next (Parser.top stack), .int a) :: stack, rest, result⟩) :
    (parser host queue).Does ⟨stack, (Expr.bin op l r).tokens ++ rest, result⟩
      ((Expr.bin op l r).compute host queue stack.length)
      fun a => ⟨(next (Parser.top stack), .int a) :: stack, rest, result⟩ := by
  rw [Expr.tokens, List.append_assoc, List.cons_append]
  refine (left _).bind fun a computed => ?_
  refine Parser.Does.bind (Parser.Does.shift shifts (inner (by cases op <;> decide))) fun _ _ => ?_
  refine (right a).bind fun b _ => ?_
  refine Parser.Does.reduce op.rule [(next op.state, Val.int b), (op.state, Val.token (.sym op.char)),
    (next (Parser.top stack), Val.int a)] reduces ?_ ?_ ?_ (compute_room computed)
  · cases op <;> rfl
  · cases op <;> rfl
  · cases op <;> rfl

section Edges

variable {op : Op}

lemma paren_begin : Parser.top ((6, Val.token (.sym '(')) :: stack) ∈ begins .sum := by
  show 6 ∈ [0, 6]
  decide

lemma paren_stops : Level.sum.Stops ((parser host queue).lookahead ([.sym ')'] ++ rest)) := by
  show 13 ≠ 5 ∧ 13 ≠ 6
  decide

lemma paren_shift {a : Int} : tables.action
    (Parser.top ((next (Parser.top ((6, Val.token (.sym '(')) :: stack)),
    Val.int a) :: (6, Val.token (.sym '(')) :: stack)) 13 = .shift 17 := rfl

lemma neg_begin : Parser.top ((1, Val.token (.sym '-')) :: stack) ∈ begins .product := by
  show 1 ∈ [0, 1, 6, 12, 13]
  decide

lemma sum_begins (begin : q ∈ begins .sum) : q ∈ begins .product := by
  have all : ∀ q ∈ [0, 6], q ∈ begins .product := by decide
  exact all q begin

lemma tight_shift (tight : op.tight = true) (begin : q ∈ begins .closed) :
    tables.action (next q) (symbol op.char) = .shift op.state := by
  have all : ∀ q ∈ begins .closed, tables.action (next q) 5 = .shift 14 ∧
      tables.action (next q) 6 = .shift 15 := by decide
  cases op with
  | mul => exact (all q begin).1
  | div => exact (all q begin).2
  | add | sub => cases tight

lemma tight_reduce (tight : op.tight = true) (a : ℕ) : tables.action
    (next op.state) a = .reduce op.rule := by
  cases op with
  | mul => rfl
  | div => rfl
  | add | sub => cases tight

lemma tight_begins (tight : op.tight = true) {v : Val} : Parser.top
    ((op.state, v) :: stack) ∈ begins .atom := by
  show op.state ∈ [0, 1, 6, 12, 13, 14, 15]
  cases op <;> decide

lemma loose_shift (loose : op.tight = false) (begin : q ∈ begins .sum) :
    tables.action (next q) (symbol op.char) = .shift op.state := by
  have all : ∀ q ∈ begins .sum, tables.action (next q) 3 = .shift 12 ∧
      tables.action (next q) 4 = .shift 13 := by decide
  cases op with
  | add => exact (all q begin).1
  | sub => exact (all q begin).2
  | mul | div => cases loose

lemma loose_reduce (loose : op.tight = false) {a : ℕ} (token : a < 14) (stops : Level.sum.Stops a) :
    tables.action (next op.state) a = .reduce op.rule := by
  have all : ∀ a < 14, a ≠ 5 ∧ a ≠ 6 → tables.action 18 a = .reduce 9 ∧ tables.action 19 a = .reduce 10 := by
    decide
  cases op with
  | add => exact (all a token stops).1
  | sub => exact (all a token stops).2
  | mul | div => cases loose

lemma loose_begins (loose : op.tight = false) {v : Val} :
    Parser.top ((op.state, v) :: stack) ∈ begins .product := by
  show op.state ∈ [0, 1, 6, 12, 13]
  cases op with
  | add => decide
  | sub => decide
  | mul | div => cases loose

lemma loose_stops (loose : op.tight = false) :
    Level.sum.Stops ((parser host queue).lookahead (.sym op.char :: rest)) := by
  show symbol op.char ≠ 5 ∧ symbol op.char ≠ 6
  cases op with
  | add => decide
  | sub => decide
  | mul | div => cases loose

end Edges

/-- The parser computes an expression. -/
theorem does_expr (reads : Reads lvl e) (begin : Parser.top stack ∈ begins lvl)
    (stops : lvl.Stops ((parser host queue).lookahead rest)) :
    (parser host queue).Does ⟨stack, e.tokens ++ rest, result⟩ (e.compute host queue stack.length)
      fun a => ⟨(next (Parser.top stack), .int a) :: stack, rest, result⟩ := by
  -- the induction is on the reading, whose levels say what may be below and behind
  induction reads generalizing stack rest with
  | int k =>
    have first := (begin_shift _ begin).2.2.2.1
    refine (Parser.Does.shift first (inner (by decide))).reach fun a room => ?_
    obtain ⟨fits, rfl⟩ := Parser.room_ok room
    exact Parser.Reaches.reduce 8 [(4, Val.token (.int k))] rfl rfl rfl rfl fits
  | generic name =>
    have first := (begin_shift _ begin).2.2.1
    refine (Parser.Does.shift first (inner (by decide))).reach fun a room => ?_
    obtain ⟨fits, rfl⟩ := Parser.room_ok room
    exact Parser.Reaches.reduce 7 [(3, Val.token (.generic name))] rfl rfl rfl rfl fits
  | var v =>
    have first := (begin_shift _ begin).2.1
    refine Parser.Does.bind (Parser.Does.shift first (inner (by decide))) fun _ room => ?_
    exact Parser.Does.reduce 6 [(2, Val.token (.var v))] rfl rfl rfl rfl (Parser.room_ok room).1
  | @paren e _ ih =>
    have first := (begin_shift _ begin).2.2.2.2
    rw [Expr.tokens, List.cons_append, List.append_assoc]
    refine Parser.Does.bind (Parser.Does.shift first (inner (by decide))) fun _ room => ?_
    refine Parser.Does.bind (ih paren_begin paren_stops) fun a _ => ?_
    refine (Parser.Does.shift paren_shift (inner (by decide))).reach fun b room => ?_
    obtain ⟨fits, rfl⟩ := Parser.room_ok room
    exact Parser.Reaches.reduce 14 [(17, Val.token (.sym ')')), (10, Val.int a), (6, Val.token (.sym '('))]
      rfl rfl rfl rfl (Nat.lt_of_le_of_lt (Nat.add_le_add_left (by decide : 1 ≤ 3) _) fits)
  | closed _ ih => exact ih (begins_atom begin) trivial
  | @tight op l r mul _ _ ih ih' =>
    exact does_bin (tight_shift mul begin) (tight_reduce mul _)
      (fun _ => ih begin trivial) (fun _ => ih' (tight_begins mul) trivial)
  | product _ ih => exact ih begin trivial
  | neg _ ih => exact does_neg (begins_atom begin) stops (ih neg_begin stops)
  | @tightNeg op l r mul _ _ ih ih' =>
    exact does_bin (tight_shift mul begin) (tight_reduce mul _)
      (fun _ => ih begin trivial) (fun _ => does_neg (tight_begins mul) stops (ih' neg_begin stops))
  | sum _ ih => exact ih (sum_begins begin) stops
  | @loose op l r add _ _ ih ih' =>
    exact does_bin (loose_shift add begin)
      (loose_reduce add (Certificate.lookahead_lt checked (coded host queue) rest) stops)
      (fun _ => ih begin (loose_stops add)) (fun _ => ih' (loose_begins add) stops)

/-- Where there is room, an expression is computed to its value. -/
lemma compute_value {n : ℕ} (fits : n + e.depth < 10000) :
    e.compute host queue n = Parser.lift (e.value host queue) := by
  have room {A : Type} {m : ℕ} (less : m < 10000) (a : A) : (parser host queue).room m a = .ok a :=
    if_pos less
  -- a right side is computed above two entries more
  induction e generalizing n with
  | int k => exact room fits k
  | generic name => exact room fits _
  | var v =>
    have fits : n + 1 < 10000 := fits
    rw [Expr.compute, room fits]
    rfl
  | paren e ih =>
    rw [Expr.depth] at fits
    rw [Expr.compute, room (by omega), Expr.value]
    show (e.compute host queue (n + 1) >>= _) = _
    rw [ih (by omega)]
    cases e.value host queue with
    | none => rfl
    | some a => exact room (by omega) a
  | neg e ih =>
    rw [Expr.depth] at fits
    rw [Expr.compute, room (by omega), Expr.value]
    show (e.compute host queue (n + 1) >>= _) = _
    rw [ih (by omega)]
    cases e.value host queue with
    | none => rfl
    | some a => rfl
  | bin op l r ih ih' =>
    rw [Expr.depth] at fits
    rw [Expr.compute, ih (by omega), Expr.value]
    cases l.value host queue with
    | none => rfl
    | some a =>
      show ((parser host queue).room (n + 2) () >>= _) = _
      rw [room (by omega)]
      show (r.compute host queue (n + 2) >>= _) = _
      rw [ih' (by omega)]
      cases r.value host queue with
      | none => rfl
      | some b => rfl

/-- A statement on the stack is accepted at the end. -/
lemma finish (v w : Val) : (parser host queue).Ends ⟨[(7, v), (0, w)], [], result⟩
    (.accept result) := .now rfl

lemma ends_empty (semicolon : rest = [] ∨ rest = [.sym ';']) :
    (parser host queue).Ends ⟨[(0, .none)], rest, none⟩ (.accept (some host.fixedPriority)) := by
  obtain rfl | rfl := semicolon
  · exact .next rfl (finish _ _)
  · exact .next rfl (.next rfl (finish _ _))

/-- How the parser ends after an expression. -/
def settle : Except (Lalr.Outcome (Option Int)) Int → Lalr.Outcome (Option Int)
  | .ok n => .accept (some n)
  | .error out => out

lemma ends_expr (semicolon : rest = [] ∨ rest = [.sym ';']) (reads : Reads .sum e) :
    (parser host queue).Ends ⟨[(0, .none)], e.tokens ++ rest, none⟩ (settle (e.compute host queue 1)) := by
  have stops : Level.sum.Stops ((parser host queue).lookahead rest) := by
    obtain rfl | rfl := semicolon
    · show 0 ≠ 5 ∧ 0 ≠ 6
      decide
    · show 11 ≠ 5 ∧ 11 ≠ 6
      decide
  have does : (parser host queue).Does ⟨[(0, .none)], e.tokens ++ rest, none⟩ (e.compute host queue 1)
      fun a => ⟨[(8, .int a), (0, .none)], rest, none⟩ := does_expr reads (by decide) stops
  -- a computation that fails has ended the parser already
  cases computed : e.compute host queue 1 with
  | error out =>
    rw [computed] at does
    exact does
  | ok n =>
    rw [computed] at does
    refine Parser.Reaches.ends does ?_
    obtain rfl | rfl := semicolon
    · exact .next rfl (finish _ _)
    · exact .next rfl (.next rfl (finish _ _))

end Run

section Answer

variable {host : Host} {queue : Int} {e : Expr} {rank : List Char} {semicolon : List Token}

lemma compute_rank_of {out : Lalr.Outcome (Option Int)}
    (ends : (parser host queue).Ends ⟨[(0, .none)], scan rank, none⟩ out) :
    gw_host_compute_rank (some host) queue (some rank) = answer out := by
  rw [gw_host_compute_rank, Certificate.parse_of_ends checked (coded host queue) ends]
  rfl

/-- What is no statement has the rank 0, if it has one. -/
lemma rank_other (other : ¬Statement (scan rank)) {n : Int}
    (computed : gw_host_compute_rank (some host) queue (some rank) = some n) : n = 0 := by
  obtain ⟨out, parsed⟩ := Certificate.total checked (coded host queue) .none none (scan rank)
  rw [gw_host_compute_rank, parsed] at computed
  cases out with
  | accept result => exact absurd (accepted_statement parsed) other
  | abort => exact (Option.some.inj computed).symm
  | exhausted => exact (Option.some.inj computed).symm
  | undefined => cases computed

end Answer

end Rank

end GridWay.Im
