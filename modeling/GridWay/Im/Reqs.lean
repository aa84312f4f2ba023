import GridWay.Im.Rank

/-!
# Requirements

`gw_host_reqs_syntax.y`, with the tables of `gw_host_reqs_syntax.c`, and `gw_host_check_reqs`: a
queue of a host is a candidate when the requirements hold for it.

* `gw_host_check_reqs`: the call.
* `Expr`, `Reads`: requirements, and how the tokens of one are read.
* `Expr.value`: the value of a requirement.
* `Reqs.does_expr`: the parser computes the requirement that it reads.
* `reqs_evaluated`: the answer is the value of what is laid out, for every text.
-/

namespace GridWay.Im

open GridWay.Lalr

namespace Reqs

/-- The tables. -/
def tables : Tables where
  ntokens := 16
  last := 41
  final := 18
  pactNinf := -4
  tableNinf := -1
  r1 := [0, 16, 17, 17, 17, 17, 18, 18, 18, 18, 18, 18, 18, 18, 18, 18, 18, 18, 18, 18, 18, 18]
  r2 := [0, 2, 1, 2, 0, 1, 3, 4, 3, 3, 3, 4, 3, 4, 3, 3, 3, 4, 3, 3, 2, 3]
  defact := [4, 0, 0, 0, 5, 0, 0, 2, 20, 0, 0, 0, 0, 0, 0, 0, 0, 0, 1, 0, 0, 3, 0, 6, 10, 8, 9, 0, 12, 16,
    14, 15, 21, 18, 19, 7, 11, 13, 17]
  defgoto := [-1, 6, 7]
  pact := [0, 2, 10, 14, -4, 2, 11, 24, -4, 4, 22, 12, 16, 21, 27, 25, 33, -3, -4, 2, 2, -4, 29, -4, -4, -4,
    -4, 31, -4, -4, -4, -4, -4, -4, -4, -4, -4, -4, -4]
  pgoto := [-4, -4, -1]
  table := [8, 19, 20, 1, 17, 1, 2, 3, 2, 3, 4, 18, 32, 9, 5, 22, 5, 13, 33, 34, 25, 10, 11, 12, 26, 14, 15,
    16, 19, 20, 23, 24, 27, 30, 21, 28, 29, 35, 36, 37, 38, 31]
  check := [1, 4, 5, 3, 5, 3, 6, 7, 6, 7, 10, 0, 15, 3, 14, 11, 14, 3, 19, 20, 8, 11, 12, 13, 8, 11, 12, 13,
    4, 5, 8, 9, 11, 8, 10, 8, 9, 8, 9, 8, 9, 8]

/-- `yytranslate` for a character; 2 is the number of all that the grammar does not have. -/
def symbol : Char → ℕ
  | '!' => 3
  | '&' => 4
  | '|' => 5
  | ';' => 10
  | '=' => 11
  | '>' => 12
  | '<' => 13
  | '(' => 14
  | ')' => 15
  | _ => 2

/-- The number of a token. -/
def translate : Token → ℕ
  | .var _ => 6
  | .generic _ => 7
  | .int _ => 8
  | .str _ => 9
  | .sym c => symbol c

/-- A value on the stack: a token, a truth value, or none. -/
inductive Val where
  | none
  | token (t : Token)
  | bool (b : Bool)
deriving DecidableEq, Repr

section Actions

variable (fnmatch : String → String → Bool) (host : Host) (queue : Int)

/-- The text of a variable, or `NULL`. -/
def getVarStr (v : Var) : Option (Option String) :=
  match host.get_var false v queue with
  | some (.str s) => some s
  | _ => .none

/-- The text of a generic variable, or `NULL`. -/
def getGenvarStr (name : String) : Option String :=
  Host.get_genvar host.genvarStr .none name queue

/-- The number of a generic variable. -/
def getGenvarInt (name : String) : Int := Host.get_genvar host.genvarInt 0 name queue

/-- A text matches a pattern. The pattern `""` is `NULL`, for which `fnmatch` has no result. -/
def varMatches (v : Var) (pattern : Option String) : Option Bool :=
  (getVarStr host queue v).bind fun value_str =>
    match value_str with
    | some s => pattern.map (fnmatch · s)
    | .none => some false

def varDiffers (v : Var) (pattern : Option String) : Option Bool :=
  (getVarStr host queue v).bind fun value_str =>
    match value_str with
    | some s => pattern.map fun p => !fnmatch p s
    | .none => some false

/-- Without a text, the length of the pattern counts; `strlen` has no result for `NULL`. -/
def genericMatches (name : String) (pattern : Option String) : Option Bool :=
  match getGenvarStr host queue name with
  | some s => pattern.map (fnmatch · s)
  | .none => pattern.map fun p => p.isEmpty

def genericDiffers (name : String) (pattern : Option String) : Option Bool :=
  match getGenvarStr host queue name with
  | some s => pattern.map fun p => !fnmatch p s || p.isEmpty
  | .none => some false

/-- The value of an action, the result so far being kept. -/
def give (b : Option Bool) (result : Bool) : Option (Val × Bool) := b.map fun b => (.bool b, result)

/-- The actions of the rules. -/
def reduce (rule : ℕ) (args : List Val) (result : Bool) : Option (Val × Bool) :=
  let int (v : Var) (p : Int → Bool) := give ((Rank.getVarInt host queue v).map p) result
  let genvarInt (name : String) (p : Int → Bool) := give (some (p (getGenvarInt host queue name))) result
  match rule, args with
  | 2, [.bool b] => some (.none, b)
  | 3, [.bool b, .token _] => some (.none, b)
  | 4, [] => some (.none, true)
  | 5, [.token _] => some (.none, true)
  | 6, [.token (.var v), .token _, .token (.int n)] => int v fun a => decide (a = n)
  | 7, [.token (.var v), .token _, .token _, .token (.int n)] => int v fun a => decide (a ≠ n)
  | 8, [.token (.var v), .token _, .token (.int n)] => int v fun a => decide (a > n)
  | 9, [.token (.var v), .token _, .token (.int n)] => int v fun a => decide (a < n)
  | 10, [.token (.var v), .token _, .token (.str p)] => give (varMatches fnmatch host queue v p) result
  | 11, [.token (.var v), .token _, .token _, .token (.str p)] =>
    give (varDiffers fnmatch host queue v p) result
  | 12, [.token (.generic x), .token _, .token (.int n)] => genvarInt x fun a => decide (a = n)
  | 13, [.token (.generic x), .token _, .token _, .token (.int n)] => genvarInt x fun a => decide (a ≠ n)
  | 14, [.token (.generic x), .token _, .token (.int n)] => genvarInt x fun a => decide (a > n)
  | 15, [.token (.generic x), .token _, .token (.int n)] => genvarInt x fun a => decide (a < n)
  | 16, [.token (.generic x), .token _, .token (.str p)] =>
    give (genericMatches fnmatch host queue x p) result
  | 17, [.token (.generic x), .token _, .token _, .token (.str p)] =>
    give (genericDiffers fnmatch host queue x p) result
  | 18, [.bool a, .token _, .bool b] => give (some (a && b)) result
  | 19, [.bool a, .token _, .bool b] => give (some (a || b)) result
  | 20, [.token _, .bool a] => give (some !a) result
  | 21, [.token _, .bool a, .token _] => give (some a) result
  | _, _ => .none

/-- `host_reqs_parse`, with `YYMAXDEPTH`. -/
def parser : Parser Token Val Bool where
  tables := tables
  maxDepth := 10000
  code := translate
  value := .token
  reduce := reduce fnmatch host queue

end Actions

/-- The answer after the parser has ended: false when it did not accept. -/
def answer : Lalr.Outcome Bool → Option Bool
  | .accept result => some result
  | .abort | .exhausted => some false
  | .undefined => .none

end Reqs

/-- `gw_host_check_reqs`: false when there is no host, true when there are no requirements, and
false after a syntax error. -/
def gw_host_check_reqs (fnmatch : String → String → Bool) (host : Option Host) (queue : Int)
    (reqs : Option (List Char)) : Option Bool :=
  match host, reqs with
  | none, _ => some false
  | some _, none => some true
  | some host, some reqs =>
    ((Reqs.parser fnmatch host queue).parse .none true (scan reqs)).bind Reqs.answer

namespace Reqs

/-- The symbols of the states and the rules. -/
def certificate : Certificate where
  states := 39
  start := 17
  stos := [0, 3, 6, 7, 10, 14, 17, 18, 18, 3, 11, 12, 13, 3, 11, 12, 13, 18, 0, 4, 5, 10, 11, 8, 9, 8, 8, 11,
    8, 9, 8, 8, 15, 18, 18, 8, 9, 8, 9]
  pred :=
    let operand := [0, 1, 5, 19, 20]
    let expr := [7, 17]
    [[], operand, operand, operand, [0], operand, [0], [0], [1], [2], [2], [2], [2], [3], [3], [3], [3], [5], [6],
      expr, expr, [7], [9], [10], [10], [11], [12], [13], [14], [14], [15], [16], [17], [19], [20], [22], [22],
      [27], [27]]
  rhs := [[], [17, 0], [18], [18, 10], [], [10], [6, 11, 8], [6, 3, 11, 8], [6, 12, 8], [6, 13, 8], [6, 11, 9],
    [6, 3, 11, 9], [7, 11, 8], [7, 3, 11, 8], [7, 12, 8], [7, 13, 8], [7, 11, 9], [7, 3, 11, 9], [18, 4, 18],
    [18, 5, 18], [3, 18], [14, 18, 15]]
  weight := [0, 0, 0, 3, 3, 3, 3, 3, 3, 3, 3, 3, 3, 3, 3, 3, 0, 1, 2]

lemma checked : certificate.Checks tables where
  start := by decide
  ends := by decide
  bottom := rfl
  tokens := by decide
  actions := by decide
  recovery := by decide

/-- What is compared: a variable of the host, or a generic one. -/
inductive Name where
  | var (v : Var)
  | generic (name : String)
deriving DecidableEq, Repr

/-- A comparison of a number. -/
inductive Rel where
  | eq | ne | gt | lt
deriving DecidableEq, Repr

/-- An operator between two requirements. -/
inductive Op where
  | and | or
deriving DecidableEq, Repr

/-- The token of a name. -/
def Name.token : Name → Token
  | var v => .var v
  | generic name => .generic name

namespace Rel

/-- A comparison as it is written. -/
def tokens : Rel → List Token
  | eq => [.sym '=']
  | ne => [.sym '!', .sym '=']
  | gt => [.sym '>']
  | lt => [.sym '<']

/-- A comparison holds. -/
def holds : Rel → Int → Int → Bool
  | eq, a, n => decide (a = n)
  | ne, a, n => decide (a ≠ n)
  | gt, a, n => decide (a > n)
  | lt, a, n => decide (a < n)

end Rel

/-- A text is compared with a pattern. -/
def strRel (differs : Bool) : Rel := if differs then .ne else .eq

namespace Op

/-- The operator as it is written. -/
def char : Op → Char
  | and => '&'
  | or => '|'

/-- The value of an operator. -/
def apply : Op → Bool → Bool → Bool
  | and, a, b => a && b
  | or, a, b => a || b

end Op

/-- A requirement, with its parentheses. -/
inductive Expr where
  | int (x : Name) (rel : Rel) (n : Int)
  | str (x : Name) (differs : Bool) (pattern : Option String)
  | paren (e : Expr)
  | not (e : Expr)
  | bin (op : Op) (l r : Expr)
deriving DecidableEq, Repr

section Value

variable (fnmatch : String → String → Bool) (host : Host) (queue : Int)

/-- The number of a name. -/
def Name.number : Name → Option Int
  | var v => Rank.getVarInt host queue v
  | generic name => some (getGenvarInt host queue name)

/-- The text of a name is compared. -/
def Name.compare : Name → Bool → Option String → Option Bool
  | var v, false => varMatches fnmatch host queue v
  | var v, true => varDiffers fnmatch host queue v
  | generic name, false => genericMatches fnmatch host queue name
  | generic name, true => genericDiffers fnmatch host queue name

namespace Expr

/-- The tokens of a requirement. -/
def tokens : Expr → List Token
  | int x rel n => x.token :: (rel.tokens ++ [.int n])
  | str x differs pattern => x.token :: ((strRel differs).tokens ++ [.str pattern])
  | paren e => .sym '(' :: (e.tokens ++ [.sym ')'])
  | not e => .sym '!' :: e.tokens
  | bin op l r => l.tokens ++ .sym op.char :: r.tokens

/-- The value of a requirement for a queue of a host. Both sides of an operator are evaluated. It is
not defined where `NULL` is used as a text. -/
def value : Expr → Option Bool
  | int x rel n => (x.number host queue).map fun a => rel.holds a n
  | str x differs pattern => x.compare fnmatch host queue differs pattern
  | paren e => e.value
  | not e => e.value.map (!·)
  | bin op l r => l.value.bind fun a => r.value.map (op.apply a)

/-- The entries of the stack that a requirement needs. -/
def depth : Expr → ℕ
  | int _ rel _ => rel.tokens.length + 2
  | str _ differs _ => (strRel differs).tokens.length + 2
  | paren e => max (e.depth + 1) 3
  | not e => e.depth + 1
  | bin _ l r => max l.depth (r.depth + 2)

end Expr

end Value

/-- How far the reading of a requirement has come: one that is compared, negated or in parentheses;
several with operators between them. -/
inductive Level where
  | factor | expr
deriving DecidableEq, Repr

/-- A requirement is read from its tokens: `&` and `|` are left-associative and bind equally, and a
negation binds tighter. -/
inductive Reads : Level → Expr → Prop
  | int (x : Name) (rel : Rel) (n : Int) : Reads .factor (.int x rel n)
  | str (x : Name) (differs : Bool) (pattern : Option String) : Reads .factor (.str x differs pattern)
  | paren {e : Expr} : Reads .expr e → Reads .factor (.paren e)
  | not {e : Expr} : Reads .factor e → Reads .factor (.not e)
  | expr {e : Expr} : Reads .factor e → Reads .expr e
  | bin (op : Op) {l r : Expr} : Reads .expr l → Reads .factor r → Reads .expr (.bin op l r)

section Join

variable {op : Op} {x y : Expr}

/-- A requirement is one factor, or a requirement and a factor. -/
lemma Reads.expr_cases {motive : Expr → Prop} (factor : ∀ e, Reads .factor e → motive e)
    (bin : ∀ op l r, Reads .expr l → Reads .factor r → motive l → motive (.bin op l r))
    (reads : Reads .expr x) : motive x := by
  -- the level is a variable for the induction, and only two rules end at a requirement
  generalize level : Level.expr = lvl at reads
  induction reads with
  | expr inner _ => exact factor _ inner
  | bin op left right ih _ => exact bin op _ _ left right (ih rfl)
  | int | str | paren | not => cases level

/-- Requirements with an operator between them are a requirement, in another reading. -/
lemma joined (op : Op) (left : Reads .expr x) (right : Reads .expr y) :
    ∃ z, Reads .expr z ∧ z.tokens = x.tokens ++ .sym op.char :: y.tokens := by
  refine right.expr_cases (motive := fun y => ∃ z, Reads .expr z ∧ z.tokens = x.tokens ++ .sym op.char :: y.tokens)
    (fun e factor => ⟨_, .bin op left factor, rfl⟩) ?_
  intro op' l r _ factor ih
  obtain ⟨z, reads, eq⟩ := ih
  refine ⟨.bin op' z r, .bin op' reads factor, ?_⟩
  simp only [Expr.tokens, eq, List.append_assoc, List.cons_append]

/-- A negation before a requirement is read with its first factor. -/
lemma negated (reads : Reads .expr x) : ∃ z, Reads .expr z ∧ z.tokens = .sym '!' :: x.tokens := by
  refine reads.expr_cases (motive := fun x => ∃ z, Reads .expr z ∧ z.tokens = .sym '!' :: x.tokens)
    (fun e factor => ⟨.not e, .expr (.not factor), rfl⟩) ?_
  intro op l r _ factor ih
  obtain ⟨z, reads, eq⟩ := ih
  refine ⟨.bin op z r, .bin op reads factor, ?_⟩
  simp only [Expr.tokens, eq, List.cons_append]

end Join

section Accepted

variable {us : List (List Token)} {u : List Token} {fnmatch : String → String → Bool} {host : Host} {queue : Int}

/-- The tokens of a statement: nothing or a requirement, with a semicolon or none. -/
def Statement (ts : List Token) : Prop :=
  ∃ semicolon, (semicolon = [] ∨ semicolon = [.sym ';']) ∧
    (ts = semicolon ∨ ∃ e, Reads .expr e ∧ ts = e.tokens ++ semicolon)

/-- What the tokens of a symbol are. -/
def Holds (a : ℕ) (u : List Token) : Prop :=
  if a = 18 then ∃ e, Reads .expr e ∧ u = e.tokens
  else if a = 17 then Statement u
  else 0 < a ∧ a < 16 → ∃ x, translate x = a ∧ u = [x]

/-- The numbers that characters have. -/
def symbols : List ℕ := [2, 3, 4, 5, 10, 11, 12, 13, 14, 15]

lemma symbol_mem (c : Char) : symbol c ∈ symbols := by
  unfold symbol
  split <;> decide

lemma symbol_inj {c d : Char} (same : symbol c = symbol d) (known : symbol d ≠ 2) : c = d := by
  revert same known
  unfold symbol
  split <;> split <;> intro same known <;> first | rfl | exact absurd rfl known | cases same

lemma translate_sym {x : Token} {c : Char} (same : translate x = symbol c) (known : symbol c ≠ 2) :
    x = .sym c := by
  cases x with
  | sym d => rw [symbol_inj same known]
  | var | generic | int | str =>
    have mem := symbol_mem c
    rw [← same] at mem
    revert mem
    simp [translate, symbols]

/-- The numbers of the tokens are those of the tables. -/
lemma translate_coded (x : Token) : translate x ≠ 0 ∧ translate x < 16 := by
  cases x with
  | var | generic | int | str => exact ⟨Nat.succ_ne_zero _, of_decide_eq_true rfl⟩
  | sym c =>
    have all : ∀ a ∈ symbols, a ≠ 0 ∧ a < 16 := by decide
    exact all _ (symbol_mem c)

lemma coded : Certificate.Coded (parser fnmatch host queue) := translate_coded

lemma holds_token (x : Token) : Holds (translate x) [x] := by
  have small : translate x < 16 := (translate_coded x).2
  rw [Holds, if_neg (by omega), if_neg (by omega)]
  exact fun _ => ⟨x, rfl, rfl⟩

lemma holds_sym {c : Char} (known : symbol c ≠ 2) (holds : Holds (symbol c) u) : u = [.sym c] := by
  have all : ∀ a ∈ symbols, a ≠ 18 ∧ a ≠ 17 ∧ 0 < a ∧ a < 16 := by decide
  obtain ⟨other, other', token⟩ := all _ (symbol_mem c)
  rw [Holds, if_neg other, if_neg other'] at holds
  obtain ⟨x, same, rfl⟩ := holds token
  rw [translate_sym same known]

lemma holds_expr : Holds 18 u ↔ ∃ e, Reads .expr e ∧ u = e.tokens := Iff.of_eq (if_pos rfl)

/-- A token that is no character. -/
lemma holds_word {a : ℕ} (word : a = 6 ∨ a = 7 ∨ a = 8 ∨ a = 9) (holds : Holds a u) :
    (a = 6 ∧ ∃ v, u = [.var v]) ∨ (a = 7 ∧ ∃ name, u = [.generic name]) ∨ (a = 8 ∧ ∃ n, u = [.int n]) ∨
      (a = 9 ∧ ∃ s, u = [.str s]) := by
  have token : a ≠ 18 ∧ a ≠ 17 ∧ 0 < a ∧ a < 16 := by omega
  rw [Holds, if_neg token.1, if_neg token.2.1] at holds
  obtain ⟨x, rfl, rfl⟩ := holds token.2.2
  cases x with
  | var v => exact .inl ⟨rfl, v, rfl⟩
  | generic name => exact .inr (.inl ⟨rfl, name, rfl⟩)
  | int n => exact .inr (.inr (.inl ⟨rfl, n, rfl⟩))
  | str s => exact .inr (.inr (.inr ⟨rfl, s, rfl⟩))
  | sym c =>
    have all : ∀ a ∈ symbols, ¬(a = 6 ∨ a = 7 ∨ a = 8 ∨ a = 9) := by decide
    exact absurd word (all _ (symbol_mem c))

/-- The tokens of a name. -/
lemma holds_name {a : ℕ} (name : a = 6 ∨ a = 7) (holds : Holds a u) : ∃ x : Name, u = [x.token] := by
  obtain ⟨-, v, rfl⟩ | ⟨-, name, rfl⟩ | ⟨rfl, -⟩ | ⟨rfl, -⟩ := holds_word (by omega) holds
  · exact ⟨.var v, rfl⟩
  · exact ⟨.generic name, rfl⟩
  · cases name <;> contradiction
  · cases name <;> contradiction

/-- The numbers of a comparison. -/
def Rel.symbols (rel : Rel) : List ℕ := rel.tokens.map translate

lemma holds_rel (rel : Rel) (parts : List.Forall₂ Holds rel.symbols us) : us.flatten = rel.tokens := by
  have one {c : Char} {us : List (List Token)} (known : symbol c ≠ 2)
      (parts : List.Forall₂ Holds [symbol c] us) : us.flatten = [.sym c] := by
    obtain _ | ⟨holds, _ | _⟩ := parts
    obtain rfl := holds_sym known holds
    rfl
  cases rel with
  | eq => exact one (by decide) parts
  | gt => exact one (by decide) parts
  | lt => exact one (by decide) parts
  | ne =>
    obtain _ | ⟨left, rest⟩ := parts
    obtain rfl := holds_sym (c := '!') (by decide) left
    rw [List.flatten_cons, one (c := '=') (by decide) rest]
    rfl

/-- A comparison with a number or a pattern. -/
lemma holds_compare {a b : ℕ} (rel : Rel) (name : a = 6 ∨ a = 7)
    (kind : b = 8 ∨ b = 9 ∧ ∃ differs, rel = strRel differs)
    (parts : List.Forall₂ Holds (a :: (rel.symbols ++ [b])) us) : Holds 18 us.flatten := by
  obtain _ | @⟨_, u, _, us, first, rest⟩ := parts
  obtain ⟨x, rfl⟩ := holds_name name first
  have middle := List.forall₂_take rel.symbols.length rest
  have last := List.forall₂_drop rel.symbols.length rest
  rw [List.take_left] at middle
  rw [List.drop_left] at last
  rw [List.flatten_cons, ← List.take_append_drop rel.symbols.length us, List.flatten_append, holds_rel rel middle]
  -- one symbol is left behind those of the relation
  generalize us.drop rel.symbols.length = ws at last
  obtain _ | ⟨last, _ | _⟩ := last
  refine holds_expr.2 ?_
  obtain ⟨rfl, -⟩ | ⟨rfl, -⟩ | ⟨rfl, n, rfl⟩ | ⟨rfl, s, rfl⟩ := holds_word (by omega) last
  · omega
  · omega
  · exact ⟨.int x rel n, .expr (.int x rel n), rfl⟩
  · obtain eq | ⟨-, differs, rfl⟩ := kind
    · cases eq
    · exact ⟨.str x differs s, .expr (.str x differs s), rfl⟩

lemma holds_bin (op : Op) (parts : List.Forall₂ Holds [18, symbol op.char, 18] us) : Holds 18 us.flatten := by
  obtain _ | ⟨left, _ | ⟨middle, _ | ⟨right, _ | _⟩⟩⟩ := parts
  obtain ⟨l, reads, rfl⟩ := holds_expr.1 left
  obtain ⟨r, reads', rfl⟩ := holds_expr.1 right
  obtain rfl := holds_sym (by cases op <;> decide) middle
  obtain ⟨e, both, eq⟩ := joined op reads reads'
  refine holds_expr.2 ⟨e, both, ?_⟩
  rw [eq]
  simp

lemma holds_not (parts : List.Forall₂ Holds [symbol '!', 18] us) : Holds 18 us.flatten := by
  obtain _ | ⟨sign, _ | ⟨holds, _ | _⟩⟩ := parts
  obtain rfl := holds_sym (by decide) sign
  obtain ⟨e, reads, rfl⟩ := holds_expr.1 holds
  obtain ⟨z, reads', eq⟩ := negated reads
  refine holds_expr.2 ⟨z, reads', ?_⟩
  rw [eq]
  simp

lemma holds_paren (parts : List.Forall₂ Holds [symbol '(', 18, symbol ')'] us) : Holds 18 us.flatten := by
  obtain _ | ⟨left, _ | ⟨holds, _ | ⟨right, _ | _⟩⟩⟩ := parts
  obtain rfl := holds_sym (by decide) left
  obtain rfl := holds_sym (by decide) right
  obtain ⟨e, reads, rfl⟩ := holds_expr.1 holds
  exact holds_expr.2 ⟨.paren e, .expr (.paren reads), rfl⟩

lemma holds_statement (empty : us.flatten = [] ∨ Holds 18 us.flatten) : Statement us.flatten := by
  refine ⟨[], .inl rfl, ?_⟩
  rw [holds_expr] at empty
  simpa using empty

lemma holds_end {xs : List ℕ} (side : xs = [] ∨ xs = [18])
    (parts : List.Forall₂ Holds (xs ++ [symbol ';']) us) : Statement us.flatten := by
  refine ⟨[.sym ';'], .inr rfl, ?_⟩
  obtain rfl | rfl := side
  · obtain _ | ⟨semicolon, _ | _⟩ := parts
    obtain rfl := holds_sym (by decide) semicolon
    exact .inl rfl
  · obtain _ | ⟨holds, _ | ⟨semicolon, _ | _⟩⟩ := parts
    obtain rfl := holds_sym (by decide) semicolon
    obtain ⟨e, reads, rfl⟩ := holds_expr.1 holds
    exact .inr ⟨e, reads, by simp⟩

/-- The rules keep what the tokens of their symbols are. -/
lemma holds_rule (r : ℕ) (us : List (List Token))
    (parts : List.Forall₂ Holds (certificate.rhs.getD r []) us) : Holds (tables.r1.getD r 0) us.flatten := by
  obtain _ | _ | _ | _ | _ | _ | _ | _ | _ | _ | _ | _ | _ | _ | _ | _ | _ | _ | _ | _ | _ | _ | r := r
  · exact fun token => absurd token.1 (Nat.lt_irrefl 0)
  · exact fun token => absurd token.2 (Nat.lt_irrefl 16)
  · obtain _ | ⟨holds, _ | _⟩ := parts
    exact holds_statement (.inr (by simpa using holds))
  · exact holds_end (.inr rfl) parts
  · obtain _ | _ := parts
    exact holds_statement (.inl rfl)
  · exact holds_end (.inl rfl) parts
  · exact holds_compare .eq (.inl rfl) (.inl rfl) parts
  · exact holds_compare .ne (.inl rfl) (.inl rfl) parts
  · exact holds_compare .gt (.inl rfl) (.inl rfl) parts
  · exact holds_compare .lt (.inl rfl) (.inl rfl) parts
  · exact holds_compare .eq (.inl rfl) (.inr ⟨rfl, false, rfl⟩) parts
  · exact holds_compare .ne (.inl rfl) (.inr ⟨rfl, true, rfl⟩) parts
  · exact holds_compare .eq (.inr rfl) (.inl rfl) parts
  · exact holds_compare .ne (.inr rfl) (.inl rfl) parts
  · exact holds_compare .gt (.inr rfl) (.inl rfl) parts
  · exact holds_compare .lt (.inr rfl) (.inl rfl) parts
  · exact holds_compare .eq (.inr rfl) (.inr ⟨rfl, false, rfl⟩) parts
  · exact holds_compare .ne (.inr rfl) (.inr ⟨rfl, true, rfl⟩) parts
  · exact holds_bin .and parts
  · exact holds_bin .or parts
  · exact holds_not parts
  · exact holds_paren parts
  · exact fun token => absurd token.1 (Nat.lt_irrefl 0)

/-- A text that is accepted is a statement. -/
lemma accepted_statement {ts : List Token} {result : Bool}
    (parsed : (parser fnmatch host queue).parse .none true ts = some (.accept result)) : Statement ts := by
  have yields := Certificate.accepted checked coded parsed
  obtain ⟨us, parts, rfl⟩ := yields.parts holds_token holds_rule
  obtain _ | ⟨holds, _ | _⟩ := parts
  rw [List.flatten_cons, List.flatten_nil, List.append_nil]
  exact holds

end Accepted

section Run

variable {fnmatch : String → String → Bool} {host : Host} {queue : Int} {e : Expr} {lvl : Level}
  {stack : List (ℕ × Val)} {rest : List Token} {result : Bool} {q : ℕ}

/-- The requirement is computed above a stack of a length. -/
def Expr.compute (fnmatch : String → String → Bool) (host : Host) (queue : Int) (n : ℕ) :
    Expr → Except (Lalr.Outcome Bool) Bool
  | .int x rel k =>
    (parser fnmatch host queue).room (n + (rel.tokens.length + 2)) () >>= fun _ =>
      Parser.lift ((x.number host queue).map fun a => rel.holds a k)
  | .str x differs p =>
    (parser fnmatch host queue).room (n + ((strRel differs).tokens.length + 2)) () >>= fun _ =>
      Parser.lift (x.compare fnmatch host queue differs p)
  | .paren e =>
    (parser fnmatch host queue).room (n + 1) () >>= fun _ =>
      e.compute fnmatch host queue (n + 1) >>= fun b => (parser fnmatch host queue).room (n + 3) b
  | .not e =>
    (parser fnmatch host queue).room (n + 1) () >>= fun _ =>
      e.compute fnmatch host queue (n + 1) >>= fun b => Parser.lift (some !b)
  | .bin op l r =>
    l.compute fnmatch host queue n >>= fun a => (parser fnmatch host queue).room (n + 2) () >>= fun _ =>
      r.compute fnmatch host queue (n + 2) >>= fun b => Parser.lift (some (op.apply a b))

/-- The states in which a requirement may begin, for its level. -/
def begins : Level → List ℕ
  | .factor => [0, 1, 5, 19, 20]
  | .expr => [0, 5]

/-- The state with a requirement above a state. -/
def next (q : ℕ) : ℕ := tables.goto q 21

/-- The state after an operator, and its rule. -/
def Op.state : Op → ℕ
  | .and => 19
  | .or => 20

def Op.rule : Op → ℕ
  | .and => 18
  | .or => 19

/-- The states after a name and after the tokens of a comparison. -/
def Name.state : Name → ℕ
  | .var _ => 2
  | .generic _ => 3

def Rel.path : Name → Rel → List (Token × ℕ)
  | .var _, .eq => [(.sym '=', 10)]
  | .var _, .ne => [(.sym '!', 9), (.sym '=', 22)]
  | .var _, .gt => [(.sym '>', 11)]
  | .var _, .lt => [(.sym '<', 12)]
  | .generic _, .eq => [(.sym '=', 14)]
  | .generic _, .ne => [(.sym '!', 13), (.sym '=', 27)]
  | .generic _, .gt => [(.sym '>', 15)]
  | .generic _, .lt => [(.sym '<', 16)]

/-- The state after a comparison with a number, and its rule. -/
def Rel.intState : Name → Rel → ℕ
  | .var _, .eq => 23
  | .var _, .ne => 35
  | .var _, .gt => 25
  | .var _, .lt => 26
  | .generic _, .eq => 28
  | .generic _, .ne => 37
  | .generic _, .gt => 30
  | .generic _, .lt => 31

def Rel.intRule : Name → Rel → ℕ
  | .var _, .eq => 6
  | .var _, .ne => 7
  | .var _, .gt => 8
  | .var _, .lt => 9
  | .generic _, .eq => 12
  | .generic _, .ne => 13
  | .generic _, .gt => 14
  | .generic _, .lt => 15

/-- The state after a comparison with a pattern, and its rule. -/
def strState : Name → Bool → ℕ
  | .var _, false => 24
  | .var _, true => 36
  | .generic _, false => 29
  | .generic _, true => 38

def strRule : Name → Bool → ℕ
  | .var _, false => 10
  | .var _, true => 11
  | .generic _, false => 16
  | .generic _, true => 17

/-- A computation takes room. -/
lemma compute_room {n : ℕ} {b : Bool} (computed : e.compute fnmatch host queue n = .ok b) : n + 1 < 10000 := by
  induction e generalizing n b with
  | int x rel k =>
    obtain ⟨_, room, -⟩ := Parser.bind_ok computed
    exact Nat.lt_of_le_of_lt (by omega) (Parser.room_ok room).1
  | str x differs p =>
    obtain ⟨_, room, -⟩ := Parser.bind_ok computed
    exact Nat.lt_of_le_of_lt (by omega) (Parser.room_ok room).1
  | paren e _ =>
    obtain ⟨_, room, -⟩ := Parser.bind_ok computed
    exact (Parser.room_ok room).1
  | not e _ =>
    obtain ⟨_, room, -⟩ := Parser.bind_ok computed
    exact (Parser.room_ok room).1
  | bin op l r ih _ =>
    obtain ⟨_, left, -⟩ := Parser.bind_ok computed
    exact ih left

/-- Where a requirement may begin, its first token is shifted. -/
lemma begin_shift : ∀ q ∈ begins .factor, tables.action q 3 = .shift 1 ∧ tables.action q 6 = .shift 2 ∧
    tables.action q 7 = .shift 3 ∧ tables.action q 14 = .shift 5 := by
  decide

lemma begins_factor : q ∈ begins .expr → q ∈ begins .factor := by
  have all : ∀ q ∈ [0, 5], q ∈ begins .factor := by decide
  exact all q

lemma inner (other : q ≠ 18) : (q : Int) ≠ (parser fnmatch host queue).tables.final := by
  show (q : Int) ≠ 18
  omega

lemma goto_expr {rule : ℕ} (lhs : tables.r1.getD rule 0 = 18) : tables.goto q rule = next q := by
  rw [next, Tables.goto, Tables.goto, lhs]
  rfl

/-- The parser computes a comparison. -/
lemma does_compare {x : Name} {path : List (Token × ℕ)} (state rule : ℕ) {last : Token} {o : Option Bool}
    (begin : Parser.top stack ∈ begins .factor)
    (follows : (parser fnmatch host queue).Path x.state (path ++ [(last, state)]))
    (reduces : ∀ a, tables.action state a = .reduce rule)
    (size : tables.r2.getD rule 0 = path.length + 2)
    (performed : reduce fnmatch host queue rule
      (.token x.token :: (path ++ [(last, state)]).map fun e => Val.token e.1) result =
        o.map fun b => (.bool b, result))
    (lhs : tables.r1.getD rule 0 = 18) :
    (parser fnmatch host queue).Does
      ⟨stack, x.token :: (path.map Prod.fst ++ [last]) ++ rest, result⟩
      ((parser fnmatch host queue).room (stack.length + (path.length + 2)) () >>= fun _ => Parser.lift o)
      fun b => ⟨(next (Parser.top stack), .bool b) :: stack, rest, result⟩ := by
  have whole : (parser fnmatch host queue).Path (Parser.top stack)
      ((x.token, x.state) :: (path ++ [(last, state)])) := by
    cases x with
    | var v => exact ⟨(begin_shift _ begin).2.1, of_decide_eq_true rfl, follows⟩
    | generic name => exact ⟨(begin_shift _ begin).2.2.1, of_decide_eq_true rfl, follows⟩
  have long : ((x.token, x.state) :: (path ++ [(last, state)])).length = path.length + 2 := by
    rw [List.length_cons, List.length_append]
    rfl
  have acted : tables.action (Parser.top ((((x.token, x.state) :: (path ++ [(last, state)])).map fun e =>
      (e.2, Val.token e.1)).reverse ++ stack)) ((parser fnmatch host queue).lookahead rest) = .reduce rule := by
    rw [List.map_cons, List.map_append, ← List.cons_append, List.reverse_append]
    exact reduces _
  have done := Parser.Does.phrase rule whole (List.cons_ne_nil _ _) acted (size.trans long.symm) performed
    (goto_expr lhs)
  rw [long, List.map_cons, List.map_append] at done
  exact done

lemma rel_path (x : Name) (rel : Rel) : (rel.path x).map Prod.fst = rel.tokens := by
  cases x <;> cases rel <;> rfl

/-- A comparison and what is after it are shifted. -/
lemma rel_follows (x : Name) (rel : Rel) {last : Token} {state : ℕ}
    (shifts : ∀ q ∈ ((rel.path x).map Prod.snd).getLast?, tables.action q (translate last) = .shift state)
    (other : state ≠ 18) : (parser fnmatch host queue).Path x.state (rel.path x ++ [(last, state)]) := by
  cases x <;> cases rel
  case var.ne | generic.ne =>
    exact ⟨rfl, of_decide_eq_true rfl, rfl, of_decide_eq_true rfl, shifts _ rfl, inner other, trivial⟩
  all_goals exact ⟨rfl, of_decide_eq_true rfl, shifts _ rfl, inner other, trivial⟩

lemma does_int (x : Name) (rel : Rel) (k : Int) (begin : Parser.top stack ∈ begins .factor) :
    (parser fnmatch host queue).Does ⟨stack, (Expr.int x rel k).tokens ++ rest, result⟩
      ((Expr.int x rel k).compute fnmatch host queue stack.length)
      fun b => ⟨(next (Parser.top stack), .bool b) :: stack, rest, result⟩ := by
  have length := congrArg List.length (rel_path x rel)
  rw [List.length_map] at length
  rw [Expr.tokens, Expr.compute, ← length, ← rel_path x rel]
  refine does_compare (rel.intState x) (rel.intRule x) begin (rel_follows x rel ?_ ?_) ?_ ?_ ?_ ?_
  · intro q last
    cases x <;> cases rel <;> cases last <;> rfl
  · cases x <;> cases rel <;> exact of_decide_eq_true rfl
  · intro a
    cases x <;> cases rel <;> rfl
  · cases x <;> cases rel <;> rfl
  · cases x with
    | var v => cases rel <;> exact congrArg (give · result) rfl
    | generic name => cases rel <;> rfl
  · cases x <;> cases rel <;> rfl

lemma does_str (x : Name) (differs : Bool) (p : Option String) (begin : Parser.top stack ∈ begins .factor) :
    (parser fnmatch host queue).Does ⟨stack, (Expr.str x differs p).tokens ++ rest, result⟩
      ((Expr.str x differs p).compute fnmatch host queue stack.length)
      fun b => ⟨(next (Parser.top stack), .bool b) :: stack, rest, result⟩ := by
  have length := congrArg List.length (rel_path x (strRel differs))
  rw [List.length_map] at length
  rw [Expr.tokens, Expr.compute, ← length, ← rel_path x (strRel differs)]
  refine does_compare (strState x differs) (strRule x differs) begin (rel_follows x _ ?_ ?_) ?_ ?_ ?_ ?_
  · intro q last
    cases x <;> cases differs <;> cases last <;> rfl
  · cases x <;> cases differs <;> exact of_decide_eq_true rfl
  · intro a
    cases x <;> cases differs <;> rfl
  · cases x <;> cases differs <;> rfl
  · cases x <;> cases differs <;> rfl
  · cases x <;> cases differs <;> rfl

lemma op_begins (op : Op) {v : Val} : Parser.top ((op.state, v) :: stack) ∈ begins .factor := by
  show op.state ∈ [0, 1, 5, 19, 20]
  cases op <;> decide

lemma op_shift (op : Op) (begin : q ∈ begins .expr) : tables.action (next q) (symbol op.char) = .shift op.state := by
  have all : ∀ q ∈ begins .expr, tables.action (next q) 4 = .shift 19 ∧ tables.action (next q) 5 = .shift 20 := by
    decide
  cases op with
  | and => exact (all q begin).1
  | or => exact (all q begin).2

lemma op_reduce (op : Op) (a : ℕ) : tables.action (next op.state) a = .reduce op.rule := by
  cases op <;> rfl

/-- The parser computes a requirement. -/
theorem does_expr (reads : Reads lvl e) (begin : Parser.top stack ∈ begins lvl) :
    (parser fnmatch host queue).Does ⟨stack, e.tokens ++ rest, result⟩ (e.compute fnmatch host queue stack.length)
      fun b => ⟨(next (Parser.top stack), .bool b) :: stack, rest, result⟩ := by
  -- the induction is on the reading, whose levels say what may be below
  induction reads generalizing stack rest with
  | int x rel k => exact does_int x rel k begin
  | str x differs p => exact does_str x differs p begin
  | @paren e _ ih =>
    have first := (begin_shift _ begin).2.2.2
    rw [Expr.tokens, List.cons_append, List.append_assoc]
    refine Parser.Does.bind (Parser.Does.shift first (inner (by decide))) fun _ room => ?_
    have within : Parser.top ((5, Val.token (.sym '(')) :: stack) ∈ begins .expr := by
      show 5 ∈ [0, 5]
      decide
    refine Parser.Does.bind (ih within) fun b _ => ?_
    have close : tables.action (Parser.top ((next (Parser.top ((5, Val.token (.sym '(')) :: stack)), Val.bool b) ::
        (5, Val.token (.sym '(')) :: stack)) 15 = .shift 32 := rfl
    refine (Parser.Does.shift close (inner (by decide))).reach fun b' room => ?_
    obtain ⟨fits, rfl⟩ := Parser.room_ok room
    exact Parser.Reaches.reduce 21 [(32, Val.token (.sym ')')), (17, Val.bool b), (5, Val.token (.sym '('))]
      rfl rfl rfl (goto_expr rfl) (Nat.lt_of_le_of_lt (Nat.add_le_add_left (by decide : 1 ≤ 3) _) fits)
  | @not e _ ih =>
    have first := (begin_shift _ begin).1
    refine Parser.Does.bind (Parser.Does.shift first (inner (by decide))) fun _ room => ?_
    have within : Parser.top ((1, Val.token (.sym '!')) :: stack) ∈ begins .factor := by
      show 1 ∈ [0, 1, 5, 19, 20]
      decide
    refine Parser.Does.bind (ih within) fun b _ => ?_
    exact Parser.Does.reduce 20 [(8, Val.bool b), (1, Val.token (.sym '!'))] rfl rfl rfl (goto_expr rfl)
      (Parser.room_ok room).1
  | expr _ ih => exact ih (begins_factor begin)
  | @bin op l r _ _ ih ih' =>
    rw [Expr.tokens, List.append_assoc, List.cons_append]
    refine (ih begin).bind fun a computed => ?_
    refine Parser.Does.bind (Parser.Does.shift (op_shift op begin) (inner (by cases op <;> decide))) fun _ _ => ?_
    refine Parser.Does.bind (ih' (op_begins op)) fun b _ => ?_
    refine Parser.Does.reduce op.rule [(next op.state, Val.bool b), (op.state, Val.token (.sym op.char)),
      (next (Parser.top stack), Val.bool a)] (op_reduce op _) ?_ ?_ ?_ (compute_room computed)
    · cases op <;> rfl
    · cases op <;> rfl
    · cases op <;> exact goto_expr rfl

/-- Where there is room, a requirement is computed to its value. -/
lemma compute_value {n : ℕ} (fits : n + e.depth < 10000) :
    e.compute fnmatch host queue n = Parser.lift (e.value fnmatch host queue) := by
  have room {A : Type} {m : ℕ} (less : m < 10000) (a : A) : (parser fnmatch host queue).room m a = .ok a :=
    if_pos less
  induction e generalizing n with
  | int x rel k =>
    rw [Expr.depth] at fits
    rw [Expr.compute, room fits]
    rfl
  | str x differs p =>
    rw [Expr.depth] at fits
    rw [Expr.compute, room fits]
    rfl
  | paren e ih =>
    rw [Expr.depth] at fits
    rw [Expr.compute, room (by omega), Expr.value]
    show (e.compute fnmatch host queue (n + 1) >>= _) = _
    rw [ih (by omega)]
    cases e.value fnmatch host queue with
    | none => rfl
    | some b => exact room (by omega) b
  | not e ih =>
    rw [Expr.depth] at fits
    rw [Expr.compute, room (by omega), Expr.value]
    show (e.compute fnmatch host queue (n + 1) >>= _) = _
    rw [ih (by omega)]
    cases e.value fnmatch host queue with
    | none => rfl
    | some b => rfl
  | bin op l r ih ih' =>
    rw [Expr.depth] at fits
    rw [Expr.compute, ih (by omega), Expr.value]
    cases l.value fnmatch host queue with
    | none => rfl
    | some a =>
      show ((parser fnmatch host queue).room (n + 2) () >>= _) = _
      rw [room (by omega)]
      show (r.compute fnmatch host queue (n + 2) >>= _) = _
      rw [ih' (by omega)]
      cases r.value fnmatch host queue with
      | none => rfl
      | some b => rfl

/-- A statement on the stack is accepted at the end. -/
lemma finish (v w : Val) : (parser fnmatch host queue).Ends ⟨[(6, v), (0, w)], [], result⟩ (.accept result) :=
  .now rfl

lemma ends_empty (semicolon : rest = [] ∨ rest = [.sym ';']) :
    (parser fnmatch host queue).Ends ⟨[(0, .none)], rest, true⟩ (.accept true) := by
  obtain rfl | rfl := semicolon
  · exact .next rfl (finish _ _)
  · exact .next rfl (.next rfl (finish _ _))

/-- How the parser ends after a requirement. -/
def settle : Except (Lalr.Outcome Bool) Bool → Lalr.Outcome Bool
  | .ok b => .accept b
  | .error out => out

lemma ends_expr (semicolon : rest = [] ∨ rest = [.sym ';']) (reads : Reads .expr e) :
    (parser fnmatch host queue).Ends ⟨[(0, .none)], e.tokens ++ rest, true⟩
      (settle (e.compute fnmatch host queue 1)) := by
  have does : (parser fnmatch host queue).Does ⟨[(0, .none)], e.tokens ++ rest, true⟩
      (e.compute fnmatch host queue 1) fun b => ⟨[(7, .bool b), (0, .none)], rest, true⟩ :=
    does_expr reads (by decide)
  cases computed : e.compute fnmatch host queue 1 with
  | error out =>
    rw [computed] at does
    exact does
  | ok n =>
    rw [computed] at does
    refine Parser.Reaches.ends does ?_
    obtain rfl | rfl := semicolon
    · exact .next rfl (finish _ _)
    · exact .next rfl (.next rfl (finish _ _))

end Run

section Answer

variable {fnmatch : String → String → Bool} {host : Host} {queue : Int} {e : Expr} {reqs : List Char}
  {semicolon : List Token}

lemma check_reqs_of {out : Lalr.Outcome Bool}
    (ends : (parser fnmatch host queue).Ends ⟨[(0, .none)], scan reqs, true⟩ out) :
    gw_host_check_reqs fnmatch (some host) queue (some reqs) = answer out := by
  rw [gw_host_check_reqs, Certificate.parse_of_ends checked coded ends]
  rfl

/-- A requirement has its value for an answer. -/
lemma reqs_expr (reads : Reads .expr e) (shallow : e.depth < 9999)
    (ends : semicolon = [] ∨ semicolon = [.sym ';']) (scanned : scan reqs = e.tokens ++ semicolon) :
    gw_host_check_reqs fnmatch (some host) queue (some reqs) = e.value fnmatch host queue := by
  have ran : (parser fnmatch host queue).Ends _ _ := ends_expr ends reads
  rw [← scanned, compute_value (by omega)] at ran
  rw [check_reqs_of ran]
  cases e.value fnmatch host queue with
  | none => rfl
  | some b => rfl

lemma reqs_empty (ends : scan reqs = [] ∨ scan reqs = [.sym ';']) :
    gw_host_check_reqs fnmatch (some host) queue (some reqs) = some true :=
  check_reqs_of (ends_empty ends)

/-- For what is no statement no queue is a candidate. -/
lemma reqs_other (other : ¬Statement (scan reqs)) :
    gw_host_check_reqs fnmatch (some host) queue (some reqs) ≠ some true := by
  obtain ⟨out, parsed⟩ := Certificate.total checked coded (P := parser fnmatch host queue) .none true (scan reqs)
  rw [gw_host_check_reqs, parsed]
  cases out with
  | accept result => exact absurd (accepted_statement parsed) other
  | abort | exhausted | undefined => exact fun same => by cases same

end Answer

end Reqs

open Reqs in
/-- Requirements are evaluated as they are read. The answer for a requirement that is laid out with
blanks, with a semicolon or without, is its value; without a requirement every queue is a candidate;
and for a text that is no requirement no queue is one. -/
theorem reqs_evaluated (fnmatch : String → String → Bool) (host : Host) (queue : Int) (reqs : List Char) :
    (∀ e semicolon, Reads .expr e → e.depth < 9999 → (semicolon = [] ∨ semicolon = [.sym ';']) →
      Layout (e.tokens ++ semicolon) reqs →
      gw_host_check_reqs fnmatch (some host) queue (some reqs) = e.value fnmatch host queue) ∧
    (Layout [] reqs ∨ Layout [.sym ';'] reqs →
      gw_host_check_reqs fnmatch (some host) queue (some reqs) = some true) ∧
    (¬Statement (scan reqs) → gw_host_check_reqs fnmatch (some host) queue (some reqs) ≠ some true) := by
  refine ⟨fun e semicolon reads shallow ends layout => ?_, fun empty => ?_, fun other => reqs_other other⟩
  · exact reqs_expr reads shallow ends (scan_layout layout)
  · exact reqs_empty (empty.imp scan_layout scan_layout)

end GridWay.Im
