import GridWay.Lib.Scan
import Mathlib.Data.List.TakeWhile

/-!
# Generated scanners

A scanner has rules for each of its start conditions. At each step the rule with the longest match
is taken, the first one of these; a character that no rule matches is echoed. The action of a rule
changes a state or makes the scanner return. A return leaves the rest of the text unread, and the
start condition as it is.

* `Pattern`: a pattern, with the proof that it splits the text.
* `Lexer.run`: the scanner with fuel.
* `Lexer.Runs`: what it returns, with one rule for each way to go on.
* `Lexer.total`: a scanner whose rules match something returns.
* `Lexer.run_inv`, `Lexer.run_sim`: invariants of the actions, and actions that follow others.
-/

namespace GridWay.Lex

/-- The longest text that is matched at the start, and the rest. -/
structure Pattern where
  find : List Char → Option (List Char × List Char)
  splits : ∀ cs x y, find cs = some (x, y) → cs = x ++ y

namespace Pattern

/-- A character of a class. -/
def one (p : Char → Bool) : Pattern where
  find
    | [] => none
    | c :: cs => if p c then some ([c], cs) else none
  splits cs x y found := by
    cases cs with
    | nil => cases found
    | cons c cs =>
      obtain ⟨-, eq⟩ := Option.ite_none_right_eq_some.1 found
      cases eq
      rfl

/-- Characters of a class, as many as there are. -/
def many (p : Char → Bool) : Pattern where
  find cs := some (cs.takeWhile p, cs.dropWhile p)
  splits cs x y found := by
    cases found
    exact List.takeWhile_append_dropWhile.symm

/-- A word. -/
def word (w : List Char) : Pattern where
  find cs := if w.isPrefixOf cs then some (w, cs.drop w.length) else none
  splits cs x y found := by
    obtain ⟨front, eq⟩ := Option.ite_none_right_eq_some.1 found
    cases eq
    obtain ⟨rest, rfl⟩ := List.isPrefixOf_iff_prefix.1 front
    rw [List.drop_left]

/-- One pattern after the other. -/
def seq (a b : Pattern) : Pattern where
  find cs := (a.find cs).bind fun u => (b.find u.2).map fun v => (u.1 ++ v.1, v.2)
  splits cs x y found := by
    obtain ⟨u, first, found⟩ := Option.bind_eq_some_iff.1 found
    obtain ⟨v, second, eq⟩ := Option.map_eq_some_iff.1 found
    cases eq
    rw [a.splits _ _ _ first, b.splits _ _ _ second, List.append_assoc]

/-- A pattern, or nothing. -/
def opt (a : Pattern) : Pattern where
  find cs := (a.find cs).or (some ([], cs))
  splits cs x y found := by
    cases here : a.find cs with
    | none =>
      rw [here] at found
      cases found
      rfl
    | some u =>
      rw [here] at found
      cases found
      exact a.splits _ _ _ here

/-- One pattern or the other. -/
def alt (a b : Pattern) : Pattern where
  find cs := (a.find cs).or (b.find cs)
  splits cs x y found := by
    cases here : a.find cs with
    | none =>
      rw [here] at found
      exact b.splits _ _ _ found
    | some u =>
      rw [here] at found
      cases found
      exact a.splits _ _ _ here

/-- A character of a class, and more of them. -/
def many1 (p : Char → Bool) : Pattern := (one p).seq (many p)

end Pattern

/-- The rules of each start condition, and the start condition after each rule. -/
structure Lexer (S R : Type) where
  rules : S → List (Pattern × R)
  goto : S → R → S

/-- A text with its rule; a character that no rule matches has none. -/
structure Token (R : Type) where
  rule : Option R
  text : List Char
deriving DecidableEq, Repr

/-- How a scanner ends: with the text, or with a return that leaves a rest. -/
inductive End (S σ ε : Type) where
  | eof (start : S) (state : σ)
  | stop (start : S) (rest : List Char) (value : ε)
deriving DecidableEq, Repr

variable {S R σ ε : Type}

/-- The first rule with the longest match. -/
def longest : List (Pattern × R) → List Char → Option (R × List Char × List Char)
  | [], _ => none
  | (p, r) :: rules, cs =>
    match p.find cs, longest rules cs with
    | some (x, y), some (r', x', y') => if x.length < x'.length then some (r', x', y') else some (r, x, y)
    | some (x, y), none => some (r, x, y)
    | none, later => later

namespace Lexer

variable (L : Lexer S R)

/-- The next token, the start condition after it, and the rest. -/
def step (s : S) : List Char → Option (Token R × S × List Char)
  | [] => none
  | c :: cs =>
    match longest (L.rules s) (c :: cs) with
    | some (r, x, y) => some (⟨some r, x⟩, L.goto s r, y)
    | none => some (⟨none, [c]⟩, s, cs)

/-- The action of a token. A character that is echoed changes nothing. -/
def perform (act : R → List Char → σ → Except ε σ) (token : Token R) (st : σ) : Except ε σ :=
  match token.rule with
  | some r => act r token.text st
  | none => .ok st

/-- The scanner; `none` when there is no fuel left. -/
def run (act : R → List Char → σ → Except ε σ) : ℕ → S → σ → List Char → Option (End S σ ε)
  | 0, _, _, _ => none
  | fuel + 1, s, st, cs =>
    match L.step s cs with
    | none => some (.eof s st)
    | some (token, s', rest) =>
      match perform act token st with
      | .ok st' => run act fuel s' st' rest
      | .error e => some (.stop s rest e)

/-- The scanner ends with a value. -/
def Runs (act : R → List Char → σ → Except ε σ) (s : S) (st : σ) (cs : List Char)
    (out : End S σ ε) : Prop :=
  ∃ fuel, L.run act fuel s st cs = some out

end Lexer

namespace Pattern

/-- A pattern matches something. -/
def Productive (p : Pattern) : Prop := ∀ cs x y, p.find cs = some (x, y) → x ≠ []

variable {p : Char → Bool} {a b : Pattern} {w : List Char}

lemma one_productive : (one p).Productive := by
  intro cs x y found
  cases cs with
  | nil => cases found
  | cons c cs =>
    obtain ⟨-, eq⟩ := Option.ite_none_right_eq_some.1 found
    cases eq
    exact List.cons_ne_nil _ _

lemma word_productive (some_letter : w ≠ []) : (word w).Productive := by
  intro cs x y found
  obtain ⟨-, eq⟩ := Option.ite_none_right_eq_some.1 found
  cases eq
  exact some_letter

lemma seq_productive (either : a.Productive ∨ b.Productive) : (a.seq b).Productive := by
  intro cs x y found
  obtain ⟨u, first, found⟩ := Option.bind_eq_some_iff.1 found
  obtain ⟨v, second, eq⟩ := Option.map_eq_some_iff.1 found
  cases eq
  intro empty
  obtain ⟨left, right⟩ := List.append_eq_nil_iff.1 empty
  obtain productive | productive := either
  · exact productive _ _ _ first left
  · exact productive _ _ _ second right

lemma alt_productive (left : a.Productive) (right : b.Productive) : (a.alt b).Productive := by
  intro cs x y found
  obtain first | ⟨-, second⟩ := Option.or_eq_some_iff.1 found
  · exact left _ _ _ first
  · exact right _ _ _ second

lemma many1_productive : (many1 p).Productive := seq_productive (.inl one_productive)

end Pattern

section Longest

variable {rules before after : List (Pattern × R)} {p : Pattern} {r : R} {cs x y : List Char}

/-- The rule that is taken matches. -/
lemma longest_mem (found : longest rules cs = some (r, x, y)) : ∃ p,
    (p, r) ∈ rules ∧ p.find cs = some (x, y) := by
  induction rules with
  | nil => cases found
  | cons e rules ih =>
    obtain ⟨p, r'⟩ := e
    have later (found : longest rules cs = some (r, x, y)) :
        ∃ q, (q, r) ∈ (p, r') :: rules ∧ q.find cs = some (x, y) := by
      obtain ⟨q, mem, matched⟩ := ih found
      exact ⟨q, List.mem_cons_of_mem _ mem, matched⟩
    rw [longest] at found
    split at found
    case h_1 u v r'' u' v' here there =>
      split at found
      · cases found
        exact later there
      · cases found
        exact ⟨p, List.mem_cons_self, here⟩
    case h_2 u v here there =>
      cases found
      exact ⟨p, List.mem_cons_self, here⟩
    case h_3 here => exact later found

lemma longest_splits (found : longest rules cs = some (r, x, y)) : cs = x ++ y := by
  obtain ⟨p, -, matched⟩ := longest_mem found
  exact p.splits _ _ _ matched

/-- No rule matches when none is taken. -/
lemma longest_none (found : longest rules cs = none) : ∀ q ∈ rules, ∀ z, z ∉ q.1.find cs := by
  induction rules with
  | nil => exact fun q mem => absurd mem List.not_mem_nil
  | cons e rules ih =>
    obtain ⟨p, r'⟩ := e
    intro q mem z matched
    rw [longest] at found
    split at found
    case h_1 =>
      split at found
      · cases found
      · cases found
    case h_2 => cases found
    case h_3 here =>
      obtain rfl | later := List.mem_cons.1 mem
      · rw [Option.mem_def, here] at matched
        cases matched
      · exact ih found q later z matched

/-- No rule matches more than the one that is taken. -/
lemma longest_max (found : longest rules cs = some (r, x, y)) :
    ∀ q ∈ rules, ∀ z ∈ q.1.find cs, z.1.length ≤ x.length := by
  induction rules generalizing r x y with
  | nil => cases found
  | cons e rules ih =>
    obtain ⟨p, r'⟩ := e
    intro q mem z matched
    rw [longest] at found
    split at found
    case h_1 u v r'' u' v' here there =>
      obtain rfl | later := List.mem_cons.1 mem
      · rw [Option.mem_def, here] at matched
        cases matched
        split at found
        case isTrue longer =>
          cases found
          exact Nat.le_of_lt longer
        case isFalse =>
          cases found
          exact Nat.le_refl _
      · have bound := ih there q later z matched
        split at found
        case isTrue =>
          cases found
          exact bound
        case isFalse shorter =>
          cases found
          exact Nat.le_trans bound (Nat.not_lt.1 shorter)
    case h_2 u v here there =>
      cases found
      obtain rfl | later := List.mem_cons.1 mem
      · rw [Option.mem_def, here] at matched
        cases matched
        exact Nat.le_refl _
      · exact absurd matched (longest_none there q later z)
    case h_3 here =>
      obtain rfl | later := List.mem_cons.1 mem
      · rw [Option.mem_def, here] at matched
        cases matched
      · exact ih found q later z matched

/-- Rules that are not longer do not hide the ones before them. -/
lemma longest_short (short : ∀ q ∈ after, ∀ z ∈ q.1.find cs, z.1.length ≤ x.length) (r' : R)
    (x' y' : List Char) (found : longest after cs = some (r', x', y')) : x'.length ≤ x.length := by
  obtain ⟨q, mem, matched⟩ := longest_mem found
  exact short (q, r') mem (x', y') matched

/-- A rule is taken when the rules before it match less, and those after it do not match more. -/
lemma longest_of (split : rules = before ++ (p, r) :: after) (here : p.find cs = some (x, y))
    (early : ∀ q ∈ before, ∀ z ∈ q.1.find cs, z.1.length < x.length)
    (late : ∀ q ∈ after, ∀ z ∈ q.1.find cs, z.1.length ≤ x.length) : longest rules cs = some (r, x, y) := by
  subst split
  induction before with
  | nil =>
    rw [List.nil_append, longest, here]
    cases found : longest after cs with
    | none => rfl
    | some e =>
      obtain ⟨r', x', y'⟩ := e
      exact if_neg (Nat.not_lt.2 (longest_short late r' x' y' found))
  | cons e before ih =>
    obtain ⟨q, r'⟩ := e
    have later := ih fun q mem => early q (List.mem_cons_of_mem _ mem)
    rw [List.cons_append, longest, later]
    cases found : q.find cs with
    | none => rfl
    | some z => exact if_pos (early (q, r') List.mem_cons_self z found)

/-- Rules that do not match are skipped. -/
lemma longest_skip (hidden : ∀ q ∈ before, q.1.find cs = none) :
    longest (before ++ after) cs = longest after cs := by
  induction before with
  | nil => rfl
  | cons e before ih =>
    obtain ⟨q, r'⟩ := e
    have here : q.find cs = none := hidden (q, r') List.mem_cons_self
    rw [List.cons_append, longest, here, ih fun q mem => hidden q (List.mem_cons_of_mem _ mem)]

/-- A rule is taken when the ones before it do not match, and the ones after it match no more. -/
lemma longest_past (split : rules = before ++ (p, r) :: after) (hidden : ∀ q ∈ before, q.1.find cs = none)
    (here : p.find cs = some (x, y)) (late : ∀ q ∈ after, ∀ z ∈ q.1.find cs, z.1.length ≤ x.length) :
    longest rules cs = some (r, x, y) := by
  rw [split, longest_skip hidden]
  exact longest_of (List.nil_append _).symm here (fun q mem => absurd mem List.not_mem_nil) late

end Longest

/-- Characters of a class are matched up to one that is not of it. -/
lemma Pattern.many_find {p : Char → Bool} {x rest : List Char} (all : ∀ c ∈ x, p c = true)
    (apart : ∀ c ∈ rest.head?, p c = false) : (many p).find (x ++ rest) = some (x, rest) := by
  have stop : rest.takeWhile p = [] ∧ rest.dropWhile p = rest := by
    cases rest with
    | nil => exact ⟨rfl, rfl⟩
    | cons c rest =>
      have other : ¬p c = true := by
        rw [apart c rfl]
        exact Bool.false_ne_true
      exact ⟨List.takeWhile_cons_of_neg other, List.dropWhile_cons_of_neg other⟩
  show some ((x ++ rest).takeWhile p, (x ++ rest).dropWhile p) = _
  rw [List.takeWhile_append_of_pos all, List.dropWhile_append_of_pos all, stop.1, stop.2, List.append_nil]

lemma Pattern.many1_find {p : Char → Bool} {x rest : List Char} (some_char : x ≠ [])
    (all : ∀ c ∈ x, p c = true) (apart : ∀ c ∈ rest.head?, p c = false) :
    (many1 p).find (x ++ rest) = some (x, rest) := by
  cases x with
  | nil => exact absurd rfl some_char
  | cons c x =>
    show ((if p c = true then some ([c], x ++ rest) else none).bind fun u =>
      ((many p).find u.2).map fun v => (u.1 ++ v.1, v.2)) = _
    rw [if_pos (all c List.mem_cons_self), Option.bind_some,
      many_find (fun d mem => all d (List.mem_cons_of_mem _ mem)) apart]
    rfl

/-- A check of the characters of a text. -/
lemma forall_chars {p : Char → Prop} [DecidablePred p] {x : List Char} (all : (x.all fun c => p c) = true) :
    ∀ c ∈ x, p c := by
  intro c mem
  exact of_decide_eq_true (List.all_eq_true.1 all c mem)

namespace Pattern

variable {p : Char → Bool} {a b : Pattern} {cs ys x y rest : List Char}

lemma seq_find (first : a.find cs = some (x, ys)) (second : b.find ys = some (y, rest)) :
    (a.seq b).find cs = some (x ++ y, rest) := by
  show (a.find cs).bind _ = _
  rw [first, Option.bind_some, second]
  rfl

lemma seq_hidden (first : a.find cs = some (x, ys)) (second : b.find ys = none) : (a.seq b).find cs = none := by
  show (a.find cs).bind _ = _
  rw [first, Option.bind_some, second]
  rfl

lemma seq_hidden_left (first : a.find cs = none) : (a.seq b).find cs = none := by
  show (a.find cs).bind _ = _
  rw [first]
  rfl

lemma one_hidden (apart : ∀ c ∈ cs.head?, p c = false) : (one p).find cs = none := by
  cases cs with
  | nil => rfl
  | cons c cs => exact if_neg (by rw [apart c rfl]; exact Bool.false_ne_true)

lemma word_find (w : List Char) : (word w).find (w ++ rest) = some (w, rest) := by
  show (if w.isPrefixOf (w ++ rest) = true then some (w, (w ++ rest).drop w.length) else none) = _
  rw [if_pos (List.isPrefixOf_iff_prefix.2 (List.prefix_append _ _)), List.drop_left]

/-- A word that comes first in characters of a class and what follows comes first in these characters. -/
lemma word_prefix {w : List Char} (all : ∀ c ∈ w, p c = true) (apart : ∀ c ∈ rest.head?, p c = false)
    {z : List Char × List Char} (found : (word w).find (x ++ rest) = some z) : z.1 = w ∧ w <+: x := by
  obtain ⟨front, eq⟩ := Option.ite_none_right_eq_some.1 found
  refine ⟨congrArg Prod.fst (Option.some.inj eq).symm, ?_⟩
  obtain ⟨behind, same⟩ := List.isPrefixOf_iff_prefix.1 front
  obtain ⟨more, eq, -⟩ | ⟨more, eq, rest_eq⟩ := List.append_eq_append_iff.1 same
  · exact ⟨more, eq.symm⟩
  · cases more with
    | nil => exact ⟨[], by rw [eq]; simp⟩
    | cons c more =>
      have char := all c (by rw [eq]; simp)
      rw [apart c (by rw [rest_eq]; rfl)] at char
      cases char

/-- A pattern does not match a character. -/
def Avoids (a : Pattern) (c : Char) : Prop := ∀ cs x y, a.find cs = some (x, y) → c ∉ x

lemma one_avoids {c : Char} (other : p c = false) : (one p).Avoids c := by
  intro cs x y found mem
  cases cs with
  | nil => cases found
  | cons d cs =>
    obtain ⟨here, eq⟩ := Option.ite_none_right_eq_some.1 found
    cases eq
    obtain rfl := List.mem_singleton.1 mem
    rw [other] at here
    cases here

lemma many_avoids {c : Char} (other : p c = false) : (many p).Avoids c := by
  intro cs x y found mem
  cases found
  rw [List.mem_takeWhile_imp mem] at other
  cases other

lemma seq_avoids {c : Char} (left : a.Avoids c) (right : b.Avoids c) : (a.seq b).Avoids c := by
  intro cs x y found mem
  obtain ⟨u, first, found⟩ := Option.bind_eq_some_iff.1 found
  obtain ⟨v, second, eq⟩ := Option.map_eq_some_iff.1 found
  cases eq
  obtain mem | mem := List.mem_append.1 mem
  · exact left _ _ _ first mem
  · exact right _ _ _ second mem

lemma alt_avoids {c : Char} (left : a.Avoids c) (right : b.Avoids c) : (a.alt b).Avoids c := by
  intro cs x y found mem
  obtain first | ⟨-, second⟩ := Option.or_eq_some_iff.1 found
  · exact left _ _ _ first mem
  · exact right _ _ _ second mem

lemma word_avoids {c : Char} {w : List Char} (other : c ∉ w) : (word w).Avoids c := by
  intro cs x y found mem
  obtain ⟨-, eq⟩ := Option.ite_none_right_eq_some.1 found
  cases eq
  exact other mem

/-- What a pattern matches ends in front of a character that it does not match. -/
lemma Avoids.short {c : Char} (avoids : a.Avoids c) {z : List Char × List Char}
    (found : a.find (x ++ c :: rest) = some z) : z.1.length ≤ x.length := by
  have whole := a.splits _ _ _ found
  obtain ⟨more, eq, back⟩ | ⟨more, eq, -⟩ := List.append_eq_append_iff.1 whole
  · cases more with
    | nil => rw [eq, List.append_nil]
    | cons d more =>
      obtain rfl : c = d := (List.cons.inj back).1
      exact absurd (eq ▸ List.mem_append_right x List.mem_cons_self) (avoids _ _ _ found)
  · rw [eq, List.length_append]
    exact Nat.le_add_right _ _

end Pattern

namespace Lexer

variable {L : Lexer S R} {act : R → List Char → σ → Except ε σ} {s s' : S} {st st' : σ}
  {cs rest : List Char}
  {token : Token R} {out out' : End S σ ε} {e : ε}

lemma run_mono {fuel fuel' : ℕ} (le : fuel ≤ fuel') (ran : L.run act fuel s st cs = some out) :
    L.run act fuel' s st cs = some out := by
  induction fuel generalizing fuel' s st cs with
  | zero => cases ran
  | succ fuel ih =>
    obtain ⟨fuel', rfl⟩ :=
      Nat.exists_eq_add_of_le' (Nat.le_trans (Nat.succ_le_succ (Nat.zero_le fuel)) le)
    rw [run] at ran ⊢
    split at ran
    · exact ran
    · split at ran
      · exact ih (Nat.succ_le_succ_iff.1 le) ran
      · exact ran

/-- A scanner has one end. -/
lemma Runs.unique (ran : L.Runs act s st cs out) (ran' : L.Runs act s st cs out') : out = out' := by
  obtain ⟨fuel, ran⟩ := ran
  obtain ⟨fuel', ran'⟩ := ran'
  have both := run_mono (Nat.le_max_left fuel fuel') ran
  rw [run_mono (Nat.le_max_right fuel fuel') ran'] at both
  exact (Option.some.inj both).symm

lemma Runs.eof : L.Runs act s st [] (.eof s st) := ⟨1, rfl⟩

/-- A token whose action goes on. -/
lemma Runs.next (stepped : L.step s cs = some (token, s', rest))
    (acted : perform act token st = .ok st')
    (ran : L.Runs act s' st' rest out) : L.Runs act s st cs out := by
  obtain ⟨fuel, ran⟩ := ran
  refine ⟨fuel + 1, ?_⟩
  rw [run, stepped]
  show (match perform act token st with
    | .ok st' => L.run act fuel s' st' rest
    | .error e => some (.stop s rest e)) = _
  rw [acted]
  exact ran

/-- A token whose action returns. -/
lemma Runs.stop (stepped : L.step s cs = some (token, s', rest))
    (acted : perform act token st = .error e) :
    L.Runs act s st cs (.stop s rest e) := by
  refine ⟨1, ?_⟩
  rw [run, stepped]
  show (match perform act token st with
    | .ok st' => L.run act 0 s' st' rest
    | .error e => some (.stop s rest e)) = _
  rw [acted]

/-- Each rule matches something. -/
def Consumes (L : Lexer S R) : Prop :=
  ∀ s c cs r x y, longest (L.rules s) (c :: cs) = some (r, x, y) → x ≠ []

/-- A token takes something of the text. -/
lemma step_length (consumes : L.Consumes) (stepped : L.step s cs = some (token, s', rest)) :
    token.text ≠ [] ∧ cs = token.text ++ rest := by
  cases cs with
  | nil => cases stepped
  | cons c cs =>
    rw [step] at stepped
    split at stepped
    case h_1 r x y found =>
      cases stepped
      exact ⟨consumes _ _ _ _ _ _ found, longest_splits found⟩
    case h_2 =>
      cases stepped
      exact ⟨List.cons_ne_nil _ _, rfl⟩

/-- A scanner whose rules match something comes to an end. -/
theorem total (consumes : L.Consumes) (s : S) (st : σ) (cs : List Char) :
    ∃ out, L.run act (cs.length + 1) s st cs = some out := by
  suffices ∀ n, cs.length ≤ n → ∃ out, L.run act (n + 1) s st cs = some out from this _ (Nat.le_refl _)
  intro n short
  induction n generalizing s st cs with
  | zero =>
    obtain rfl := List.length_eq_zero_iff.1 (Nat.le_zero.1 short)
    exact ⟨.eof s st, rfl⟩
  | succ n ih =>
    rw [run]
    split
    case h_1 => exact ⟨_, rfl⟩
    case h_2 token s' rest stepped =>
      obtain ⟨some_text, split⟩ := step_length consumes stepped
      split
      · apply ih
        have length := congrArg List.length split
        rw [List.length_append] at length
        have some_length := List.length_pos_iff.2 some_text
        omega
      · exact ⟨_, rfl⟩

/-- The actions that are carried out meet a condition on the rule, its text and the state. -/
def along (L : Lexer S R) (act : R → List Char → σ → Except ε σ) (ok : R → List Char → σ → Bool) :
    ℕ → S → σ → List Char → Bool
  | 0, _, _, _ => true
  | fuel + 1, s, st, cs =>
    match L.step s cs with
    | none => true
    | some (token, s', rest) =>
      token.rule.all (fun r => ok r token.text st) &&
        match perform act token st with
        | .ok st' => along L act ok fuel s' st' rest
        | .error _ => true

/-- A rule of a start condition. -/
def Has (L : Lexer S R) (s : S) (r : R) : Prop := ∃ p, (p, r) ∈ L.rules s

/-- A token is echoed, or it has a rule of the start condition. -/
lemma step_rule (stepped : L.step s cs = some (token, s', rest)) :
    (∃ r, token.rule = some r ∧ s' = L.goto s r ∧ L.Has s r) ∨ token.rule = none ∧ s' = s := by
  cases cs with
  | nil => cases stepped
  | cons c cs =>
    rw [step] at stepped
    split at stepped
    case h_1 r x y found =>
      cases stepped
      obtain ⟨p, mem, -⟩ := longest_mem found
      exact .inl ⟨r, rfl, rfl, p, mem⟩
    case h_2 =>
      cases stepped
      exact .inr ⟨rfl, rfl⟩

/-- The longest match is the next token. -/
lemma step_longest {r : R} {x y : List Char} (some_char : cs ≠ [])
    (found : longest (L.rules s) cs = some (r, x, y)) : L.step s cs = some (⟨some r, x⟩, L.goto s r, y) := by
  cases cs with
  | nil => exact absurd rfl some_char
  | cons c cs => rw [step, found]

/-- A scanner comes from one place of a text to another. -/
def Leads (L : Lexer S R) (act : R → List Char → σ → Except ε σ) (s : S) (st : σ) (cs : List Char) (s' : S)
    (st' : σ) (rest : List Char) : Prop :=
  ∀ out, L.Runs act s' st' rest out → L.Runs act s st cs out

namespace Leads

variable {s'' : S} {st'' : σ} {rest' : List Char}

lemma refl : L.Leads act s st cs s st cs := fun _ ran => ran

lemma trans (first : L.Leads act s st cs s' st' rest) (second : L.Leads act s' st' rest s'' st'' rest') :
    L.Leads act s st cs s'' st'' rest' :=
  fun out ran => first out (second out ran)

/-- The rule with the longest match is performed. -/
lemma rule {r : R} {x : List Char} (some_char : cs ≠ []) (found : longest (L.rules s) cs = some (r, x, rest))
    (acted : act r x st = .ok st') : L.Leads act s st cs (L.goto s r) st' rest :=
  fun _ ran => Runs.next (step_longest some_char found) acted ran

end Leads

/-- The text of a token is matched by its rule. -/
lemma step_matched {r : R} (stepped : L.step s cs = some (token, s', rest))
    (ruled : token.rule = some r) :
    ∃ p, (p, r) ∈ L.rules s ∧ p.find cs = some (token.text, rest) := by
  cases cs with
  | nil => cases stepped
  | cons c cs =>
    rw [step] at stepped
    split at stepped
    case h_1 r' x y found =>
      cases stepped
      cases ruled
      exact longest_mem found
    case h_2 =>
      cases stepped
      cases ruled

section Runs

variable {ok : R → List Char → σ → Bool} {fuel : ℕ}

/-- A condition that every match meets. -/
lemma along_of (each : ∀ s r p cs x y st, (p, r) ∈ L.rules s → p.find cs = some (x, y) → ok r x st = true) :
    L.along act ok fuel s st cs = true := by
  induction fuel generalizing s st cs with
  | zero => rfl
  | succ fuel ih =>
    rw [along]
    split
    case h_1 => rfl
    case h_2 token s' rest stepped =>
      refine Bool.and_eq_true_iff.2 ⟨?_, ?_⟩
      · cases ruled : token.rule with
        | none => rfl
        | some r =>
          obtain ⟨p, mem, matched⟩ := step_matched stepped ruled
          exact each _ _ _ _ _ _ _ mem matched
      · split
        · exact ih
        · rfl

/-- What actions preserve holds at the end. -/
theorem run_inv {Inv : S → σ → Prop} {Bad : ε → Prop}
    (kept : ∀ s r x st st', L.Has s r → Inv s st → ok r x st = true → act r x st = .ok st' →
      Inv (L.goto s r) st')
    (left : ∀ s r x st e, L.Has s r → Inv s st → ok r x st = true → act r x st = .error e → Bad e)
    (inv : Inv s st) (allowed : L.along act ok fuel s st cs = true) (ran : L.run act fuel s st cs = some out) :
    (∃ s₁ st₁, out = .eof s₁ st₁ ∧ Inv s₁ st₁) ∨ ∃ s₁ rest e, out = .stop s₁ rest e ∧ Bad e := by
  induction fuel generalizing s st cs with
  | zero => cases ran
  | succ fuel ih =>
    rw [along] at allowed
    rw [run] at ran
    split at ran
    case h_1 =>
      cases ran
      exact .inl ⟨s, st, rfl, inv⟩
    case h_2 token s' rest stepped =>
      rw [stepped] at allowed
      obtain ⟨here, later⟩ := Bool.and_eq_true_iff.1 allowed
      obtain ⟨r, ruled, rfl, has⟩ | ⟨echoed, rfl⟩ := step_rule stepped
      · rw [ruled] at here
        have acted : perform act token st = act r token.text st := by rw [perform, ruled]
        rw [acted] at ran later
        cases result : act r token.text st with
        | ok st' =>
          rw [result] at ran later
          exact ih (kept _ _ _ _ _ has inv here result) later ran
        | error e =>
          rw [result] at ran
          cases ran
          exact .inr ⟨_, _, e, rfl, left _ _ _ _ _ has inv here result⟩
      · have acted : perform act token st = .ok st := by rw [perform, echoed]
        rw [acted] at ran later
        exact ih inv later ran

variable {τ δ : Type} {act' : R → List Char → τ → Except δ τ} {Rel : S → σ → τ → Prop} {st₂ : τ}
  {s₁ : S}

/-- Actions that are followed lead to an end that is related. -/
theorem run_sim
    (follows : ∀ s r x st st₁ st', L.Has s r → Rel s st st' → ok r x st = true → act r x st = .ok st₁ →
      ∃ st₂, act' r x st' = .ok st₂ ∧ Rel (L.goto s r) st₁ st₂)
    (rel : Rel s st st₂) (allowed : L.along act ok fuel s st cs = true)
    (ran : L.run act fuel s st cs = some (.eof s₁ st')) :
    ∃ st₃, L.run act' fuel s st₂ cs = some (.eof s₁ st₃) ∧ Rel s₁ st' st₃ := by
  induction fuel generalizing s st st₂ cs with
  | zero => cases ran
  | succ fuel ih =>
    rw [along] at allowed
    rw [run] at ran ⊢
    split at ran
    case h_1 =>
      cases ran
      exact ⟨st₂, rfl, rel⟩
    case h_2 token s' rest stepped =>
      rw [stepped] at allowed
      obtain ⟨here, later⟩ := Bool.and_eq_true_iff.1 allowed
      obtain ⟨r, ruled, rfl, has⟩ | ⟨echoed, rfl⟩ := step_rule stepped
      · rw [ruled] at here
        have acted : perform act token st = act r token.text st := by rw [perform, ruled]
        have acted' : perform act' token st₂ = act' r token.text st₂ := by rw [perform, ruled]
        rw [acted] at ran later
        cases result : act r token.text st with
        | ok st₁ =>
          rw [result] at ran later
          obtain ⟨st₃, result', rel'⟩ := follows _ _ _ _ _ _ has rel here result
          rw [acted', result']
          exact ih rel' later ran
        | error e =>
          rw [result] at ran
          cases ran
      · have acted : perform act token st = .ok st := by rw [perform, echoed]
        have acted' : perform act' token st₂ = .ok st₂ := by rw [perform, echoed]
        rw [acted] at ran later
        rw [acted']
        exact ih rel later ran

/-- A return that is followed leaves the same rest. -/
theorem run_sim_stop {Err : ε → δ → Prop} {rest : List Char}
    (follows : ∀ s r x st st₁ st', L.Has s r → Rel s st st' → ok r x st = true → act r x st = .ok st₁ →
      ∃ st₂, act' r x st' = .ok st₂ ∧ Rel (L.goto s r) st₁ st₂)
    (returns : ∀ s r x st e st', L.Has s r → Rel s st st' → ok r x st = true → act r x st = .error e →
      ∃ e', act' r x st' = .error e' ∧ Err e e')
    (rel : Rel s st st₂) (allowed : L.along act ok fuel s st cs = true)
    (ran : L.run act fuel s st cs = some (.stop s₁ rest e)) :
    ∃ e', L.run act' fuel s st₂ cs = some (.stop s₁ rest e') ∧ Err e e' := by
  induction fuel generalizing s st st₂ cs with
  | zero => cases ran
  | succ fuel ih =>
    rw [along] at allowed
    rw [run] at ran ⊢
    split at ran
    case h_1 => cases ran
    case h_2 token s' rest' stepped =>
      rw [stepped] at allowed
      obtain ⟨here, later⟩ := Bool.and_eq_true_iff.1 allowed
      obtain ⟨r, ruled, rfl, has⟩ | ⟨echoed, rfl⟩ := step_rule stepped
      · rw [ruled] at here
        have acted : perform act token st = act r token.text st := by rw [perform, ruled]
        have acted' : perform act' token st₂ = act' r token.text st₂ := by rw [perform, ruled]
        rw [acted] at ran later
        cases result : act r token.text st with
        | ok st₁ =>
          rw [result] at ran later
          obtain ⟨st₃, result', rel'⟩ := follows _ _ _ _ _ _ has rel here result
          rw [acted', result']
          exact ih rel' later ran
        | error e₁ =>
          rw [result] at ran
          cases ran
          obtain ⟨e', result', err⟩ := returns _ _ _ _ _ _ has rel here result
          rw [acted', result']
          exact ⟨e', rfl, err⟩
      · have acted : perform act token st = .ok st := by rw [perform, echoed]
        have acted' : perform act' token st₂ = .ok st₂ := by rw [perform, echoed]
        rw [acted] at ran later
        rw [acted']
        exact ih rel later ran

end Runs

end Lexer

end GridWay.Lex
