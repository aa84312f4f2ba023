import GridWay.Job.VarParser
import Mathlib.Data.List.TakeWhile
import Mathlib.Data.Nat.Digits.Defs

/-!
# Texts with variables

What `gw_job_substitute` is for: a text is a list of names and characters, and each name that is
known is replaced by its value. The array for the result has two characters for each one of the
text, and a name is cut off at a brace that is searched from behind it.

* `pieces`: the names and characters of a text.
* `expand`: the text with its names replaced.
* `substitute_exact`: the texts that are replaced as they should be.
-/

namespace GridWay.VarParser

open GridWay.Lex Pattern
open Rsl2 (number)

section Spec

/-- A name, or another character. -/
inductive Piece where
  | var (name : List Char)
  | char (c : Char)
deriving DecidableEq, Repr

def Piece.text : Piece → List Char
  | .var name => quoted name
  | .char c => [c]

/-- The first piece of a text, and the rest. A name has no brace. -/
def split : List Char → Option (Piece × List Char)
  | [] => none
  | c :: cs =>
    if ['$', '{'].isPrefixOf (c :: cs) ∧ '}' ∈ cs then
      some (.var ((cs.drop 1).takeWhile (· ≠ '}')), ((cs.drop 1).dropWhile (· ≠ '}')).drop 1)
    else some (.char c, cs)

/-- Pieces, each one with the text behind it. -/
def piecesFrom : ℕ → List Char → List (Piece × List Char)
  | 0, _ => []
  | n + 1, text =>
    match split text with
    | none => []
    | some (p, rest) => (p, rest) :: piecesFrom n rest

def pieces (text : List Char) : List (Piece × List Char) := piecesFrom text.length text

/-- The variable of every job that has a name. -/
def keyword (name : List Char) : Option Var := Var.all.find? fun v => v.keyword.toList = name

/-- The value of a variable; there is none when a pointer is not set. -/
def Var.value (job : Job) : Var → Option (List Char)
  | .ARRAY_ID => some (number job.array_id.toInt)
  | .JOB_ID => some (number job.id.toInt)
  | .TASK_ID => some (number job.task_id.toInt)
  | .TOTAL_TASKS => some (number job.total_tasks.toInt)
  | .ARCH => job.arch.map fun arch => (arch.map (·.1)).getD []
  | .PARAM =>
    some (number (if job.array_id ≠ -1 then job.pstart + job.pinc * job.task_id else 0).toInt)
  | .MAX_PARAM =>
    some (number
      (if job.array_id ≠ -1 then job.pstart + job.pinc * (job.total_tasks - 1) else 0).toInt)

/-- The value of a name of the environment; a name that is not there stays as it is. -/
def envValue (job : Job) (name : List Char) : Option (List Char) :=
  (jtp_var_env_search name job.environment).map fun
    | some val => (val.map (·.1)).getD []
    | none => quoted name

/-- What a piece is replaced by. -/
def Piece.value (job : Job) : Piece → Option (List Char)
  | .var name =>
    match keyword name with
    | some v => v.value job
    | none => envValue job name
  | .char c => some [c]

/-- Pieces, each one replaced. -/
def spell (f : Piece → Option (List Char)) : List (Piece × List Char) → Option (List Char)
  | [] => some []
  | q :: qs => (f q.1).bind fun x => (spell f qs).map (x ++ ·)

/-- The text with its names replaced. -/
def expand (job : Job) (text : List Char) : Option (List Char) :=
  spell (Piece.value job) (pieces text)

/-- A name that is searched in the environment. -/
def Piece.searched : Piece → Bool
  | .var name => (keyword name).isNone
  | .char _ => false

/-- No brace is the second or the third character behind a name that is searched. -/
def Apart (beyond : Char) (q : Piece × List Char) : Prop :=
  q.1.searched → '}' ∉ ((q.2 ++ [nul, nul, beyond]).take 3).drop 1

instance (beyond : Char) (q : Piece × List Char) : Decidable (Apart beyond q) :=
  inferInstanceAs (Decidable (_ → _))

/-- No name of the environment has a brace. -/
def Braceless (job : Job) : Prop := ∀ e ∈ job.environment, ∀ name ∈ e.1, '}' ∉ name.1

/-- A text without line feeds and with names that are apart from other braces, whose expansion is
shorter than its array. -/
structure Safe (beyond : Char) (job : Job) (text : List Char) : Prop where
  line : ∀ q ∈ pieces text, q.1 ≠ .char '\n'
  apart : ∀ q ∈ pieces text, Apart beyond q
  room : (expand job text).any fun out => out.length < 2 * text.length

/-- The call fails, or its result is the text with its names replaced. -/
def Exact (malloc : Bool) (beyond : Char) (job : Job) (var : Option CString) : Prop :=
  gw_job_substitute malloc beyond job var = some none ∨
    ∃ text ∈ var, ∃ out, expand job text.1 = some out ∧
      gw_job_substitute malloc beyond job var = some (some out)

end Spec

section Split

variable {name rest text : List Char} {c : Char}

lemma takeWhile_name (plain : '}' ∉ name) : (name ++ '}' :: rest).takeWhile (· ≠ '}') = name := by
  rw [List.takeWhile_append_of_pos]
  · simp
  · intro d mem
    refine decide_eq_true ?_
    rintro rfl
    exact plain mem

lemma dropWhile_name (plain : '}' ∉ name) :
    (name ++ '}' :: rest).dropWhile (· ≠ '}') = '}' :: rest := by
  rw [List.dropWhile_append_of_pos]
  · simp
  · intro d mem
    refine decide_eq_true ?_
    rintro rfl
    exact plain mem

lemma quoted_append : quoted name ++ rest = '$' :: '{' :: (name ++ '}' :: rest) := by
  rw [quoted, List.cons_append, List.cons_append, List.append_assoc]
  rfl

lemma length_quoted : (quoted name).length = name.length + 3 := by
  rw [quoted, List.length_cons, List.length_cons, List.length_append, List.length_singleton]

/-- A name in front. -/
lemma split_quoted (plain : '}' ∉ name) : split (quoted name ++ rest) = some (.var name, rest) := by
  have closed : '}' ∈ '{' :: (name ++ '}' :: rest) :=
    List.mem_cons_of_mem _ (List.mem_append_right _ List.mem_cons_self)
  rw [quoted_append, split, if_pos ⟨rfl, closed⟩, List.drop_one, List.tail_cons,
    takeWhile_name plain, dropWhile_name plain, List.drop_one, List.tail_cons]

/-- A character in front. -/
lemma split_char (bare : ∀ name rest', '}' ∉ name → c :: rest ≠ quoted name ++ rest') :
    split (c :: rest) = some (.char c, rest) := by
  rw [split, if_neg]
  rintro ⟨front, closed⟩
  obtain ⟨behind, eq⟩ := List.isPrefixOf_iff_prefix.1 front
  obtain ⟨rfl, rfl⟩ := List.cons.inj eq
  have closed : '}' ∈ behind := by simpa using closed
  obtain ⟨name, after, rfl, plain⟩ := List.eq_append_cons_of_mem closed
  exact bare name after plain quoted_append.symm

/-- A text is empty, or it starts with a name, or with another character. -/
lemma split_cases (text : List Char) :
    text = [] ∨ (∃ name rest, '}' ∉ name ∧ text = quoted name ++ rest) ∨
      ∃ c rest, text = c :: rest ∧ ∀ name rest', '}' ∉ name → c :: rest ≠ quoted name ++ rest' := by
  cases text with
  | nil => exact .inl rfl
  | cons c rest =>
    by_cases front : ∃ name rest', '}' ∉ name ∧ c :: rest = quoted name ++ rest'
    · exact .inr (.inl front)
    · refine .inr (.inr ⟨c, rest, rfl, ?_⟩)
      intro name rest' plain eq
      exact front ⟨name, rest', plain, eq⟩

lemma split_none (empty : split text = none) : text = [] := by
  obtain rfl | ⟨name, rest, plain, rfl⟩ | ⟨c, rest, rfl, bare⟩ := split_cases text
  · rfl
  · rw [split_quoted plain] at empty
    cases empty
  · rw [split_char bare] at empty
    cases empty

/-- The pieces are those of the text. -/
lemma pieces_text (text : List Char) : (pieces text).flatMap (fun q => q.1.text) = text := by
  suffices ∀ n, text.length ≤ n → (piecesFrom n text).flatMap (fun q => q.1.text) = text from
    this _ (Nat.le_refl _)
  intro n short
  induction n generalizing text with
  | zero =>
    obtain rfl := List.length_eq_zero_iff.1 (Nat.le_zero.1 short)
    rfl
  | succ n ih =>
    obtain rfl | ⟨name, rest, plain, rfl⟩ | ⟨c, rest, rfl, bare⟩ := split_cases text
    · rfl
    · rw [List.length_append, length_quoted] at short
      rw [piecesFrom, split_quoted plain]
      dsimp only
      rw [List.flatMap_cons, ih rest (by omega)]
      rfl
    · rw [List.length_cons] at short
      rw [piecesFrom, split_char bare]
      dsimp only
      rw [List.flatMap_cons, ih rest (by omega)]
      rfl

/-- The rest is a string, too. -/
lemma plain_rest {p : Piece} (plain : nul ∉ text) (first : split text = some (p, rest)) :
    nul ∉ rest := by
  obtain rfl | ⟨name, rest', bare, rfl⟩ | ⟨c, rest', rfl, bare⟩ := split_cases text
  · cases first
  · rw [split_quoted bare] at first
    cases first
    exact fun mem => plain (List.mem_append_right _ mem)
  · rw [split_char bare] at first
    cases first
    exact fun mem => plain (List.mem_cons_of_mem _ mem)

end Split

section Scanner

variable {name k rest x y : List Char} {c : Char} {v : Var}

/-- The rule for a name. -/
def ruleOf (name : List Char) : Rule := (keyword name).elim .other .var

lemma keyword_plain (v : Var) : '}' ∉ v.keyword.toList := by
  cases v <;> decide

lemma keyword_eq (found : keyword name = some v) : v.keyword.toList = name := by
  have same := List.find?_some found
  exact of_decide_eq_true same

/-- A word of the rules stands in front of a text that starts with its name. -/
lemma word_quoted (rest : List Char) (plain : '}' ∉ name) (bare : '}' ∉ k) :
    (word (quoted k)).find (quoted name ++ rest) =
      if k = name then some (quoted name, rest) else none := by
  have front : (quoted k).isPrefixOf (quoted name ++ rest) = true ↔ k = name := by
    rw [List.isPrefixOf_iff_prefix]
    constructor
    · rintro ⟨behind, eq⟩
      rw [quoted_append, quoted_append] at eq
      have inner := (List.cons.inj (List.cons.inj eq).2).2
      have words := congrArg (List.takeWhile (· ≠ '}')) inner
      rw [takeWhile_name bare, takeWhile_name plain] at words
      exact words
    · rintro rfl
      exact ⟨rest, rfl⟩
  rw [word]
  dsimp only
  by_cases same : k = name
  · subst same
    rw [if_pos (front.2 rfl), if_pos rfl, List.drop_left]
  · rw [if_neg (fun found => same (front.1 found)), if_neg same]

/-- The rule of the other names. -/
def nameRule : Pattern := ((word ['$', '{']).seq (many (· ≠ '}'))).seq (one (· = '}'))

lemma nameRule_quoted (plain : '}' ∉ name) :
    nameRule.find (quoted name ++ rest) = some (quoted name, rest) := by
  have first : (word ['$', '{']).find (quoted name ++ rest) =
      some (['$', '{'], name ++ '}' :: rest) := by
    rw [quoted_append]
    rfl
  have second : (many (· ≠ '}')).find (name ++ '}' :: rest) = some (name, '}' :: rest) := by
    rw [many]
    dsimp only
    rw [takeWhile_name plain, dropWhile_name plain]
  rw [nameRule, Pattern.seq]
  dsimp only
  rw [Pattern.seq]
  dsimp only
  rw [first, Option.bind_some, second]
  rfl

/-- What the rule matches is a name. -/
lemma nameRule_find {text : List Char} (found : nameRule.find text = some (x, y)) :
    ∃ name, '}' ∉ name ∧ text = quoted name ++ y := by
  obtain ⟨u, first, found⟩ := Option.bind_eq_some_iff.1 found
  obtain ⟨v, last, eq⟩ := Option.map_eq_some_iff.1 found
  cases eq
  obtain ⟨w, front, first⟩ := Option.bind_eq_some_iff.1 first
  obtain ⟨z, middle, eq⟩ := Option.map_eq_some_iff.1 first
  cases eq
  obtain ⟨-, eq⟩ := Option.ite_none_right_eq_some.1 front
  have whole := (word ['$', '{']).splits _ _ _ front
  cases eq
  cases middle
  dsimp only at last whole
  generalize text.drop ['$', '{'].length = behind at last whole
  have inner : behind = behind.takeWhile (· ≠ '}') ++ behind.dropWhile (· ≠ '}') :=
    List.takeWhile_append_dropWhile.symm
  cases dropped : behind.dropWhile (· ≠ '}') with
  | nil =>
    rw [dropped] at last
    cases last
  | cons d rest =>
    rw [dropped] at last inner
    obtain ⟨brace, eq⟩ := Option.ite_none_right_eq_some.1 last
    cases eq
    obtain rfl := of_decide_eq_true brace
    refine ⟨behind.takeWhile (· ≠ '}'), ?_, ?_⟩
    · intro mem
      have other := List.mem_takeWhile_imp mem
      exact of_decide_eq_true other rfl
    · rw [quoted_append, ← inner]
      exact whole

lemma rules_eq :
    rules = (Var.all.map fun v => (word (quoted v.keyword.toList), Rule.var v)) ++
      [(nameRule, .other), (one (· ≠ '\n'), .any)] := rfl

/-- The rule of a name that is not known to every job comes after the words. -/
lemma longest_quoted (rest : List Char) (plain : '}' ∉ name) :
    longest rules (quoted name ++ rest) = some (ruleOf name, quoted name, rest) := by
  have word_of (v : Var) := word_quoted rest plain (keyword_plain v)
  have late : ∀ q ∈ [(nameRule, Rule.other), (one (· ≠ '\n'), .any)],
      ∀ z ∈ q.1.find (quoted name ++ rest), z.1.length ≤ (quoted name).length := by
    intro q mem z found
    simp only [List.mem_cons, List.not_mem_nil, or_false] at mem
    obtain rfl | rfl := mem
    · rw [nameRule_quoted plain] at found
      cases found
      exact Nat.le_refl _
    · rw [quoted_append] at found
      cases found
      rw [length_quoted]
      exact Nat.le_add_left 1 _
  cases known : keyword name with
  | none =>
    have rule : ruleOf name = .other := by rw [ruleOf, known]; rfl
    rw [rule, rules_eq]
    refine longest_of rfl (nameRule_quoted plain) ?_ ?_
    · intro q mem z found
      obtain ⟨v, all, rfl⟩ := List.mem_map.1 mem
      have other := List.find?_eq_none.1 known v all
      rw [word_of, if_neg (of_decide_eq_false (Bool.not_eq_true _ ▸ other))] at found
      cases found
    · exact fun q mem => late q (List.mem_cons_of_mem _ mem)
  | some v =>
    have rule : ruleOf name = .var v := by rw [ruleOf, known]; rfl
    have here : (word (quoted v.keyword.toList)).find (quoted name ++ rest) =
        some (quoted name, rest) := by
      rw [word_of, if_pos (keyword_eq known)]
    obtain ⟨-, before, after, all, early⟩ := List.find?_eq_some_iff_append.1 known
    rw [rule, rules_eq, all, List.map_append, List.map_cons, List.append_assoc, List.cons_append]
    refine longest_of rfl here ?_ ?_
    · intro q mem z found
      obtain ⟨u, front, rfl⟩ := List.mem_map.1 mem
      have other := early u front
      rw [word_of, if_neg (by simpa using other)] at found
      cases found
    · intro q mem z found
      obtain mem | mem := List.mem_append.1 mem
      · obtain ⟨u, -, rfl⟩ := List.mem_map.1 mem
        rw [word_of] at found
        obtain ⟨-, eq⟩ := Option.ite_none_right_eq_some.1 found
        cases eq
        exact Nat.le_refl _
      · exact late q mem z found

/-- Names in front are tokens. -/
lemma step_quoted (plain : '}' ∉ name) :
    scanner.step () (quoted name ++ rest) = some (⟨some (ruleOf name), quoted name⟩, (), rest) := by
  have found := longest_quoted rest plain
  rw [quoted_append] at found ⊢
  rw [Lexer.step, show longest (scanner.rules ()) _ = _ from found]

/-- Other characters are tokens of their own; a line feed has no rule. -/
lemma step_char (bare : ∀ name rest', '}' ∉ name → c :: rest ≠ quoted name ++ rest') :
    scanner.step () (c :: rest) =
      some (⟨if c = '\n' then none else some .any, [c]⟩, (), rest) := by
  have words : ∀ q ∈ Var.all.map (fun v => (word (quoted v.keyword.toList), Rule.var v)) ++
      [(nameRule, .other)], ∀ z, z ∉ q.1.find (c :: rest) := by
    intro q mem z found
    obtain mem | mem := List.mem_append.1 mem
    · obtain ⟨v, -, rfl⟩ := List.mem_map.1 mem
      obtain ⟨front, -⟩ := Option.ite_none_right_eq_some.1 found
      obtain ⟨behind, eq⟩ := List.isPrefixOf_iff_prefix.1 front
      exact bare _ behind (keyword_plain v) eq.symm
    · obtain rfl := List.mem_singleton.1 mem
      obtain ⟨name, plain, eq⟩ := nameRule_find (x := z.1) (y := z.2) found
      exact bare name z.2 plain eq
  have split : rules = (Var.all.map (fun v => (word (quoted v.keyword.toList), Rule.var v)) ++
      [(nameRule, .other)]) ++ [(one (· ≠ '\n'), .any)] := rfl
  by_cases line : c = '\n'
  · have unmatched : longest rules (c :: rest) = none := by
      cases found : longest rules (c :: rest) with
      | none => rfl
      | some e =>
        obtain ⟨r, x, y⟩ := e
        obtain ⟨p, mem, here⟩ := longest_mem found
        rw [split] at mem
        obtain mem | mem := List.mem_append.1 mem
        · exact absurd here (words _ mem (x, y))
        · cases List.mem_singleton.1 mem
          rw [line] at here
          cases here
    rw [Lexer.step, show longest (scanner.rules ()) _ = _ from unmatched, if_pos line]
  · have here : (one (· ≠ '\n')).find (c :: rest) = some ([c], rest) := if_pos (decide_eq_true line)
    have found : longest rules (c :: rest) = some (.any, [c], rest) :=
      longest_of split here (fun q mem z found => absurd found (words q mem z))
        (fun q mem => absurd mem List.not_mem_nil)
    rw [Lexer.step, show longest (scanner.rules ()) _ = _ from found, if_neg line]

end Scanner

section Actions

variable {n : ℕ} {job : Job} {beyond : Char} {name rest text out more : List Char} {c : Char}
  {v : Var} {st' : Parsed}

/-- The result so far, in an array of `n` characters. -/
def parsed (n : ℕ) (out : List Char) : Parsed := ⟨CBuffer.holding n out, out.length⟩

/-- A result that is in its array, and a string. -/
structure Held (n : ℕ) (out : List Char) : Prop where
  plain : nul ∉ out
  le : out.length ≤ n

lemma cat_str (held : Held n out) : jtp_var_cat_str (some more) (parsed n out) =
    if (out ++ more).length < n then some (parsed n (out ++ more)) else none := by
  rw [jtp_var_cat_str, parsed]
  dsimp only
  rw [CBuffer.strcat_holding held.plain held.le]
  split
  · rw [Option.map_some, ← List.length_append]
    rfl
  · rfl

lemma number_ofNat (m : ℕ) : number (Int.ofNat m) = Nat.toDigits 10 m := by
  show (Nat.repr m).toList = _
  rw [Nat.toList_repr]

lemma number_negSucc (m : ℕ) : number (Int.negSucc m) = '-' :: Nat.toDigits 10 (m + 1) := by
  show ("-" ++ Nat.repr (m + 1)).toList = _
  rw [String.toList_append, Nat.toList_repr]
  rfl

/-- A number of 32 bits has at most eleven characters. -/
lemma length_number (k : Int32) : (number k.toInt).length < 12 := by
  have upper := k.toInt_lt
  have lower := k.le_toInt
  cases eq : k.toInt with
  | ofNat m =>
    rw [eq, Int.ofNat_eq_natCast] at upper
    have digits := Nat.toDigits_length 10 m 10 (by omega) (by omega)
    rw [number_ofNat]
    omega
  | negSucc m =>
    rw [eq, Int.negSucc_eq] at lower
    have digits := Nat.toDigits_length 10 (m + 1) 10 (by omega) (by omega)
    rw [number_negSucc, List.length_cons]
    omega

lemma plain_number (z : ℤ) : nul ∉ number z := by
  have digits (m : ℕ) : nul ∉ Nat.toDigits 10 m := by
    intro mem
    have digit := Nat.isDigit_of_mem_toDigits (by decide) (by decide) mem
    revert digit
    decide
  cases z with
  | ofNat m =>
    rw [number_ofNat]
    exact digits m
  | negSucc m =>
    rw [number_negSucc, List.mem_cons, not_or]
    exact ⟨by decide, digits (m + 1)⟩

lemma cat_int (k : Int32) (st : Parsed) :
    jtp_var_cat_int k st = jtp_var_cat_str (some (number k.toInt)) st :=
  if_pos (length_number k)

/-- What is printed for a variable of every job. -/
lemma act_var_eq (v : Var) (st : Parsed) : act_var job st v =
    if v = .ARCH then job.arch.bind fun arch => jtp_var_cat_str (arch.map (·.1)) st
    else (v.value job).bind fun text => jtp_var_cat_str (some text) st := by
  cases v
  case ARCH => rfl
  case PARAM | MAX_PARAM =>
    unfold act_var Var.value
    dsimp only
    split
    all_goals
      rw [cat_int]
      rfl
  all_goals exact cat_int _ st

lemma plain_getD (str : Option CString) : nul ∉ (str.map (·.1)).getD [] := by
  cases str with
  | none => exact List.not_mem_nil
  | some str => exact str.2

lemma plain_value (value : v.value job = some text) : nul ∉ text := by
  cases v
  case ARCH =>
    obtain ⟨arch, -, rfl⟩ := Option.map_eq_some_iff.1 value
    exact plain_getD arch
  all_goals
    cases value
    exact plain_number _

/-- The action of a token adds `more` to the result, if there is room, and goes on with `rest`. -/
structure Adds (n : ℕ) (out : List Char) (act : Option Parsed) (value : Option (List Char)) :
    Prop where
  sound : ∀ st', act = some st' →
    ∃ more, value = some more ∧ st' = parsed n (out ++ more) ∧ Held n (out ++ more)
  complete : ∀ more, value = some more → (out ++ more).length < n →
    act = some (parsed n (out ++ more))

lemma Held.append (held : Held n out) (plain : nul ∉ more) (le : (out ++ more).length ≤ n) :
    Held n (out ++ more) :=
  ⟨fun mem => (List.mem_append.1 mem).elim held.plain plain, le⟩

/-- A string is added. -/
lemma Adds.str (held : Held n out) (plain : nul ∉ more) :
    Adds n out (jtp_var_cat_str (some more) (parsed n out)) (some more) where
  sound st' added := by
    rw [cat_str held] at added
    obtain ⟨room, eq⟩ := Option.ite_none_right_eq_some.1 added
    cases eq
    exact ⟨more, rfl, rfl, held.append plain (Nat.le_of_lt room)⟩
  complete more' eq room := by
    cases eq
    rw [cat_str held]
    exact if_pos room

/-- A string is added that may be a null pointer. -/
lemma Adds.pointer (held : Held n out) (str : Option CString) :
    Adds n out (jtp_var_cat_str (str.map (·.1)) (parsed n out))
      (some ((str.map (·.1)).getD [])) := by
  cases str with
  | some str => exact .str held str.2
  | none =>
    constructor
    · intro st' added
      cases added
      rw [Option.map_none, Option.getD_none]
      exact ⟨[], rfl, by rw [List.append_nil], by rwa [List.append_nil]⟩
    · intro more eq _
      cases eq
      rw [Option.map_none, Option.getD_none, List.append_nil]
      rfl

lemma Adds.var (held : Held n out) (v : Var) :
    Adds n out (act_var job (parsed n out) v) (v.value job) := by
  rw [act_var_eq]
  split
  case isTrue arch =>
    subst arch
    rw [Var.value]
    cases job.arch with
    | none => exact ⟨fun st' added => (by cases added), fun more eq => (by cases eq)⟩
    | some arch => exact .pointer held arch
  case isFalse =>
    cases value : v.value job with
    | none => exact ⟨fun st' added => (by cases added), fun more eq => (by cases eq)⟩
    | some text => exact .str held (plain_value value)

/-- A name is searched in the environment; one that is not there stays as it is, when the token is
no shorter. -/
lemma Adds.other (held : Held n out) (plain : nul ∉ name) :
    Adds n out (act_other job (quoted name) name (parsed n out)) (envValue job name) := by
  unfold act_other envValue
  cases jtp_var_env_search name job.environment with
  | none => exact ⟨fun st' added => (by cases added), fun more eq => (by cases eq)⟩
  | some found =>
    rw [Option.bind_some, Option.map_some]
    cases found with
    | some val => exact .pointer held val
    | none =>
      dsimp only
      rw [if_pos (Nat.lt_succ_self _)]
      refine .str held ?_
      rw [quoted]
      simp only [List.mem_cons, List.mem_append, List.not_mem_nil, plain, or_false, false_or]
      decide

/-- A character is added. -/
lemma Adds.any (held : Held n out) (plain : c ≠ nul) :
    Adds n out ((CBuffer.store (parsed n out).value (parsed n out).i c).map fun value =>
      ⟨value, (parsed n out).i + 1⟩) (some [c]) := by
  have length : (out ++ [c]).length = out.length + 1 := by
    rw [List.length_append, List.length_singleton]
  have stored : (CBuffer.store (parsed n out).value (parsed n out).i c).map
      (fun value => (⟨value, (parsed n out).i + 1⟩ : Parsed)) =
        if out.length < n then some (parsed n (out ++ [c])) else none := by
    rw [parsed]
    dsimp only
    rw [CBuffer.store_holding held.le]
    split
    · rw [Option.map_some, ← length]
      rfl
    · rfl
  rw [stored]
  constructor
  · intro st' added
    obtain ⟨room, eq⟩ := Option.ite_none_right_eq_some.1 added
    cases eq
    exact ⟨[c], rfl, rfl, held.append (by simpa using plain.symm) (by omega)⟩
  · intro more eq room
    cases eq
    exact if_pos (by omega)

end Actions

section Cut

variable {beyond : Char} {name rest : List Char}

/-- The memory after a token starts with a null and two more characters. -/
lemma memory_eq (beyond : Char) (rest : List Char) : ∃ b c tail,
    memory beyond rest = nul :: b :: c :: tail ∧
      ((rest ++ [nul, nul, beyond]).take 3).drop 1 = [b, c] := by
  unfold memory
  match rest with
  | [] => exact ⟨_, _, _, rfl, rfl⟩
  | [_] => exact ⟨_, _, _, rfl, rfl⟩
  | [_, _] => exact ⟨_, _, _, rfl, rfl⟩
  | _ :: _ :: _ :: _ => exact ⟨_, _, _, rfl, rfl⟩

lemma cstr_append {text : List Char} (plain : nul ∉ name) :
    Scan.cstr (name ++ nul :: text) = name := by
  rw [Scan.cstr, List.takeWhile_append_of_pos]
  · simp [nul]
  · intro d mem
    refine bne_iff_ne.2 ?_
    intro zero
    have same : d = nul := Char.toNat_inj.1 zero
    exact plain (same ▸ mem)

/-- The brace of a name, where it is found in the memory of its token. -/
lemma closing_eq (b c : Char) (tail : List Char) (plain : '}' ∉ name) :
    closing (name ++ '}' :: nul :: b :: c :: tail) (name.length + 3) =
      if c = '}' then name.length + 3 else if b = '}' then name.length + 2 else name.length := by
  have at_ (k : ℕ) : (name ++ '}' :: nul :: b :: c :: tail)[name.length + k]? =
      ('}' :: nul :: b :: c :: tail)[k]? := by
    rw [List.getElem?_append_right (Nat.le_add_right _ _), Nat.add_sub_cancel_left]
  have own : closing (name ++ '}' :: nul :: b :: c :: tail) name.length = name.length := by
    cases name with
    | nil => rfl
    | cons d name => exact if_pos (at_ 0)
  have hidden : ¬(some nul = some '}') := by decide
  rw [closing, at_ 3, closing, at_ 2, closing, at_ 1, own]
  simp only [List.getElem?_cons_succ, List.getElem?_cons_zero, Option.some.injEq]
  rw [if_neg (show ¬(nul = '}') by decide)]

/-- A name that is apart from other braces is cut off at its own. -/
lemma cut_apart (plain : '}' ∉ name) (text : nul ∉ name)
    (apart : '}' ∉ ((rest ++ [nul, nul, beyond]).take 3).drop 1) :
    cut beyond (quoted name) rest = (name, rest) := by
  obtain ⟨b, c, tail, eq, front⟩ := memory_eq beyond rest
  rw [front] at apart
  have b_ne : b ≠ '}' := by rintro rfl; exact apart List.mem_cons_self
  have c_ne : c ≠ '}' := by rintro rfl; exact apart (List.mem_cons_of_mem _ List.mem_cons_self)
  have inner : (quoted name).drop 2 ++ memory beyond rest =
      name ++ '}' :: nul :: b :: c :: tail := by
    rw [eq, quoted, List.drop_succ_cons, List.drop_succ_cons, List.drop_zero, List.append_assoc]
    rfl
  have set : (name ++ '}' :: nul :: b :: c :: tail).set name.length nul =
      name ++ nul :: nul :: b :: c :: tail := by
    rw [List.set_append_right _ _ (Nat.le_refl _), Nat.sub_self, List.set_cons_zero]
  unfold cut
  rw [inner, length_quoted]
  dsimp only
  rw [closing_eq b c tail plain, if_neg c_ne, if_neg b_ne, set, cstr_append text,
    if_neg (by omega)]

/-- A name that is not apart is cut off behind its own brace. -/
lemma cut_brace (plain : '}' ∉ name) (text : nul ∉ name)
    (near : '}' ∈ ((rest ++ [nul, nul, beyond]).take 3).drop 1) :
    (cut beyond (quoted name) rest).1 = name ++ ['}'] := by
  obtain ⟨b, c, tail, eq, front⟩ := memory_eq beyond rest
  rw [front] at near
  have inner : (quoted name).drop 2 ++ memory beyond rest =
      (name ++ ['}']) ++ nul :: b :: c :: tail := by
    rw [eq, quoted, List.drop_succ_cons, List.drop_succ_cons, List.drop_zero]
  have whole : (name ++ ['}']) ++ nul :: b :: c :: tail = name ++ '}' :: nul :: b :: c :: tail := by
    rw [List.append_assoc]
    rfl
  have behind (k : ℕ) : Scan.cstr (((name ++ ['}']) ++ nul :: b :: c :: tail).set
      (name.length + 2 + k) nul) = name ++ ['}'] := by
    have length : (name ++ ['}']).length = name.length + 1 := by
      rw [List.length_append, List.length_singleton]
    have place : name.length + 2 + k - (name.length + 1) = k + 1 := by omega
    rw [List.set_append_right _ _ (by omega), length, place, List.set_cons_succ]
    refine cstr_append ?_
    rw [List.mem_append, not_or]
    exact ⟨text, by decide⟩
  unfold cut
  rw [inner, length_quoted]
  dsimp only
  rw [whole, closing_eq b c tail plain, ← whole]
  by_cases last : c = '}'
  · rw [if_pos last]
    exact behind 1
  · have first : b = '}' := by
      simp only [List.mem_cons, List.not_mem_nil, or_false] at near
      exact (near.resolve_right (Ne.symm last)).symm
    rw [if_neg last, if_pos first]
    exact behind 0

/-- A name with a brace that is not in the environment does not fit in its array. -/
lemma act_other_brace {job : Job} {yytext tmp : List Char} {st : Parsed}
    (names : Braceless job) (brace : '}' ∈ tmp)
    (long : yytext.length < (quoted tmp).length) : act_other job yytext tmp st = none := by
  have search (env : List (Option CString × Option CString))
      (names : ∀ e ∈ env, ∀ name ∈ e.1, '}' ∉ name.1) :
      jtp_var_env_search tmp env = some none ∨ jtp_var_env_search tmp env = none := by
    induction env with
    | nil => exact .inl rfl
    | cons e env ih =>
      obtain ⟨name, val⟩ := e
      cases name with
      | none => exact .inr rfl
      | some name =>
        have other : name.1 ≠ tmp := by
          rintro rfl
          exact names (some name, val) List.mem_cons_self name rfl brace
        rw [jtp_var_env_search, if_neg other]
        exact ih fun e mem => names e (List.mem_cons_of_mem _ mem)
  unfold act_other
  obtain missing | null := search job.environment names
  · rw [missing, Option.bind_some]
    exact if_neg (by omega)
  · rw [null]
    rfl

end Cut

section Run

variable {n : ℕ} {job : Job} {beyond : Char} {text rest out more : List Char} {p : Piece}
  {q : Piece × List Char} {qs : List (Piece × List Char)} {st' : Parsed}

/-- What the scanner writes for a piece: nothing for a line feed. -/
def Piece.written (job : Job) (p : Piece) : Option (List Char) :=
  if p = .char '\n' then some [] else p.value job

/-- The first piece of a text is a token, whose action adds what is written for it and goes on
behind it; when the piece is not apart there is no such action. -/
lemma act_piece (beyond : Char) (plain : nul ∉ text) (held : Held n out) (first : split text = some (p, rest)) :
    ∃ token, scanner.step () text = some (token, (), rest) ∧
      (Braceless job → ¬Apart beyond (p, rest) →
        act job beyond token rest (parsed n out) = none) ∧
      (Apart beyond (p, rest) → ∃ added, act job beyond token rest (parsed n out) =
        added.map (·, rest) ∧ Adds n out added (p.written job)) := by
  obtain rfl | ⟨name, rest', bare, rfl⟩ | ⟨c, rest', rfl, bare⟩ := split_cases text
  · cases first
  · rw [split_quoted bare] at first
    cases first
    have inner : nul ∉ name := fun mem => plain (by simp [quoted, mem])
    refine ⟨_, step_quoted bare, ?_⟩
    have written : (Piece.var name).written job = (Piece.var name).value job := if_neg (by simp)
    rw [written, Piece.value, ruleOf, Apart, Piece.searched]
    cases known : keyword name with
    | some v =>
      refine ⟨fun _ near => absurd (fun missing => (by cases missing)) near, fun _ => ?_⟩
      exact ⟨_, rfl, .var held v⟩
    | none =>
      refine ⟨fun names near => ?_, fun apart => ?_⟩
      · have near := Classical.not_not.1 fun apart => near fun _ => apart
        have named := cut_brace bare inner near
        have failed : act_other job (quoted name) (cut beyond (quoted name) rest).1 (parsed n out) =
            none :=
          act_other_brace names (by rw [named]; simp)
            (by rw [named, length_quoted, length_quoted]; simp)
        unfold act
        dsimp only [Option.elim]
        rw [failed]
        rfl
      · refine ⟨_, ?_, .other held inner⟩
        unfold act
        dsimp only [Option.elim]
        rw [cut_apart bare inner (apart rfl)]
  · rw [split_char bare] at first
    cases first
    refine ⟨_, step_char bare, fun _ near => absurd (fun missing => (by cases missing)) near,
      fun _ => ?_⟩
    by_cases line : c = '\n'
    · subst line
      refine ⟨some (parsed n out), rfl, ?_⟩
      constructor
      · intro st' added
        cases added
        exact ⟨[], rfl, by rw [List.append_nil], by rwa [List.append_nil]⟩
      · intro more eq _
        cases eq
        rw [List.append_nil]
    · have written : (Piece.char c).written job = some [c] := if_neg (by simpa using line)
      have other : c ≠ nul := by rintro rfl; exact plain List.mem_cons_self
      rw [written, if_neg line]
      refine ⟨_, ?_, .any held other⟩
      unfold act
      dsimp only
      rw [Option.map_map]
      rfl

/-- The scanner adds what is written for the pieces; those of the environment are apart from other
braces. -/
lemma yylex_sound (names : Braceless job) (fuel : ℕ) (plain : nul ∉ text) (held : Held n out)
    (ran : yylex job beyond fuel text (parsed n out) = some st') :
    (∀ q ∈ piecesFrom fuel text, Apart beyond q) ∧
      ∃ more, spell (Piece.written job) (piecesFrom fuel text) = some more ∧
        st' = parsed n (out ++ more) ∧ Held n (out ++ more) := by
  induction fuel generalizing text out with
  | zero =>
    cases ran
    refine ⟨fun q mem => absurd mem List.not_mem_nil, [], rfl, ?_⟩
    rw [List.append_nil]
    exact ⟨rfl, held⟩
  | succ fuel ih =>
    cases first : split text with
    | none =>
      obtain rfl := split_none first
      cases ran
      refine ⟨fun q mem => absurd mem List.not_mem_nil, [], rfl, ?_⟩
      rw [List.append_nil]
      exact ⟨rfl, held⟩
    | some e =>
      obtain ⟨p, rest⟩ := e
      obtain ⟨token, stepped, near, apart⟩ := act_piece beyond plain held first
      rw [yylex, stepped] at ran
      obtain ⟨⟨st, rest'⟩, acted, ran⟩ := Option.bind_eq_some_iff.1 ran
      have aside : Apart beyond (p, rest) := by
        by_contra close
        rw [near names close] at acted
        cases acted
      obtain ⟨added, eq, adds⟩ := apart aside
      rw [eq] at acted
      obtain ⟨st₁, done, same⟩ := Option.map_eq_some_iff.1 acted
      obtain ⟨x, value, rfl, held₁⟩ := adds.sound st₁ done
      cases same
      obtain ⟨others, more, spelled, rfl, held₂⟩ := ih (plain_rest plain first) held₁ ran
      rw [piecesFrom, first]
      refine ⟨?_, x ++ more, ?_, by rw [List.append_assoc], by rwa [List.append_assoc] at held₂⟩
      · intro q mem
        obtain rfl | mem := List.mem_cons.1 mem
        · exact aside
        · exact others q mem
      · rw [spell, value, Option.bind_some, spelled]
        rfl

/-- A text whose names are apart from other braces is replaced when there is room. -/
lemma yylex_complete (fuel : ℕ) (plain : nul ∉ text) (held : Held n out)
    (apart : ∀ q ∈ piecesFrom fuel text, Apart beyond q)
    (spelled : spell (Piece.written job) (piecesFrom fuel text) = some more)
    (room : (out ++ more).length < n) :
    yylex job beyond fuel text (parsed n out) = some (parsed n (out ++ more)) ∧
      Held n (out ++ more) := by
  induction fuel generalizing text out more with
  | zero =>
    cases spelled
    rw [List.append_nil]
    exact ⟨rfl, held⟩
  | succ fuel ih =>
    rw [piecesFrom] at apart spelled
    cases first : split text with
    | none =>
      obtain rfl := split_none first
      cases spelled
      rw [List.append_nil]
      exact ⟨rfl, held⟩
    | some e =>
      obtain ⟨p, rest⟩ := e
      rw [first] at apart spelled
      obtain ⟨token, stepped, -, acts⟩ := act_piece beyond plain held first
      obtain ⟨added, eq, adds⟩ := acts (apart _ List.mem_cons_self)
      obtain ⟨x, value, others⟩ := Option.bind_eq_some_iff.1 spelled
      obtain ⟨more, behind, rfl⟩ := Option.map_eq_some_iff.1 others
      rw [← List.append_assoc] at room ⊢
      have short : (out ++ x).length < n := by
        rw [List.length_append] at room
        omega
      have done := adds.complete x value short
      obtain ⟨x', value', same, held₁⟩ := adds.sound _ done
      obtain rfl : x = x' := Option.some.inj (value.symm.trans value')
      rw [yylex, stepped]
      dsimp only
      rw [eq, done, Option.map_some, Option.bind_some]
      exact ih (plain_rest plain first) held₁ (fun q mem => apart q (List.mem_cons_of_mem _ mem))
        behind room

/-- Line feeds are the difference between the expansion and what is written. -/
lemma written_length {all : List Char} (spelled : spell (Piece.written job) qs = some more)
    (expanded : spell (Piece.value job) qs = some all) :
    more.length ≤ all.length ∧ (more.length = all.length → ∀ q ∈ qs, q.1 ≠ .char '\n') := by
  induction qs generalizing more all with
  | nil =>
    cases spelled
    cases expanded
    exact ⟨Nat.le_refl _, fun _ q mem => absurd mem List.not_mem_nil⟩
  | cons q qs ih =>
    obtain ⟨x, written, others⟩ := Option.bind_eq_some_iff.1 spelled
    obtain ⟨more, behind, rfl⟩ := Option.map_eq_some_iff.1 others
    obtain ⟨y, value, others⟩ := Option.bind_eq_some_iff.1 expanded
    obtain ⟨all, after, rfl⟩ := Option.map_eq_some_iff.1 others
    obtain ⟨le, same⟩ := ih behind after
    rw [List.length_append, List.length_append]
    by_cases line : q.1 = .char '\n'
    · rw [Piece.written, if_pos line] at written
      rw [line] at value
      cases written
      cases value
      rw [List.length_nil, List.length_singleton]
      exact ⟨by omega, fun eq => absurd eq (by omega)⟩
    · rw [Piece.written, if_neg line, value] at written
      cases written
      refine ⟨by omega, fun eq q' mem => ?_⟩
      obtain rfl | mem := List.mem_cons.1 mem
      · exact line
      · exact same (by omega) q' mem

/-- Without line feeds the expansion is written. -/
lemma spell_written (line : ∀ q ∈ qs, q.1 ≠ .char '\n') :
    spell (Piece.written job) qs = spell (Piece.value job) qs := by
  induction qs with
  | nil => rfl
  | cons q qs ih =>
    rw [spell, spell, ih fun q mem => line q (List.mem_cons_of_mem _ mem), Piece.written,
      if_neg (line q List.mem_cons_self)]

lemma held_nil : Held n [] := ⟨List.not_mem_nil, Nat.zero_le _⟩

/-- The call on a text. -/
lemma substitute_text (text : CString) :
    gw_job_substitute true beyond job (some text) =
      (yylex job beyond text.1.length text.1 (parsed (2 * text.1.length) [])).bind fun st =>
        (CBuffer.strdup st.value).map some := rfl

lemma strdup_parsed (held : Held n out) :
    CBuffer.strdup (parsed n out).value = if out.length < n then some out else none :=
  CBuffer.strdup_holding held.plain held.le

/-- A safe text is replaced. -/
lemma substitute_safe {text : CString} (safe : Safe beyond job text.1) :
    ∃ out, expand job text.1 = some out ∧
      gw_job_substitute true beyond job (some text) = some (some out) := by
  obtain ⟨out, expanded, room⟩ := (Option.any_eq_true _ _).1 safe.room
  have short : out.length < 2 * text.1.length := of_decide_eq_true room
  have written := (spell_written safe.line).trans expanded
  obtain ⟨ran, held⟩ := yylex_complete text.1.length text.2 held_nil safe.apart written short
  rw [List.nil_append] at held
  refine ⟨out, expanded, ?_⟩
  rw [substitute_text, ran, List.nil_append, Option.bind_some, strdup_parsed held, if_pos short]
  rfl

/-- A text that is replaced is safe. -/
lemma substitute_only {text : CString} (names : Braceless job)
    (exactly : Exact true beyond job (some text)) : Safe beyond job text.1 := by
  rw [Exact, substitute_text] at exactly
  obtain failed | ⟨text', same, out, expanded, replaced⟩ := exactly
  · obtain ⟨st, -, copied⟩ := Option.bind_eq_some_iff.1 failed
    obtain ⟨out, -, eq⟩ := Option.map_eq_some_iff.1 copied
    cases eq
  · cases same
    obtain ⟨st, ran, copied⟩ := Option.bind_eq_some_iff.1 replaced
    obtain ⟨out', copied, eq⟩ := Option.map_eq_some_iff.1 copied
    cases eq
    obtain ⟨apart, more, spelled, rfl, held⟩ := yylex_sound names _ text.2 held_nil ran
    rw [List.nil_append] at held copied
    rw [strdup_parsed held] at copied
    obtain ⟨room, eq⟩ := Option.ite_none_right_eq_some.1 copied
    cases eq
    exact ⟨(written_length spelled expanded).2 rfl, apart,
      (Option.any_eq_true _ _).2 ⟨_, expanded, decide_eq_true room⟩⟩

/-- **Variable substitution.** The call fails or replaces the names of a text, within its array, if
there is no memory, or no text, or the text is safe. When no name of the environment has a brace, it
does so only then. -/
theorem substitute_exact (malloc : Bool) (beyond : Char) (job : Job) (var : Option CString) :
    (malloc = false ∨ (∀ text ∈ var, Safe beyond job text.1) → Exact malloc beyond job var) ∧
      (Braceless job → Exact malloc beyond job var →
        malloc = false ∨ ∀ text ∈ var, Safe beyond job text.1) := by
  cases var with
  | none => exact ⟨fun _ => .inl rfl, fun _ _ => .inr fun text mem => by cases mem⟩
  | some text =>
    cases malloc with
    | false => exact ⟨fun _ => .inl rfl, fun _ _ => .inl rfl⟩
    | true =>
      constructor
      · rintro (impossible | safe)
        · cases impossible
        · exact .inr ⟨text, rfl, substitute_safe (safe text rfl)⟩
      · intro names exactly
        refine .inr fun text' same => ?_
        cases same
        exact substitute_only names exactly

/-- The name of an output file. -/
theorem substitute_output :
    Exact true ' ' { id := 7 } (some ⟨"out.${JOB_ID}".toList, by decide⟩) := by
  refine (substitute_exact true ' ' { id := 7 } (some ⟨"out.${JOB_ID}".toList, by decide⟩)).1
    (.inr fun text same => ?_)
  cases same
  exact ⟨by decide, by decide, by decide⟩

/-- A directory of the environment that is longer than its name. -/
theorem substitute_overflow : ¬ ∀ (malloc : Bool) (beyond : Char) (job : Job)
    (var : Option CString), Exact malloc beyond job var := by
  intro exactly
  have outside : gw_job_substitute true ' '
      { id := 7
        environment := [(some ⟨"D".toList, by decide⟩, some ⟨"/scratch".toList, by decide⟩)] }
      (some ⟨"${D}".toList, by decide⟩) = none := by
    decide
  obtain failed | ⟨text, -, out, -, replaced⟩ := exactly true ' '
    { id := 7
      environment := [(some ⟨"D".toList, by decide⟩, some ⟨"/scratch".toList, by decide⟩)] }
    (some ⟨"${D}".toList, by decide⟩)
  · rw [outside] at failed
    cases failed
  · rw [outside] at replaced
    cases replaced

end Run

end GridWay.VarParser
