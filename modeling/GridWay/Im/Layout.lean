import GridWay.Em.Limits
import GridWay.Im.Scanner
import Mathlib

/-!
# Texts of tokens

How tokens are written, one after the other with blanks between them, so that the scanner reads
them.

* `Spelled`: how a token is written before a text.
* `Layout`: how tokens are laid out.
* `scan_layout`: the tokens of a layout are read.
-/

namespace GridWay.Im

open GridWay.Lex
open Lex.Pattern (one many many1 word many_find many1_find)
open Rsl2 (atoi32 number)

/-- A text does not begin with a character of a class. -/
def Apart (p : Char → Bool) (rest : List Char) : Prop := ∀ c ∈ rest.head?, p c = false

/-- The scanner skips a character between tokens. -/
def isBlank (c : Char) : Bool := c == ' ' || c == '\t'

/-- How a token is written before a text: names and numbers do not go on there, and a minus sign is
not the sign of a number. -/
inductive Spelled : Token → List Char → List Char → Prop
  | var (v : Var) {rest : List Char} (apart : Apart Pattern.isNameChar rest) :
      Spelled (.var v) v.keyword.toList rest
  | generic (name : String) {rest : List Char} (named : isName name = true)
      (other : ∀ v : Var, v.keyword ≠ name) (apart : Apart Pattern.isNameChar rest) :
      Spelled (.generic name) name.toList rest
  | int {sign ds rest : List Char} (signed : sign = [] ∨ sign = ['-']) (some_digit : ds ≠ [])
      (all : ∀ c ∈ ds, c.isDigit = true) (apart : Apart Char.isDigit rest) :
      Spelled (.int (atoi32 (sign ++ ds))) (sign ++ ds) rest
  | null {rest : List Char} : Spelled (.str none) "\"\"".toList rest
  | str (s : List Char) {rest : List Char} (some_char : s ≠ []) (inside : '"' ∉ s) :
      Spelled (.str (some (String.ofList s))) ('"' :: (s ++ ['"'])) rest
  | sym (c : Char) {rest : List Char} (symbol : c ∈ "!&|=><();[]*+/^-".toList)
      (apart : c = '-' → Apart Char.isDigit rest) : Spelled (.sym c) [c] rest

/-- Tokens are laid out with blanks between them. -/
inductive Layout : List Token → List Char → Prop
  | nil {blanks : List Char} (blank : ∀ c ∈ blanks, isBlank c = true) : Layout [] blanks
  | cons {t : Token} {ts : List Token} {blanks x rest : List Char} (blank : ∀ c ∈ blanks, isBlank c = true)
      (spelled : Spelled t x rest) (layout : Layout ts rest) : Layout (t :: ts) (blanks ++ (x ++ rest))

section Rules

variable {c : Char} {x rest cs : List Char} {p : Char → Bool} {v : Var} {name : String} {r : Rule}

/-- The rules for names, and the others. -/
def nameRules : List (Lex.Pattern × Rule) :=
  Var.all.map (fun v => (word v.keyword.toList, .var v)) ++ [(Pattern.name, .generic)]

def otherRules : List (Lex.Pattern × Rule) :=
  [(Pattern.integer, .integer), (word "\"\"".toList, .null), (Pattern.string, .string),
    (Pattern.symbol, .symbol), (many1 isBlank, .blank), (one (· != '\n'), .other)]

lemma rules_eq : rules = nameRules ++ otherRules := by
  rw [rules, nameRules, List.append_assoc]
  rfl

lemma rules_name :
    rules = Var.all.map (fun v => (word v.keyword.toList, .var v)) ++ (Pattern.name, .generic) :: otherRules := rfl

lemma keyword_letter (v : Var) : ∃ h t, v.keyword.toList = h :: t ∧ h.isAlpha = true := by
  cases v <;> exact ⟨_, _, rfl, rfl⟩

/-- The rules for names match only where a letter comes first. -/
lemma nameRules_hidden (other : c.isAlpha = false) : ∀ q ∈ nameRules, q.1.find
    (c :: cs) = none := by
  intro q mem
  obtain front | last := List.mem_append.1 mem
  · obtain ⟨v, -, rfl⟩ := List.mem_map.1 front
    obtain ⟨h, t, eq, letter⟩ := keyword_letter v
    refine if_neg fun here => ?_
    obtain ⟨behind, same⟩ := List.isPrefixOf_iff_prefix.1 here
    rw [eq, List.cons_append] at same
    rw [(List.cons.inj same).1, other] at letter
    cases letter
  · obtain rfl := List.mem_singleton.1 last
    show ((if c.isAlpha = true then some ([c], cs) else none).bind _) = none
    rw [if_neg (by rw [other]; exact Bool.false_ne_true)]
    rfl

/-- A character that is no letter is left to the other rules. -/
lemma longest_other (other : c.isAlpha = false) : longest rules (c :: cs) = longest otherRules
    (c :: cs) := by
  rw [rules_eq]
  exact longest_skip (nameRules_hidden other)

/-- A character that is no quote and no blank is at most a token of its own for the last rules. -/
lemma late_one (quote : c ≠ '"') (blank : isBlank c = false) :
    ∀ q ∈ otherRules.tail, ∀ z ∈ q.1.find (c :: cs), z.1.length ≤ 1 := by
  intro q mem z found
  simp only [otherRules, List.tail_cons, List.mem_cons, List.not_mem_nil, or_false] at mem
  obtain rfl | rfl | rfl | rfl | rfl := mem
  · obtain ⟨front, -⟩ := Option.ite_none_right_eq_some.1 found
    obtain ⟨behind, same⟩ := List.isPrefixOf_iff_prefix.1 front
    exact absurd (List.cons.inj same).1.symm quote
  · obtain ⟨u, first, -⟩ := Option.bind_eq_some_iff.1 found
    obtain ⟨here, -⟩ := Option.ite_none_right_eq_some.1 first
    exact absurd (eq_of_beq here) quote
  · obtain ⟨-, eq⟩ := Option.ite_none_right_eq_some.1 found
    cases eq
    exact Nat.le_refl 1
  · obtain ⟨u, first, -⟩ := Option.bind_eq_some_iff.1 found
    obtain ⟨here, -⟩ := Option.ite_none_right_eq_some.1 first
    rw [blank] at here
    cases here
  · obtain ⟨-, eq⟩ := Option.ite_none_right_eq_some.1 found
    cases eq
    exact Nat.le_refl 1

/-- Blanks are skipped together. -/
lemma longest_blank {blanks : List Char} (some_blank : blanks ≠ [])
    (all : ∀ c ∈ blanks, isBlank c = true)
    (apart : Apart isBlank cs) : longest rules (blanks ++ cs) = some (.blank, blanks, cs) := by
  cases blanks with
  | nil => exact absurd rfl some_blank
  | cons c bs =>
    have here : (many1 isBlank).find (c :: bs ++ cs) = some (c :: bs, cs) :=
      many1_find some_blank all apart
    have early : ∀ q ∈ otherRules.take 4, q.1.find (c :: bs ++ cs) = none := by
      intro q mem
      simp only [otherRules, List.take_succ_cons, List.take_zero, List.mem_cons, List.not_mem_nil, or_false] at mem
      obtain space | tab := Bool.or_eq_true_iff.1 (all c List.mem_cons_self)
      · obtain rfl := eq_of_beq space
        obtain rfl | rfl | rfl | rfl := mem <;> rfl
      · obtain rfl := eq_of_beq tab
        obtain rfl | rfl | rfl | rfl := mem <;> rfl
    have letter : c.isAlpha = false := by
      obtain space | tab := Bool.or_eq_true_iff.1 (all c List.mem_cons_self)
      · rw [eq_of_beq space]
        decide
      · rw [eq_of_beq tab]
        decide
    have last : longest (otherRules.drop 4) (c :: bs ++ cs) = some (.blank, c :: bs, cs) := by
      refine longest_of (List.nil_append _).symm here (fun q mem => absurd mem List.not_mem_nil) ?_
      intro q mem z found
      obtain rfl := List.mem_singleton.1 mem
      obtain ⟨-, eq⟩ := Option.ite_none_right_eq_some.1 found
      cases eq
      exact Nat.le_add_left 1 _
    rw [List.cons_append, longest_other letter, ← List.take_append_drop 4 otherRules]
    exact (longest_skip early).trans last

lemma digit_other (digit : c.isDigit = true) : c.isAlpha = false ∧ c ≠ '"' ∧ isBlank c = false ∧ c ≠ '-' := by
  have other (d : Char) (no : d.isDigit = false) : c ≠ d := by
    rintro rfl
    rw [digit] at no
    cases no
  refine ⟨?_, other _ (by decide), ?_, other _ (by decide)⟩
  · simp [Char.isDigit, Char.isAlpha, Char.isUpper, Char.isLower, UInt32.le_iff_toNat_le] at digit ⊢
    omega
  · exact Bool.or_eq_false_iff.2 ⟨beq_eq_false_iff_ne.2 (other _ (by decide)),
      beq_eq_false_iff_ne.2 (other _ (by decide))⟩

/-- A number is read to its end. -/
lemma longest_int {sign ds : List Char} (signed : sign = [] ∨ sign = ['-']) (some_digit : ds ≠ [])
    (all : ∀ c ∈ ds, c.isDigit = true) (apart : Apart Char.isDigit cs) :
    longest rules (sign ++ (ds ++ cs)) = some (.integer, sign ++ ds, cs) := by
  have digits : (many1 Char.isDigit).find (ds ++ cs) = some (ds, cs) :=
    many1_find some_digit all apart
  have here : Pattern.integer.find (sign ++ (ds ++ cs)) = some (sign ++ ds, cs) := by
    obtain rfl | rfl := signed
    · cases ds with
      | nil => exact absurd rfl some_digit
      | cons d ds =>
        have sign : (d == '-') = false :=
          beq_eq_false_iff_ne.2 (digit_other (all d List.mem_cons_self)).2.2.2
        show (((if (d == '-') = true then some ([d], ds ++ cs) else none).or (some ([], d :: (ds ++ cs)))).bind
          fun u => ((many1 Char.isDigit).find u.2).map fun v => (u.1 ++ v.1, v.2)) = _
        rw [sign]
        show ((many1 Char.isDigit).find (d :: ds ++ cs)).map _ = _
        rw [digits]
        rfl
    · show ((many1 Char.isDigit).find (ds ++ cs)).map _ = _
      rw [digits]
      rfl
  obtain ⟨c, rest, eq, letter, quote, blank⟩ : ∃ c rest, sign ++ (ds ++ cs) = c :: rest ∧ c.isAlpha = false ∧
      c ≠ '"' ∧ isBlank c = false := by
    obtain rfl | rfl := signed
    · cases ds with
      | nil => exact absurd rfl some_digit
      | cons d ds =>
        obtain ⟨letter, quote, blank, -⟩ := digit_other (all d List.mem_cons_self)
        exact ⟨d, _, rfl, letter, quote, blank⟩
    · exact ⟨'-', _, rfl, by decide, by decide, by decide⟩
  have long : 1 ≤ (sign ++ ds).length := by
    have := List.length_pos_iff.2 some_digit
    rw [List.length_append]
    omega
  rw [eq] at here ⊢
  rw [longest_other letter]
  refine longest_of (List.nil_append _).symm here (fun q mem => absurd mem List.not_mem_nil) ?_
  exact fun q mem z found => Nat.le_trans (late_one quote blank q mem z found) long

lemma integer_hidden (sign : c ≠ '-') (digit : c.isDigit = false) : Pattern.integer.find
    (c :: cs) = none := by
  show (((if (c == '-') = true then some ([c], cs) else none).or (some ([], c :: cs))).bind
    fun u => ((many1 Char.isDigit).find u.2).map fun v => (u.1 ++ v.1, v.2)) = none
  rw [beq_eq_false_iff_ne.2 sign]
  show ((if c.isDigit = true then some ([c], cs) else none).bind _).map _ = none
  rw [digit]
  rfl

/-- A symbol that is no sign of a number is read alone. -/
lemma longest_sym (symbol : c ∈ "!&|=><();[]*+/^-".toList)
    (apart : c = '-' → Apart Char.isDigit cs) :
    longest rules (c :: cs) = some (.symbol, [c], cs) := by
  have letter : ∀ c ∈ "!&|=><();[]*+/^-".toList, c.isAlpha = false ∧ c ≠ '"' ∧ isBlank c = false ∧
      c.isDigit = false := forall_chars (by decide)
  obtain ⟨letter, quote, blank, digit⟩ := letter c symbol
  have early : ∀ q ∈ otherRules.take 3, q.1.find (c :: cs) = none := by
    intro q mem
    simp only [otherRules, List.take_succ_cons, List.take_zero, List.mem_cons, List.not_mem_nil, or_false] at mem
    obtain rfl | rfl | rfl := mem
    · by_cases sign : c = '-'
      · subst sign
        cases cs with
        | nil => rfl
        | cons d cs =>
          have stop := apart rfl d rfl
          show ((if d.isDigit = true then some ([d], cs) else none).bind _).map _ = none
          rw [stop]
          rfl
      · exact integer_hidden sign digit
    · refine if_neg fun front => ?_
      obtain ⟨behind, same⟩ := List.isPrefixOf_iff_prefix.1 front
      exact absurd (List.cons.inj same).1.symm quote
    · show ((if (c == '"') = true then some ([c], cs) else none).bind _) = none
      rw [beq_eq_false_iff_ne.2 quote]
      rfl
  have last : longest (otherRules.drop 3) (c :: cs) = some (.symbol, [c], cs) := by
    have here : Pattern.symbol.find (c :: cs) = some ([c], cs) :=
      if_pos (List.contains_iff_mem.2 symbol)
    refine longest_of (List.nil_append _).symm here (fun q mem => absurd mem List.not_mem_nil) ?_
    intro q mem z found
    exact late_one quote blank q ((List.drop_sublist 3 otherRules.tail).subset mem) z found
  rw [longest_other letter, ← List.take_append_drop 3 otherRules]
  exact (longest_skip early).trans last

/-- The rules after the strings match one character where a quote comes first. -/
lemma late_quote : ∀ q ∈ otherRules.drop 3, ∀ z ∈ q.1.find ('"' :: cs), z.1.length ≤ 1 := by
  intro q mem z found
  simp only [otherRules, List.drop_succ_cons, List.drop_zero, List.mem_cons, List.not_mem_nil, or_false] at mem
  obtain rfl | rfl | rfl := mem
  · cases found
  · cases found
  · cases found
    exact Nat.le_refl 1

lemma string_find (inside : '"' ∉ x) :
    Pattern.string.find ('"' :: (x ++ '"' :: rest)) = some ('"' :: (x ++ ['"']), rest) := by
  have within : (many (· != '"')).find (x ++ '"' :: rest) = some (x, '"' :: rest) := by
    refine many_find (fun c mem => bne_iff_ne.2 ?_) ?_
    · rintro rfl
      exact inside mem
    · intro c first
      cases first
      rfl
  show ((((many (· != '"')).find (x ++ '"' :: rest)).bind fun u =>
    (one (· == '"') |>.find u.2).map fun v => (u.1 ++ v.1, v.2)).map fun v => ('"' :: v.1, v.2)) = _
  rw [within]
  rfl

/-- A text in quotes is read as a whole. -/
lemma longest_str (some_char : x ≠ []) (inside : '"' ∉ x) :
    longest rules ('"' :: (x ++ '"' :: rest)) = some (.string, '"' :: (x ++ ['"']), rest) := by
  rw [longest_other (by decide)]
  have split : otherRules = otherRules.take 2 ++ (Pattern.string, .string) :: otherRules.drop 3 := rfl
  refine longest_of split (string_find inside) ?_ ?_
  · intro q mem z found
    simp only [otherRules, List.take_succ_cons, List.take_zero, List.mem_cons, List.not_mem_nil, or_false] at mem
    obtain rfl | rfl := mem
    · cases found
    · obtain ⟨front, -⟩ := Option.ite_none_right_eq_some.1 found
      obtain ⟨behind, same⟩ := List.isPrefixOf_iff_prefix.1 front
      cases x with
      | nil => exact absurd rfl some_char
      | cons c x =>
        obtain rfl : '"' = c := (List.cons.inj (List.cons.inj same).2).1
        exact absurd List.mem_cons_self inside
  · exact fun q mem z found => Nat.le_trans (late_quote q mem z found) (Nat.le_add_left 1 _)

/-- Two quotes are no string. -/
lemma longest_null : longest rules ('"' :: '"' :: rest) = some (.null, ['"', '"'], rest) := by
  rw [longest_other (by decide)]
  have split : otherRules = otherRules.take 1 ++ (word "\"\"".toList, .null) :: otherRules.drop 2 := rfl
  have here : (word "\"\"".toList).find ('"' :: '"' :: rest) = some (['"', '"'], rest) := rfl
  refine longest_of split here ?_ ?_
  · intro q mem z found
    obtain rfl := List.mem_singleton.1 mem
    cases found
  · intro q mem z found
    obtain rfl | mem := List.mem_cons.1 mem
    · have whole : Pattern.string.find ('"' :: ([] ++ '"' :: rest)) = some ('"' :: ([] ++ ['"']), rest) :=
        string_find List.not_mem_nil
      rw [List.nil_append, List.nil_append] at whole
      rw [whole] at found
      cases found
      exact Nat.le_refl 2
    · exact Nat.le_trans (late_quote q mem z found) (by decide)

lemma keyword_inj {u v : Var} (same : u.keyword.toList = v.keyword.toList) : u = v := by
  have all : ∀ u ∈ Var.all, ∀ v ∈ Var.all, u.keyword.toList = v.keyword.toList → u = v := by decide
  exact all u (by cases u <;> decide) v (by cases v <;> decide) same

lemma keyword_names (v : Var) : ∀ c ∈ v.keyword.toList, Pattern.isNameChar c = true := by
  cases v <;> exact forall_chars (by decide)

/-- A keyword that comes first in a name and what follows comes first in the name. -/
lemma keyword_prefix {z : List Char × List Char} (apart : Apart Pattern.isNameChar rest)
    (found : (word v.keyword.toList).find (x ++ rest) = some z) : z.1 = v.keyword.toList ∧ v.keyword.toList <+: x := by
  obtain ⟨front, eq⟩ := Option.ite_none_right_eq_some.1 found
  refine ⟨congrArg Prod.fst (Option.some.inj eq).symm, ?_⟩
  obtain ⟨behind, same⟩ := List.isPrefixOf_iff_prefix.1 front
  obtain ⟨more, eq, -⟩ | ⟨more, eq, rest_eq⟩ := List.append_eq_append_iff.1 same
  · exact ⟨more, eq.symm⟩
  · cases more with
    | nil => exact ⟨[], by rw [eq]; simp⟩
    | cons c more =>
      have char := keyword_names v c (by rw [eq]; simp)
      rw [apart c (by rw [rest_eq]; rfl)] at char
      cases char

/-- The last rules match at most a character where a name begins. -/
lemma late_name (letter : c.isAlpha = true) : ∀ q ∈ otherRules, ∀ z ∈ q.1.find
    (c :: cs), z.1.length ≤ 1 := by
  have other (d : Char) (no : d.isAlpha = false) : c ≠ d := by
    rintro rfl
    rw [letter] at no
    cases no
  have digit : c.isDigit = false := by
    cases digit : c.isDigit with
    | false => rfl
    | true =>
      rw [(digit_other digit).1] at letter
      cases letter
  intro q mem z found
  obtain rfl | mem := List.mem_cons.1 mem
  · rw [integer_hidden (other _ (by decide)) digit] at found
    cases found
  · refine late_one (other _ (by decide)) ?_ q mem z found
    exact Bool.or_eq_false_iff.2 ⟨beq_eq_false_iff_ne.2 (other _ (by decide)),
      beq_eq_false_iff_ne.2 (other _ (by decide))⟩

lemma name_find (letter : c.isAlpha = true) (all : ∀ d ∈ x, Pattern.isNameChar d = true)
    (apart : Apart Pattern.isNameChar rest) : Pattern.name.find (c :: (x ++ rest)) = some (c :: x, rest) := by
  show ((if c.isAlpha = true then some ([c], x ++ rest) else none).bind fun u =>
    ((many Pattern.isNameChar).find u.2).map fun v => (u.1 ++ v.1, v.2)) = _
  rw [if_pos letter, Option.bind_some, many_find all apart]
  rfl

/-- A name that is no keyword is a generic one. -/
lemma longest_generic (letter : c.isAlpha = true) (all : ∀ d ∈ x, Pattern.isNameChar d = true)
    (other : ∀ v : Var, v.keyword.toList ≠ c :: x) (apart : Apart Pattern.isNameChar rest) :
    longest rules (c :: (x ++ rest)) = some (.generic, c :: x, rest) := by
  refine longest_of rules_name (name_find letter all apart) ?_ ?_
  -- a keyword that matches as much would be the name
  · intro q mem z found
    obtain ⟨v, -, rfl⟩ := List.mem_map.1 mem
    obtain ⟨eq, front⟩ := keyword_prefix (x := c :: x) apart found
    rw [eq]
    exact Nat.lt_of_le_of_ne front.length_le fun same => other v (front.eq_of_length same)
  · exact fun q mem z found => Nat.le_trans (late_name letter q mem z found) (Nat.le_add_left 1 _)

/-- A keyword is that of its variable. -/
lemma longest_var (v : Var) (apart : Apart Pattern.isNameChar rest) :
    longest rules (v.keyword.toList ++ rest) = some (.var v, v.keyword.toList, rest) := by
  have here : (word v.keyword.toList).find (v.keyword.toList ++ rest) = some (v.keyword.toList, rest) := by
    show (if v.keyword.toList.isPrefixOf (v.keyword.toList ++ rest) = true then
      some (v.keyword.toList, (v.keyword.toList ++ rest).drop v.keyword.toList.length) else none) = _
    rw [if_pos (List.isPrefixOf_iff_prefix.2 (List.prefix_append _ _)), List.drop_left]
  have all : v ∈ Var.all := by cases v <;> decide
  obtain ⟨before, after, eq, first⟩ := List.eq_append_cons_of_mem all
  have split : rules = before.map (fun v => (word v.keyword.toList, Rule.var v)) ++
      (word v.keyword.toList, .var v) ::
        (after.map (fun v => (word v.keyword.toList, Rule.var v)) ++ (Pattern.name, .generic) :: otherRules) := by
    rw [rules_name, eq, List.map_append, List.map_cons, List.append_assoc, List.cons_append]
  -- an earlier keyword matches less, and a later rule does not match more
  refine longest_of split here ?_ ?_
  · intro q mem z found
    obtain ⟨u, there, rfl⟩ := List.mem_map.1 mem
    obtain ⟨eq, front⟩ := keyword_prefix apart found
    rw [eq]
    refine Nat.lt_of_le_of_ne front.length_le fun same => first ?_
    rw [← keyword_inj (front.eq_of_length same)]
    exact there
  · intro q mem z found
    obtain mem | mem := List.mem_append.1 mem
    · obtain ⟨u, -, rfl⟩ := List.mem_map.1 mem
      obtain ⟨eq, front⟩ := keyword_prefix apart found
      rw [eq]
      exact front.length_le
    · obtain ⟨c, x, eq, letter⟩ := keyword_letter v
      have chars := keyword_names v
      rw [eq] at found chars ⊢
      obtain rfl | mem := List.mem_cons.1 mem
      · have whole := name_find letter (fun d mem => chars d (List.mem_cons_of_mem _ mem)) apart
        have found : Pattern.name.find (c :: (x ++ rest)) = some z := found
        rw [whole] at found
        rw [← Option.some.inj found]
      · exact Nat.le_trans (late_name letter q mem z found) (Nat.le_add_left 1 _)

end Rules

section Texts

variable {t : Token} {ts read : List Token} {x rest cs blanks : List Char}

/-- A number is written with digits, which are read back. -/
lemma number_digits {n : Int} (low : -2 ^ 31 ≤ n) (high : n < 2 ^ 31) :
    ∃ sign ds, number n = sign ++ ds ∧ (sign = [] ∨ sign = ['-']) ∧ ds ≠ [] ∧ (∀ c ∈ ds, c.isDigit = true) ∧
      atoi32 (number n) = n := by
  have digit (m : ℕ) : ∀ c ∈ Nat.toDigits 10 m, c.isDigit = true := fun c mem => numeral_digit mem
  -- nothing is cut off from a number of 32 bits
  have cut {s : List Char} (value : Rsl2.strtol s = n) : atoi32 s = n := by
    rw [atoi32, value, Int.bmod_eq_emod]
    split <;> omega
  cases n with
  | ofNat m =>
    have eq : number (Int.ofNat m) = Nat.toDigits 10 m := Rsl2.number_natCast m
    refine ⟨[], Nat.toDigits 10 m, eq, .inl rfl, Nat.toDigits_ne_nil, digit m, cut ?_⟩
    rw [eq]
    exact Rsl2.strtol_numeral m
  | negSucc m =>
    have eq : number (Int.negSucc m) = '-' :: Nat.toDigits 10 (m + 1) := by
      show ("-" ++ Nat.repr (m + 1)).toList = _
      rw [String.toList_append, Nat.toList_repr]
      rfl
    refine ⟨['-'], Nat.toDigits 10 (m + 1), eq, .inr rfl, Nat.toDigits_ne_nil, digit (m + 1), cut ?_⟩
    rw [eq]
    have value := digits_eq (digit (m + 1)) 0
    rw [Nat.ofDigitChars_toDigits (by decide) (by decide)] at value
    exact congrArg Neg.neg value

/-- A number of 32 bits as it is printed. -/
lemma Spelled.number {n : Int} (low : -2 ^ 31 ≤ n) (high : n < 2 ^ 31) (apart : Apart Char.isDigit rest) :
    Spelled (.int n) (number n) rest := by
  obtain ⟨sign, ds, eq, signed, some_digit, all, value⟩ := number_digits low high
  rw [eq] at value ⊢
  rw [← value]
  exact .int signed some_digit all apart

/-- A token that is written is read. -/
lemma step_spelled (spelled : Spelled t x rest) :
    ∃ r, scanner.step () (x ++ rest) = some (⟨some r, x⟩, (), rest) ∧ r.tokens x = [t] := by
  cases spelled with
  | var v apart =>
    obtain ⟨h, y, eq, -⟩ := keyword_letter v
    refine ⟨.var v, Lexer.step_longest ?_ (longest_var v apart), rfl⟩
    rw [eq]
    exact List.cons_ne_nil _ _
  | generic name named other apart =>
    rw [isName] at named
    cases letters : name.toList with
    | nil =>
      rw [letters] at named
      cases named
    | cons c y =>
      rw [letters] at named
      obtain ⟨letter, all⟩ := Bool.and_eq_true_iff.1 named
      refine ⟨.generic, Lexer.step_longest (List.cons_ne_nil _ _) (longest_generic letter (List.all_eq_true.1 all)
        (fun v same => other v (String.toList_inj.1 (same.trans letters.symm))) apart), ?_⟩
      show [Token.generic (String.ofList (c :: y))] = _
      rw [← letters, String.ofList_toList]
  | @int sign ds _ signed some_digit all apart =>
    refine ⟨.integer, Lexer.step_longest ?_ ?_, rfl⟩
    · rw [List.append_assoc]
      exact fun empty => some_digit (List.append_eq_nil_iff.1 (List.append_eq_nil_iff.1 empty).2).1
    · rw [List.append_assoc]
      exact longest_int signed some_digit all apart
  | null => exact ⟨.null, Lexer.step_longest (List.cons_ne_nil _ _) longest_null, rfl⟩
  | str s some_char inside =>
    have found : longest rules ('"' :: (s ++ '"' :: rest)) = some (.string, '"' :: (s ++ ['"']), rest) :=
      longest_str some_char inside
    refine ⟨.string, Lexer.step_longest (List.cons_ne_nil _ _) ?_, ?_⟩
    · rw [List.cons_append, List.append_assoc]
      exact found
    · show [Token.str (some (String.ofList ((s ++ ['"']).dropLast)))] = _
      rw [List.dropLast_concat]
  | sym c symbol apart =>
    exact ⟨.symbol, Lexer.step_longest (List.cons_ne_nil _ _) (longest_sym symbol apart), rfl⟩

/-- A token does not begin with a blank. -/
lemma spelled_apart (spelled : Spelled t x rest) : Apart isBlank (x ++ rest) := by
  have letter_apart {c : Char} (letter : c.isAlpha = true) : isBlank c = false := by
    cases blank : isBlank c with
    | false => rfl
    | true =>
      obtain space | tab := Bool.or_eq_true_iff.1 blank
      · rw [eq_of_beq space] at letter
        cases letter
      · rw [eq_of_beq tab] at letter
        cases letter
  intro d first
  cases spelled with
  | var v apart =>
    obtain ⟨h, y, eq, letter⟩ := keyword_letter v
    rw [eq] at first
    cases first
    exact letter_apart letter
  | generic name named other apart =>
    rw [isName] at named
    cases letters : name.toList with
    | nil =>
      rw [letters] at named
      cases named
    | cons c y =>
      rw [letters] at named first
      cases first
      exact letter_apart (Bool.and_eq_true_iff.1 named).1
  | @int sign ds _ signed some_digit all apart =>
    obtain rfl | rfl := signed
    · cases ds with
      | nil => exact absurd rfl some_digit
      | cons c ds =>
        obtain rfl := Option.some.inj first
        exact (digit_other (all _ List.mem_cons_self)).2.2.1
    · cases first
      decide
  | null =>
    obtain rfl := Option.some.inj first
    decide
  | str s some_char inside =>
    obtain rfl := Option.some.inj first
    decide
  | sym c symbol apart =>
    obtain rfl := Option.some.inj first
    have all : ∀ c ∈ "!&|=><();[]*+/^-".toList, isBlank c = false := forall_chars (by decide)
    exact all _ symbol

/-- Blanks are skipped. -/
lemma runs_blanks {out : End Unit (List Token) Empty} (all : ∀ c ∈ blanks, isBlank c = true)
    (apart : Apart isBlank cs) (ran : scanner.Runs act () read cs out) :
    scanner.Runs act () read (blanks ++ cs) out := by
  by_cases empty : blanks = []
  · rw [empty]
    exact ran
  · have found := longest_blank empty all apart
    have stepped : scanner.step () (blanks ++ cs) = some (⟨some .blank, blanks⟩, (), cs) :=
      Lexer.step_longest (by simp [empty]) found
    refine Lexer.Runs.next stepped ?_ ran
    show Except.ok (read ++ []) = _
    rw [List.append_nil]

/-- The tokens of a layout are read. -/
theorem scan_layout (layout : Layout ts cs) : scan cs = ts := by
  have runs (read : List Token) : scanner.Runs act () read cs (.eof () (read ++ ts)) := by
    -- the tokens that were read before stay in front
    induction layout generalizing read with
    | @nil blanks blank =>
      have ran : scanner.Runs act () read (blanks ++ []) (.eof () read) :=
        runs_blanks blank (fun c mem => by cases mem) Lexer.Runs.eof
      rw [List.append_nil] at ran ⊢
      exact ran
    | @cons t ts blanks x rest blank spelled _ ih =>
      obtain ⟨r, stepped, tokens⟩ := step_spelled spelled
      have acted : Lexer.perform act ⟨some r, x⟩ read = Except.ok (read ++ r.tokens x) := rfl
      rw [tokens] at acted
      have ran := Lexer.Runs.next stepped acted (ih (read ++ [t]))
      rw [← List.append_cons] at ran
      exact runs_blanks blank (spelled_apart spelled) ran
  obtain ⟨out, ran⟩ : ∃ out, scanner.run act (cs.length + 1) () [] cs = some out :=
    Lexer.total scanner_consumes () [] cs
  have ended := Lexer.Runs.unique ⟨_, ran⟩ (runs [])
  rw [scan, ran, ended]
  rfl

end Texts

end GridWay.Im
