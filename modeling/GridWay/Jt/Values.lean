import GridWay.Jt.Script

/-!
# The values of a template

The scanner of `gw_template_parser.l` on what is written after the sign of an assignment: texts,
numbers, answers and deadlines.

* `goes_rule`: a rule of the scanner.
* `goes_line`, `goes_quoted`, `goes_digits`, `goes_yes`, `goes_no`, `goes_numbers`: the values.
-/

namespace GridWay.Jt

open GridWay.Lex GridWay.Lex.Pattern Pattern
open Rsl2 (atoi32)

section Rules

variable {lim : Limits} {GW_LOCATION : Text} {st : State} {b b' x y e rest : Text} {c : Char}
  {k : Kind}

/-- The scanner goes on. -/
abbrev Goes (lim : Limits) (GW_LOCATION : Text) :
    Cond → State → Text → Cond → State → Text → Prop :=
  scanner.Leads (act lim GW_LOCATION)

lemma goes_rule {s : Cond} {r : Rule} {cs : Text} {st' : State} (some_char : cs ≠ [])
    (found : longest (rules s) cs = some (r, x, rest))
    (acted : act lim GW_LOCATION r x st = .ok st') :
    Goes lim GW_LOCATION s st cs (goto s r) st' rest :=
  Lexer.Leads.rule some_char found acted

lemma goes_keyword (v : Var) (apart : Apart isWordChar rest) :
    Goes lim GW_LOCATION .initial st (v.keyword.toList ++ rest) (.var v.kind) (act_var v st)
    rest := by
  have some_char : v.keyword.toList ++ rest ≠ [] := fun empty =>
    keyword_ne_nil v (List.append_eq_nil_iff.1 empty).1
  exact goes_rule some_char (longest_keyword v apart) rfl

/-- The sign of an assignment. -/
lemma goes_assign (blank : Blanks b) (blank' : Blanks b') (apart : Apart isBlank rest) :
    Goes lim GW_LOCATION (.var k) st (b ++ '=' :: (b' ++ rest)) (.val k) st rest := by
  have split : rules (.var k) = [] ++ (separator '=', Rule.assign k) :: [] := rfl
  have some_char : b ++ '=' :: (b' ++ rest) ≠ [] :=
    List.append_ne_nil_of_right_ne_nil b (List.cons_ne_nil _ _)
  exact goes_rule some_char (longest_of split (separator_find rfl blank blank' apart)
    (fun q mem => absurd mem List.not_mem_nil) (fun q mem => absurd mem List.not_mem_nil)) rfl

/-- The rules behind the first one of a value match within a line, or match a quoted text. -/
lemma rules_line (k : Kind) :
    ∀ q ∈ (rules (.val k)).tail, q.1.Avoids '\n' ∨ q.1 = Pattern.quoted := by
  have digits : (many1 Char.isDigit).Avoids '\n' := seq_avoids (one_avoids rfl) (many_avoids rfl)
  have between (c : Char) (other : c ≠ '\n') : (separator c).Avoids '\n' :=
    seq_avoids (many_avoids rfl)
      (seq_avoids (one_avoids (beq_eq_false_iff_ne.2 other.symm)) (many_avoids rfl))
  have word (w : String) (line : '\n' ∉ w.toList) : (word w.toList).Avoids '\n' := word_avoids line
  have spelled (a b c : String) (line : '\n' ∉ a.toList) (line' : '\n' ∉ b.toList)
      (line'' : '\n' ∉ c.toList) :
      (spelled a b c).Avoids '\n' :=
    alt_avoids (word a line) (alt_avoids (word b line') (word c line''))
  intro q mem
  cases k with
  | int =>
    obtain rfl := List.mem_singleton.1 mem
    exact .inl digits
  | yn =>
    simp only [rules, List.tail_cons, List.mem_cons, List.not_mem_nil, or_false] at mem
    obtain rfl | rfl | rfl := mem
    · exact .inl (spelled _ _ _ (by decide) (by decide) (by decide))
    · exact .inl (spelled _ _ _ (by decide) (by decide) (by decide))
    · exact .inl (one_avoids rfl)
  | str =>
    obtain rfl | rfl := List.mem_pair.1 mem
    · exact .inr rfl
    · exact .inl (many_avoids rfl)
  | files =>
    simp only [rules, List.tail_cons, List.mem_cons, List.not_mem_nil, or_false] at mem
    obtain rfl | rfl | rfl := mem
    · exact .inl (between ',' (by decide))
    · exact .inl (many_avoids rfl)
    · exact .inl (many_avoids rfl)
  | env =>
    simp only [rules, List.tail_cons, List.mem_cons, List.not_mem_nil, or_false] at mem
    obtain rfl | rfl | rfl := mem
    · exact .inl (between '=' (by decide))
    · exact .inl (many_avoids rfl)
    · exact .inl (one_avoids rfl)
  | dl =>
    obtain rfl | rfl := List.mem_pair.1 mem
    · exact .inl (seq_avoids (one_avoids rfl) digits)
    · exact .inl digits

/-- The end of the line of a value. -/
lemma longest_end (k : Kind) (ends : LineEnd e) :
    longest (rules (.val k)) (e ++ rest) = some (.line_end k, e, rest) := by
  have split : rules (.val k) = [] ++ (lineEnd, Rule.line_end k) :: (rules (.val k)).tail := by
    cases k <;> rfl
  refine longest_past split (List.forall_mem_nil _) (lineEnd_find ends) fun q mem z found => ?_
  obtain avoids | quoted := rules_line k q mem
  · exact ends.short avoids found
  -- A quoted text may go on behind the line, but its quote would have to come first.
  · obtain ⟨b, c, y, rfl, blank, first⟩ := ends.shape
    have hidden : Pattern.quoted.find (b ++ c :: y ++ rest) = none := by
      cases b with
      | nil =>
        refine quoted_hidden ?_
        obtain rfl | rfl := first <;> decide
      | cons d b =>
        refine quoted_hidden ?_
        rintro rfl
        exact absurd (blank '"' List.mem_cons_self) (by decide)
    rw [quoted, hidden] at found
    cases found

lemma end_ne_nil (ends : LineEnd e) : e ++ rest ≠ [] := by
  obtain ⟨x, rfl⟩ := ends.init
  simp

lemma goes_end (k : Kind) (other : k ≠ .dl) (ends : LineEnd e) :
    Goes lim GW_LOCATION (.val k) st (e ++ rest) .initial st rest := by
  refine goes_rule (end_ne_nil ends) (longest_end k ends) ?_
  cases k with
  | dl => exact absurd rfl other
  | int | yn | str | files | env => rfl

lemma newline_ends : LineEnd ['\n'] := .plain no_blanks

section Str

variable {val : Text}

lemma hidden_start {c : Char} {cs : Text} (other : isBlank c = false) (comment : c ≠ '#')
    (newline : c ≠ '\n') :
    lineEnd.find (c :: cs) = none :=
  lineEnd_hidden no_blanks other comment newline

lemma goes_line (plain : Plain val) :
    Goes lim GW_LOCATION (.val .str) st (val ++ '\n' :: rest) (.val .str)
      { st with jt := set_value_str lim GW_LOCATION st.jt st.jtp_var val } ('\n' :: rest) := by
  obtain ⟨c, cs, rfl, blank, comment, quote⟩ := plain.start
  have newline : c ≠ '\n' := fun same => plain.line (same ▸ List.mem_cons_self)
  have split : rules (.val .str) =
      [(lineEnd, Rule.line_end .str), (Pattern.quoted, Rule.quoted)] ++
      (many (· != '\n'), Rule.line) :: [] := rfl
  have here : (many (· != '\n')).find (c :: cs ++ '\n' :: rest) = some (c :: cs, '\n' :: rest) := by
    refine many_find (fun d mem => bne_iff_ne.2 ?_) (apart_cons rfl)
    rintro rfl
    exact plain.line mem
  have hidden : ∀ q ∈ [(lineEnd, Rule.line_end .str), (Pattern.quoted, .quoted)],
      q.1.find (c :: cs ++ '\n' :: rest) = none :=
    List.forall_mem_cons.2
      ⟨hidden_start blank comment newline, List.forall_mem_singleton.2 (quoted_hidden quote)⟩
  exact goes_rule (List.cons_ne_nil _ _)
    (longest_past split hidden here (List.forall_mem_nil _)) rfl

lemma goes_quoted (quotable : Quotable val) :
    Goes lim GW_LOCATION (.val .str) st ('"' :: (val ++ '"' :: '\n' :: rest)) (.val .str)
      { st with jt := set_value_str lim GW_LOCATION st.jt st.jtp_var val } ('\n' :: rest) := by
  have split : rules (.val .str) =
      [(lineEnd, Rule.line_end .str)] ++
      (Pattern.quoted, Rule.quoted) :: [(many (· != '\n'), Rule.line)] := rfl
  have hidden : ∀ q ∈ [(lineEnd, Rule.line_end .str)],
      q.1.find ('"' :: (val ++ '"' :: '\n' :: rest)) = none :=
    List.forall_mem_singleton.2 (hidden_start rfl (by decide) (by decide))
  have late : ∀ q ∈ [(many (· != '\n'), Rule.line)],
      ∀ z ∈ q.1.find ('"' :: (val ++ '"' :: '\n' :: rest)),
      z.1.length ≤ ('"' :: (val ++ ['"'])).length := by
    refine List.forall_mem_singleton.2 fun z found => ?_
    have eq : '"' :: (val ++ '"' :: '\n' :: rest) = ('"' :: (val ++ ['"'])) ++ '\n' :: rest :=
      by simp
    rw [eq] at found
    exact (many_avoids rfl).short found
  refine goes_rule (List.cons_ne_nil _ _)
    (longest_past split hidden (quoted_find quotable.inside) late) ?_
  show Except.ok { st with jt := set_value_str lim GW_LOCATION st.jt st.jtp_var (unquoted _) } = _
  rw [unquoted_eq quotable]

end Str

lemma digit_plain (digit : c.isDigit = true) :
    isBlank c = false ∧ c ≠ '#' ∧ c ≠ '\n' ∧ c ≠ ':' := by
  have other (d : Char) (no : d.isDigit = false) : c ≠ d := by
    rintro rfl
    rw [digit] at no
    cases no
  refine ⟨?_, other _ (by decide), other _ (by decide), other _ (by decide)⟩
  rw [isBlank, beq_eq_false_iff_ne.2 (other ' ' (by decide)),
    beq_eq_false_iff_ne.2 (other '\t' (by decide))]
  rfl

/-- No digit comes first at the end of a line. -/
lemma LineEnd.apart_digit (ends : LineEnd e) : Apart Char.isDigit (e ++ rest) := by
  have blank_other {d : Char} (blank : isBlank d = true) : d.isDigit = false := by
    obtain space | tab := Bool.or_eq_true_iff.1 blank
    · rw [eq_of_beq space]
      rfl
    · rw [eq_of_beq tab]
      rfl
  obtain ⟨b, d, y, rfl, blank, first⟩ := ends.shape
  cases b with
  | nil =>
    refine apart_cons ?_
    obtain rfl | rfl := first <;> rfl
  | cons d b => exact apart_cons (blank_other (blank d List.mem_cons_self))

lemma digits_find (digits : Digits x) (apart : Apart Char.isDigit rest) :
    (many1 Char.isDigit).find (x ++ rest) = some (x, rest) :=
  many1_find digits.some_digit digits.all apart

/-- What begins with a digit is not the end of a line. -/
lemma Digits.hidden (digits : Digits x) : lineEnd.find (x ++ rest) = none := by
  cases x with
  | nil => exact absurd rfl digits.some_digit
  | cons d x =>
    obtain ⟨blank, comment, newline, -⟩ := digit_plain (digits.all d List.mem_cons_self)
    exact hidden_start blank comment newline

lemma Digits.ne_nil (digits : Digits x) : x ++ rest ≠ [] :=
  fun empty => digits.some_digit (List.append_eq_nil_iff.1 empty).1

lemma goes_digits (digits : Digits x) (apart : Apart Char.isDigit rest) :
    Goes lim GW_LOCATION (.val .int) st (x ++ rest) (.val .int)
      { st with jt := set_value_int st.jt st.jtp_var (atoi32 x) } rest := by
  have split : rules (.val .int) = [(lineEnd, Rule.line_end .int)] ++
      (many1 Char.isDigit, Rule.digits) :: [] := rfl
  exact goes_rule digits.ne_nil (longest_past split (List.forall_mem_singleton.2 digits.hidden)
    (digits_find digits apart) (List.forall_mem_nil _)) rfl

section Answers

/-- One of three words is found. -/
lemma spelled_find {u v w : String} (word : x = u.toList ∨ x = v.toList ∨ x = w.toList)
    (apart : ¬u.toList <+: v.toList ++ rest ∧ ¬u.toList <+: w.toList ++ rest ∧
      ¬v.toList <+: w.toList ++ rest) :
    (spelled u v w).find (x ++ rest) = some (x, rest) := by
  have hidden {a b : String} (other : ¬a.toList <+: b.toList ++ rest) :
      (Lex.Pattern.word a.toList).find (b.toList ++ rest) = none :=
    if_neg fun front => other (List.isPrefixOf_iff_prefix.1 front)
  show ((Lex.Pattern.word u.toList).find (x ++ rest)).or
    (((Lex.Pattern.word v.toList).find (x ++ rest)).or
      ((Lex.Pattern.word w.toList).find (x ++ rest))) = _
  obtain rfl | rfl | rfl := word
  · rw [word_find]
    rfl
  · rw [hidden apart.1, word_find]
    rfl
  · rw [hidden apart.2.1, hidden apart.2.2, word_find]
    rfl

lemma spelled_hidden {u v w : String}
    (other : ∀ y ∈ [u, v, w], ¬y.toList <+: x) : (spelled u v w).find x = none := by
  have hidden (y : String) (mem : y ∈ [u, v, w]) : (Lex.Pattern.word y.toList).find x = none :=
    if_neg fun front => other y mem (List.isPrefixOf_iff_prefix.1 front)
  show ((Lex.Pattern.word u.toList).find x).or
    (((Lex.Pattern.word v.toList).find x).or ((Lex.Pattern.word w.toList).find x)) = _
  rw [hidden u (by simp), hidden v (by simp), hidden w (by simp)]
  rfl

lemma goes_yes (word : x = "yes".toList ∨ x = "YES".toList ∨ x = "Yes".toList) :
    Goes lim GW_LOCATION (.val .yn) st (x ++ rest) (.val .yn)
      { st with jt := set_value_int st.jt st.jtp_var 1 } rest := by
  have split : rules (.val .yn) = [(lineEnd, Rule.line_end .yn)] ++
      (spelled "yes" "YES" "Yes", Rule.yes) ::
      [(spelled "no" "NO" "No", Rule.no), (one (· != '\n'), Rule.yn_other)] := rfl
  have here : (spelled "yes" "YES" "Yes").find (x ++ rest) = some (x, rest) :=
    spelled_find word ⟨by simp, by simp, by simp⟩
  have other : (spelled "no" "NO" "No").find (x ++ rest) = none := by
    refine spelled_hidden ?_
    obtain rfl | rfl | rfl := word <;> simp
  have letter : ∃ c cs, x = c :: cs ∧ isBlank c = false ∧ c ≠ '#' ∧ c ≠ '\n' := by
    obtain rfl | rfl | rfl := word
    · exact ⟨'y', _, rfl, rfl, by decide, by decide⟩
    · exact ⟨'Y', _, rfl, rfl, by decide, by decide⟩
    · exact ⟨'Y', _, rfl, rfl, by decide, by decide⟩
  obtain ⟨c, cs, rfl, blank, comment, newline⟩ := letter
  have late : ∀ q ∈ [(spelled "no" "NO" "No", Rule.no), (one (· != '\n'), .yn_other)],
      ∀ z ∈ q.1.find (c :: cs ++ rest), z.1.length ≤ (c :: cs).length := by
    refine List.forall_mem_cons.2 ⟨fun z found => ?_, List.forall_mem_singleton.2 fun z found => ?_⟩
    · rw [other] at found
      cases found
    · obtain ⟨-, eq⟩ := Option.ite_none_right_eq_some.1 found
      cases eq
      exact Nat.le_add_left 1 _
  exact goes_rule (List.cons_ne_nil _ _) (longest_past split
    (List.forall_mem_singleton.2 (hidden_start blank comment newline)) here late) rfl

lemma goes_no (word : x = "no".toList ∨ x = "NO".toList ∨ x = "No".toList) :
    Goes lim GW_LOCATION (.val .yn) st (x ++ rest) (.val .yn)
      { st with jt := set_value_int st.jt st.jtp_var 0 } rest := by
  have split : rules (.val .yn) =
      [(lineEnd, Rule.line_end .yn), (spelled "yes" "YES" "Yes", Rule.yes)] ++
      (spelled "no" "NO" "No", Rule.no) :: [(one (· != '\n'), Rule.yn_other)] := rfl
  have here : (spelled "no" "NO" "No").find (x ++ rest) = some (x, rest) :=
    spelled_find word ⟨by simp, by simp, by simp⟩
  have other : (spelled "yes" "YES" "Yes").find (x ++ rest) = none := by
    refine spelled_hidden ?_
    obtain rfl | rfl | rfl := word <;> simp
  have letter : ∃ c cs, x = c :: cs ∧ isBlank c = false ∧ c ≠ '#' ∧ c ≠ '\n' := by
    obtain rfl | rfl | rfl := word
    · exact ⟨'n', _, rfl, rfl, by decide, by decide⟩
    · exact ⟨'N', _, rfl, rfl, by decide, by decide⟩
    · exact ⟨'N', _, rfl, rfl, by decide, by decide⟩
  obtain ⟨c, cs, rfl, blank, comment, newline⟩ := letter
  have late : ∀ q ∈ [(one (· != '\n'), Rule.yn_other)], ∀ z ∈ q.1.find (c :: cs ++ rest),
      z.1.length ≤ (c :: cs).length := by
    refine List.forall_mem_singleton.2 fun z found => ?_
    obtain ⟨-, eq⟩ := Option.ite_none_right_eq_some.1 found
    cases eq
    exact Nat.le_add_left 1 _
  exact goes_rule (List.cons_ne_nil _ _) (longest_past split
    (List.forall_mem_cons.2 ⟨hidden_start blank comment newline, List.forall_mem_singleton.2 other⟩)
    here late) rfl

end Answers

section Deadlines

lemma goes_first (digits : Digits x) (apart : Apart Char.isDigit rest) :
    Goes lim GW_LOCATION (.val .dl) st (x ++ rest) (.val .dl)
      { st with dl := Function.update st.dl 0 (atoi32 x), dl_comp := 1 } rest := by
  have split : rules (.val .dl) =
      [(lineEnd, Rule.line_end .dl), ((char ':').seq (many1 Char.isDigit), Rule.dl_next)] ++
      (many1 Char.isDigit, Rule.dl_first) :: [] := rfl
  have colon : ((char ':').seq (many1 Char.isDigit)).find (x ++ rest) = none := by
    cases x with
    | nil => exact absurd rfl digits.some_digit
    | cons d x =>
      exact seq_hidden_left (char_hidden (digit_plain (digits.all d List.mem_cons_self)).2.2.2)
  exact goes_rule digits.ne_nil (longest_past split
    (List.forall_mem_cons.2 ⟨digits.hidden, List.forall_mem_singleton.2 colon⟩)
    (digits_find digits apart) (List.forall_mem_nil _)) rfl

lemma goes_next (digits : Digits x) (apart : Apart Char.isDigit rest) (room : st.dl_comp < 3) :
    Goes lim GW_LOCATION (.val .dl) st (':' :: (x ++ rest)) (.val .dl)
      { st with dl := Function.update st.dl st.dl_comp (atoi32 x), dl_comp := st.dl_comp + 1 }
      rest := by
  have split : rules (.val .dl) = [(lineEnd, Rule.line_end .dl)] ++
      ((char ':').seq (many1 Char.isDigit), Rule.dl_next) ::
        [(many1 Char.isDigit, Rule.dl_first)] := rfl
  have here : ((char ':').seq (many1 Char.isDigit)).find (':' :: (x ++ rest)) =
      some ([':'] ++ x, rest) :=
    seq_find (char_find ':' _) (digits_find digits apart)
  have late : ∀ q ∈ [(many1 Char.isDigit, Rule.dl_first)], ∀ z ∈ q.1.find (':' :: (x ++ rest)),
      z.1.length ≤ ([':'] ++ x).length := by
    refine List.forall_mem_singleton.2 fun z found => ?_
    cases found
  refine goes_rule (List.cons_ne_nil _ _) (longest_past split
    (List.forall_mem_singleton.2 (hidden_start rfl (by decide) (by decide))) here late) ?_
  show (if st.dl_comp ≥ 3 then _ else _) = _
  rw [if_neg (Nat.not_le_of_lt room)]
  rfl

lemma goes_deadline {st' : State} (ends : LineEnd e) (acted : act_deadline st = .ok st') :
    Goes lim GW_LOCATION (.val .dl) st (e ++ rest) .initial st' rest :=
  goes_rule (end_ne_nil ends) (longest_end .dl ends) acted

lemma apart_colon : Apart Char.isDigit (':' :: rest) := apart_cons rfl

/-- A deadline is read with its one, two or three numbers. -/
lemma goes_numbers (lim : Limits) {days hours minutes : ℤ}
    (right : (Statement.deadline days hours minutes).Right .dl x) :
    ∃ st', Goes lim GW_LOCATION (.val .dl) st (x ++ rest) .initial st' rest ∧
      st'.jt = (Statement.deadline days hours minutes).apply lim GW_LOCATION st.jt := by
  cases right with
  | minutes digits ends =>
    rw [List.append_assoc]
    refine ⟨_, (goes_first digits ends.apart_digit).trans (goes_deadline ends rfl), ?_⟩
    simp [Statement.apply]
  | hours digits digits' ends =>
    rw [List.append_assoc, List.cons_append, List.append_assoc]
    refine ⟨_, (goes_first digits apart_colon).trans
      ((goes_next digits' ends.apart_digit (Nat.lt_of_sub_eq_succ rfl)).trans
        (goes_deadline ends rfl)), ?_⟩
    simp [Statement.apply]
  | days digits digits' digits'' ends =>
    rw [List.append_assoc, List.cons_append, List.append_assoc, List.cons_append, List.append_assoc]
    refine ⟨_, (goes_first digits apart_colon).trans
      ((goes_next digits' apart_colon (Nat.lt_of_sub_eq_succ rfl)).trans
        ((goes_next digits'' ends.apart_digit (Nat.lt_of_sub_eq_succ rfl)).trans
          (goes_deadline ends rfl))), ?_⟩
    simp [Statement.apply]

end Deadlines

end Rules

end GridWay.Jt
