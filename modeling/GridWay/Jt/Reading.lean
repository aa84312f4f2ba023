import GridWay.Jt.Lists

/-!
# Templates are read

* `goes_statement`: a statement is read.
* `yylex_script`: a file is read as its statements.
* `template_read`: `gw_template_parser` on a written template.
-/

namespace GridWay.Jt

open GridWay.Lex GridWay.Lex.Pattern Pattern
open Rsl2 (atoi32)

section Statements

variable {lim : Limits} {GW_LOCATION : Text} {st : State} {s : Statement} {k : Kind}
  {x y rest : Text}

lemma Digits.apart (digits : Digits x) : Apart isBlank (x ++ rest) := by
  cases x with
  | nil => exact absurd rfl digits.some_digit
  | cons d x => exact apart_cons (digit_plain (digits.all d List.mem_cons_self)).1

/-- What is written after the sign of an assignment does not begin with a blank. -/
lemma Statement.Right.apart (right : s.Right k x) : Apart isBlank (x ++ rest) := by
  cases right with
  | unset ends apart | noFiles ends apart | noVars ends apart =>
    refine apart_append ?_ apart
    rintro rfl
    cases ends.pos
  | line plain =>
    obtain ⟨c, cs, rfl, blank, -⟩ := plain.start
    exact apart_cons blank
  | quoted quotable => exact apart_cons rfl
  | yes word ends => obtain rfl | rfl | rfl := word <;> exact apart_cons rfl
  | no word ends => obtain rfl | rfl | rfl := word <;> exact apart_cons rfl
  | files list single ends apart =>
    rw [List.append_assoc]
    exact list.apart
  | env list ends apart =>
    rw [List.append_assoc]
    exact list.apart
  | int digits | minutes digits | hours digits | days digits =>
    rw [List.append_assoc]
    exact digits.apart

/-- What the rule of the variable of a statement changes. -/
def Statement.cleared (jt : Template) : Statement → Template
  | .env _ => { jt with num_env := 0 }
  | _ => jt

/-- What the rule of a variable leaves for the rules of its value. -/
structure Ready (s : Statement) (jt : Template) (st : State) : Prop where
  var : st.jtp_var = s.var
  jt : st.jt = s.cleared jt
  files : ∀ find names, s = .files find names → st.find = find ∧ st.file = 0

lemma act_var_jt {v : Var} (other : v ≠ .ENVIRONMENT) : (act_var v st).jt = st.jt := by
  cases v with
  | ENVIRONMENT => exact absurd rfl other
  | _ => rfl

lemma act_var_var (v : Var) : (act_var v st).jtp_var = v := by
  cases v <;> rfl

/-- The rule of the variable of a statement gets ready for its value. -/
lemma ready (kind : s.var.kind = k) (right : s.Right k x) : Ready s st.jt (act_var s.var st) where
  var := act_var_var _
  jt := by
    have other {v : Var} (kind : v.kind ≠ .env) : (act_var v st).jt = st.jt :=
      act_var_jt fun environment => kind (environment ▸ rfl)
    cases right with
    | env | noVars => rfl
    | files | noFiles => exact other (by rw [kind]; decide)
    | minutes | hours | days => rfl
    | unset | line | quoted | int | yes | no => exact other (by rw [kind]; decide)
  files := by
    rintro find names rfl
    cases find <;> exact ⟨rfl, rfl⟩

/-- The value of a statement is read. -/
lemma goes_right {jt : Template} (ready : Ready s jt st) (room : s.Fits lim jt)
    (right : s.Right k x) :
    ∃ st', Goes lim GW_LOCATION (.val k) st (x ++ rest) .initial st' rest ∧
      st'.jt = s.apply lim GW_LOCATION jt := by
  obtain ⟨var, same, files⟩ := ready
  cases right with
  | unset ends apart => exact ⟨st, goes_end .str (by decide) ends, same⟩
  | noFiles ends apart => exact ⟨st, goes_end .files (by decide) ends, same⟩
  | noVars ends apart => exact ⟨st, goes_end .env (by decide) ends, same⟩
  | line plain =>
    rw [List.append_assoc]
    refine ⟨_, (goes_line plain).trans (goes_end .str (by decide) newline_ends), ?_⟩
    dsimp only
    rw [var, same]
    rfl
  | @quoted v val quotable =>
    have eq : '"' :: (val ++ ['"', '\n']) ++ rest = '"' :: (val ++ '"' :: '\n' :: rest) := by simp
    rw [eq]
    refine ⟨_, (goes_quoted quotable).trans (goes_end .str (by decide) newline_ends), ?_⟩
    dsimp only
    rw [var, same]
    rfl
  | int digits ends =>
    rw [List.append_assoc]
    refine ⟨_, (goes_digits digits ends.apart_digit).trans (goes_end .int (by decide) ends), ?_⟩
    dsimp only
    rw [var, same]
    rfl
  | yes word ends =>
    rw [List.append_assoc]
    refine ⟨_, (goes_yes word).trans (goes_end .yn (by decide) ends), ?_⟩
    dsimp only
    rw [var, same]
    rfl
  | no word ends =>
    rw [List.append_assoc]
    refine ⟨_, (goes_no word).trans (goes_end .yn (by decide) ends), ?_⟩
    dsimp only
    rw [var, same]
    rfl
  | @files find names x e list single ends apart =>
    obtain ⟨rfl, first⟩ := files find names rfl
    have other : e ≠ [] := List.ne_nil_of_length_pos ends.pos
    have space : ∀ m ∈ lim.files, st.jt.numFiles st.find + names.length < m := by
      rw [same]
      exact room
    obtain ⟨st', gone, jt'⟩ := goes_list list first single space (apart_append other apart)
    rw [List.append_assoc]
    refine ⟨st', gone.trans (goes_end .files (by decide) ends), ?_⟩
    rw [jt', same]
    rfl
  | @env vars x e list ends apart =>
    have next : ∃ d cs, e ++ rest = d :: cs ∧ isNameChar d = false := by
      cases e with
      | nil => cases ends.pos
      | cons d e => exact ⟨d, _, rfl, apart d rfl⟩
    have space : ∀ m ∈ lim.files, st.jt.num_env + vars.length ≤ m := by
      intro m files
      rw [same, Statement.cleared, Nat.zero_add]
      exact room m files
    obtain ⟨st', gone, jt'⟩ := goes_vars list next space
    rw [List.append_assoc]
    refine ⟨st', gone.trans (goes_env_end ends apart), ?_⟩
    rw [jt', same]
    rfl
  | minutes digits ends =>
    obtain ⟨st', gone, jt'⟩ := goes_numbers lim (.minutes digits ends)
    exact ⟨st', gone, jt'.trans (congrArg (Statement.apply lim GW_LOCATION · _) same)⟩
  | hours digits digits' ends =>
    obtain ⟨st', gone, jt'⟩ := goes_numbers lim (.hours digits digits' ends)
    exact ⟨st', gone, jt'.trans (congrArg (Statement.apply lim GW_LOCATION · _) same)⟩
  | days digits digits' digits'' ends =>
    obtain ⟨st', gone, jt'⟩ := goes_numbers lim (.days digits digits' digits'' ends)
    exact ⟨st', gone, jt'.trans (congrArg (Statement.apply lim GW_LOCATION · _) same)⟩

/-- A statement is read. -/
lemma goes_statement (spelled : s.Spelled x) (room : s.Fits lim st.jt) :
    ∃ st', Goes lim GW_LOCATION .initial st (x ++ rest) .initial st' rest ∧
      st'.jt = s.apply lim GW_LOCATION st.jt := by
  obtain @⟨b, b', y, blank, blank', right⟩ := spelled
  obtain ⟨st', gone, jt⟩ := goes_right (ready rfl right) room right
  -- The keyword ends where the blanks or the sign begin.
  have sign : Apart isWordChar (b ++ '=' :: (b' ++ (y ++ rest))) := by
    cases b with
    | nil => exact apart_cons rfl
    | cons c b =>
      refine apart_cons ?_
      obtain space | tab := Bool.or_eq_true_iff.1 (blank c List.mem_cons_self)
      · rw [eq_of_beq space]
        rfl
      · rw [eq_of_beq tab]
        rfl
  have eq : s.var.keyword.toList ++ (b ++ '=' :: (b' ++ y)) ++ rest =
      s.var.keyword.toList ++ (b ++ '=' :: (b' ++ (y ++ rest))) := by simp
  rw [eq]
  exact ⟨st', (goes_keyword s.var sign).trans ((goes_assign blank blank' right.apart).trans gone),
    jt⟩

/-- Where no keyword begins, a comment or a blank text is read. -/
lemma keyword_hidden {v : Var} {c : Char} {cs : Text} (other : isWordChar c = false) :
    (word v.keyword.toList).find (c :: cs) = none := by
  obtain ⟨h, t, eq, upper⟩ := keyword_upper v
  refine if_neg fun front => ?_
  obtain ⟨behind, same⟩ := List.isPrefixOf_iff_prefix.1 front
  rw [eq, List.cons_append] at same
  obtain rfl := (List.cons.inj same).1
  rw [upper] at other
  cases other

lemma goes_comment (line : '\n' ∉ y) :
    Goes lim GW_LOCATION .initial st ('#' :: (y ++ '\n' :: rest)) .initial st rest := by
  have split : rules .initial = [] ++ (comment.seq (char '\n'), Rule.comment) ::
      (Var.all.map (fun v => (word v.keyword.toList, Rule.var v)) ++
        [(many1 isSpace, Rule.blank), (many1 isWordChar, Rule.other)]) := rfl
  have within : (many (· != '\n')).find (y ++ '\n' :: rest) = some (y, '\n' :: rest) := by
    refine many_find (fun c mem => bne_iff_ne.2 ?_) (apart_cons rfl)
    rintro rfl
    exact line mem
  have here : (comment.seq (char '\n')).find ('#' :: (y ++ '\n' :: rest)) =
      some (['#'] ++ y ++ ['\n'], rest) :=
    seq_find (seq_find (char_find '#' _) within) (char_find '\n' rest)
  refine goes_rule (List.cons_ne_nil _ _) (longest_past split (List.forall_mem_nil _) here ?_) rfl
  intro q mem z found
  obtain mem | mem := List.mem_append.1 mem
  · obtain ⟨v, -, rfl⟩ := List.mem_map.1 mem
    rw [keyword_hidden rfl] at found
    cases found
  · obtain rfl | rfl := List.mem_pair.1 mem
    · cases found
    · cases found

lemma goes_space (some_space : x ≠ []) (blank : ∀ c ∈ x, isSpace c = true)
    (apart : Apart isSpace rest) :
    Goes lim GW_LOCATION .initial st (x ++ rest) .initial st rest := by
  have split : rules .initial = ((comment.seq (char '\n'), Rule.comment) ::
      Var.all.map fun v => (word v.keyword.toList, Rule.var v)) ++
        (many1 isSpace, Rule.blank) :: [(many1 isWordChar, Rule.other)] := rfl
  cases x with
  | nil => exact absurd rfl some_space
  | cons c x =>
    have first : isWordChar c = false ∧ c ≠ '#' := by
      have space := blank c List.mem_cons_self
      obtain space | newline := Bool.or_eq_true_iff.1 space
      · obtain space | tab := Bool.or_eq_true_iff.1 space
        · rw [eq_of_beq space]
          decide
        · rw [eq_of_beq tab]
          decide
      · rw [eq_of_beq newline]
        decide
    have hidden : ∀ q ∈ (comment.seq (char '\n'), Rule.comment) ::
        Var.all.map fun v => (word v.keyword.toList, Rule.var v), q.1.find (c :: x ++ rest) =
        none := by
      refine List.forall_mem_cons.2 ⟨seq_hidden_left (seq_hidden_left (char_hidden first.2)),
        fun q mem => ?_⟩
      obtain ⟨v, -, rfl⟩ := List.mem_map.1 mem
      exact keyword_hidden first.1
    have late : ∀ q ∈ [(many1 isWordChar, Rule.other)], ∀ z ∈ q.1.find (c :: x ++ rest),
        z.1.length ≤ (c :: x).length := by
      refine List.forall_mem_singleton.2 fun z found => ?_
      have none : (many1 isWordChar).find (c :: x ++ rest) = none :=
        seq_hidden_left (one_hidden (apart_cons first.1))
      rw [none] at found
      cases found
    exact goes_rule (List.cons_ne_nil _ _)
      (longest_past split hidden (many1_find some_space blank apart) late) rfl

/-- A template is read as its statements. -/
lemma goes_script {ss : List Statement} (st : State) (script : Script ss x)
    (fit : Fit lim GW_LOCATION ss st.jt) :
    ∃ st', Goes lim GW_LOCATION .initial st x .initial st' [] ∧
      st'.jt = ss.foldl (Statement.apply lim GW_LOCATION) st.jt := by
  induction script generalizing st with
  | nil => exact ⟨st, Lexer.Leads.refl, rfl⟩
  | space some_space blank apart script ih =>
    obtain ⟨st', gone, jt⟩ := ih st fit
    exact ⟨st', (goes_space some_space blank apart).trans gone, jt⟩
  | comment line script ih =>
    obtain ⟨st', gone, jt⟩ := ih st fit
    exact ⟨st', (goes_comment line).trans gone, jt⟩
  | line spelled script ih =>
    obtain ⟨st', gone, jt⟩ := goes_statement spelled fit.1
    obtain ⟨st'', last, jt'⟩ := ih st' (jt ▸ fit.2)
    exact ⟨st'', gone.trans last, by rw [jt', jt, List.foldl_cons]⟩

end Statements

/-- Nothing is left of an earlier call. -/
structure Kept.Fresh (kept : Kept) : Prop where
  start : kept.start = .initial
  unread : kept.unread = []
  ended : kept.ended = false

/-- A file is read as its statements. -/
lemma yylex_script {lim : Limits} {GW_LOCATION x : Text} (buffered : ReadAhead) {kept : Kept}
    {jt : Template} {ss : List Statement} (fresh : kept.Fresh) (script : Script ss x)
    (fit : Fit lim GW_LOCATION ss jt) :
    ∃ kept' : Kept, yylex_jt lim GW_LOCATION buffered kept jt x =
        some (.done kept' (ss.foldl (Statement.apply lim GW_LOCATION) jt)) ∧ kept'.Fresh := by
  obtain ⟨st', gone, eq⟩ := goes_script ⟨kept.toGlobals, jt⟩ script fit
  obtain ⟨out, ran⟩ : ∃ out, scanner.run (act lim GW_LOCATION) (x.length + 1) .initial
      ⟨kept.toGlobals, jt⟩ x = some out := Lexer.total scanner_consumes _ _ _
  -- The scanner ends in one way only, and the statements lead to the end of the file.
  have ends := Lexer.Runs.unique ⟨_, ran⟩ (gone _ Lexer.Runs.eof)
  refine ⟨⟨st'.toGlobals, .initial, [], false⟩, ?_, rfl, rfl, rfl⟩
  rw [yylex_jt, fresh.ended, fresh.unread, fresh.start]
  dsimp only
  rw [if_neg Bool.false_ne_true, List.nil_append, ran, ends]
  dsimp only
  rw [eq]

lemma fit_append {lim : Limits} {GW_LOCATION : Text} {jt : Template}
    {defaults ss : List Statement} :
    Fit lim GW_LOCATION (defaults ++ ss) jt ↔ Fit lim GW_LOCATION defaults jt ∧
      Fit lim GW_LOCATION ss (defaults.foldl (Statement.apply lim GW_LOCATION) jt) := by
  induction defaults generalizing jt with
  | nil => exact ⟨fun fit => ⟨trivial, fit⟩, And.right⟩
  | cons s defaults ih =>
    rw [List.cons_append, Fit, Fit, ih, List.foldl_cons, and_assoc]

/-- A template is read after the default one, each as its statements. -/
lemma parse_script {lim : Limits} {GW_LOCATION x y : Text} (buffered : ReadAhead) {kept : Kept}
    (jt : Template) {defaults ss : List Statement} (fresh : kept.Fresh)
    (script : Script defaults x) (script' : Script ss y)
    (fit : Fit lim GW_LOCATION (defaults ++ ss) jt) :
    ∃ kept' : Kept, gw_template_parse lim (some GW_LOCATION) buffered kept jt ⟨some x, some y⟩ =
        some (.returned kept' ((defaults ++ ss).foldl (Statement.apply lim GW_LOCATION) jt) 0) ∧
        kept'.Fresh := by
  obtain ⟨first, second⟩ := fit_append.1 fit
  obtain ⟨kept₁, read, fresh₁⟩ := yylex_script buffered fresh script first
  obtain ⟨kept₂, read', fresh₂⟩ := yylex_script buffered fresh₁ script' second
  refine ⟨kept₂, ?_, fresh₂⟩
  rw [gw_template_parse]
  dsimp only
  rw [read]
  dsimp only
  rw [read', List.foldl_append]

end GridWay.Jt
