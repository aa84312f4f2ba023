import GridWay.Jt.Parser

/-!
# What a template says

A template is a list of statements, each on a line of its own, with comments and blank lines between
them. A statement sets a value, adds files or replaces the environment. The scanner of
`gw_template_parser.l` reads what is written in this way as its statements.

* `Statement`, `Statement.apply`: the statements and what they change.
* `Statement.Spelled`: how a statement is written.
* `Script`: how a template is written.
-/

namespace GridWay.Jt

open GridWay.Lex GridWay.Lex.Pattern Pattern
open Rsl2 (atoi32)

/-- A statement. One without a value changes nothing. -/
inductive Statement where
  | unset (v : Var)
  | str (v : Var) (val : Text)
  | int (v : Var) (val : ℤ)
  | yn (v : Var) (val : Bool)
  | files (find : Find) (names : List (Text × Option Text))
  | env (vars : List (Text × Text))
  | deadline (days hours minutes : ℤ)

namespace Template

/-- The number of files in a list. -/
def numFiles (jt : Template) : Find → ℕ
  | .input => jt.num_input_files
  | .output => jt.num_output_files
  | .restart => jt.num_restart_files

/-- A pair of names, the second of which may be missing. -/
def pairOf (lim : Limits) (names : Text × Option Text) (old : Text × Text) : Text × Text :=
  (strncpy lim names.1, (names.2.map (strncpy lim)).getD old.2)

/-- A file is added to a list. -/
def addFile (lim : Limits) (find : Find) (jt : Template) (names : Text × Option Text) : Template :=
  match find with
  | .input =>
    let n := jt.num_input_files
    { jt with
      num_input_files := n + 1
      input_files := Function.update jt.input_files n (pairOf lim names (jt.input_files n)) }
  | .output =>
    let n := jt.num_output_files
    { jt with
      num_output_files := n + 1
      output_files := Function.update jt.output_files n (pairOf lim names (jt.output_files n)) }
  | .restart =>
    let n := jt.num_restart_files
    { jt with
      num_restart_files := n + 1
      restart_files := Function.update jt.restart_files n (strncpy lim names.1) }

/-- A variable is added to the environment. -/
def addVar (lim : Limits) (jt : Template) (pair : Text × Text) : Template :=
  let stored := (strncpy lim pair.1, strncpy lim pair.2)
  { jt with
    num_env := jt.num_env + 1
    environment := Function.update jt.environment jt.num_env stored }

end Template

namespace Statement

/-- What a statement changes. -/
def apply (lim : Limits) (GW_LOCATION : Text) (jt : Template) : Statement → Template
  | .unset _ => jt
  | .str v val => set_value_str lim GW_LOCATION jt v val
  | .int v val => set_value_int jt v val
  | .yn v val => set_value_int jt v (if val then 1 else 0)
  | .files find names => names.foldl (Template.addFile lim find) jt
  | .env vars => vars.foldl (Template.addVar lim) { jt with num_env := 0 }
  | .deadline days hours minutes =>
    { jt with deadline := Jt.int (days * 24 * 60 * 60 + hours * 60 * 60 + minutes * 60) }

/-- There is room for what the statement adds. -/
def Fits (lim : Limits) (jt : Template) : Statement → Prop
  | .files find names => ∀ n ∈ lim.files, jt.numFiles find + names.length < n
  | .env vars => ∀ n ∈ lim.files, vars.length ≤ n
  | _ => True

end Statement

/-- There is room for what the statements add, one after the other. -/
def Fit (lim : Limits) (GW_LOCATION : Text) : List Statement → Template → Prop
  | [], _ => True
  | s :: ss, jt => s.Fits lim jt ∧ Fit lim GW_LOCATION ss (s.apply lim GW_LOCATION jt)

/-! ### How a template is written -/

/-- Blanks. -/
def Blanks (x : Text) : Prop := ∀ c ∈ x, isBlank c = true

/-- The text does not begin with a character of the class. -/
def Apart (p : Char → Bool) (x : Text) : Prop := ∀ c ∈ x.head?, p c = false

/-- The end of a line, with a comment or without. -/
inductive LineEnd : Text → Prop
  | plain {b : Text} (blank : Blanks b) : LineEnd (b ++ ['\n'])
  | comment {b x : Text} (blank : Blanks b)
      (inside : '\n' ∉ x) : LineEnd (b ++ '#' :: (x ++ ['\n']))

/-- A separator between blanks. The ones in front of it begin with a space. -/
inductive Separator (c : Char) : Text → Prop
  | near {b : Text} (blank : Blanks b) : Separator c (c :: b)
  | apart {b b' : Text} (blank : Blanks b)
      (blank' : Blanks b') : Separator c (' ' :: (b ++ c :: b'))

/-- `[^, \n]`. -/
def isNameChar (c : Char) : Bool := !(c == ',' || c == ' ' || c == '\n')

/-- `[^, =\n]`. -/
def isEnvChar (c : Char) : Bool := !(c == ',' || c == ' ' || c == '=' || c == '\n')

/-- The first character of a name, which is no tab and begins no comment. -/
def isStart (c : Char) : Bool := isNameChar c && c != '\t' && c != '#'

/-- The name of a file. -/
structure IsName (x : Text) : Prop where
  start : ∃ c cs, x = c :: cs ∧ isStart c = true
  all : ∀ c ∈ x, isNameChar c = true

/-- The name of a variable of the environment. -/
structure IsVar (x : Text) : Prop where
  start : ∃ c cs, x = c :: cs ∧ isStart c = true
  all : ∀ c ∈ x, isEnvChar c = true

/-- The names of one file. -/
inductive FileNames : Text × Option Text → Text → Prop
  | one {a : Text} (name : IsName a) : FileNames (a, none) a
  | two {a b gap : Text} (name : IsName a) (blank : Blanks gap) (name' : IsName b) :
      FileNames (a, some b) (a ++ ' ' :: (gap ++ b))

/-- The names of files. -/
inductive FileList : List (Text × Option Text) → Text → Prop
  | last {f : Text × Option Text} {x : Text} (names : FileNames f x) : FileList [f] x
  | more {f : Text × Option Text} {fs : List (Text × Option Text)} {x sep y : Text}
      (names : FileNames f x)
      (separator : Separator ',' sep) (rest : FileList fs y) : FileList (f :: fs) (x ++ (sep ++ y))

/-- A text that can stand in quotes. -/
structure Quotable (val : Text) : Prop where
  inside : '"' ∉ val
  whole : ∀ c ∈ val, c.toNat ≠ 0

/-- The value of a variable of the environment, in quotes or without. -/
inductive EnvValue : Text → Text → Prop
  | quoted {val : Text} (quotable : Quotable val) : EnvValue val ('"' :: (val ++ ['"']))
  | plain {val : Text} (name : IsName val) (bare : val.head? ≠ some '"') : EnvValue val val

/-- Variables of the environment. -/
inductive EnvList : List (Text × Text) → Text → Prop
  | last {a val x sep : Text} (name : IsVar a) (separator : Separator '=' sep)
      (value : EnvValue val x) :
      EnvList [(a, val)] (a ++ (sep ++ x))
  | more {a val x sep sep' y : Text} {vars : List (Text × Text)} (name : IsVar a)
      (separator : Separator '=' sep)
      (value : EnvValue val x) (separator' : Separator ',' sep') (rest : EnvList vars y) :
      EnvList ((a, val) :: vars) (a ++ (sep ++ (x ++ (sep' ++ y))))

/-- A text that is a value as it is. -/
structure Plain (val : Text) : Prop where
  start : ∃ c cs, val = c :: cs ∧ isBlank c = false ∧ c ≠ '#' ∧ c ≠ '"'
  line : '\n' ∉ val

/-- A number. -/
structure Digits (x : Text) : Prop where
  some_digit : x ≠ []
  all : ∀ c ∈ x, c.isDigit = true

/-- What is written after the sign of an assignment. The kind is that of the variable. -/
inductive Statement.Right : Statement → Kind → Text → Prop
  | unset {v : Var} {e : Text} (ends : LineEnd e)
      (apart : Apart isBlank e) : Right (.unset v) .str e
  | line {v : Var} {val : Text} (plain : Plain val) : Right (.str v val) .str (val ++ ['\n'])
  | quoted {v : Var} {val : Text} (quotable : Quotable val) :
      Right (.str v val) .str ('"' :: (val ++ ['"', '\n']))
  | int {v : Var} {x e : Text} (digits : Digits x)
      (ends : LineEnd e) : Right (.int v (atoi32 x)) .int (x ++ e)
  | yes {v : Var} {x e : Text} (word : x = "yes".toList ∨ x = "YES".toList ∨ x = "Yes".toList)
      (ends : LineEnd e) : Right (.yn v true) .yn (x ++ e)
  | no {v : Var} {x e : Text} (word : x = "no".toList ∨ x = "NO".toList ∨ x = "No".toList)
      (ends : LineEnd e) : Right (.yn v false) .yn (x ++ e)
  | files {find : Find} {names : List (Text × Option Text)} {x e : Text} (list : FileList names x)
      (single : find = .restart → ∀ f ∈ names, f.2 = none) (ends : LineEnd e)
      (apart : Apart isNameChar e) :
      Right (.files find names) .files (x ++ e)
  | env {vars : List (Text × Text)} {x e : Text} (list : EnvList vars x) (ends : LineEnd e)
      (apart : Apart isNameChar e) : Right (.env vars) .env (x ++ e)
  | noFiles {find : Find} {e : Text} (ends : LineEnd e)
      (apart : Apart isBlank e) : Right (.files find []) .files e
  | noVars {e : Text} (ends : LineEnd e) (apart : Apart isBlank e) : Right (.env []) .env e
  | minutes {m e : Text} (digits : Digits m) (ends : LineEnd e) :
      Right (.deadline 0 0 (atoi32 m)) .dl (m ++ e)
  | hours {h m e : Text} (digits : Digits h) (digits' : Digits m) (ends : LineEnd e) :
      Right (.deadline 0 (atoi32 h) (atoi32 m)) .dl (h ++ ':' :: (m ++ e))
  | days {d h m e : Text} (digits : Digits d) (digits' : Digits h) (digits'' : Digits m)
      (ends : LineEnd e) :
      Right (.deadline (atoi32 d) (atoi32 h) (atoi32 m)) .dl (d ++ ':' :: (h ++ ':' :: (m ++ e)))

/-- The variable of a statement. -/
def Statement.var : Statement → Var
  | .unset v | .str v _ | .int v _ | .yn v _ => v
  | .files .input _ => .INPUT_FILES
  | .files .output _ => .OUTPUT_FILES
  | .files .restart _ => .RESTART_FILES
  | .env _ => .ENVIRONMENT
  | .deadline _ _ _ => .DEADLINE

/-- How a statement is written. -/
inductive Statement.Spelled : Statement → Text → Prop
  | assign {s : Statement} {b b' x : Text} (blank : Blanks b) (blank' : Blanks b')
      (right : s.Right s.var.kind x) : Spelled s (s.var.keyword.toList ++ (b ++ '=' :: (b' ++ x)))

/-- `[ \t\n]`. -/
def isSpace (c : Char) : Bool := c == ' ' || c == '\t' || c == '\n'

/-- How a template is written. -/
inductive Script : List Statement → Text → Prop
  | nil : Script [] []
  | space {ss : List Statement} {b x : Text} (some_space : b ≠ [])
      (blank : ∀ c ∈ b, isSpace c = true)
      (apart : Apart isSpace x) (script : Script ss x) : Script ss (b ++ x)
  | comment {ss : List Statement} {y x : Text} (line : '\n' ∉ y) (script : Script ss x) :
      Script ss ('#' :: (y ++ '\n' :: x))
  | line {s : Statement} {ss : List Statement} {y x : Text} (spelled : s.Spelled y)
      (script : Script ss x) :
      Script (s :: ss) (y ++ x)

/-- No blanks. -/
lemma no_blanks : Blanks [] := fun _ mem => absurd mem List.not_mem_nil

section Patterns

variable {b b' x y e rest : Text} {c d : Char} {p : Char → Bool}

lemma blank_newline : isBlank '\n' = false := rfl

lemma many_empty (apart : Apart p x) : (many p).find x = some ([], x) :=
  many_find (x := []) (fun _ mem => absurd mem List.not_mem_nil) apart

lemma blanks_find (blank : Blanks b) (apart : Apart isBlank rest) :
    blanks.find (b ++ rest) = some (b, rest) :=
  many_find blank apart

lemma char_find (c : Char) (rest : Text) : (char c).find (c :: rest) = some ([c], rest) :=
  if_pos (beq_self_eq_true c)

lemma char_hidden (other : d ≠ c) : (char c).find (d :: rest) = none :=
  one_hidden fun a first => by
    cases first
    exact beq_eq_false_iff_ne.2 other

lemma apart_cons (other : p c = false) : Apart p (c :: rest) := by
  intro d first
  cases first
  exact other

/-- A separator is found with its blanks. -/
lemma separator_find (separator_char : isBlank c = false) (blank : Blanks b) (blank' : Blanks b')
    (apart : Apart isBlank rest) :
    (separator c).find (b ++ c :: (b' ++ rest)) = some (b ++ ([c] ++ b'), rest) :=
  seq_find (blanks_find blank (apart_cons separator_char))
    (seq_find (char_find c _) (blanks_find blank' apart))

/-- Another character is no separator. -/
lemma separator_hidden (blank : Blanks b) (other : isBlank d = false) (differs : d ≠ c) :
    (separator c).find (b ++ d :: rest) = none :=
  seq_hidden (blanks_find blank (apart_cons other)) (seq_hidden_left (char_hidden differs))

/-- Another character is not the end of a line. -/
lemma lineEnd_hidden (blank : Blanks b) (other : isBlank c = false) (comment : c ≠ '#')
    (newline : c ≠ '\n') :
    lineEnd.find (b ++ c :: rest) = none := by
  have skipped : Pattern.comment.opt.find (c :: rest) = some ([], c :: rest) := by
    show ((Pattern.comment.find (c :: rest)).or _) = _
    rw [Pattern.comment, seq_hidden_left (char_hidden comment)]
    rfl
  exact seq_hidden (blanks_find blank (apart_cons other)) (seq_hidden skipped (char_hidden newline))

/-- The end of a line is found. -/
lemma lineEnd_find (ends : LineEnd e) : lineEnd.find (e ++ rest) = some (e, rest) := by
  cases ends with
  | @plain b blank =>
    have found : Pattern.comment.find ('\n' :: rest) = none :=
      seq_hidden_left (char_hidden (by decide))
    have skipped : Pattern.comment.opt.find ('\n' :: rest) = some ([], '\n' :: rest) := by
      show (Pattern.comment.find ('\n' :: rest)).or _ = _
      rw [found]
      rfl
    have whole : lineEnd.find (b ++ '\n' :: rest) = some (b ++ ([] ++ ['\n']), rest) :=
      seq_find (blanks_find blank (apart_cons blank_newline))
      (seq_find skipped (char_find '\n' rest))
    simpa using whole
  | @comment b x blank inside =>
    have hash : isBlank '#' = false := rfl
    have within : (many (· != '\n')).find (x ++ '\n' :: rest) = some (x, '\n' :: rest) := by
      refine many_find (fun c mem => bne_iff_ne.2 ?_) ?_
      · rintro rfl
        exact inside mem
      · exact apart_cons rfl
    have found : Pattern.comment.find ('#' :: (x ++ '\n' :: rest)) =
        some (['#'] ++ x, '\n' :: rest) :=
      seq_find (char_find '#' _) within
    have taken : Pattern.comment.opt.find ('#' :: (x ++ '\n' :: rest)) =
        some (['#'] ++ x, '\n' :: rest) := by
      show (Pattern.comment.find ('#' :: (x ++ '\n' :: rest))).or
        (some ([], '#' :: (x ++ '\n' :: rest))) = _
      rw [found]
      rfl
    have whole : lineEnd.find (b ++ '#' :: (x ++ '\n' :: rest)) =
        some (b ++ (['#'] ++ x ++ ['\n']), rest) :=
      seq_find (blanks_find blank (apart_cons hash)) (seq_find taken (char_find '\n' rest))
    simpa using whole

/-- A quoted text is found up to its second quote. -/
lemma quoted_find (inside : '"' ∉ x) :
    Pattern.quoted.find ('"' :: (x ++ '"' :: rest)) = some ('"' :: (x ++ ['"']), rest) := by
  have within : (many (· != '"')).find (x ++ '"' :: rest) = some (x, '"' :: rest) := by
    refine many_find (fun c mem => bne_iff_ne.2 ?_) ?_
    · rintro rfl
      exact inside mem
    · exact apart_cons rfl
  exact seq_find (char_find '"' _) (seq_find within (char_find '"' rest))

lemma quoted_hidden (other : c ≠ '"') : Pattern.quoted.find (c :: rest) = none :=
    seq_hidden_left (char_hidden other)

lemma unquoted_eq (quotable : Quotable x) : unquoted ('"' :: (x ++ ['"'])) = x := by
  have whole : Scan.cstr ('"' :: (x ++ ['"'])) = '"' :: (x ++ ['"']) := by
    refine List.takeWhile_eq_self_iff.2 fun c mem => bne_iff_ne.2 ?_
    obtain rfl | mem := List.mem_cons.1 mem
    · decide
    · obtain mem | mem := List.mem_append.1 mem
      · exact quotable.whole c mem
      · obtain rfl := List.mem_singleton.1 mem
        decide
  rw [unquoted, whole, ← List.cons_append, List.dropLast_concat]
  rfl

/-- The end of a line begins with blanks and then a comment or the end. -/
lemma LineEnd.shape (ends : LineEnd e) : ∃ b c y, e = b ++ c :: y ∧ Blanks b ∧
    (c = '\n' ∨ c = '#') := by
  cases ends with
  | plain blank => exact ⟨_, '\n', [], rfl, blank, .inl rfl⟩
  | comment blank inside => exact ⟨_, '#', _, rfl, blank, .inr rfl⟩

lemma LineEnd.pos (ends : LineEnd e) : 0 < e.length := by
  obtain ⟨b, c, y, rfl, -⟩ := ends.shape
  rw [List.length_append, List.length_cons]
  omega

lemma LineEnd.init (ends : LineEnd e) : ∃ x, e = x ++ ['\n'] := by
  cases ends with
  | plain blank => exact ⟨_, rfl⟩
  | @comment b x blank inside => exact ⟨b ++ '#' :: x, by rw [List.append_assoc, List.cons_append]⟩

/-- A pattern without newlines matches less than the end of a line. -/
lemma LineEnd.short {a : Lex.Pattern} (ends : LineEnd e) (avoids : a.Avoids '\n') {z : Text × Text}
    (found : a.find (e ++ rest) = some z) : z.1.length ≤ e.length := by
  obtain ⟨x, rfl⟩ := ends.init
  rw [List.append_assoc, List.singleton_append] at found
  rw [List.length_append]
  exact Nat.le_add_right_of_le (avoids.short found)

lemma LineEnd.separator_hidden (ends : LineEnd e) (other : c ≠ '\n' ∧ c ≠ '#') :
    (separator c).find (e ++ rest) = none := by
  obtain ⟨b, d, y, rfl, blank, first⟩ := ends.shape
  rw [List.append_assoc, List.cons_append]
  refine Jt.separator_hidden blank ?_ ?_
  · obtain rfl | rfl := first <;> rfl
  · obtain rfl | rfl := first
    · exact other.1.symm
    · exact other.2.symm

end Patterns

section Keywords

variable {v w : Var} {rest cs x : Text} {c : Char}

/-- `[^ \t\n=#]`. -/
def isWordChar (c : Char) : Bool := !(c == ' ' || c == '\t' || c == '\n' || c == '=' || c == '#')

lemma keyword_chars (v : Var) : ∀ c ∈ v.keyword.toList, isWordChar c = true := by
  cases v <;> exact forall_chars (by decide)

lemma keyword_inj (same : v.keyword.toList = w.keyword.toList) : v = w := by
  have all : ∀ v ∈ Var.all, ∀ w ∈ Var.all, v.keyword.toList = w.keyword.toList → v = w := by decide
  exact all v (by cases v <;> decide) w (by cases w <;> decide) same

lemma keyword_upper (v : Var) : ∃ h t, v.keyword.toList = h :: t ∧ isWordChar h = true := by
  have chars := keyword_chars v
  cases eq : v.keyword.toList with
  | nil => exact absurd eq (keyword_ne_nil v)
  | cons h t => exact ⟨h, t, rfl, chars h (by rw [eq]; exact List.mem_cons_self)⟩

/-- A keyword and what follows is read as the keyword. -/
lemma longest_keyword (v : Var) (apart : Apart isWordChar rest) :
    longest (rules .initial) (v.keyword.toList ++ rest) =
    some (.var v, v.keyword.toList, rest) := by
  have all : v ∈ Var.all := by cases v <;> decide
  obtain ⟨before, after, eq, first⟩ := List.eq_append_cons_of_mem all
  have split : rules .initial = ((comment.seq (char '\n'), Rule.comment) ::
      before.map fun v => (word v.keyword.toList, Rule.var v)) ++
      (word v.keyword.toList, Rule.var v) ::
        (after.map (fun v => (word v.keyword.toList, Rule.var v)) ++
          [(many1 isSpace, Rule.blank), (many1 isWordChar, Rule.other)]) := by
    show (_ :: Var.all.map _) ++ _ = _
    rw [eq, List.map_append, List.map_cons, List.cons_append, List.append_assoc, List.cons_append]
    rfl
  obtain ⟨h, t, letters, upper⟩ := keyword_upper v
  have other (c : Char) (no : isWordChar c = false) : h ≠ c := by
    rintro rfl
    rw [upper] at no
    cases no
  refine longest_of split (word_find _) ?_ ?_
  · intro q mem z found
    obtain rfl | mem := List.mem_cons.1 mem
    · rw [letters, List.cons_append] at found
      rw [show (comment.seq (char '\n')).find (h :: (t ++ rest)) = none from
        seq_hidden_left (seq_hidden_left (char_hidden (other '#' rfl)))] at found
      cases found
    · obtain ⟨w, there, rfl⟩ := List.mem_map.1 mem
      obtain ⟨eq, front⟩ := word_prefix (keyword_chars w) apart found
      rw [eq]
      refine Nat.lt_of_le_of_ne front.length_le fun same => first ?_
      rw [← keyword_inj (front.eq_of_length same)]
      exact there
  · intro q mem z found
    obtain mem | mem := List.mem_append.1 mem
    · obtain ⟨w, -, rfl⟩ := List.mem_map.1 mem
      obtain ⟨eq, front⟩ := word_prefix (keyword_chars w) apart found
      rw [eq]
      exact front.length_le
    · obtain rfl | rfl := List.mem_pair.1 mem
      · have hidden : (one isSpace).find (v.keyword.toList ++ rest) = none := by
          rw [letters]
          refine one_hidden fun c head => ?_
          cases head
          rw [isSpace, beq_eq_false_iff_ne.2 (other ' ' rfl),
            beq_eq_false_iff_ne.2 (other '\t' rfl),
            beq_eq_false_iff_ne.2 (other '\n' rfl)]
          rfl
        rw [show (many1 isSpace).find (v.keyword.toList ++ rest) = none from seq_hidden_left hidden]
          at found
        cases found
      · rw [many1_find (keyword_ne_nil v) (keyword_chars v) apart] at found
        cases found
        exact Nat.le_refl _

end Keywords

end GridWay.Jt
