import GridWay.Jt.Template
import GridWay.Lib.Lex

/-!
# The parser of job templates

`gw_template_parser.l`: the rules of the scanner, their actions, and the function that reads the default
template and then the template of the job. The start condition, the text that was read but not scanned, and
the variables of the actions are global: they stay as they are from one file to the next, and from one call
to the next.

* `scanner`: the rules.
* `act`: the actions.
* `gw_template_parser`: a call.
* `scanner_consumes`: every rule matches something.
-/

namespace GridWay.Jt

open GridWay.Lex
open Rsl2 (atoi32)

/-- What a variable expects. -/
inductive Kind where
  | int | yn | str | files | env | dl
deriving DecidableEq, Repr

/-- The start conditions: for each kind, the one in front of the `=` and the one of the value. A variable of
the environment has a second one for its value. -/
inductive Cond where
  | initial
  | var (kind : Kind)
  | val (kind : Kind)
  | val_env_val
deriving DecidableEq, Repr

namespace Var

/-- The name of a variable. -/
def keyword : Var → String
  | CPULOAD_THRESHOLD => "CPULOAD_THRESHOLD"
  | EXECUTABLE => "EXECUTABLE"
  | ARGUMENTS => "ARGUMENTS"
  | ENVIRONMENT => "ENVIRONMENT"
  | INPUT_FILES => "INPUT_FILES"
  | NUMBER_OF_RETRIES => "NUMBER_OF_RETRIES"
  | OUTPUT_FILES => "OUTPUT_FILES"
  | PRE_WRAPPER => "PRE_WRAPPER"
  | PRE_WRAPPER_ARGUMENTS => "PRE_WRAPPER_ARGUMENTS"
  | RANK => "RANK"
  | REQUIREMENTS => "REQUIREMENTS"
  | RESCHEDULE_ON_FAILURE => "RESCHEDULE_ON_FAILURE"
  | RESCHEDULING_INTERVAL => "RESCHEDULING_INTERVAL"
  | RESCHEDULING_THRESHOLD => "RESCHEDULING_THRESHOLD"
  | RESTART_FILES => "RESTART_FILES"
  | STDERR_FILE => "STDERR_FILE"
  | STDIN_FILE => "STDIN_FILE"
  | STDOUT_FILE => "STDOUT_FILE"
  | SUSPENSION_TIMEOUT => "SUSPENSION_TIMEOUT"
  | WRAPPER => "WRAPPER"
  | MONITOR => "MONITOR"
  | CHECKPOINT_INTERVAL => "CHECKPOINT_INTERVAL"
  | CHECKPOINT_URL => "CHECKPOINT_URL"
  | JOB_DEPENDENCIES => "JOB_DEPENDENCIES"
  | TYPE => "TYPE"
  | NP => "NP"
  | DEADLINE => "DEADLINE"
  | NAME => "NAME"

/-- The kind of a variable. -/
def kind : Var → Kind
  | ENVIRONMENT => .env
  | INPUT_FILES | OUTPUT_FILES | RESTART_FILES => .files
  | RESCHEDULE_ON_FAILURE => .yn
  | CPULOAD_THRESHOLD | NUMBER_OF_RETRIES | RESCHEDULING_INTERVAL | RESCHEDULING_THRESHOLD
  | SUSPENSION_TIMEOUT | CHECKPOINT_INTERVAL | NP => .int
  | DEADLINE => .dl
  | _ => .str

/-- The variables in the order of their rules. -/
def all : List Var :=
  [EXECUTABLE, ARGUMENTS, ENVIRONMENT, INPUT_FILES, OUTPUT_FILES, RESTART_FILES, STDERR_FILE, STDIN_FILE,
    STDOUT_FILE, PRE_WRAPPER, PRE_WRAPPER_ARGUMENTS, RANK, REQUIREMENTS, WRAPPER, MONITOR,
    RESCHEDULE_ON_FAILURE, CPULOAD_THRESHOLD, NUMBER_OF_RETRIES, RESCHEDULING_INTERVAL,
    RESCHEDULING_THRESHOLD, SUSPENSION_TIMEOUT, CHECKPOINT_INTERVAL, CHECKPOINT_URL, JOB_DEPENDENCIES,
    TYPE, NP, DEADLINE, NAME]

end Var

/-- The rules. The end of a value is a rule of each start condition. -/
inductive Rule where
  | comment
  | var (v : Var)
  | blank
  | other
  | assign (kind : Kind)
  | line_end (kind : Kind)
  | digits
  | yes
  | no
  | yn_other
  | quoted
  | line
  | comma
  | gap
  | file
  | env_assign
  | env_name
  | env_other
  | env_quoted
  | env_value
  | env_comma
  | env_end
  | env_val_other
  | dl_next
  | dl_first
deriving DecidableEq, Repr

/-- `[ \t]`. -/
def isBlank (c : Char) : Bool := c == ' ' || c == '\t'

namespace Pattern

open Lex.Pattern

/-- `[ \t]*`. -/
def blanks : Pattern := many isBlank

/-- A character. -/
def char (c : Char) : Pattern := one (· == c)

/-- `#.*`. -/
def comment : Pattern := (char '#').seq (many (· != '\n'))

/-- `[ \t]*(#.*)?\n`. -/
def lineEnd : Pattern := blanks.seq (comment.opt.seq (char '\n'))

/-- `[ \t]*c[ \t]*`. -/
def separator (c : Char) : Pattern := blanks.seq ((char c).seq blanks)

/-- `\"[^\"]*\"`. -/
def quoted : Pattern := (char '"').seq ((many (· != '"')).seq (char '"'))

/-- A word in one of three spellings. -/
def spelled (a b c : String) : Pattern := (word a.toList).alt ((word b.toList).alt (word c.toList))

end Pattern

open Lex.Pattern Pattern

/-- The rules of the start conditions. -/
def rules : Cond → List (Lex.Pattern × Rule)
  | .initial =>
    (comment.seq (char '\n'), .comment) :: Var.all.map (fun v => (word v.keyword.toList, .var v)) ++
      [(many1 (fun c => c == ' ' || c == '\t' || c == '\n'), .blank),
        (many1 (fun c => !(c == ' ' || c == '\t' || c == '\n' || c == '=' || c == '#')), .other)]
  | .var kind => [(separator '=', .assign kind)]
  | .val .int => [(lineEnd, .line_end .int), (many1 Char.isDigit, .digits)]
  | .val .yn =>
    [(lineEnd, .line_end .yn), (spelled "yes" "YES" "Yes", .yes), (spelled "no" "NO" "No", .no),
      (one (· != '\n'), .yn_other)]
  | .val .str => [(lineEnd, .line_end .str), (Pattern.quoted, .quoted), (many (· != '\n'), .line)]
  | .val .files =>
    [(lineEnd, .line_end .files), (separator ',', .comma), (blanks, .gap),
      (many (fun c => !(c == ',' || c == ' ' || c == '\n')), .file)]
  | .val .env =>
    [(lineEnd, .line_end .env), (separator '=', .env_assign),
      (many (fun c => !(c == ',' || c == ' ' || c == '=' || c == '\n')), .env_name),
      (one (· != '\n'), .env_other)]
  | .val_env_val =>
    [(Pattern.quoted, .env_quoted), (many (fun c => !(c == ',' || c == ' ' || c == '\n')), .env_value),
      (separator ',', .env_comma), (lineEnd, .env_end), (one (· != '\n'), .env_val_other)]
  | .val .dl =>
    [(lineEnd, .line_end .dl), ((char ':').seq (many1 Char.isDigit), .dl_next),
      (many1 Char.isDigit, .dl_first)]

/-- The start condition after a rule. -/
def goto (s : Cond) : Rule → Cond
  | .var v => .var v.kind
  | .assign kind => .val kind
  | .line_end _ | .env_end => .initial
  | .env_assign => .val_env_val
  | .env_comma => .val .env
  | _ => s

/-- The scanner. -/
def scanner : Lexer Cond Rule := ⟨rules, goto⟩

/-- The list of files that a statement sets. -/
inductive Find where
  | input | output | restart
deriving DecidableEq, Repr

/-- The variables of the actions, apart from the template. -/
structure Globals where
  jtp_var : Var := .CPULOAD_THRESHOLD
  file : ℕ := 0
  find : Find := .input
  dl_comp : ℕ := 0
  dl : ℕ → ℤ := fun _ => 0

/-- What the actions change. -/
structure State extends Globals where
  jt : Template

/-- An action that does not go on: the scanner returns -1, or a write is not inside its array. -/
inductive Stop where
  | reject (st : State)
  | overflow

/-- The rules of the variables. -/
def act_var (v : Var) (st : State) : State :=
  match v with
  | .ENVIRONMENT => { st with jtp_var := v, jt := { st.jt with num_env := 0 } }
  | .INPUT_FILES => { st with jtp_var := v, file := 0, find := .input }
  | .OUTPUT_FILES => { st with jtp_var := v, file := 0, find := .output }
  | .RESTART_FILES => { st with jtp_var := v, file := 0, find := .restart }
  | _ => { st with jtp_var := v }

/-- `strncpy` into one name of a pair. -/
def setName (second : Bool) (val : Text) (pair : Text × Text) : Text × Text :=
  if second then (pair.1, val) else (val, pair.2)

/-- A name in an entry of a list of pairs, whose index is one less than the number. -/
def writePair (lim : Limits) (num : ℕ) (second : Bool) (val : Text) (pairs : ℕ → Text × Text) :
    Option (ℕ → Text × Text) :=
  if num = 0 ∨ ¬inside (num - 1) lim.files then none
  else some (Function.update pairs (num - 1) (setName second (strncpy lim val) (pairs (num - 1))))

/-- The first name of an entry. The last number is refused. -/
def act_file_first (lim : Limits) (val : Text) (st : State) : Except Stop State :=
  match st.find with
  | .input =>
    let jt := { st.jt with num_input_files := st.jt.num_input_files + 1 }
    if lim.files = some jt.num_input_files then .error (.reject { st with jt })
    else
      match writePair lim jt.num_input_files false val jt.input_files with
      | none => .error .overflow
      | some input_files => .ok { st with jt := { jt with input_files } }
  | .output =>
    let jt := { st.jt with num_output_files := st.jt.num_output_files + 1 }
    if lim.files = some jt.num_output_files then .error (.reject { st with jt })
    else
      match writePair lim jt.num_output_files false val jt.output_files with
      | none => .error .overflow
      | some output_files => .ok { st with jt := { jt with output_files } }
  | .restart =>
    let jt := { st.jt with num_restart_files := st.jt.num_restart_files + 1 }
    if lim.files = some jt.num_restart_files then .error (.reject { st with jt })
    else if ¬inside (jt.num_restart_files - 1) lim.files then .error .overflow
    else
      let restart_files := Function.update jt.restart_files (jt.num_restart_files - 1) (strncpy lim val)
      .ok { st with jt := { jt with restart_files } }

/-- The second name of an entry. -/
def act_file_second (lim : Limits) (val : Text) (st : State) : Except Stop State :=
  match st.find with
  | .input =>
    match writePair lim st.jt.num_input_files true val st.jt.input_files with
    | none => .error .overflow
    | some input_files => .ok { st with jt := { st.jt with input_files } }
  | .output =>
    match writePair lim st.jt.num_output_files true val st.jt.output_files with
    | none => .error .overflow
    | some output_files => .ok { st with jt := { st.jt with output_files } }
  | .restart => .error (.reject st)

/-- A name of a file. -/
def act_file (lim : Limits) (val : Text) (st : State) : Except Stop State :=
  match st.file with
  | 0 => act_file_first lim val st
  | 1 => act_file_second lim val st
  | _ => .error (.reject st)

/-- A name or a value of the environment. -/
def act_env (lim : Limits) (second : Bool) (val : Text) (st : State) : Except Stop State :=
  let jt := if second then st.jt else { st.jt with num_env := st.jt.num_env + 1 }
  match writePair lim jt.num_env second val jt.environment with
  | none => .error .overflow
  | some environment => .ok { st with jt := { jt with environment } }

/-- The end of a deadline. -/
def act_deadline (st : State) : Except Stop State :=
  match st.dl_comp with
  | 1 => .ok { st with jt := { st.jt with deadline := int (st.dl 0 * 60) } }
  | 2 => .ok { st with jt := { st.jt with deadline := int (st.dl 0 * 60 * 60 + st.dl 1 * 60) } }
  | 3 =>
    let deadline := int (st.dl 0 * 24 * 60 * 60 + st.dl 1 * 60 * 60 + st.dl 2 * 60)
    .ok { st with jt := { st.jt with deadline } }
  | _ => .error (.reject st)

/-- The quotes are taken off. -/
def unquoted (yytext : Text) : Text := (Scan.cstr yytext).dropLast.drop 1

/-- The actions. -/
def act (lim : Limits) (GW_LOCATION : Text) (r : Rule) (yytext : Text) (st : State) : Except Stop State :=
  match r with
  | .var v => .ok (act_var v st)
  | .digits => .ok { st with jt := set_value_int st.jt st.jtp_var (atoi32 yytext) }
  | .yes => .ok { st with jt := set_value_int st.jt st.jtp_var 1 }
  | .no => .ok { st with jt := set_value_int st.jt st.jtp_var 0 }
  | .quoted => .ok { st with jt := set_value_str lim GW_LOCATION st.jt st.jtp_var (unquoted yytext) }
  | .line => .ok { st with jt := set_value_str lim GW_LOCATION st.jt st.jtp_var yytext }
  | .comma => .ok { st with file := 0 }
  | .gap => .ok { st with file := st.file + 1 }
  | .file => act_file lim yytext st
  | .env_name => act_env lim false yytext st
  | .env_quoted => act_env lim true (unquoted yytext) st
  | .env_value => act_env lim true yytext st
  | .dl_first => .ok { st with dl := Function.update st.dl 0 (atoi32 yytext), dl_comp := 1 }
  | .dl_next =>
    if st.dl_comp ≥ 3 then .error (.reject st)
    else .ok { st with dl := Function.update st.dl st.dl_comp (atoi32 (yytext.drop 1)),
                       dl_comp := st.dl_comp + 1 }
  | .line_end .dl => act_deadline st
  | .other | .yn_other | .env_other | .env_val_other => .error (.reject st)
  | _ => .ok st

/-- What the scanner keeps between two calls: its start condition, what is left in its buffer, whether the end
of that file was seen, and the variables of the actions. -/
structure Kept extends Globals where
  start : Cond := .initial
  unread : Text := []
  ended : Bool := false

/-- What a call returns: the template and the return value, or that a write was not inside its array. -/
inductive Result where
  | returned (kept : Kept) (jt : Template) (rc : ℤ)
  | overflow

/-- How a file ends. -/
inductive Scanned where
  | done (kept : Kept) (jt : Template)
  | failed (kept : Kept) (jt : Template)
  | overflow

/-- What was read of a file when the scanner returns with a rest, and whether that was its end. It depends on
the sizes in which the file is read. -/
abbrev ReadAhead := Kept → Text → Text → Text × Bool

/-- `yylex_jt` on a file. What is left in the buffer is scanned before it, or instead of it when the buffer
saw its end; after a return, the buffer has the part of the rest that was read already. -/
def yylex_jt (lim : Limits) (GW_LOCATION : Text) (buffered : ReadAhead) (kept : Kept) (jt : Template)
    (yyin : Text) : Option Scanned :=
  let text := if kept.ended then kept.unread else kept.unread ++ yyin
  match scanner.run (act lim GW_LOCATION) (text.length + 1) kept.start ⟨kept.toGlobals, jt⟩ text with
  | none => none
  | some (.eof start st) => some (.done ⟨st.toGlobals, start, [], false⟩ st.jt)
  | some (.stop start rest (.reject st)) =>
    let (unread, ended) := buffered kept yyin rest
    some (.failed ⟨st.toGlobals, start, unread, ended⟩ st.jt)
  | some (.stop _ _ .overflow) => some .overflow

/-- The files of a call: the default template, if it can be opened, and the template of the job. -/
structure Files where
  default_template : Option Text
  template_file : Option Text

/-- `gw_template_parser`; `none` when the scanner does not come to an end. -/
def gw_template_parse (lim : Limits) (GW_LOCATION : Option Text) (buffered : ReadAhead) (kept : Kept)
    (jt : Template) (files : Files) : Option Result :=
  match GW_LOCATION with
  | none => some (.returned kept jt (-1))
  | some GW_LOCATION =>
    let first : Option Scanned :=
      match files.default_template with
      | none => some (.done kept jt)
      | some yyin => yylex_jt lim GW_LOCATION buffered kept jt yyin
    match first with
    | none => none
    | some (.failed kept jt) => some (.returned kept jt (-1))
    | some .overflow => some .overflow
    | some (.done kept jt) =>
      match files.template_file with
      | none => some (.returned kept jt (-1))
      | some yyin =>
        match yylex_jt lim GW_LOCATION buffered kept jt yyin with
        | none => none
        | some (.done kept jt) => some (.returned kept jt 0)
        | some (.failed kept jt) => some (.returned kept jt (-1))
        | some .overflow => some .overflow

section Consumes

open Lex.Lexer

variable {c : Char} {cs : Text}

lemma char_productive : (char c).Productive := one_productive

lemma lineEnd_productive : lineEnd.Productive := seq_productive (.inr (seq_productive (.inr char_productive)))

lemma separator_productive : (separator c).Productive := seq_productive (.inr (seq_productive (.inl char_productive)))

/-- The end of a line is matched. -/
lemma lineEnd_newline (cs : Text) : lineEnd.find ('\n' :: cs) = some (['\n'], cs) := rfl

lemma one_other {p : Char → Bool} (here : p c = true) (cs : Text) : (one p).find (c :: cs) = some ([c], cs) :=
  if_pos here

lemma many_other {p : Char → Bool} (here : p c = true) (cs : Text) :
    (many p).find (c :: cs) = some (c :: cs.takeWhile p, cs.dropWhile p) := by
  show some ((c :: cs).takeWhile p, (c :: cs).dropWhile p) = _
  rw [List.takeWhile_cons_of_pos here, List.dropWhile_cons_of_pos here]

lemma spelled_productive : (spelled "yes" "YES" "Yes").Productive ∧ (spelled "no" "NO" "No").Productive :=
  ⟨alt_productive (word_productive (by decide))
      (alt_productive (word_productive (by decide)) (word_productive (by decide))),
    alt_productive (word_productive (by decide))
      (alt_productive (word_productive (by decide)) (word_productive (by decide)))⟩

lemma keyword_ne_nil (v : Var) : v.keyword.toList ≠ [] := by
  cases v <;> decide

/-- The rules of the conditions without a pattern that may be empty. -/
lemma rules_productive {s : Cond} (plain : s ≠ .val .str ∧ s ≠ .val .files ∧ s ≠ .val .env ∧ s ≠ .val_env_val) :
    ∀ q ∈ rules s, q.1.Productive := by
  intro q mem
  match s with
  | .initial =>
    obtain front | last := List.mem_append.1 mem
    · obtain rfl | keyword := List.mem_cons.1 front
      · exact seq_productive (.inr char_productive)
      · obtain ⟨v, -, rfl⟩ := List.mem_map.1 keyword
        exact word_productive (keyword_ne_nil v)
    · obtain rfl | rfl := List.mem_pair.1 last
      · exact many1_productive
      · exact many1_productive
  | .var kind =>
    obtain rfl := List.mem_singleton.1 mem
    exact separator_productive
  | .val .int =>
    obtain rfl | rfl := List.mem_pair.1 mem
    · exact lineEnd_productive
    · exact many1_productive
  | .val .yn =>
    simp only [rules, List.mem_cons, List.not_mem_nil, or_false] at mem
    obtain rfl | rfl | rfl | rfl := mem
    · exact lineEnd_productive
    · exact spelled_productive.1
    · exact spelled_productive.2
    · exact one_productive
  | .val .dl =>
    simp only [rules, List.mem_cons, List.not_mem_nil, or_false] at mem
    obtain rfl | rfl | rfl := mem
    · exact lineEnd_productive
    · exact seq_productive (.inl char_productive)
    · exact many1_productive
  | .val .str => exact absurd rfl plain.1
  | .val .files => exact absurd rfl plain.2.1
  | .val .env => exact absurd rfl plain.2.2.1
  | .val_env_val => exact absurd rfl plain.2.2.2

/-- In the other conditions, a rule matches the next character. -/
lemma rule_matches (s : Cond) (other : s = .val .str ∨ s = .val .files ∨ s = .val .env ∨ s = .val_env_val)
    (c : Char) (cs : Text) : ∃ q ∈ rules s, ∃ z ∈ q.1.find (c :: cs), z.1 ≠ [] := by
  by_cases newline : c = '\n'
  · subst newline
    have ends : ∃ r, (lineEnd, r) ∈ rules s := by
      obtain rfl | rfl | rfl | rfl := other
      · exact ⟨_, List.mem_cons_self⟩
      · exact ⟨_, List.mem_cons_self⟩
      · exact ⟨_, List.mem_cons_self⟩
      · exact ⟨.env_end, by simp [rules]⟩
    obtain ⟨r, mem⟩ := ends
    exact ⟨(lineEnd, r), mem, (['\n'], cs), lineEnd_newline cs, List.cons_ne_nil _ _⟩
  · have inner : (c != '\n') = true := bne_iff_ne.2 newline
    obtain rfl | rfl | rfl | rfl := other
    · exact ⟨(many (· != '\n'), .line), by simp [rules], _, many_other (p := (· != '\n')) inner cs,
        List.cons_ne_nil _ _⟩
    · by_cases comma : c = ','
      · subst comma
        exact ⟨(separator ',', .comma), by simp [rules], _, rfl, List.cons_ne_nil _ _⟩
      · by_cases space : c = ' '
        · subst space
          exact ⟨(blanks, .gap), by simp [rules], _, many_other rfl cs, List.cons_ne_nil _ _⟩
        · exact ⟨(many (fun c => !(c == ',' || c == ' ' || c == '\n')), .file), by simp [rules], _,
            many_other (by simp [newline, comma, space]) cs, List.cons_ne_nil _ _⟩
    · exact ⟨(one (· != '\n'), .env_other), by simp [rules], ([c], cs), one_other (p := (· != '\n')) inner cs,
        List.cons_ne_nil _ _⟩
    · exact ⟨(one (· != '\n'), .env_val_other), by simp [rules], ([c], cs), one_other (p := (· != '\n')) inner cs,
        List.cons_ne_nil _ _⟩

theorem scanner_consumes : scanner.Consumes := by
  intro s c cs r x y found
  by_cases other : s = .val .str ∨ s = .val .files ∨ s = .val .env ∨ s = .val_env_val
  · obtain ⟨q, mem, z, matched, some_text⟩ := rule_matches s other c cs
    rintro rfl
    have short := longest_max found q mem z matched
    exact some_text (List.length_eq_zero_iff.1 (Nat.le_zero.1 short))
  · push Not at other
    obtain ⟨p, mem, matched⟩ := longest_mem found
    exact rules_productive other (p, r) mem _ _ _ matched

end Consumes

end GridWay.Jt
