import GridWay.Jt.Parser
import GridWay.Lib.Machine

/-!
# Bounds and independence of the parser

A call of `gw_template_parser` has to stay inside the arrays of the template, to end each string in
it, to refuse what does not fit, and to do the same as a call of a parser that read nothing before.

* `meets`: the condition on a token and the state before it.
* `Allowed`: the lexer is at rest, and each token meets the condition.
* `Sound`: what a call has to do.
* `act_spec`: a token that meets the condition stays within the bounds, and needs none.
* `act_agree`: an action does the same in a state that read less before.
* `calls_sound`: a run of calls that are allowed.
-/

namespace GridWay.Jt

open GridWay.Lex GridWay.Lex.Lexer
open Rsl2 (atoi32)

/-- The state of the actions, and whether a number of the present deadline was read. -/
structure Watched extends State where
  dated : Bool := false

/-- A number of a deadline is noted. -/
def noted (r : Rule) (dated : Bool) : Bool :=
  match r with
  | .var .DEADLINE => false
  | .dl_first => true
  | _ => dated

/-- The actions with the note. -/
def watch (lim : Limits) (GW_LOCATION : Text) (r : Rule) (yytext : Text)
    (w : Watched) : Except Stop Watched :=
  match act lim GW_LOCATION r yytext w.toState with
  | .ok st => .ok ⟨st, noted r w.dated⟩
  | .error e => .error e

/-- The number of entries of a list. -/
def Template.number (jt : Template) : Find → ℕ
  | .input => jt.num_input_files
  | .output => jt.num_output_files
  | .restart => jt.num_restart_files

/-- A string with its end fits into a buffer. -/
def short (val : Text) : Bool := (Scan.cstr val).length < 256

/-- A value fits: with the directory that is put in front of it, or with all its words. -/
def fitsValue (GW_LOCATION : Text) (var : Var) (val : Text) : Bool :=
  match var with
  | .WRAPPER | .MONITOR =>
    if (Scan.cstr val).head? ≠ some '/' then
      decide ((GW_LOCATION ++ '/' :: Scan.cstr val).length < 256)
    else short val
  | .JOB_DEPENDENCIES => (strtok (Scan.cstr val)).length < 50
  | .TYPE => true
  | _ => short val

/-- A name of a file fits, when it is stored. -/
def fitsFileName (val : Text) (st : State) : Bool :=
  match st.file with
  | 0 => st.jt.number st.find + 1 == 20 || short val
  | 1 => st.find == .restart || (decide (0 < st.jt.number st.find) && short val)
  | _ => true

/-- The condition on a token: what is stored fits into its array, a name or a value belongs to an
entry, there are at most 20 variables in an environment, and a deadline starts with a number. -/
def meets (GW_LOCATION : Text) (r : Rule) (yytext : Text) (w : Watched) : Bool :=
  match r with
  | .quoted => fitsValue GW_LOCATION w.jtp_var (unquoted yytext)
  | .line => fitsValue GW_LOCATION w.jtp_var yytext
  | .file => fitsFileName yytext w.toState
  | .env_name => decide (w.jt.num_env < 20) && short yytext
  | .env_quoted => decide (0 < w.jt.num_env) && short (unquoted yytext)
  | .env_value => decide (0 < w.jt.num_env) && short yytext
  | .line_end .dl | .dl_next => w.dated
  | _ => true

/-- The tokens of a file meet the condition. -/
def fitsFile (GW_LOCATION : Text) (s : Cond) (w : Watched) (yyin : Text) : Bool :=
  scanner.along (watch limits GW_LOCATION) (meets GW_LOCATION) (yyin.length + 1) s w yyin

/-- The tokens of the default template meet the condition, and if it is not refused, those of the
template of the job do so after it. -/
def fitsFiles (GW_LOCATION : Text) (w : Watched) (files : Files) : Bool :=
  match files.default_template with
  | none => files.template_file.all (fitsFile GW_LOCATION .initial w)
  | some yyin =>
    fitsFile GW_LOCATION .initial w yyin &&
      match scanner.run (watch limits GW_LOCATION) (yyin.length + 1) .initial w yyin with
      | some (.eof s' w') => files.template_file.all (fitsFile GW_LOCATION s' w')
      | _ => true

/-- The strings of a template that have a buffer of their own. -/
def Template.strings (jt : Template) : List Text :=
  [jt.name, jt.executable, jt.arguments, jt.pre_wrapper, jt.pre_wrapper_arguments, jt.stdin_file,
    jt.stdout_file, jt.stderr_file, jt.requirements, jt.rank, jt.checkpoint_url, jt.monitor]

/-- Every string of a template is terminated. -/
structure Template.Terminated (jt : Template) : Prop where
  strings : ∀ s ∈ jt.strings, s.length < 256
  wrapper : jt.wrapper.length < 512
  input_files : ∀ i, (jt.input_files i).1.length < 256 ∧ (jt.input_files i).2.length < 256
  output_files : ∀ i, (jt.output_files i).1.length < 256 ∧ (jt.output_files i).2.length < 256
  restart_files : ∀ i, (jt.restart_files i).length < 256
  environment : ∀ i, (jt.environment i).1.length < 256 ∧ (jt.environment i).2.length < 256

/-- A call: the name of the file of the job, which file systems limit, and the files. -/
structure Call where
  file : Text
  short : file.length < 256
  files : Files

namespace Parser

variable (GW_LOCATION : Option Text) (buffered : ReadAhead)

/-- A call of `gw_template_init`. -/
def call (lim : Limits) (kept : Kept) (c : Call) : Option Result :=
  gw_template_parse lim GW_LOCATION buffered kept (Template.init (GW_LOCATION.getD []) c.file) c.files

/-- What is kept after a call; nothing after a write outside an array. -/
def serve (kept : Option Kept) (c : Call) : Option Kept :=
  match kept.bind fun kept => call GW_LOCATION buffered limits kept c with
  | some (.returned kept _ _) => some kept
  | _ => none

/-- A call is sound: it returns, with all strings terminated; it does what it does when nothing was
read before; and if it does not refuse its files, they are stored as they would be without any
bound. -/
def Sound (kept : Option Kept) (c : Call) : Prop :=
  ∃ k k₁ k₂ jt rc, kept = some k ∧
    call GW_LOCATION buffered limits k c = some (.returned k₁ jt rc) ∧ jt.Terminated ∧
    call GW_LOCATION buffered limits {} c = some (.returned k₂ jt rc) ∧
    (rc = 0 → ∃ k₃, call GW_LOCATION buffered unlimited {} c = some (.returned k₃ jt 0))

/-- The scanner is at rest: no statement is open, and nothing is left of an earlier file. -/
def AtRest (kept : Kept) : Prop := kept.start = .initial ∧ kept.unread = [] ∧ kept.ended = false

/-- The scanner is at rest, and the tokens of the files meet the condition. -/
def Allowed (kept : Option Kept) (c : Call) : Prop :=
  ∃ k, kept = some k ∧ AtRest k ∧ ∀ l ∈ GW_LOCATION,
    fitsFiles l ⟨⟨k.toGlobals, Template.init l c.file⟩, false⟩ c.files = true

end Parser

section Values

variable {lim : Limits} {GW_LOCATION val : Text} {var : Var} {jt : Template}

lemma short_iff : short val = true ↔ (Scan.cstr val).length < 256 := decide_eq_true_iff

lemma strncpy_short (fits : short val = true) : (strncpy limits val).length < 256 :=
  Nat.lt_of_le_of_lt (List.length_take_le' _ _) (short_iff.1 fits)

/-- A value that fits is stored as a whole. -/
lemma strncpy_whole (fits : short val = true) : strncpy unlimited val = strncpy limits val :=
  (List.take_of_length_le (Nat.le_of_lt (short_iff.1 fits))).symm

lemma fitsValue_located (wrapper : var = .WRAPPER ∨ var = .MONITOR)
    (fits : fitsValue GW_LOCATION var val = true) :
    if (Scan.cstr val).head? ≠ some '/' then (GW_LOCATION ++ '/' :: Scan.cstr val).length < 256
    else short val = true := by
  have eq : fitsValue GW_LOCATION var val =
      if (Scan.cstr val).head? ≠ some '/' then
        decide ((GW_LOCATION ++ '/' :: Scan.cstr val).length < 256)
      else short val := by
    obtain rfl | rfl := wrapper
    · rfl
    · rfl
  rw [eq] at fits
  split
  case isTrue relative =>
    rw [if_pos relative] at fits
    exact of_decide_eq_true fits
  case isFalse absolute =>
    rw [if_neg absolute] at fits
    exact fits

lemma located_whole (fits : if (Scan.cstr val).head? ≠ some '/' then
      (GW_LOCATION ++ '/' :: Scan.cstr val).length < 256 else short val = true) :
    located unlimited GW_LOCATION val = located limits GW_LOCATION val ∧
      (located limits GW_LOCATION val).length < 256 := by
  unfold located
  split
  case isTrue relative =>
    rw [if_pos relative] at fits
    exact ⟨(List.take_of_length_le (Nat.le_of_lt_succ fits)).symm,
      Nat.lt_of_le_of_lt (List.length_take_le _ _) (by decide)⟩
  case isFalse absolute =>
    rw [if_neg absolute] at fits
    exact ⟨strncpy_whole fits, strncpy_short fits⟩

/-- The dependencies are all there when there is room for them. -/
lemma dependencies_whole (fits : (strtok (Scan.cstr val)).length < 50) :
    dependencies unlimited val = dependencies limits val := by
  have whole : (strtok (Scan.cstr val)).take 49 = strtok (Scan.cstr val) :=
    List.take_of_length_le (Nat.le_of_lt_succ fits)
  exact congrArg (fun ws => ws.map atoi32 ++ [-1]) whole.symm

/-- A value that fits is stored as it would be without a bound. -/
lemma set_value_str_whole (fits : fitsValue GW_LOCATION var val = true) :
    set_value_str unlimited GW_LOCATION jt var val = set_value_str limits GW_LOCATION jt var val := by
  cases var with
  | WRAPPER =>
    have whole := (located_whole (fitsValue_located (.inl rfl) fits)).1
    exact congrArg (fun s => { jt with wrapper := s }) whole
  | MONITOR =>
    have whole := (located_whole (fitsValue_located (.inr rfl) fits)).1
    exact congrArg (fun s => { jt with monitor := s }) whole
  | JOB_DEPENDENCIES =>
    have whole := dependencies_whole (of_decide_eq_true fits)
    exact congrArg (fun ds => { jt with job_deps := ds }) whole
  | EXECUTABLE => exact congrArg (fun s => { jt with executable := s }) (strncpy_whole fits)
  | ARGUMENTS => exact congrArg (fun s => { jt with arguments := s }) (strncpy_whole fits)
  | PRE_WRAPPER => exact congrArg (fun s => { jt with pre_wrapper := s }) (strncpy_whole fits)
  | PRE_WRAPPER_ARGUMENTS =>
    exact congrArg (fun s => { jt with pre_wrapper_arguments := s }) (strncpy_whole fits)
  | RANK => exact congrArg (fun s => { jt with rank := s }) (strncpy_whole fits)
  | REQUIREMENTS => exact congrArg (fun s => { jt with requirements := s }) (strncpy_whole fits)
  | STDERR_FILE => exact congrArg (fun s => { jt with stderr_file := s }) (strncpy_whole fits)
  | STDIN_FILE => exact congrArg (fun s => { jt with stdin_file := s }) (strncpy_whole fits)
  | STDOUT_FILE => exact congrArg (fun s => { jt with stdout_file := s }) (strncpy_whole fits)
  | CHECKPOINT_URL => exact congrArg (fun s => { jt with checkpoint_url := s }) (strncpy_whole fits)
  | NAME => exact congrArg (fun s => { jt with name := s }) (strncpy_whole fits)
  | _ => rfl

/-- The type of a job is no string. -/
lemma set_type_cases (lim : Limits) (GW_LOCATION : Text) (jt : Template) (val : Text) :
    ∃ type, set_value_str lim GW_LOCATION jt .TYPE val = { jt with type := type } := by
  rw [set_value_str]
  split
  · exact ⟨_, rfl⟩
  · split
    · exact ⟨_, rfl⟩
    · split
      · exact ⟨_, rfl⟩
      · exact ⟨jt.type, rfl⟩

/-- The strings of a template, with those of its lists. -/
def Template.texts (jt : Template) :=
  (jt.strings, jt.wrapper, jt.input_files, jt.output_files, jt.restart_files, jt.environment)

/-- A template with the same strings. -/
lemma Template.Terminated.congr {jt' : Template} (terminated : jt.Terminated)
    (same : jt'.texts = jt.texts) :
    jt'.Terminated := by
  simp only [Template.texts, Prod.mk.injEq] at same
  obtain ⟨strings, wrapper, input, output, restart, env⟩ := same
  exact ⟨strings ▸ terminated.strings, wrapper ▸ terminated.wrapper, input ▸ terminated.input_files,
    output ▸ terminated.output_files, restart ▸ terminated.restart_files, env ▸ terminated.environment⟩

/-- A template with another string. -/
lemma Template.Terminated.set {jt' : Template} (terminated : jt.Terminated) (i : ℕ) {s : Text}
    (strings : jt'.strings = jt.strings.set i s) (bound : s.length < 256)
    (wrapper : jt'.wrapper.length < 512)
    (same : jt'.input_files = jt.input_files ∧ jt'.output_files = jt.output_files ∧
      jt'.restart_files = jt.restart_files ∧ jt'.environment = jt.environment) : jt'.Terminated := by
  obtain ⟨input, output, restart, env⟩ := same
  refine ⟨?_, wrapper, input ▸ terminated.input_files, output ▸ terminated.output_files,
    restart ▸ terminated.restart_files, env ▸ terminated.environment⟩
  intro t mem
  rw [strings] at mem
  obtain before | rfl := List.mem_or_eq_of_mem_set mem
  · exact terminated.strings t before
  · exact bound

/-- The strings of a template stay terminated with a value that fits. -/
lemma set_value_str_terminated (fits : fitsValue GW_LOCATION var val = true)
    (terminated : jt.Terminated) :
    (set_value_str limits GW_LOCATION jt var val).Terminated := by
  cases var with
  | NAME => exact terminated.set 0 rfl (strncpy_short fits) terminated.wrapper ⟨rfl, rfl, rfl, rfl⟩
  | EXECUTABLE =>
    exact terminated.set 1 rfl (strncpy_short fits) terminated.wrapper ⟨rfl, rfl, rfl, rfl⟩
  | ARGUMENTS =>
    exact terminated.set 2 rfl (strncpy_short fits) terminated.wrapper ⟨rfl, rfl, rfl, rfl⟩
  | PRE_WRAPPER =>
    exact terminated.set 3 rfl (strncpy_short fits) terminated.wrapper ⟨rfl, rfl, rfl, rfl⟩
  | PRE_WRAPPER_ARGUMENTS =>
    exact terminated.set 4 rfl (strncpy_short fits) terminated.wrapper ⟨rfl, rfl, rfl, rfl⟩
  | STDIN_FILE =>
    exact terminated.set 5 rfl (strncpy_short fits) terminated.wrapper ⟨rfl, rfl, rfl, rfl⟩
  | STDOUT_FILE =>
    exact terminated.set 6 rfl (strncpy_short fits) terminated.wrapper ⟨rfl, rfl, rfl, rfl⟩
  | STDERR_FILE =>
    exact terminated.set 7 rfl (strncpy_short fits) terminated.wrapper ⟨rfl, rfl, rfl, rfl⟩
  | REQUIREMENTS =>
    exact terminated.set 8 rfl (strncpy_short fits) terminated.wrapper ⟨rfl, rfl, rfl, rfl⟩
  | RANK => exact terminated.set 9 rfl (strncpy_short fits) terminated.wrapper ⟨rfl, rfl, rfl, rfl⟩
  | CHECKPOINT_URL =>
    exact terminated.set 10 rfl (strncpy_short fits) terminated.wrapper ⟨rfl, rfl, rfl, rfl⟩
  | MONITOR =>
    have bound := (located_whole (fitsValue_located (.inr rfl) fits)).2
    exact terminated.set 11 rfl bound terminated.wrapper ⟨rfl, rfl, rfl, rfl⟩
  | WRAPPER =>
    have bound := (located_whole (fitsValue_located (.inl rfl) fits)).2
    exact ⟨terminated.strings, Nat.lt_trans bound (by decide), terminated.input_files,
      terminated.output_files, terminated.restart_files, terminated.environment⟩
  | TYPE =>
    obtain ⟨type, eq⟩ := set_type_cases limits GW_LOCATION jt val
    rw [eq]
    exact terminated.congr rfl
  | JOB_DEPENDENCIES => exact terminated.congr rfl
  | _ => exact terminated

end Values

/-- The start condition of a rule. -/
def Rule.home : Rule → Cond
  | .comment | .var _ | .blank | .other => .initial
  | .assign kind => .var kind
  | .line_end kind => .val kind
  | .digits => .val .int
  | .yes | .no | .yn_other => .val .yn
  | .quoted | .line => .val .str
  | .comma | .gap | .file => .val .files
  | .env_assign | .env_name | .env_other => .val .env
  | .env_quoted | .env_value | .env_comma | .env_end | .env_val_other => .val_env_val
  | .dl_next | .dl_first => .val .dl

lemma has_home {s : Cond} {r : Rule} (has : scanner.Has s r) : s = r.home := by
  obtain ⟨p, mem⟩ := has
  replace mem : (p, r) ∈ rules s := mem
  cases s with
  | initial =>
    obtain front | last := List.mem_append.1 mem
    · obtain eq | keyword := List.mem_cons.1 front
      · cases eq
        rfl
      · obtain ⟨v, -, eq⟩ := List.mem_map.1 keyword
        cases eq
        rfl
    · obtain eq | eq := List.mem_pair.1 last
      · cases eq
        rfl
      · cases eq
        rfl
  | var kind =>
    cases List.mem_singleton.1 mem
    rfl
  | val_env_val =>
    simp only [rules, List.mem_cons, Prod.mk.injEq, List.not_mem_nil, or_false] at mem
    obtain ⟨-, rfl⟩ | ⟨-, rfl⟩ | ⟨-, rfl⟩ | ⟨-, rfl⟩ | ⟨-, rfl⟩ := mem <;> rfl
  | val kind =>
    cases kind <;> simp only [rules, List.mem_cons, Prod.mk.injEq, List.not_mem_nil, or_false] at mem
    case int => obtain ⟨-, rfl⟩ | ⟨-, rfl⟩ := mem <;> rfl
    case yn => obtain ⟨-, rfl⟩ | ⟨-, rfl⟩ | ⟨-, rfl⟩ | ⟨-, rfl⟩ := mem <;> rfl
    case str => obtain ⟨-, rfl⟩ | ⟨-, rfl⟩ | ⟨-, rfl⟩ := mem <;> rfl
    case files => obtain ⟨-, rfl⟩ | ⟨-, rfl⟩ | ⟨-, rfl⟩ | ⟨-, rfl⟩ := mem <;> rfl
    case env => obtain ⟨-, rfl⟩ | ⟨-, rfl⟩ | ⟨-, rfl⟩ | ⟨-, rfl⟩ := mem <;> rfl
    case dl => obtain ⟨-, rfl⟩ | ⟨-, rfl⟩ | ⟨-, rfl⟩ := mem <;> rfl

/-- A state of the actions and another one that has read less before: the template is the same, and
so are the variables that the open statement has set. -/
structure Agree (s : Cond) (w : Watched) (st : State) : Prop where
  jt : st.jt = w.jt
  var : s ≠ .initial → st.jtp_var = w.jtp_var
  files : s = .var .files ∨ s = .val .files → st.file = w.file ∧ st.find = w.find
  date : s = .var .dl ∨ s = .val .dl → w.dated = true →
    st.dl_comp = w.dl_comp ∧ ∀ i < w.dl_comp, st.dl i = w.dl i

section Files

variable {lim : Limits} {val : Text} {num : ℕ} {second : Bool} {pairs pairs' : ℕ → Text × Text}
  {st st' st₁ : State}
  {e : Stop}

/-- Every string of the pairs is terminated. -/
def PairsEnd (pairs : ℕ → Text × Text) : Prop := ∀ i, (pairs i).1.length < 256 ∧
    (pairs i).2.length < 256

lemma writePair_whole (fits : short val = true)
    (written : writePair limits num second val pairs = some pairs') :
    writePair unlimited num second val pairs = some pairs' := by
  unfold writePair at written ⊢
  rw [strncpy_whole fits]
  split at written
  case isTrue => cases written
  case isFalse inside =>
    have within : ¬(num = 0 ∨ ¬Jt.inside (num - 1) unlimited.files) :=
      not_or.2 ⟨fun zero => inside (.inl zero), not_not.2 trivial⟩
    rw [if_neg within]
    exact written

/-- A name in an entry that is in the array. -/
lemma writePair_inside (fits : short val = true) (some_number : 0 < num) (room : num ≤ 20)
    (ends : PairsEnd pairs) :
    ∃ pairs', writePair limits num second val pairs = some pairs' ∧ PairsEnd pairs' := by
  have inside : ¬(num = 0 ∨ ¬inside (num - 1) limits.files) := by
    rintro (zero | outside)
    · exact absurd zero (Nat.pos_iff_ne_zero.1 some_number)
    · exact outside (show num - 1 < 20 by omega)
  refine ⟨_, if_neg inside, ?_⟩
  intro i
  have bound := strncpy_short fits
  by_cases here : i = num - 1
  · subst here
    rw [Function.update_self]
    cases second with
    | true => exact ⟨(ends _).1, bound⟩
    | false => exact ⟨bound, (ends _).2⟩
  · rw [Function.update_of_ne here]
    exact ends i

/-- What an action on a list of files gives for another state with the same list. -/
def withJt (st : State) : Except Stop State → Except Stop State
  | .ok st₁ => .ok { st with jt := st₁.jt }
  | .error (.reject st₁) => .error (.reject { st with jt := st₁.jt })
  | .error .overflow => .error .overflow

/-- A name of a file depends on the template, the list and the number of names of the entry, and
changes the template only. -/
lemma act_file_withJt (file : st.file = st'.file) (find : st.find = st'.find)
    (jt : st.jt = st'.jt) :
    act_file lim val st = withJt st (act_file lim val st') := by
  obtain ⟨⟨var, file, find, dl_comp, dl⟩, jt⟩ := st
  obtain ⟨⟨var', file', find', dl_comp', dl'⟩, jt'⟩ := st'
  dsimp only at file find jt
  subst file find jt
  obtain _ | _ | n := file
  · cases find <;> simp only [act_file, act_file_first]
    all_goals
      split
      · rfl
      · split <;> rfl
  · cases find <;> simp only [act_file, act_file_second]
    case restart => rfl
    all_goals split <;> rfl
  · rfl

/-- The numbers of entries are within the arrays, and every string is terminated. -/
structure Template.Bounded (jt : Template) : Prop extends jt.Terminated where
  number : ∀ find, jt.number find < 20
  num_env : jt.num_env ≤ 20

/-- An action ends well: the template is within its bounds, or it is refused with its strings
terminated. -/
def EndsWell : Except Stop State → Prop
  | .ok st => st.jt.Bounded
  | .error (.reject st) => st.jt.Terminated
  | .error .overflow => False

end Files

section Ends

variable {val : Text} {st st₁ : State}

/-- The first name of an entry that fits is stored as it would be without a bound. -/
lemma act_file_first_spec (bounded : st.jt.Bounded)
    (fits : (st.jt.number st.find + 1 == 20 || short val) = true) :
    EndsWell (act_file_first limits val st) ∧
      ∀ st₁, act_file_first limits val st = .ok st₁ → act_file_first unlimited val st = .ok st₁ := by
  obtain ⟨⟨var, file, find, dl_comp, dl⟩, jt⟩ := st
  have below := bounded.number find
  have refused := bounded.toTerminated
  cases find with
  | input =>
    unfold act_file_first
    dsimp only
    by_cases last : jt.num_input_files + 1 = 20
    · have full : limits.files = some (jt.num_input_files + 1) := congrArg some last.symm
      rw [if_pos full]
      exact ⟨refused.congr rfl, fun st₁ eq => by cases eq⟩
    · have room : ¬limits.files = some (jt.num_input_files + 1) :=
        fun full => last (Option.some.inj full).symm
      have free : ¬unlimited.files = some (jt.num_input_files + 1) := (Option.some_ne_none _).symm
      have whole : short val = true := (Bool.or_eq_true_iff.1 fits).resolve_left (last ∘ eq_of_beq)
      obtain ⟨pairs, written, ends⟩ : ∃ pairs, writePair limits (jt.num_input_files + 1) false val
          jt.input_files = some pairs ∧ PairsEnd pairs :=
        writePair_inside whole (Nat.succ_pos _) below bounded.input_files
      rw [if_neg room, if_neg free, written, writePair_whole whole written]
      refine ⟨⟨⟨bounded.strings, bounded.wrapper, ends, bounded.output_files, bounded.restart_files,
        bounded.environment⟩, ?_, bounded.num_env⟩, fun _ => id⟩
      intro find
      cases find with
      | input => exact Nat.lt_of_le_of_ne below last
      | output => exact bounded.number .output
      | restart => exact bounded.number .restart
  | output =>
    unfold act_file_first
    dsimp only
    by_cases last : jt.num_output_files + 1 = 20
    · have full : limits.files = some (jt.num_output_files + 1) := congrArg some last.symm
      rw [if_pos full]
      exact ⟨refused.congr rfl, fun st₁ eq => by cases eq⟩
    · have room : ¬limits.files = some (jt.num_output_files + 1) :=
        fun full => last (Option.some.inj full).symm
      have free : ¬unlimited.files = some (jt.num_output_files + 1) := (Option.some_ne_none _).symm
      have whole : short val = true := (Bool.or_eq_true_iff.1 fits).resolve_left (last ∘ eq_of_beq)
      obtain ⟨pairs, written, ends⟩ : ∃ pairs, writePair limits (jt.num_output_files + 1) false val
          jt.output_files = some pairs ∧ PairsEnd pairs :=
        writePair_inside whole (Nat.succ_pos _) below bounded.output_files
      rw [if_neg room, if_neg free, written, writePair_whole whole written]
      refine ⟨⟨⟨bounded.strings, bounded.wrapper, bounded.input_files, ends, bounded.restart_files,
        bounded.environment⟩, ?_, bounded.num_env⟩, fun _ => id⟩
      intro find
      cases find with
      | input => exact bounded.number .input
      | output => exact Nat.lt_of_le_of_ne below last
      | restart => exact bounded.number .restart
  | restart =>
    unfold act_file_first
    dsimp only
    by_cases last : jt.num_restart_files + 1 = 20
    · have full : limits.files = some (jt.num_restart_files + 1) := congrArg some last.symm
      rw [if_pos full]
      exact ⟨refused.congr rfl, fun st₁ eq => by cases eq⟩
    · have room : ¬limits.files = some (jt.num_restart_files + 1) :=
        fun full => last (Option.some.inj full).symm
      have free : ¬unlimited.files = some (jt.num_restart_files + 1) := (Option.some_ne_none _).symm
      have whole : short val = true := (Bool.or_eq_true_iff.1 fits).resolve_left (last ∘ eq_of_beq)
      have here : ¬¬inside (jt.num_restart_files + 1 - 1) limits.files := not_not.2 below
      have there : ¬¬inside (jt.num_restart_files + 1 - 1) unlimited.files := not_not.2 trivial
      rw [if_neg room, if_neg free, if_neg here, if_neg there, strncpy_whole whole]
      refine ⟨⟨⟨bounded.strings, bounded.wrapper, bounded.input_files, bounded.output_files, ?_,
        bounded.environment⟩, ?_, bounded.num_env⟩, fun _ => id⟩
      · intro i
        dsimp only
        by_cases this : i = jt.num_restart_files + 1 - 1
        · subst this
          rw [Function.update_self]
          exact strncpy_short whole
        · rw [Function.update_of_ne this]
          exact bounded.restart_files i
      · intro find
        cases find with
        | input => exact bounded.number .input
        | output => exact bounded.number .output
        | restart => exact Nat.lt_of_le_of_ne below last

/-- The second name of an entry that fits is stored as it would be without a bound. -/
lemma act_file_second_spec (bounded : st.jt.Bounded)
    (fits : (st.find == .restart || (decide (0 < st.jt.number st.find) && short val)) = true) :
    EndsWell (act_file_second limits val st) ∧
      ∀ st₁, act_file_second limits val st = .ok st₁ → act_file_second unlimited val st = .ok st₁ := by
  obtain ⟨⟨var, file, find, dl_comp, dl⟩, jt⟩ := st
  have below := Nat.le_of_lt (bounded.number find)
  cases find with
  | input =>
    obtain ⟨entry, whole⟩ := Bool.and_eq_true_iff.1 fits
    obtain ⟨pairs, written, ends⟩ : ∃ pairs,
        writePair limits jt.num_input_files true val jt.input_files = some pairs ∧ PairsEnd pairs :=
      writePair_inside whole (of_decide_eq_true entry) below bounded.input_files
    unfold act_file_second
    dsimp only
    rw [written, writePair_whole whole written]
    exact ⟨⟨⟨bounded.strings, bounded.wrapper, ends, bounded.output_files, bounded.restart_files,
      bounded.environment⟩, bounded.number, bounded.num_env⟩, fun _ => id⟩
  | output =>
    obtain ⟨entry, whole⟩ := Bool.and_eq_true_iff.1 fits
    obtain ⟨pairs, written, ends⟩ : ∃ pairs,
        writePair limits jt.num_output_files true val jt.output_files = some pairs ∧ PairsEnd pairs :=
      writePair_inside whole (of_decide_eq_true entry) below bounded.output_files
    unfold act_file_second
    dsimp only
    rw [written, writePair_whole whole written]
    exact ⟨⟨⟨bounded.strings, bounded.wrapper, bounded.input_files, ends, bounded.restart_files,
      bounded.environment⟩, bounded.number, bounded.num_env⟩, fun _ => id⟩
  | restart => exact ⟨bounded.toTerminated, fun st₁ eq => by cases eq⟩

/-- A name of a file that fits is stored as it would be without a bound. -/
lemma act_file_spec (bounded : st.jt.Bounded) (fits : fitsFileName val st = true) :
    EndsWell (act_file limits val st) ∧
      ∀ st₁, act_file limits val st = .ok st₁ → act_file unlimited val st = .ok st₁ := by
  unfold act_file
  unfold fitsFileName at fits
  obtain number | number | ⟨n, number⟩ : st.file = 0 ∨ st.file = 1 ∨ ∃ n, st.file = n + 2 := by
    obtain _ | _ | n := st.file
    · exact .inl rfl
    · exact .inr (.inl rfl)
    · exact .inr (.inr ⟨n, rfl⟩)
  · rw [number] at fits ⊢
    exact act_file_first_spec bounded fits
  · rw [number] at fits ⊢
    exact act_file_second_spec bounded fits
  · rw [number]
    exact ⟨bounded.toTerminated, fun st₁ eq => by cases eq⟩

/-- A name or a value of the environment that fits is stored as it would be without a bound. -/
lemma act_env_spec {second : Bool} (bounded : st.jt.Bounded) (whole : short val = true)
    (entry : if second then 0 < st.jt.num_env else st.jt.num_env < 20) :
    EndsWell (act_env limits second val st) ∧
      ∀ st₁, act_env limits second val st = .ok st₁ → act_env unlimited second val st = .ok st₁ := by
  obtain ⟨globals, jt⟩ := st
  cases second with
  | true =>
    obtain ⟨pairs, written, ends⟩ : ∃ pairs, writePair limits jt.num_env true val jt.environment =
        some pairs ∧ PairsEnd pairs :=
      writePair_inside whole entry bounded.num_env bounded.environment
    unfold act_env
    dsimp only [if_true]
    rw [if_pos rfl, written, writePair_whole whole written]
    exact ⟨⟨⟨bounded.strings, bounded.wrapper, bounded.input_files, bounded.output_files,
      bounded.restart_files, ends⟩, bounded.number, bounded.num_env⟩, fun _ => id⟩
  | false =>
    obtain ⟨pairs, written, ends⟩ : ∃ pairs,
        writePair limits (jt.num_env + 1) false val jt.environment = some pairs ∧ PairsEnd pairs :=
      writePair_inside whole (Nat.succ_pos _) entry bounded.environment
    unfold act_env
    dsimp only
    rw [if_neg Bool.false_ne_true, written, writePair_whole whole written]
    exact ⟨⟨⟨bounded.strings, bounded.wrapper, bounded.input_files, bounded.output_files,
      bounded.restart_files, ends⟩, bounded.number, entry⟩, fun _ => id⟩

end Ends

section Actions

variable {lim : Limits} {GW_LOCATION x : Text} {s : Cond} {r : Rule} {w w₁ : Watched}
  {st st₁ : State} {e : Stop}

lemma watch_ok (acted : watch lim GW_LOCATION r x w = .ok w₁) :
    act lim GW_LOCATION r x w.toState = .ok w₁.toState ∧ w₁.dated = noted r w.dated := by
  unfold watch at acted
  split at acted
  case h_1 st eq =>
    cases acted
    exact ⟨eq, rfl⟩
  case h_2 => cases acted

lemma watch_error (acted : watch lim GW_LOCATION r x w = .error e) :
    act lim GW_LOCATION r x w.toState = .error e := by
  unfold watch at acted
  split at acted
  case h_1 => cases acted
  case h_2 eq =>
    cases acted
    exact eq

/-- A value does not change the numbers of entries. -/
lemma set_value_str_numbers (lim : Limits) (GW_LOCATION : Text) (jt : Template) (var : Var)
    (val : Text) :
    (set_value_str lim GW_LOCATION jt var val).number = jt.number ∧
      (set_value_str lim GW_LOCATION jt var val).num_env = jt.num_env := by
  cases var with
  | TYPE =>
    obtain ⟨type, eq⟩ := set_type_cases lim GW_LOCATION jt val
    rw [eq]
    exact ⟨rfl, rfl⟩
  | _ => exact ⟨rfl, rfl⟩

lemma Template.Bounded.congr {jt jt' : Template} (bounded : jt.Bounded)
    (texts : jt'.texts = jt.texts)
    (number : jt'.number = jt.number) (num_env : jt'.num_env = jt.num_env) : jt'.Bounded :=
  ⟨bounded.toTerminated.congr texts, number ▸ bounded.number, num_env ▸ bounded.num_env⟩

lemma set_value_int_bounded {jt : Template} (bounded : jt.Bounded) (var : Var) (z : ℤ) :
    (set_value_int jt var z).Bounded := by
  cases var <;> exact bounded.congr rfl rfl rfl

lemma act_var_bounded (v : Var) (bounded : st.jt.Bounded) : (act_var v st).jt.Bounded := by
  cases v with
  | ENVIRONMENT => exact ⟨bounded.toTerminated.congr rfl, bounded.number, Nat.zero_le _⟩
  | _ => exact bounded

/-- The end of a deadline sets it, or refuses it. -/
lemma act_deadline_cases (st : State) :
    (∃ deadline, act_deadline st = .ok { st with jt := { st.jt with deadline := deadline } }) ∨
      act_deadline st = .error (.reject st) := by
  unfold act_deadline
  split
  · exact .inl ⟨_, rfl⟩
  · exact .inl ⟨_, rfl⟩
  · exact .inl ⟨_, rfl⟩
  · exact .inr rfl

/-- The action of a token that meets the condition ends well, and if it goes on, it does what it
would do without a bound. -/
lemma act_spec (bounded : w.jt.Bounded) (fits : meets GW_LOCATION r x w = true) :
    EndsWell (act limits GW_LOCATION r x w.toState) ∧
      ∀ st₁, act limits GW_LOCATION r x w.toState = .ok st₁ →
        act unlimited GW_LOCATION r x w.toState = .ok st₁ := by
  have value {val : Text} (fits : fitsValue GW_LOCATION w.jtp_var val = true) :
      (set_value_str limits GW_LOCATION w.jt w.jtp_var val).Bounded := by
    have numbers := set_value_str_numbers limits GW_LOCATION w.jt w.jtp_var val
    exact ⟨set_value_str_terminated fits bounded.toTerminated, numbers.1 ▸ bounded.number,
      numbers.2 ▸ bounded.num_env⟩
  cases r with
  | file => exact act_file_spec bounded fits
  | env_name =>
    obtain ⟨room, whole⟩ := Bool.and_eq_true_iff.1 fits
    exact act_env_spec bounded whole (of_decide_eq_true room)
  | env_quoted =>
    obtain ⟨entry, whole⟩ := Bool.and_eq_true_iff.1 fits
    exact act_env_spec bounded whole (of_decide_eq_true entry)
  | env_value =>
    obtain ⟨entry, whole⟩ := Bool.and_eq_true_iff.1 fits
    exact act_env_spec bounded whole (of_decide_eq_true entry)
  | quoted =>
    refine ⟨value fits, fun st₁ eq => ?_⟩
    rw [act, set_value_str_whole fits]
    exact eq
  | line =>
    refine ⟨value fits, fun st₁ eq => ?_⟩
    rw [act, set_value_str_whole fits]
    exact eq
  | var v => exact ⟨act_var_bounded v bounded, fun _ => id⟩
  | digits => exact ⟨set_value_int_bounded bounded _ _, fun _ => id⟩
  | yes => exact ⟨set_value_int_bounded bounded _ _, fun _ => id⟩
  | no => exact ⟨set_value_int_bounded bounded _ _, fun _ => id⟩
  | line_end kind =>
    cases kind with
    | dl =>
      refine ⟨?_, fun _ => id⟩
      show EndsWell (act_deadline w.toState)
      obtain ⟨deadline, eq⟩ | eq := act_deadline_cases w.toState
      · rw [eq]
        exact bounded.congr rfl rfl rfl
      · rw [eq]
        exact bounded.toTerminated
    | _ => exact ⟨bounded, fun _ => id⟩
  | dl_next =>
    refine ⟨?_, fun _ => id⟩
    rw [act]
    split
    · exact bounded.toTerminated
    · exact bounded
  | other => exact ⟨bounded.toTerminated, fun _ => id⟩
  | yn_other => exact ⟨bounded.toTerminated, fun _ => id⟩
  | env_other => exact ⟨bounded.toTerminated, fun _ => id⟩
  | env_val_other => exact ⟨bounded.toTerminated, fun _ => id⟩
  | _ => exact ⟨bounded, fun _ => id⟩

/-- Two ends of an action: both go on, in states that agree, or both refuse, with the same template.
-/
def AgreeEnds (s : Cond) (dated : Bool) : Except Stop State → Except Stop State → Prop
  | .ok st, .ok st₁ => Agree s ⟨st, dated⟩ st₁
  | .error (.reject st), .error (.reject st₁) => st₁.jt = st.jt
  | .error .overflow, .error .overflow => True
  | _, _ => False

/-- A number is read before the end of a deadline and before the next number. -/
def Dated (r : Rule) (dated : Bool) : Prop := r = .line_end .dl ∨ r = .dl_next → dated = true

/-- States that agree still agree when only the template changes. -/
lemma Agree.setJt (agree : Agree s w st) (jt : Template) :
    Agree s ⟨{ w.toState with jt := jt }, w.dated⟩ { st with jt := jt } :=
  ⟨rfl, agree.var, agree.files, agree.date⟩

lemma agreeEnds_withJt (agree : Agree s w st) (ended : Except Stop State)
    (frame : ∀ st₁, ended = .ok st₁ → st₁ = { w.toState with jt := st₁.jt }) :
    AgreeEnds s w.dated ended (withJt st ended) := by
  cases ended with
  | ok st₁ =>
    have same := frame st₁ rfl
    show Agree s ⟨st₁, w.dated⟩ { st with jt := st₁.jt }
    rw [same]
    exact agree.setJt st₁.jt
  | error e =>
    cases e with
    | reject st₁ => exact rfl
    | overflow => exact trivial

/-- The start of a statement sets its variables. -/
lemma act_var_agree (v : Var) (agree : Agree .initial w st) :
    Agree (.var v.kind) ⟨act_var v w.toState, noted (.var v) w.dated⟩ (act_var v st) := by
  have jt := agree.jt
  cases v <;> constructor <;> simp [act_var, noted, Var.kind, jt]

/-- A name or a value of the environment depends on the template, and changes the template only. -/
lemma act_env_withJt {second : Bool} {val : Text} {st' : State} (jt : st.jt = st'.jt) :
    act_env lim second val st = withJt st (act_env lim second val st') := by
  simp only [act_env, jt]
  split <;> rfl

lemma act_file_frame {val : Text} (acted : act_file lim val st = .ok st₁) : st₁ =
    { st with jt := st₁.jt } := by
  have same : act_file lim val st = withJt st (act_file lim val st) := act_file_withJt rfl rfl rfl
  rw [acted] at same
  exact Except.ok.inj same

lemma act_env_frame {second : Bool} {val : Text} (acted : act_env lim second val st = .ok st₁) :
    st₁ = { st with jt := st₁.jt } := by
  have same : act_env lim second val st = withJt st (act_env lim second val st) :=
    act_env_withJt rfl
  rw [acted] at same
  exact Except.ok.inj same

/-- The end of a deadline that has a number is the same in states that agree. -/
lemma act_deadline_agree (agree : Agree (.val .dl) w st) (dated : w.dated = true) :
    AgreeEnds .initial w.dated (act_deadline w.toState) (act_deadline st) := by
  obtain ⟨comp, numbers⟩ := agree.date (.inr rfl) dated
  have closed {w : Watched} {st : State} (jt : st.jt = w.jt) : Agree .initial w st :=
    ⟨jt, fun other => absurd rfl other, by simp, by simp⟩
  unfold act_deadline
  rw [comp]
  revert numbers
  obtain _ | _ | _ | _ | n := w.dl_comp
  · exact fun _ => agree.jt
  · intro numbers
    apply closed
    rw [numbers 0 (by omega), agree.jt]
  · intro numbers
    apply closed
    rw [numbers 0 (by omega), numbers 1 (by omega), agree.jt]
  · intro numbers
    apply closed
    rw [numbers 0 (by omega), numbers 1 (by omega), numbers 2 (by omega), agree.jt]
  · exact fun _ => agree.jt

/-- Numbers that agree with one more. -/
lemma update_agree {f g : ℕ → ℤ} {n : ℕ} (z : ℤ) (same : ∀ i < n, f i = g i) :
    ∀ i < n + 1, Function.update f n z i = Function.update g n z i := by
  intro i bound
  by_cases here : i = n
  · rw [here, Function.update_self, Function.update_self]
  · rw [Function.update_of_ne here, Function.update_of_ne here]
    exact same i (Nat.lt_of_le_of_ne (Nat.le_of_lt_succ bound) here)

/-- The actions of states that agree end in states that agree. -/
lemma act_agree (lim : Limits) (GW_LOCATION x : Text) (agree : Agree r.home w st)
    (dated : Dated r w.dated) :
    AgreeEnds (goto r.home r) (noted r w.dated) (act lim GW_LOCATION r x w.toState)
      (act lim GW_LOCATION r x st) := by
  have closed (jt : st.jt = w.jt) : Agree .initial w st :=
    ⟨jt, fun other => absurd rfl other, by simp, by simp⟩
  cases r with
  | comment => exact agree
  | var v => exact act_var_agree v agree
  | blank => exact agree
  | other => exact agree.jt
  | assign kind =>
    refine ⟨agree.jt, fun _ => agree.var (by simp [Rule.home]), ?_, ?_⟩
    · simpa [Rule.home, goto] using agree.files
    · simpa [Rule.home, goto, noted] using agree.date
  | line_end kind =>
    cases kind with
    | dl => exact act_deadline_agree agree (dated (.inl rfl))
    | _ => exact closed agree.jt
  | digits =>
    rw [act, act, agree.jt, agree.var (by simp [Rule.home])]
    exact agree.setJt _
  | yes =>
    rw [act, act, agree.jt, agree.var (by simp [Rule.home])]
    exact agree.setJt _
  | no =>
    rw [act, act, agree.jt, agree.var (by simp [Rule.home])]
    exact agree.setJt _
  | yn_other => exact agree.jt
  | quoted =>
    rw [act, act, agree.jt, agree.var (by simp [Rule.home])]
    exact agree.setJt _
  | line =>
    rw [act, act, agree.jt, agree.var (by simp [Rule.home])]
    exact agree.setJt _
  | comma => exact ⟨agree.jt, agree.var, fun here => ⟨rfl, (agree.files here).2⟩, agree.date⟩
  | gap =>
    refine ⟨agree.jt, agree.var, fun here => ⟨?_, (agree.files here).2⟩, agree.date⟩
    exact congrArg (· + 1) (agree.files here).1
  | file =>
    obtain ⟨file, find⟩ := agree.files (.inr rfl)
    rw [act, act, act_file_withJt file find agree.jt]
    exact agreeEnds_withJt agree _ fun st₁ => act_file_frame
  | env_assign =>
    exact ⟨agree.jt, fun _ => agree.var (by simp [Rule.home]), by simp [goto], by simp [goto]⟩
  | env_name =>
    rw [act, act, act_env_withJt agree.jt]
    exact agreeEnds_withJt agree _ fun st₁ => act_env_frame
  | env_other => exact agree.jt
  | env_quoted =>
    rw [act, act, act_env_withJt agree.jt]
    exact agreeEnds_withJt agree _ fun st₁ => act_env_frame
  | env_value =>
    rw [act, act, act_env_withJt agree.jt]
    exact agreeEnds_withJt agree _ fun st₁ => act_env_frame
  | env_comma =>
    exact ⟨agree.jt, fun _ => agree.var (by simp [Rule.home]), by simp [goto], by simp [goto]⟩
  | env_end => exact closed agree.jt
  | env_val_other => exact agree.jt
  | dl_next =>
    obtain ⟨comp, numbers⟩ := agree.date (.inr rfl) (dated (.inr rfl))
    rw [act, act, comp]
    split
    · exact agree.jt
    · exact ⟨agree.jt, agree.var, agree.files, fun _ _ => ⟨rfl, update_agree _ numbers⟩⟩
  | dl_first =>
    exact ⟨agree.jt, agree.var, agree.files, fun _ _ => ⟨rfl, update_agree _ (by simp)⟩⟩

end Actions

/-- A state follows another one whose template is within its bounds. -/
def Follows (s : Cond) (w : Watched) (st : State) : Prop := w.jt.Bounded ∧ Agree s w st

/-- A file is refused twice, with the same template. -/
def Refused (e e' : Stop) : Prop :=
  ∃ v v', e = .reject v ∧ e' = .reject v' ∧ v'.jt = v.jt ∧ v.jt.Terminated

section Runs

variable {lim : Limits} {GW_LOCATION x yyin : Text} {s s₁ : Cond} {r : Rule} {w w₁ : Watched}
  {st v : State} {e : Stop}
  {rest : Text} {buffered : ReadAhead} {kept : Kept}

lemma meets_dated (fits : meets GW_LOCATION r x w = true) : Dated r w.dated := by
  rintro (rfl | rfl)
  · exact fits
  · exact fits

/-- A state that agrees follows a token that meets the condition, with the bounds or without. -/
lemma watch_follows (bound : lim = limits ∨ lim = unlimited) (has : scanner.Has s r)
    (rel : Follows s w st) (fits : meets GW_LOCATION r x w = true)
    (acted : watch limits GW_LOCATION r x w = .ok w₁) :
    ∃ st₁, act lim GW_LOCATION r x st = .ok st₁ ∧ Follows (scanner.goto s r) w₁ st₁ := by
  obtain ⟨bounded, agree⟩ := rel
  obtain rfl := has_home has
  obtain ⟨here, dated⟩ := watch_ok acted
  obtain ⟨ends, whole⟩ := act_spec bounded fits
  have same : act lim GW_LOCATION r x w.toState = .ok w₁.toState := by
    obtain rfl | rfl := bound
    · exact here
    · exact whole _ here
  have follows := act_agree lim GW_LOCATION x agree (meets_dated fits)
  rw [here] at ends
  rw [same] at follows
  cases result : act lim GW_LOCATION r x st with
  | ok st₁ =>
    rw [result, ← dated] at follows
    exact ⟨st₁, rfl, ends, follows⟩
  | error e =>
    rw [result] at follows
    cases e with
    | reject v => exact follows.elim
    | overflow => exact follows.elim

/-- A token that is refused is refused in a state that agrees. -/
lemma watch_refuses (has : scanner.Has s r) (rel : Follows s w st)
    (fits : meets GW_LOCATION r x w = true) (acted : watch limits GW_LOCATION r x w = .error e) :
    ∃ e', act limits GW_LOCATION r x st = .error e' ∧ Refused e e' := by
  obtain ⟨bounded, agree⟩ := rel
  obtain rfl := has_home has
  have here := watch_error acted
  obtain ⟨ends, -⟩ := act_spec bounded fits
  have follows := act_agree limits GW_LOCATION x agree (meets_dated fits)
  rw [here] at ends follows
  cases e with
  | overflow => exact ends.elim
  | reject v =>
    cases result : act limits GW_LOCATION r x st with
    | ok st₁ =>
      rw [result] at follows
      exact follows.elim
    | error e' =>
      rw [result] at follows
      cases e' with
      | reject v' => exact ⟨_, rfl, v, v', rfl, rfl, follows, ends⟩
      | overflow => exact follows.elim

/-- A file that is read to its end: the same in a state that agrees, with the bounds or without. -/
lemma scan_done (bound : lim = limits ∨ lim = unlimited) (rel : Follows s w st)
    (fits : fitsFile GW_LOCATION s w yyin = true)
    (ran : scanner.run (watch limits GW_LOCATION) (yyin.length + 1) s w yyin = some (.eof s₁ w₁)) :
    ∃ st₁, scanner.run (act lim GW_LOCATION) (yyin.length + 1) s st yyin = some (.eof s₁ st₁) ∧
      Follows s₁ w₁ st₁ := by
  refine run_sim ?_ rel fits ran
  intro s r x w w₁ st has rel fits acted
  exact watch_follows bound has rel fits acted

/-- A file that is refused: the same in a state that agrees. -/
lemma scan_refused (rel : Follows s w st) (fits : fitsFile GW_LOCATION s w yyin = true)
    (ran : scanner.run (watch limits GW_LOCATION) (yyin.length + 1) s w yyin = some (.stop s₁ rest e)) :
    ∃ e', scanner.run (act limits GW_LOCATION) (yyin.length + 1) s st yyin = some (.stop s₁ rest e') ∧
      Refused e e' := by
  refine run_sim_stop ?_ ?_ rel fits ran
  · intro s r x w w₁ st has rel fits acted
    exact watch_follows (.inl rfl) has rel fits acted
  · intro s r x w e st has rel fits acted
    exact watch_refuses has rel fits acted

/-- Nothing is left of an earlier file. -/
def Empty (kept : Kept) : Prop := kept.unread = [] ∧ kept.ended = false

lemma empty_text (empty : Empty kept) :
    (if kept.ended then kept.unread else kept.unread ++ yyin) = yyin := by
  rw [empty.1, empty.2]
  rfl

/-- How a file ends whose tokens meet the condition: it is read to its end, or it is refused, and
the template does not depend on what was read before. -/
lemma yylex_cases (buffered : ReadAhead) (bounded : w.jt.Bounded)
    (fits : fitsFile GW_LOCATION s w yyin = true) :
    (∃ s₁ w₁, w₁.jt.Bounded ∧
      scanner.run (watch limits GW_LOCATION) (yyin.length + 1) s w yyin = some (.eof s₁ w₁) ∧
      ∀ kept lim, lim = limits ∨ lim = unlimited → kept.start = s → Empty kept →
        Agree s w ⟨kept.toGlobals, w.jt⟩ →
          ∃ kept₁, yylex_jt lim GW_LOCATION buffered kept w.jt yyin = some (.done kept₁ w₁.jt) ∧
            kept₁.start = s₁ ∧ Empty kept₁ ∧ Agree s₁ w₁ ⟨kept₁.toGlobals, w₁.jt⟩) ∨
    ∃ jt₁ : Template, jt₁.Terminated ∧ ∀ kept : Kept, kept.start = s → Empty kept →
      Agree s w ⟨kept.toGlobals, w.jt⟩ →
        ∃ kept₁, yylex_jt limits GW_LOCATION buffered kept w.jt yyin = some (.failed kept₁ jt₁) := by
  obtain ⟨out, ran⟩ : ∃ out,
      scanner.run (watch limits GW_LOCATION) (yyin.length + 1) s w yyin = some out :=
    total scanner_consumes s w yyin
  have self : Agree s w w.toState :=
    ⟨rfl, fun _ => rfl, fun _ => ⟨rfl, rfl⟩, fun _ _ => ⟨rfl, fun _ _ => rfl⟩⟩
  cases out with
  | eof s₁ w₁ =>
    obtain ⟨-, -, bounded₁, -⟩ := scan_done (.inl rfl) ⟨bounded, self⟩ fits ran
    refine .inl ⟨s₁, w₁, bounded₁, ran, ?_⟩
    intro kept lim bound start empty agree
    obtain ⟨st₁, ran₁, -, agree₁⟩ := scan_done bound ⟨bounded, agree⟩ fits ran
    refine ⟨⟨st₁.toGlobals, s₁, [], false⟩, ?_, rfl, ⟨rfl, rfl⟩, ?_⟩
    · rw [yylex_jt, empty_text empty, start, ran₁]
      dsimp only
      rw [agree₁.jt]
    · rw [← agree₁.jt]
      exact agree₁
  | stop s₁ rest e =>
    obtain ⟨-, -, v, -, rfl, -, -, ends⟩ := scan_refused ⟨bounded, self⟩ fits ran
    refine .inr ⟨v.jt, ends, ?_⟩
    intro kept start empty agree
    obtain ⟨e', ran₁, v₁, v', eq, rfl, same, -⟩ := scan_refused ⟨bounded, agree⟩ fits ran
    cases eq
    refine ⟨⟨v'.toGlobals, s₁, (buffered kept yyin rest).1, (buffered kept yyin rest).2⟩, ?_⟩
    rw [yylex_jt, empty_text empty, start, ran₁]
    dsimp only
    rw [same]

/-- The second part of a call, the template of the job. -/
def parseJob (lim : Limits) (GW_LOCATION : Text) (buffered : ReadAhead) (kept : Kept)
    (jt : Template)
    (template_file : Option Text) : Option Result :=
  match template_file with
  | none => some (.returned kept jt (-1))
  | some yyin =>
    match yylex_jt lim GW_LOCATION buffered kept jt yyin with
    | none => none
    | some (.done kept jt) => some (.returned kept jt 0)
    | some (.failed kept jt) => some (.returned kept jt (-1))
    | some .overflow => some .overflow

/-- What a call returns for two files: the same whatever was read before, and when they are
accepted, the same without the bounds. -/
def Answers (parse : Limits → Kept → Option Result) (s : Cond) (w : Watched) : Prop :=
  ∃ jt rc, jt.Terminated ∧ ∀ kept, kept.start = s → Empty kept → Agree s w ⟨kept.toGlobals, w.jt⟩ →
    (∃ kept₁, parse limits kept = some (.returned kept₁ jt rc)) ∧
      (rc = 0 → ∃ kept₁, parse unlimited kept = some (.returned kept₁ jt 0))

lemma parseJob_answers (buffered : ReadAhead) {template_file : Option Text} (bounded : w.jt.Bounded)
    (fits : template_file.all (fitsFile GW_LOCATION s w) = true) :
    Answers (fun lim kept => parseJob lim GW_LOCATION buffered kept w.jt template_file) s w := by
  cases template_file with
  | none =>
    exact ⟨w.jt, -1, bounded.toTerminated, fun kept _ _ _ => ⟨⟨kept, rfl⟩, fun eq => by cases eq⟩⟩
  | some yyin =>
    obtain ⟨s₁, w₁, bounded₁, -, done⟩ | ⟨jt₁, ends, failed⟩ := yylex_cases buffered bounded fits
    · refine ⟨w₁.jt, 0, bounded₁.toTerminated, fun kept start empty agree => ⟨?_, fun _ => ?_⟩⟩
      · obtain ⟨kept₁, eq, -⟩ := done kept limits (.inl rfl) start empty agree
        exact ⟨kept₁, by dsimp only [parseJob]; rw [eq]⟩
      · obtain ⟨kept₁, eq, -⟩ := done kept unlimited (.inr rfl) start empty agree
        exact ⟨kept₁, by dsimp only [parseJob]; rw [eq]⟩
    · refine ⟨jt₁, -1, ends, fun kept start empty agree => ⟨?_, fun eq => by cases eq⟩⟩
      obtain ⟨kept₁, eq⟩ := failed kept start empty agree
      exact ⟨kept₁, by dsimp only [parseJob]; rw [eq]⟩

lemma parse_answers (buffered : ReadAhead) {files : Files} (bounded : w.jt.Bounded)
    (fits : fitsFiles GW_LOCATION w files = true) :
    Answers (fun lim kept => gw_template_parse lim (some GW_LOCATION) buffered kept w.jt files)
      .initial w := by
  obtain ⟨default_template, template_file⟩ := files
  cases default_template with
  | none => exact parseJob_answers buffered bounded fits
  | some yyin =>
    obtain ⟨first, later⟩ := Bool.and_eq_true_iff.1 fits
    obtain ⟨s₁, w₁, bounded₁, ran, done⟩ | ⟨jt₁, ends, failed⟩ := yylex_cases buffered bounded first
    · rw [ran] at later
      obtain ⟨jt, rc, ends, answers⟩ := parseJob_answers buffered bounded₁ later
      refine ⟨jt, rc, ends, fun kept start empty agree => ⟨?_, fun accepted => ?_⟩⟩
      · obtain ⟨kept₁, eq, start₁, empty₁, agree₁⟩ := done kept limits (.inl rfl) start empty agree
        obtain ⟨kept₂, eq₂⟩ := (answers kept₁ start₁ empty₁ agree₁).1
        refine ⟨kept₂, ?_⟩
        dsimp only [gw_template_parse]
        rw [eq]
        exact eq₂
      · obtain ⟨kept₁, eq, start₁, empty₁, agree₁⟩ :=
          done kept unlimited (.inr rfl) start empty agree
        obtain ⟨kept₂, eq₂⟩ := (answers kept₁ start₁ empty₁ agree₁).2 accepted
        refine ⟨kept₂, ?_⟩
        dsimp only [gw_template_parse]
        rw [eq]
        exact eq₂
    · refine ⟨jt₁, -1, ends, fun kept start empty agree => ⟨?_, fun eq => by cases eq⟩⟩
      obtain ⟨kept₁, eq⟩ := failed kept start empty agree
      refine ⟨kept₁, ?_⟩
      dsimp only [gw_template_parse]
      rw [eq]

end Runs

section Calls

variable {GW_LOCATION : Option Text} {buffered : ReadAhead} {kept : Option Kept} {c : Call}

/-- The template of a call is within its bounds before the files are read. -/
lemma init_bounded (l : Text) (c : Call) : (Template.init l c.file).Bounded := by
  have empty : ([] : Text).length < 256 := by decide
  have name : ((Scan.cstr c.file).take 256).length < 256 :=
    Nat.lt_of_le_of_lt ((List.length_take_le' _ _).trans (List.takeWhile_sublist _).length_le) c.short
  refine ⟨⟨?_, Nat.lt_of_le_of_lt (List.length_take_le _ _) (by decide), fun _ => ⟨empty, empty⟩,
    fun _ => ⟨empty, empty⟩, fun _ => empty, fun _ => ⟨empty, empty⟩⟩, fun find => ?_, Nat.zero_le _⟩
  · intro s mem
    obtain rfl | other := List.mem_cons.1 mem
    · exact name
    · obtain rfl : s = [] := List.eq_of_mem_replicate (show s ∈ List.replicate 11 [] from other)
      exact empty
  · have none : (Template.init l c.file).number find = 0 := by cases find <;> rfl
    rw [none]
    decide

/-- A call that is allowed is sound. -/
lemma allowed_sound (allowed : Parser.Allowed GW_LOCATION kept c) :
    Parser.Sound GW_LOCATION buffered kept c := by
  obtain ⟨k, rfl, ⟨start, empty⟩, fits⟩ := allowed
  cases GW_LOCATION with
  | none =>
    exact ⟨k, k, {}, Template.init [] c.file, -1, rfl, rfl, (init_bounded [] c).toTerminated, rfl,
      fun eq => by cases eq⟩
  | some l =>
    have agree (k' : Kept) : Agree .initial ⟨⟨k.toGlobals, Template.init l c.file⟩, false⟩
        ⟨k'.toGlobals, Template.init l c.file⟩ :=
      ⟨rfl, fun other => absurd rfl other, by simp, by simp⟩
    obtain ⟨jt, rc, ends, answers⟩ := parse_answers buffered (init_bounded l c) (fits l rfl)
    obtain ⟨⟨k₁, here⟩, -⟩ := answers k start empty (agree k)
    obtain ⟨⟨k₂, fresh⟩, whole⟩ := answers {} rfl ⟨rfl, rfl⟩ (agree {})
    exact ⟨k, k₁, k₂, jt, rc, rfl, here, ends, fresh, whole⟩

/-- In a run of calls that are allowed, every call is sound. -/
theorem calls_sound (GW_LOCATION : Option Text) (buffered : ReadAhead) (calls : List Call)
    (allowed : Machine.Guarded (Parser.serve GW_LOCATION buffered) (Parser.Allowed GW_LOCATION)
      (some {}) calls) :
    Machine.Guarded (Parser.serve GW_LOCATION buffered) (Parser.Sound GW_LOCATION buffered)
      (some {}) calls :=
  Machine.guarded_of_inv (fun _ => True) (fun _ _ _ _ => trivial)
    (fun _ _ _ allowed => allowed_sound allowed) trivial allowed

/-- A call for a file of the job, without a default template. -/
def callOf (template_file : String) : Call where
  file := "job".toList
  short := by decide
  files := ⟨none, some template_file.toList⟩

/-- Two templates that end with their last line. -/
theorem calls_sound_two : Machine.Guarded (Parser.serve (some []) fun _ _ _ => ([], false))
    (Parser.Sound (some []) fun _ _ _ => ([], false)) (some {}) [callOf "NP=2\n", callOf "NAME=a\n"] :=
  calls_sound _ _ _
    ⟨⟨_, rfl, ⟨rfl, rfl, rfl⟩, fun l eq => by cases eq; decide⟩,
      ⟨_, rfl, ⟨rfl, rfl, rfl⟩, fun l eq => by cases eq; decide⟩, trivial⟩

/-- The value of a variable without a name is written in front of the environment. -/
theorem calls_not_sound : ¬Machine.Guarded (Parser.serve (some []) fun _ _ _ => ([], false))
    (Parser.Sound (some []) fun _ _ _ => ([], false)) (some {}) [callOf "ENVIRONMENT==x\n"] := by
  have overflow : Parser.call (some []) (fun _ _ _ => ([], false)) limits {}
      (callOf "ENVIRONMENT==x\n") = some .overflow := rfl
  rintro ⟨⟨k, k₁, k₂, jt, rc, eq, returned, -⟩, -⟩
  cases eq
  rw [overflow] at returned
  cases returned

end Calls

end GridWay.Jt
