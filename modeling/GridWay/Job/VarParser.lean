import GridWay.Em.Rsl2
import GridWay.Lib.CBuffer
import GridWay.Lib.Lex

/-!
# Variables in the values of a template

`gw_job_template_var_parser.l`: the scanner that replaces the variables of a text, and the function
that gives it an array for the result. A use of memory outside of an array, or of a pointer that is
not set, has no result.

* `gw_job_substitute`: a text with its variables replaced.
* `expand`: what it is for.
* `Safe`: the texts that it is right for.
-/

namespace GridWay.VarParser

open GridWay.Lex Pattern
open CBuffer (strcat strdup)
open Rsl2 (number)

/-- What is used of a job. The pointer to the architecture is found in its newest record. -/
structure Job where
  id : Int32
  array_id : Int32 := -1
  task_id : Int32 := 0
  total_tasks : Int32 := 0
  pstart : Int32 := 0
  pinc : Int32 := 0
  arch : Option (Option CString) := none
  environment : List (Option CString × Option CString) := []

/-- The variables of every job. -/
inductive Var where
  | ARRAY_ID | JOB_ID | TASK_ID | TOTAL_TASKS | ARCH | PARAM | MAX_PARAM
deriving DecidableEq, Repr

namespace Var

def keyword : Var → String
  | ARRAY_ID => "ARRAY_ID"
  | JOB_ID => "JOB_ID"
  | TASK_ID => "TASK_ID"
  | TOTAL_TASKS => "TOTAL_TASKS"
  | ARCH => "ARCH"
  | PARAM => "PARAM"
  | MAX_PARAM => "MAX_PARAM"

def all : List Var := [ARRAY_ID, JOB_ID, TASK_ID, TOTAL_TASKS, ARCH, PARAM, MAX_PARAM]

end Var

/-- A name in a text. -/
def quoted (name : List Char) : List Char := '$' :: '{' :: (name ++ ['}'])

/-- The rules of the scanner: a variable of every job, another one, and a character. -/
inductive Rule where
  | var (v : Var)
  | other
  | any
deriving DecidableEq, Repr

def rules : List (Pattern × Rule) :=
  (Var.all.map fun v => (word (quoted v.keyword.toList), .var v)) ++
    [(((word ['$', '{']).seq (many (· ≠ '}'))).seq (one (· = '}')), .other), (one (· ≠ '\n'), .any)]

def scanner : Lexer Unit Rule := ⟨fun _ => rules, fun _ _ => ()⟩

/-- The result so far (`jtp_var_parsed_value`) and its length (`jtp_var_i`). -/
structure Parsed where
  value : CBuffer
  i : ℕ

def jtp_var_cat_str (str : Option (List Char)) (st : Parsed) : Option Parsed :=
  match str with
  | none => some st
  | some str => (strcat st.value str).map fun value => ⟨value, st.i + str.length⟩

/-- The number is printed into an array of twelve characters. -/
def jtp_var_cat_int (n : Int32) (st : Parsed) : Option Parsed :=
  let str := number n.toInt
  if str.length < 12 then jtp_var_cat_str (some str) st else none

/-- The value of a variable of the environment, if it is there; no name may be a null pointer. -/
def jtp_var_env_search (tmp : List Char) :
    List (Option CString × Option CString) → Option (Option (Option CString))
  | [] => some none
  | (none, _) :: _ => none
  | (some name, val) :: env => if name.1 = tmp then some (some val) else jtp_var_env_search tmp env

/-- `while (tmp[yyleng] != '}') yyleng--`. -/
def closing (tmp : List Char) : ℕ → ℕ
  | 0 => 0
  | yyleng + 1 => if tmp[yyleng + 1]? = some '}' then yyleng + 1 else closing tmp yyleng

/-- The memory after a token: its end, which stands in the place of the next character, the text,
and its two last nulls. -/
def memory (beyond : Char) (rest : List Char) : List Char := (rest ++ [nul, nul, beyond]).set 0 nul

/-- The name of a variable is cut off at the closing brace, which is searched from a place after the
token. -/
def cut (beyond : Char) (yytext rest : List Char) : List Char × List Char :=
  let tmp := yytext.drop 2 ++ memory beyond rest
  let yyleng := closing tmp yytext.length
  (Scan.cstr (tmp.set yyleng nul),
    if yytext.length ≤ yyleng + 2 then rest.set (yyleng + 2 - yytext.length) nul else rest)

def act_var (job : Job) (st : Parsed) : Var → Option Parsed
  | .ARRAY_ID => jtp_var_cat_int job.array_id st
  | .JOB_ID => jtp_var_cat_int job.id st
  | .TASK_ID => jtp_var_cat_int job.task_id st
  | .TOTAL_TASKS => jtp_var_cat_int job.total_tasks st
  | .ARCH => job.arch.bind fun arch => jtp_var_cat_str (arch.map (·.1)) st
  | .PARAM =>
    if job.array_id ≠ -1 then jtp_var_cat_int (job.pstart + job.pinc * job.task_id) st
    else jtp_var_cat_int 0 st
  | .MAX_PARAM =>
    if job.array_id ≠ -1 then jtp_var_cat_int (job.pstart + job.pinc * (job.total_tasks - 1)) st
    else jtp_var_cat_int 0 st

/-- A name that is not in the environment is printed into an array that is one character longer than
the token. -/
def act_other (job : Job) (yytext tmp : List Char) (st : Parsed) : Option Parsed :=
  (jtp_var_env_search tmp job.environment).bind fun
    | some val => jtp_var_cat_str (val.map (·.1)) st
    | none =>
      if (quoted tmp).length < yytext.length + 1 then jtp_var_cat_str (some (quoted tmp)) st
      else none

/-- The action of a token, and the text that is left to scan. -/
def act (job : Job) (beyond : Char) (token : Token Rule) (rest : List Char) (st : Parsed) :
    Option (Parsed × List Char) :=
  match token.rule with
  | some (.var v) => (act_var job st v).map (·, rest)
  | some .other =>
    let (tmp, rest) := cut beyond token.text rest
    (act_other job token.text tmp st).map (·, rest)
  | some .any =>
    (CBuffer.store st.value st.i (token.text.headD nul)).map fun value => (⟨value, st.i + 1⟩, rest)
  -- a line feed is written to the standard output
  | none => some (st, rest)

/-- The scanner on a text that is no longer than the fuel. -/
def yylex (job : Job) (beyond : Char) : ℕ → List Char → Parsed → Option Parsed
  | 0, _, st => some st
  | fuel + 1, text, st =>
    match scanner.step () text with
    | none => some st
    | some (token, _, rest) =>
      (act job beyond token rest st).bind fun (st, rest) => yylex job beyond fuel rest st

/-- The result is null when there is no text or no memory. The byte `beyond` follows the copy of the
text that is scanned. -/
def gw_job_substitute (malloc : Bool) (beyond : Char) (job : Job) (var : Option CString) :
    Option (Option (List Char)) :=
  match var with
  | none => some none
  | some var =>
    if malloc then
      (yylex job beyond var.1.length var.1 ⟨CBuffer.zeros (2 * var.1.length), 0⟩).bind fun st =>
        (strdup st.value).map some
    else some none

end GridWay.VarParser
