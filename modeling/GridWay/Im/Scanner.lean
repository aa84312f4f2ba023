import GridWay.Em.Rsl2
import GridWay.Im.Host
import GridWay.Lib.Lex

/-!
# The scanner of the reports

`gw_host_attr_parser.l`: the rules of the scanner, and the call that does the assignments of a
report.

* `scan`: the tokens of a report.
* `Host.gw_host_update_attr`: the call.
* `scan_named`: the generic names that are read are identifiers.
-/

namespace GridWay.Im

open GridWay.Lex
open Rsl2 (atoi32)

namespace Var

/-- The name of a variable. -/
def keyword : Var → String
  | hostname => "HOSTNAME"
  | arch => "ARCH"
  | osName => "OS_NAME"
  | osVersion => "OS_VERSION"
  | cpuModel => "CPU_MODEL"
  | cpuMhz => "CPU_MHZ"
  | cpuFree => "CPU_FREE"
  | cpuSmp => "CPU_SMP"
  | nodecount => "NODECOUNT"
  | sizeMemMb => "SIZE_MEM_MB"
  | freeMemMb => "FREE_MEM_MB"
  | sizeDiskMb => "SIZE_DISK_MB"
  | freeDiskMb => "FREE_DISK_MB"
  | forkName => "FORK_NAME"
  | lrmsName => "LRMS_NAME"
  | lrmsType => "LRMS_TYPE"
  | queueName => "QUEUE_NAME"
  | queueNodecount => "QUEUE_NODECOUNT"
  | queueFreenodecount => "QUEUE_FREENODECOUNT"
  | queueMaxtime => "QUEUE_MAXTIME"
  | queueMaxcputime => "QUEUE_MAXCPUTIME"
  | queueMaxcount => "QUEUE_MAXCOUNT"
  | queueMaxrunningjobs => "QUEUE_MAXRUNNINGJOBS"
  | queueMaxjobsinqueue => "QUEUE_MAXJOBSINQUEUE"
  | queueStatus => "QUEUE_STATUS"
  | queueDispatchtype => "QUEUE_DISPATCHTYPE"
  | queuePriority => "QUEUE_PRIORITY"

/-- The variables in the order of their rules. -/
def all : List Var :=
  [hostname, arch, osName, osVersion, cpuModel, cpuMhz, cpuFree, cpuSmp, nodecount, sizeMemMb,
    freeMemMb, sizeDiskMb, freeDiskMb, forkName, lrmsName, lrmsType, queueName, queueNodecount,
    queueFreenodecount, queueMaxtime, queueMaxcputime, queueMaxcount, queueMaxrunningjobs,
    queueMaxjobsinqueue, queueStatus, queueDispatchtype, queuePriority]

end Var

/-- The rules. -/
inductive Rule where
  | var (v : Var)
  | generic
  | integer
  | null
  | string
  | symbol
  | blank
  | other
deriving DecidableEq, Repr

namespace Pattern

open Lex.Pattern

/-- A character of a name, `[0-9A-Za-z_]`. -/
def isNameChar (c : Char) : Bool := c.isAlphanum || c == '_'

/-- `[A-Za-z][0-9A-Za-z_]*`. -/
def name : Pattern := (one Char.isAlpha).seq (many isNameChar)

/-- `-?[0-9]+`. -/
def integer : Pattern := (one (· == '-')).opt.seq (many1 Char.isDigit)

/-- `\"[^\"]*\"`. -/
def string : Pattern := (one (· == '"')).seq ((many (· != '"')).seq (one (· == '"')))

/-- `[!&|=><();\[\]\*\+/\^-]`. -/
def symbol : Pattern := one fun c => "!&|=><();[]*+/^-".toList.contains c

end Pattern

open Pattern Lex.Pattern

/-- The rules in their order. -/
def rules : List (Lex.Pattern × Rule) :=
  Var.all.map (fun v => (word v.keyword.toList, .var v)) ++
    [(name, .generic), (Pattern.integer, .integer), (word "\"\"".toList, .null),
      (Pattern.string, .string), (symbol, .symbol), (many1 (fun c => c == ' ' || c == '\t'), .blank),
      (one (· != '\n'), .other)]

/-- The scanner has one start condition. -/
def scanner : Lexer Unit Rule := ⟨fun _ => rules, fun _ _ => ()⟩

/-- The tokens that a rule returns for its text. -/
def Rule.tokens (yytext : List Char) : Rule → List Token
  | .var v => [.var v]
  | .generic => [.generic (String.ofList yytext)]
  | .integer => [.int (atoi32 yytext)]
  | .null => [.str none]
  | .string => [.str (some (String.ofList (yytext.drop 1).dropLast))]
  | .symbol => yytext.map .sym
  | .blank | .other => []

/-- The action of a rule. -/
def act (r : Rule) (yytext : List Char) (read : List Token) : Except Empty (List Token) :=
  .ok (read ++ r.tokens yytext)

/-- The tokens of a text. -/
def scan (attr : List Char) : List Token :=
  match scanner.run act (attr.length + 1) () [] attr with
  | some (.eof _ read) => read
  | _ => []

/-- A name that the scanner reads. -/
def isName (var : String) : Bool :=
  match var.toList with
  | [] => false
  | c :: cs => c.isAlpha && cs.all isNameChar

/-- A token is no generic name, or an identifier. -/
def Token.isNamed : Token → Bool
  | .generic ident => isName ident
  | _ => true

/-- The name that an assignment is for is an identifier. -/
def Assign.Named (a : Assign) : Prop :=
  match a.target with
  | .generic ident => isName ident = true
  | .var _ => True

section Rules

lemma keyword_ne_nil (v : Var) : v.keyword.toList ≠ [] := by
  cases v <;> decide

/-- Every rule matches something. -/
lemma rules_productive : ∀ q ∈ rules, q.1.Productive := by
  intro q mem
  obtain front | last := List.mem_append.1 mem
  · obtain ⟨v, -, rfl⟩ := List.mem_map.1 front
    exact word_productive (keyword_ne_nil v)
  · simp only [List.mem_cons, List.not_mem_nil, or_false] at last
    obtain rfl | rfl | rfl | rfl | rfl | rfl | rfl := last
    · exact seq_productive (.inl one_productive)
    · exact seq_productive (.inr many1_productive)
    · exact word_productive (by decide)
    · exact seq_productive (.inl one_productive)
    · exact one_productive
    · exact many1_productive
    · exact one_productive

lemma scanner_consumes : scanner.Consumes := by
  intro s c cs r x y found
  obtain ⟨p, mem, matched⟩ := longest_mem found
  exact rules_productive _ mem _ _ _ matched

/-- The text of a name is an identifier. -/
lemma name_isName {cs x y : List Char} (found : name.find cs = some (x, y)) :
    isName (String.ofList x) = true := by
  obtain ⟨u, first, found⟩ := Option.bind_eq_some_iff.1 found
  obtain ⟨v, second, eq⟩ := Option.map_eq_some_iff.1 found
  cases eq
  cases cs with
  | nil => cases first
  | cons c cs =>
    obtain ⟨letter, eq⟩ := Option.ite_none_right_eq_some.1 first
    cases eq
    cases second
    rw [isName, String.toList_ofList]
    exact Bool.and_eq_true_iff.2 ⟨letter, List.all_takeWhile⟩

/-- The tokens of a rule for a text that it matches. -/
lemma tokens_named {p : Lex.Pattern} {r : Rule} {cs x y : List Char} (mem : (p, r) ∈ rules)
    (found : p.find cs = some (x, y)) : (r.tokens x).all Token.isNamed = true := by
  cases r with
  | generic =>
    obtain front | last := List.mem_append.1 mem
    · obtain ⟨v, -, eq⟩ := List.mem_map.1 front
      cases eq
    · simp only [List.mem_cons, Prod.mk.injEq, reduceCtorEq, and_false, and_true, List.not_mem_nil,
        or_false] at last
      subst last
      exact Bool.and_eq_true_iff.2 ⟨name_isName found, rfl⟩
  | symbol =>
    refine List.all_eq_true.2 fun t mem => ?_
    obtain ⟨c, -, rfl⟩ := List.mem_map.1 mem
    rfl
  | var v => rfl
  | integer => rfl
  | null => rfl
  | string => rfl
  | blank => rfl
  | other => rfl

/-- The generic names of a report are identifiers. -/
theorem scan_named (attr : List Char) : (scan attr).all Token.isNamed = true := by
  have allowed : scanner.along act (fun r x _ => (r.tokens x).all Token.isNamed) (attr.length + 1) ()
      [] attr = true :=
    Lexer.along_of fun s r p cs x y st mem found => tokens_named mem found
  obtain ⟨out, ran⟩ : ∃ out, scanner.run act (attr.length + 1) () [] attr = some out :=
    Lexer.total scanner_consumes () [] attr
  have ends : (∃ s read, out = .eof s read ∧ read.all Token.isNamed = true) ∨
      ∃ s rest e, out = .stop s rest e ∧ False := by
    refine Lexer.run_inv ?_ (fun _ _ _ _ e _ _ _ _ => e.elim) rfl allowed ran
    intro s r x read read' _ named tokens acted
    cases acted
    rw [List.all_append, named, tokens]
    rfl
  rw [scan, ran]
  obtain ⟨s, st, rfl, named⟩ | ⟨s, rest, e, -, no⟩ := ends
  · exact named
  · exact no.elim

end Rules

section Parse

variable {tokens rest : List Token} {a : Assign} {t : Token} {given : Given}

lemma rightSide_suffix : (rightSide tokens).2 <:+ tokens := by
  unfold rightSide
  split
  · exact List.suffix_cons _ _
  · exact List.suffix_cons _ _
  · exact List.suffix_refl _

lemma target_named (named : t.isNamed = true) (target : t.target = some a.target) : a.Named := by
  cases t with
  | generic ident =>
    rw [Assign.Named, ← Option.some.inj target]
    exact named
  | var v =>
    rw [Assign.Named, ← Option.some.inj target]
    trivial
  | int n => cases target
  | str s => cases target
  | sym c => cases target

/-- An assignment is for a token of the report, and what is left is its end. -/
lemma assignment_of (found : assignment tokens = some (a, rest)) :
    (∃ t ∈ tokens, t.target = some a.target) ∧ rest <:+ tokens := by
  unfold assignment at found
  split at found
  case h_1 t after =>
    obtain ⟨target, named, eq⟩ := Option.map_eq_some_iff.1 found
    cases eq
    exact ⟨⟨t, List.mem_cons_self, named⟩,
      rightSide_suffix.trans ((List.suffix_cons _ _).trans (List.suffix_cons _ _))⟩
  case h_2 t index after =>
    obtain ⟨target, named, eq⟩ := Option.map_eq_some_iff.1 found
    cases eq
    exact ⟨⟨t, List.mem_cons_self, named⟩,
      rightSide_suffix.trans ⟨[t, .sym '[', .int index, .sym ']', .sym '='], rfl⟩⟩
  case h_3 => cases found

lemma parseFuel_named {fuel : ℕ} (named : tokens.all Token.isNamed = true) :
    ∀ a ∈ (parseFuel fuel tokens).1, a.Named := by
  induction fuel generalizing tokens with
  | zero =>
    cases tokens with
    | nil => exact fun a mem => absurd mem List.not_mem_nil
    | cons t tokens => exact fun a mem => absurd mem List.not_mem_nil
  | succ fuel ih =>
    cases tokens with
    | nil => exact fun a mem => absurd mem List.not_mem_nil
    | cons t tokens =>
      rw [parseFuel]
      case x_2 => exact List.cons_ne_nil _ _
      cases found : assignment (t :: tokens) with
      | none => exact fun a mem => absurd mem List.not_mem_nil
      | some e =>
        obtain ⟨a, rest⟩ := e
        obtain ⟨⟨u, here, target⟩, suffix⟩ := assignment_of found
        intro b mem
        obtain rfl | later := List.mem_cons.1 mem
        · exact target_named (List.all_eq_true.1 named u here) target
        · exact ih (List.all_eq_true.2 fun v there =>
            List.all_eq_true.1 named v (suffix.subset there)) b later

/-- The assignments of a report are for identifiers. -/
theorem parse_named (attr : List Char) : ∀ a ∈ (parse (scan attr)).1, a.Named :=
  parseFuel_named (scan_named attr)

end Parse

end GridWay.Im
