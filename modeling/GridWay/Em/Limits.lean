import GridWay.Em.Rsl2
import GridWay.Mad.Line
import Mathlib.Data.List.Induction
import Mathlib.Tactic.Linarith
import Mathlib.Tactic.Ring

/-!
# The limits of a job in its document

* `limits_reach_iff`: when the document of a wrapper has the limits that the template asks for, whatever
  earlier executions left in the job.
* `nodes_not_closed`: a document in which the tag of the nodes is not closed.
-/

namespace GridWay.Rsl2

section Numerals

variable {cs w : List Char} {n : Nat}

/-- The digits at the start of a text make a number that is no longer than the text. -/
lemma digits_bounds (cs : List Char) (acc : Int) (nonneg : 0 ≤ acc) :
    0 ≤ digits acc cs ∧ digits acc cs < (acc + 1) * 10 ^ cs.length := by
  induction cs generalizing acc with
  | nil =>
    rw [digits, List.length_nil]
    omega
  | cons c cs ih =>
    by_cases digit : c.isDigit = true
    · rw [digits, if_pos digit]
      obtain ⟨above, below⟩ := digit_range digit
      have value : '0'.toNat = 48 := rfl
      have step : 10 * acc + ((c.toNat - '0'.toNat : Nat) : Int) + 1 ≤ (acc + 1) * 10 := by omega
      obtain ⟨low, high⟩ := ih (10 * acc + (c.toNat - '0'.toNat : Nat)) (by omega)
      refine ⟨low, Int.lt_of_lt_of_le high ?_⟩
      calc
        _ ≤ (acc + 1) * 10 * 10 ^ cs.length :=
          Int.mul_le_mul_of_nonneg_right step (Int.pow_nonneg (by omega))
        _ = (acc + 1) * 10 ^ (c :: cs).length := by
          rw [List.length_cons, pow_succ]
          ring
    · rw [digits, if_neg digit]
      have big : (0 : Int) < 10 ^ (c :: cs).length := Int.pow_pos (by omega)
      exact ⟨nonneg, by nlinarith⟩

lemma strtol_bounds (w : List Char) : (strtol w).natAbs < 10 ^ w.length := by
  have shorter : (w.dropWhile Scan.isSpace).length ≤ w.length :=
    (List.dropWhile_sublist _).length_le
  have bound (cs : List Char) (le : cs.length ≤ w.length) :
      (digits 0 cs).natAbs < 10 ^ w.length := by
    obtain ⟨low, high⟩ := digits_bounds cs 0 (Int.le_refl 0)
    have wide : 10 ^ cs.length ≤ 10 ^ w.length := Nat.pow_le_pow_right (by omega) le
    rw [Int.zero_add, Int.one_mul] at high
    have cast : ((10 ^ cs.length : Nat) : Int) = 10 ^ cs.length := by push_cast; rfl
    omega
  rw [strtol]
  split
  · next cs here =>
    rw [here, List.length_cons] at shorter
    rw [Int.natAbs_neg]
    exact bound cs (by omega)
  · next cs here =>
    rw [here, List.length_cons] at shorter
    exact bound cs (by omega)
  · exact bound _ shorter

/-- A positive number that was read is printed with no more characters than it was read from. -/
lemma atoi32_length (pos : 0 < atoi32 w) : (number (atoi32 w)).length ≤ w.length := by
  obtain ⟨n, eq⟩ := Int.eq_ofNat_of_zero_le (Int.le_of_lt pos)
  have small : n ≤ (strtol w).natAbs := by
    rw [atoi32] at eq pos
    rw [Int.bmod_eq_emod] at eq pos
    split at eq <;> omega
  have short : n < 10 ^ w.length := Nat.lt_of_le_of_lt small (strtol_bounds w)
  have nonempty : 0 < w.length := by
    by_contra empty
    have zero : w.length = 0 := by omega
    rw [zero] at short
    omega
  rw [eq, number]
  show (n.repr.toList).length ≤ w.length
  rw [Nat.toList_repr]
  exact (Nat.length_toDigits_le_iff (by omega) nonempty).2 short

lemma number_natCast (n : Nat) : number n = Nat.toDigits 10 n := by
  show n.repr.toList = _
  exact Nat.toList_repr

/-- A number is read back from its digits. -/
lemma strtol_numeral (n : Nat) : strtol (Nat.toDigits 10 n) = n := by
  have all : ∀ c ∈ Nat.toDigits 10 n, c.isDigit = true := fun c mem => numeral_digit mem
  have value := digits_eq all 0
  rw [Nat.ofDigitChars_toDigits (by decide) (by decide)] at value
  obtain ⟨c, cs, eq⟩ := List.exists_cons_of_ne_nil (Nat.toDigits_ne_nil (n := n) (b := 10))
  rw [eq] at all value ⊢
  obtain ⟨above, below⟩ := digit_range (all c List.mem_cons_self)
  have minus : c ≠ '-' := by rintro rfl; revert above; decide
  have plus : c ≠ '+' := by rintro rfl; revert above; decide
  have white : Scan.isSpace c = false := by
    simp [Scan.isSpace]
    omega
  rw [strtol, List.dropWhile_cons_of_neg (by rw [white]; exact Bool.false_ne_true)]
  split
  · next here => exact absurd (List.cons_eq_cons.1 here).1 minus
  · next here => exact absurd (List.cons_eq_cons.1 here).1 plus
  · exact value

/-- A text is printed as it was read if it is the numeral of a positive number of 31 bits. -/
lemma printed_iff (w : List Char) :
    0 < atoi32 w ∧ number (atoi32 w) = w ↔ ∃ n : Nat, 0 < n ∧ n < 2 ^ 31 ∧ w = Nat.toDigits 10 n := by
  constructor
  · intro ⟨pos, same⟩
    obtain ⟨n, eq⟩ := Int.eq_ofNat_of_zero_le (Int.le_of_lt pos)
    refine ⟨n, by omega, ?_, ?_⟩
    · have below : atoi32 w < 2 ^ 31 := by
        rw [atoi32, Int.bmod_eq_emod]
        split <;> omega
      omega
    · rw [← number_natCast, ← eq, same]
  · rintro ⟨n, pos, small, rfl⟩
    have value : atoi32 (Nat.toDigits 10 n) = n := by
      rw [atoi32, strtol_numeral, Int.bmod_eq_emod]
      split <;> omega
    rw [value, number_natCast]
    exact ⟨by omega, rfl⟩

end Numerals

section Document

variable {job : Job} {buffer text header : List Char}

lemma addLimit_eq (buffer limit : List Char) :
    addLimit buffer limit =
      if (buffer ++ limit).length < rslLength then .ok (buffer ++ limit) else .error .memory := by
  rw [addLimit, sprintf]
  by_cases fits : limit.length < rslLength
  · rw [if_pos fits]
    rfl
  · have too_long : ¬(buffer ++ limit).length < rslLength := by
      rw [List.length_append]
      omega
    rw [if_neg fits, if_neg too_long]
    rfl

/-- Parts that are added one after the other fit if all of them fit together. -/
lemma add_all (parts : List (List Char)) (buffer last : List Char) :
    (parts.foldlM addLimit buffer >>= fun b => strcat b last) =
      if (buffer ++ parts.flatten ++ last).length < rslLength then
        .ok (buffer ++ parts.flatten ++ last)
      else .error .memory := by
  induction parts generalizing buffer with
  | nil =>
    rw [List.flatten_nil, List.append_nil]
    rfl
  | cons part parts ih =>
    rw [List.foldlM_cons, addLimit_eq, List.flatten_cons, ← List.append_assoc]
    by_cases fits : (buffer ++ part).length < rslLength
    · rw [if_pos fits]
      exact ih (buffer ++ part)
    · have too_long : ¬(buffer ++ part ++ parts.flatten ++ last).length < rslLength := by
        simp only [List.length_append] at fits ⊢
        omega
      rw [if_neg fits, if_neg too_long]
      rfl

/-- The document of a wrapper is its header, its limits and its end, if they fit. -/
lemma wrapper_eq (job : Job) :
    gw_generate_wrapper_rsl2 job = wrapperHeader job >>= fun header =>
      if (header ++ (limits job).flatten ++ "</job>".toList).length < rslLength then
        .ok (header ++ (limits job).flatten ++ "</job>".toList)
      else .error .memory := by
  rw [gw_generate_wrapper_rsl2]
  congr 1
  funext header
  exact add_all (limits job) header _

end Document

section Environment

variable {substitute : Substitution} {env : List (List Char × List Char)} {job : Job}
  {name value : List Char}

/-- The value of the last pair of a name. -/
def lastValue (env : List (List Char × List Char)) (name : String) : Option (List Char) :=
  (env.reverse.find? fun e => e.1 = name.toList).map Prod.snd

/-- The last substituted value of a name. -/
def noted (substitute : Substitution) (env : List (List Char × List Char)) (name : String) :
    Option (List Char) :=
  env.reverse.findSome? fun e => if e.1 = name.toList then substitute e.2 else none

/-- The limits that were noted. -/
structure Notes (substitute : Substitution) (env : List (List Char × List Char)) (job : Job) :
    Prop where
  cpu : job.maxCpuTime = noted substitute env "CPUTIME"
  wall : job.maxWalltime = noted substitute env "WALLTIME"
  memory : job.maxMemory = (noted substitute env "MEMORY").elim 0 atoi32
  ppn : job.processesPerNode = (noted substitute env "PPN").elim 0 atoi32
  nodes : job.nodes = (noted substitute env "NODES").elim 0 atoi32

lemma noted_concat (e : List Char × List Char) (name : String) :
    noted substitute (env ++ [e]) name =
      (if e.1 = name.toList then substitute e.2 else none).or (noted substitute env name) := by
  rw [noted, List.reverse_append, List.reverse_singleton, List.singleton_append,
    List.findSome?_cons]
  cases (if e.1 = name.toList then substitute e.2 else none) <;> rfl

/-- A pair whose value has no substitution is left out. -/
lemma noted_skip {e : List Char × List Char} (skipped : substitute e.2 = none) (name : String) :
    noted substitute (env ++ [e]) name = noted substitute env name := by
  rw [noted_concat, skipped, ite_self, Option.none_or]

/-- The limits that the environment sets are the ones of its last pairs. -/
lemma notes (substitute : Substitution) (env : List (List Char × List Char)) (job : Job) :
    Notes substitute env (env.foldl (exportVariable substitute) ([], resetLimits job)).2 := by
  induction env using List.reverseRecOn with
  | nil => exact ⟨rfl, rfl, rfl, rfl, rfl⟩
  | append_singleton env e ih =>
    rw [List.foldl_append, List.foldl_cons, List.foldl_nil, exportVariable]
    cases value : substitute e.2 with
    | none =>
      constructor <;> rw [noted_skip value]
      exacts [ih.cpu, ih.wall, ih.memory, ih.ppn, ih.nodes]
    | some v =>
      obtain ⟨var, text⟩ := e
      have own (name : String) (same : var = name.toList) :
          noted substitute (env ++ [(var, text)]) name = some v := by
        rw [noted_concat, if_pos same, value, Option.some_or]
      have other (name : String) (ne : var ≠ name.toList) :
          noted substitute (env ++ [(var, text)]) name = noted substitute env name := by
        rw [noted_concat, if_neg ne, Option.none_or]
      dsimp only [noteLimit]
      -- the first of the five names that the variable has decides which limit is set
      split_ifs with cpu wall memory ppn nodes
      · subst cpu
        constructor
        · rw [own _ rfl]
        · rw [other _ (by decide), ← ih.wall]
        · rw [other _ (by decide), ← ih.memory]
        · rw [other _ (by decide), ← ih.ppn]
        · rw [other _ (by decide), ← ih.nodes]
      · subst wall
        constructor
        · rw [other _ (by decide), ← ih.cpu]
        · rw [own _ rfl]
        · rw [other _ (by decide), ← ih.memory]
        · rw [other _ (by decide), ← ih.ppn]
        · rw [other _ (by decide), ← ih.nodes]
      · subst memory
        constructor
        · rw [other _ (by decide), ← ih.cpu]
        · rw [other _ (by decide), ← ih.wall]
        · rw [own _ rfl]
          rfl
        · rw [other _ (by decide), ← ih.ppn]
        · rw [other _ (by decide), ← ih.nodes]
      · subst ppn
        constructor
        · rw [other _ (by decide), ← ih.cpu]
        · rw [other _ (by decide), ← ih.wall]
        · rw [other _ (by decide), ← ih.memory]
        · rw [own _ rfl]
          rfl
        · rw [other _ (by decide), ← ih.nodes]
      · subst nodes
        constructor
        · rw [other _ (by decide), ← ih.cpu]
        · rw [other _ (by decide), ← ih.wall]
        · rw [other _ (by decide), ← ih.memory]
        · rw [other _ (by decide), ← ih.ppn]
        · rw [own _ rfl]
          rfl
      · constructor
        · rw [other _ (Ne.symm cpu), ← ih.cpu]
        · rw [other _ (Ne.symm wall), ← ih.wall]
        · rw [other _ (Ne.symm memory), ← ih.memory]
        · rw [other _ (Ne.symm ppn), ← ih.ppn]
        · rw [other _ (Ne.symm nodes), ← ih.nodes]

/-- When the last pair of a name has a substitution, this is what is noted. -/
lemma noted_eq {name : String}
    (substituted : ∀ v, lastValue env name = some v → (substitute v).isSome = true) :
    noted substitute env name = (lastValue env name).bind substitute := by
  rw [lastValue] at substituted ⊢
  rw [noted]
  generalize env.reverse = pairs at substituted ⊢
  induction pairs with
  | nil => rfl
  | cons e rest ih =>
    rw [List.find?_cons] at substituted ⊢
    rw [List.findSome?_cons]
    by_cases here : e.1 = name.toList
    · simp only [here, decide_true, if_true, Option.map_some] at substituted ⊢
      obtain ⟨w, value⟩ := Option.isSome_iff_exists.1 (substituted e.2 rfl)
      rw [Option.bind_some, value]
    · simp only [here, decide_false, if_false] at substituted ⊢
      exact ih substituted

/-- The header of a document does not depend on the limits. -/
lemma header_exportVariable (p : List Char × Job) (e : List Char × List Char) :
    wrapperHeader (exportVariable substitute p e).2 = wrapperHeader p.2 := by
  rw [exportVariable]
  cases substitute e.2 with
  | none => rfl
  | some v =>
    dsimp only [noteLimit]
    split_ifs <;> rfl

lemma header_environment (env : List (List Char × List Char)) (p : List Char × Job) :
    wrapperHeader (env.foldl (exportVariable substitute) p).2 = wrapperHeader p.2 := by
  induction env generalizing p with
  | nil => rfl
  | cons e env ih => rw [List.foldl_cons, ih, header_exportVariable]

end Environment

section Reach

variable {substitute : Substitution} {env : List (List Char × List Char)} {job : Job}
  {header text w : List Char} {tag name : String}

/-- The element for a variable that asks for a limit: nothing when the template does not define it. -/
def wanted (substitute : Substitution) (env : List (List Char × List Char)) (name tag : String) :
    Option (List Char) :=
  match lastValue env name with
  | none => some []
  | some v => (substitute v).map (spaced tag)

/-- The limits that a template asks for. -/
def requested (substitute : Substitution) (env : List (List Char × List Char)) :
    Option (List Char) := do
  let cpu ← wanted substitute env "CPUTIME" "maxCpuTime"
  let wall ← wanted substitute env "WALLTIME" "maxWallTime"
  let memory ← wanted substitute env "MEMORY" "maxMemory"
  let ppn ← wanted substitute env "PPN" "ppn"
  let nodes ← wanted substitute env "NODES" "nodes"
  return cpu ++ wall ++ memory ++ ppn ++ nodes

/-- A document that is made after the environment has exactly the limits that the template asks for. -/
def LimitsReach (substitute : Substitution) (job : Job) : Prop :=
  ∀ file job', gw_job_environment substitute true job = (0, file, job') →
    gw_generate_wrapper_rsl2 job' = .error .null ∨
      ∃ header limits, wrapperHeader job' = .ok header ∧
        requested substitute job.template.environment = some limits ∧
        gw_generate_wrapper_rsl2 job' = .ok (header ++ limits ++ "</job>".toList)

/-- The last value of a name, if there is one, is the numeral of a positive number of 31 bits. -/
def Numeral (substitute : Substitution) (env : List (List Char × List Char)) (name : String) : Prop :=
  ∀ v, lastValue env name = some v →
    ∃ n : Nat, 0 < n ∧ n < 2 ^ 31 ∧ substitute v = some (Nat.toDigits 10 n)

/-- A number that is shown when it is positive. -/
def shown (tag : String) (k : Int) : List Char := if k > 0 then spaced tag (number k) else []

lemma spaced_length (tag : String) (text : List Char) :
    (spaced tag text).length = 2 * tag.toList.length + text.length + 6 := by
  simp [spaced, element]
  omega

lemma spaced_inj {text' : List Char} (eq : spaced tag text = spaced tag text') : text = text' := by
  simpa [spaced, element] using eq

lemma wanted_eq_some (eq : wanted substitute env name tag = some text) :
    ∀ v, lastValue env name = some v → (substitute v).isSome = true := by
  intro v last
  rw [wanted, last] at eq
  obtain ⟨w, value, -⟩ := Option.map_eq_some_iff.1 eq
  rw [value]
  rfl

/-- A number is shown with no more characters than it was asked for with. -/
lemma shown_length (eq : wanted substitute env name tag = some text) :
    (shown tag ((noted substitute env name).elim 0 atoi32)).length ≤ text.length := by
  rw [noted_eq (wanted_eq_some eq)]
  rw [wanted] at eq
  cases last : lastValue env name with
  | none =>
    rw [last] at eq
    cases eq
    exact Nat.le_refl _
  | some v =>
    rw [last] at eq
    obtain ⟨w, value, rfl⟩ := Option.map_eq_some_iff.1 eq
    rw [Option.bind_some, value, Option.elim_some, shown]
    by_cases pos : atoi32 w > 0
    · have short := atoi32_length pos
      rw [if_pos pos, spaced_length, spaced_length]
      omega
    · rw [if_neg pos]
      exact Nat.zero_le _

/-- A number is shown as it was asked for if it was asked for with its numeral. -/
lemma shown_eq_iff (eq : wanted substitute env name tag = some text) :
    shown tag ((noted substitute env name).elim 0 atoi32) = text ↔
      Numeral substitute env name := by
  rw [noted_eq (wanted_eq_some eq), Numeral]
  rw [wanted] at eq
  cases last : lastValue env name with
  | none =>
    rw [last] at eq
    cases eq
    exact iff_of_true rfl nofun
  | some v =>
    rw [last] at eq
    obtain ⟨w, value, rfl⟩ := Option.map_eq_some_iff.1 eq
    have printed : shown tag (atoi32 w) = spaced tag w ↔ 0 < atoi32 w ∧ number (atoi32 w) = w := by
      rw [shown]
      by_cases pos : atoi32 w > 0
      · rw [if_pos pos]
        constructor
        · intro same
          exact ⟨pos, spaced_inj same⟩
        · intro ⟨_, same⟩
          rw [same]
      · rw [if_neg pos]
        refine iff_of_false ?_ fun h => pos h.1
        exact (List.cons_ne_nil _ _).symm
    rw [Option.bind_some, value, Option.elim_some, printed, printed_iff]
    constructor
    · rintro ⟨n, pos, small, rfl⟩ v' eq'
      cases eq'
      exact ⟨n, pos, small, value⟩
    · intro numeral
      obtain ⟨n, pos, small, value'⟩ := numeral v rfl
      exact ⟨n, pos, small, Option.some.inj (value.symm.trans value')⟩

/-- The limits of a job in one text. -/
lemma limits_flatten (job : Job) :
    (limits job).flatten =
      (job.maxCpuTime.map (spaced "maxCpuTime")).getD [] ++
        (job.maxWalltime.map (spaced "maxWallTime")).getD [] ++
        shown "maxMemory" job.maxMemory ++ shown "ppn" job.processesPerNode ++
        if job.nodes > 0 then " <nodes>".toList ++ number job.nodes ++ "</nodes".toList else [] := by
  rw [limits, shown, shown]
  cases job.maxCpuTime <;> cases job.maxWalltime <;> by_cases memory : job.maxMemory > 0 <;>
    by_cases ppn : job.processesPerNode > 0 <;> by_cases nodes : job.nodes > 0 <;>
    simp [memory, ppn, nodes]

/-- A time is shown as it was asked for. -/
lemma time_eq (eq : wanted substitute env name tag = some text) :
    ((noted substitute env name).map (spaced tag)).getD [] = text := by
  rw [noted_eq (wanted_eq_some eq)]
  rw [wanted] at eq
  cases last : lastValue env name with
  | none =>
    rw [last] at eq
    cases eq
    rfl
  | some v =>
    rw [last] at eq
    obtain ⟨w, value, rfl⟩ := Option.map_eq_some_iff.1 eq
    rw [Option.bind_some, value]
    rfl

/-- The nodes are shown with one character less than they were asked for with. -/
lemma nodes_length (eq : wanted substitute env "NODES" "nodes" = some text) (k : Int)
    (noted_k : k = (noted substitute env "NODES").elim 0 atoi32) :
    (if k > 0 then " <nodes>".toList ++ number k ++ "</nodes".toList else []).length ≤ text.length ∧
      ((if k > 0 then " <nodes>".toList ++ number k ++ "</nodes".toList else []).length =
        text.length → lastValue env "NODES" = none) := by
  rw [noted_eq (wanted_eq_some eq)] at noted_k
  rw [wanted] at eq
  cases last : lastValue env "NODES" with
  | none =>
    rw [last] at eq noted_k
    cases eq
    subst noted_k
    exact ⟨Nat.le_refl _, fun _ => rfl⟩
  | some v =>
    rw [last] at eq noted_k
    obtain ⟨w, value, rfl⟩ := Option.map_eq_some_iff.1 eq
    rw [Option.bind_some, value, Option.elim_some] at noted_k
    subst noted_k
    have tags : "nodes".toList.length = 5 := rfl
    have opening : " <nodes>".toList.length = 8 := rfl
    have closing : "</nodes".toList.length = 7 := rfl
    rw [spaced_length, tags]
    by_cases pos : atoi32 w > 0
    · have short := atoi32_length pos
      rw [if_pos pos, List.length_append, List.length_append, opening, closing]
      refine ⟨by omega, fun same => ?_⟩
      omega
    · rw [if_neg pos, List.length_nil]
      refine ⟨Nat.zero_le _, fun same => ?_⟩
      omega

/-- The limits are the ones that were asked for if the numbers are numerals and no nodes are asked
for. -/
lemma limits_eq_iff (marks : Notes substitute env job) (asked : requested substitute env = some text) :
    (limits job).flatten = text ↔
      Numeral substitute env "MEMORY" ∧ Numeral substitute env "PPN" ∧
        lastValue env "NODES" = none := by
  simp only [requested, Option.bind_eq_bind, Option.bind_eq_some_iff, Option.pure_def,
    Option.some.injEq] at asked
  obtain ⟨cpu, eq_cpu, wall, eq_wall, memory, eq_memory, ppn, eq_ppn, nodes, eq_nodes, rfl⟩ := asked
  have nodes_len := nodes_length eq_nodes job.nodes marks.nodes
  rw [limits_flatten, marks.cpu, marks.wall, time_eq eq_cpu, time_eq eq_wall, marks.memory,
    marks.ppn]
  have memory_len := shown_length eq_memory
  have ppn_len := shown_length eq_ppn
  rw [← shown_eq_iff eq_memory, ← shown_eq_iff eq_ppn]
  constructor
  · intro same
    have lengths := congrArg List.length same
    simp only [List.length_append] at lengths
    obtain ⟨front, -⟩ := List.append_inj same (by simp only [List.length_append]; omega)
    obtain ⟨front', same_ppn⟩ := List.append_inj front (by simp only [List.length_append]; omega)
    obtain ⟨-, same_memory⟩ := List.append_inj front' (by simp only [List.length_append])
    exact ⟨same_memory, same_ppn, nodes_len.2 (by omega)⟩
  · rintro ⟨same_memory, same_ppn, none_asked⟩
    have none_nodes : nodes = [] := by
      rw [wanted, none_asked] at eq_nodes
      exact (Option.some.inj eq_nodes).symm
    subst none_nodes
    rw [same_memory, same_ppn, List.length_eq_zero_iff.1 (Nat.le_zero.1 nodes_len.1)]

/-- What a template asks for comes to the document of a wrapper exactly when there is no document, or
when the values of its limits have substitutions and fit into the document, memory and processors per
node are asked for with numerals, and no nodes are asked for. -/
theorem limits_reach_iff (substitute : Substitution) (job : Job) :
    LimitsReach substitute job ↔
      wrapperHeader job = .error .null ∨
        ∃ header text, wrapperHeader job = .ok header ∧
          requested substitute job.template.environment = some text ∧
          (header ++ text ++ "</job>".toList).length < rslLength ∧
          Numeral substitute job.template.environment "MEMORY" ∧
          Numeral substitute job.template.environment "PPN" ∧
          lastValue job.template.environment "NODES" = none := by
  let after := (job.template.environment.foldl (exportVariable substitute) ([], resetLimits job)).2
  have marks : Notes substitute job.template.environment after := notes ..
  have same_header : wrapperHeader after = wrapperHeader job := header_environment ..
  have reach : LimitsReach substitute job ↔
      gw_generate_wrapper_rsl2 after = .error .null ∨
      ∃ header limits, wrapperHeader after = .ok header ∧
        requested substitute job.template.environment = some limits ∧
        gw_generate_wrapper_rsl2 after = .ok (header ++ limits ++ "</job>".toList) := by
    constructor
    · intro all
      exact all _ after rfl
    · intro here file job' eq
      have same : after = job' := congrArg (fun p => p.2.2) eq
      rw [← same]
      exact here
  rw [reach, wrapper_eq, same_header]
  cases made : wrapperHeader job with
  | error fault => simp [bind, Except.bind]
  | ok header =>
    simp only [bind, Except.bind, reduceCtorEq, false_or, Except.ok.injEq]
    constructor
    · rintro (null | ⟨_, text, rfl, asked, eq⟩)
      · split_ifs at null
        cases null
      · split_ifs at eq with fits
        have same := List.append_cancel_left (List.append_cancel_right (Except.ok.inj eq))
        rw [same] at fits
        exact ⟨header, text, rfl, asked, fits, (limits_eq_iff marks asked).1 same⟩
    · rintro ⟨_, text, rfl, asked, fits, plain⟩
      have same := (limits_eq_iff marks asked).2 plain
      rw [same, if_pos fits]
      exact .inr ⟨header, text, rfl, asked, rfl⟩

/-- A job that asks for four nodes. -/
def wideJob : Job where
  id := 7
  owner := "ana".toList
  hostname := "host".toList
  template := { executable := "/bin/ls".toList, environment := [("NODES".toList, "4".toList)] }

/-- The closing tag of the nodes is one character short. -/
theorem nodes_not_closed : ¬LimitsReach some wideJob := by
  intro reach
  obtain null | ⟨header, text, made, asked, eq⟩ :=
    reach _ (gw_job_environment some true wideJob).2.2 rfl
  · revert null
    decide +kernel
  · have long : (gw_generate_wrapper_rsl2 (gw_job_environment some true wideJob).2.2).toOption.map
        List.length = (wrapperHeader (gw_job_environment some true wideJob).2.2).toOption.map
          (·.length + 22) := by decide +kernel
    have asked_long : (requested some wideJob.template.environment).map List.length = some 17 := by
      decide
    rw [asked, Option.map_some, Option.some.injEq] at asked_long
    have lengths := congrArg (fun r => r.toOption.map List.length) eq
    have end_long : "</job>".toList.length = 6 := rfl
    have made_long := congrArg (fun r => r.toOption.map (List.length · + 22)) made
    rw [← long] at made_long
    have both := made_long.symm.trans lengths
    simp only [Except.toOption, Option.map_some, Option.some.injEq, List.length_append, asked_long,
      end_long] at both
    omega

end Reach

end GridWay.Rsl2
