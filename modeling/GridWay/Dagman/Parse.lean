import GridWay.Dagman.Node
import GridWay.Lib.Dict
import GridWay.Lib.Scan
import Mathlib.Data.List.Dedup
import Mathlib.Data.List.DropRight
import Mathlib.Data.Char

/-!
# The file of a dag

`DAGMan::Parse`: each line is matched with three regular expressions, and what they find is stored in
dictionaries whose keys are the names of the jobs in capitals. The expressions are read from the left;
only the one for dependencies has a part that is as short as possible.

* `Parse.parse`: what a line adds.
* `Parse.merge_data`: the nodes and their edges; a name without a node is an error.
* `Line`: a line in the syntax of the files, with its layout.
* `Line.Straight`, `Line.Stored`: the lines that are read as they are written.
-/

namespace GridWay.Dagman

open Scan

/-- A name, of a job or of a file. -/
abbrev Name := List Char

/-- `upcase`. -/
def upcase (cs : List Char) : List Char := cs.map Char.toUpper

namespace Regex

/-- `\s+`. -/
def blanks : List Char → Option (List Char)
  | [] => none
  | c :: cs => if isSpace c then some (cs.dropWhile isSpace) else none

/-- `(\S+)`. -/
def word (cs : List Char) : Option (Name × List Char) :=
  let word := cs.takeWhile (!isSpace ·)
  if word = [] then none else some (word, cs.dropWhile (!isSpace ·))

/-- A keyword, in capitals or not. -/
def keyword (key : String) (cs : List Char) : Option (List Char × List Char) :=
  if upcase (cs.take key.toList.length) = key.toList then
    some (cs.take key.toList.length, cs.drop key.toList.length)
  else none

/-- `(.*)`. -/
def rest (cs : List Char) : List Char := cs.takeWhile (· != '\n')

/-- `(.*?)CHILD\s+(.*)`. -/
def untilChild : List Char → Option (List Char × List Char)
  | [] => none
  | c :: cs =>
    match (keyword "CHILD" (c :: cs)).bind fun key => blanks key.2 with
    | some after => some ([], rest after)
    | none =>
      if c = '\n' then none else (untilChild cs).map fun parts => (c :: parts.1, parts.2)

/-- `/^\s*JOB\s+(\S+)\s+(\S+)(\s+(DONE))?/i`. -/
def JOB_REG (line : List Char) : Option (Name × Name × Bool) := do
  let (_, cs) ← keyword "JOB" (line.dropWhile isSpace)
  let (job_name, cs) ← (← blanks cs) |> word
  let (job_template, cs) ← (← blanks cs) |> word
  return (job_name, job_template, ((blanks cs).bind (keyword "DONE")).isSome)

/-- `/^\s*SCRIPT\s+(PRE|POST)\s+(\S+)\s+(\S+)\s+(.*)/i`. -/
def SCRIPT_REG (line : List Char) : Option (List Char × Name × Script) := do
  let (_, cs) ← keyword "SCRIPT" (line.dropWhile isSpace)
  let cs ← blanks cs
  let (script_type, cs) ← keyword "PRE" cs <|> keyword "POST" cs
  let (script_job, cs) ← (← blanks cs) |> word
  let (script_name, cs) ← (← blanks cs) |> word
  let cs ← blanks cs
  return (script_type, script_job, ⟨script_name, rest cs⟩)

/-- `/^\s*PARENT\s+(.*?)CHILD\s+(.*)/i`. -/
def PARENT_REG (line : List Char) : Option (List Char × List Char) := do
  let (_, cs) ← keyword "PARENT" (line.dropWhile isSpace)
  untilChild (← blanks cs)

/-- `split(/\s/)`: a part for each two blanks in a row, but none at the end. -/
def split (cs : List Char) : List Name := (cs.splitOnP isSpace).rdropWhile (· = [])

end Regex

/-- What was read of a file. -/
structure Parse where
  jobs : Dict Name Node := []
  dependencies : Dict Name (List Name) := []
  scripts : Dict Name (Dict (List Char) Script) := []

namespace Parse

/-- `names.sort!.uniq!`. -/
def sorted (names : List Name) : List Name := (names.mergeSort (· ≤ ·)).dedup

/-- A dependency is added. -/
def add_dependency (parents : List Name) (dependencies : Dict Name (List Name)) (child : Name) :
    Dict Name (List Name) :=
  dependencies.set child (sorted (((dependencies.get child).getD []) ++ parents))

/-- `parse`: the first expression that matches decides. -/
def parse (p : Parse) (line : List Char) : Parse :=
  match Regex.JOB_REG line with
  | some (job_name, job_template, done) =>
    let job : Node := { name := job_name, template := job_template, done := done }
    { p with jobs := p.jobs.set (upcase job_name) job }
  | none =>
    match Regex.SCRIPT_REG line with
    | some (script_type, job, script) =>
      let scripts := ((p.scripts.get (upcase job)).getD []).set script_type script
      { p with scripts := p.scripts.set (upcase job) scripts }
    | none =>
      match Regex.PARENT_REG line with
      | some (parents, children) =>
        let parents := (Regex.split parents).map upcase
        let children := (Regex.split children).map upcase
        { p with dependencies := children.foldl (add_dependency parents) p.dependencies }
      | none => p

/-- The parents of a child are added to its node; a name without a node is an error. -/
def add_parents (jobs : Dict Name Node) (child : Name) (g : Graph Name) (parent : Name) :
    Option (Graph Name) :=
  if jobs.has child ∧ jobs.has parent then some (g.add_parent child parent) else none

/-- The scripts of a job are added to its node. -/
def add_scripts (jobs : Dict Name Node) (e : Name × Dict (List Char) Script) :
    Option (Dict Name Node) :=
  (jobs.get e.1).map fun node =>
    jobs.set e.1 { node with pre := e.2.get "PRE".toList, post := e.2.get "POST".toList }

/-- `merge_data`. -/
def merge_data (p : Parse) : Option (Dict Name Node × Graph Name) := do
  let g ← p.dependencies.foldlM (fun g d => d.2.foldlM (add_parents p.jobs d.1) g) {}
  let jobs ← p.scripts.foldlM add_scripts p.jobs
  return (jobs, g)

end Parse

/-- Blanks within a line. -/
def Gap (cs : List Char) : Prop := cs ≠ [] ∧ ∀ c ∈ cs, isSpace c = true ∧ c ≠ '\n'

/-- A string without blanks. -/
def Word (cs : List Char) : Prop := cs ≠ [] ∧ ∀ c ∈ cs, isSpace c = false

/-- The end of a line. -/
def Trail (cs : List Char) : Prop := ∀ c ∈ cs, isSpace c = true

-- A property of the characters of a string is checked on these, not on every character there is.
instance (cs : List Char) : Decidable (Gap cs) :=
  @instDecidableAnd _ _ _ (List.decidableBAll (fun c => isSpace c = true ∧ c ≠ '\n') cs)

instance (cs : List Char) : Decidable (Word cs) :=
  @instDecidableAnd _ _ _ (List.decidableBAll (isSpace · = false) cs)

instance (cs : List Char) : Decidable (Trail cs) := List.decidableBAll (isSpace · = true) cs

instance (c? : Option Char) : Decidable (∀ c ∈ c?, isSpace c = true) :=
  match c? with
  | none => isTrue nofun
  | some c => decidable_of_iff (isSpace c = true) (by simp)

/-- The start of a line: its keyword, with blanks. -/
structure Front where
  lead : List Char := []
  keyword : List Char
  gap : List Char := [' ']
deriving DecidableEq, Repr

namespace Front

def text (front : Front) : List Char := front.lead ++ (front.keyword ++ front.gap)

/-- The keyword may be written in capitals or not. -/
def Written (front : Front) (key : String) : Prop :=
  (∀ c ∈ front.lead, isSpace c = true) ∧ upcase front.keyword = key.toList ∧ Gap front.gap

instance (front : Front) (key : String) : Decidable (front.Written key) :=
  @instDecidableAnd _ _ (List.decidableBAll (isSpace · = true) front.lead) _

end Front

/-- What a line says. -/
inductive Entry where
  | job (node : Node)
  | script (phase : Phase) (job : Name) (script : Script)
  | dependency (parents children : List Name)

/-- A line of a file with its layout. A job may be marked as done; the parameters of a script are the rest of
its line. Parents have the blanks that follow them, and children the blanks in front of them. -/
inductive Line where
  | job (front : Front) (name gap template : List Char) (mark : Option (List Char × List Char))
    (trail : List Char)
  | script (front : Front) (type gap₁ script_job gap₂ name rest : List Char)
  | parent (front : Front) (parents : List (Name × List Char)) (child : List Char)
    (children : List (List Char × Name)) (trail : List Char)
deriving DecidableEq, Repr

namespace Line

/-- The names of parents, or of children, with their blanks. -/
def listText (names : List (List Char × List Char)) : List Char := names.flatMap fun e => e.1 ++ e.2

/-- The text of a line. -/
def text : Line → List Char
  | job front name gap template mark trail =>
    front.text ++ (name ++ (gap ++ (template ++ (mark.elim [] (fun m => m.1 ++ m.2) ++ trail))))
  | script front type gap₁ script_job gap₂ name rest =>
    front.text ++ (type ++ (gap₁ ++ (script_job ++ (gap₂ ++ (name ++ rest)))))
  | parent front parents child children trail =>
    front.text ++ (listText parents ++ (child ++ (listText children ++ trail)))

/-- What a line says. -/
def entry : Line → Entry
  | job _ name _ template mark _ => .job { name, template, done := mark.isSome }
  | script _ type _ script_job _ name rest =>
    .script (if upcase type = "PRE".toList then .pre else .post) script_job
      ⟨name, Regex.rest (rest.dropWhile isSpace)⟩
  | parent _ parents _ children _ => .dependency (parents.map Prod.fst) (children.map Prod.snd)

/-- The lines of the syntax. -/
def Written : Line → Prop
  | job front name gap template mark trail =>
    front.Written "JOB" ∧ Word name ∧ Gap gap ∧ Word template ∧
      (∀ m ∈ mark, Gap m.1 ∧ upcase m.2 = "DONE".toList) ∧ Trail trail
  | script front type gap₁ script_job gap₂ name rest =>
    front.Written "SCRIPT" ∧ (upcase type = "PRE".toList ∨ upcase type = "POST".toList) ∧ Gap gap₁ ∧
      Word script_job ∧ Gap gap₂ ∧ Word name ∧ ∀ c ∈ rest.head?, isSpace c = true
  | parent front parents child children trail =>
    front.Written "PARENT" ∧ parents ≠ [] ∧ (∀ p ∈ parents, Word p.1 ∧ Gap p.2) ∧
      upcase child = "CHILD".toList ∧ children ≠ [] ∧ (∀ c ∈ children, Gap c.1 ∧ Word c.2) ∧ Trail trail

instance : DecidablePred Written
  | job .. => inferInstanceAs (Decidable (_ ∧ _ ∧ _ ∧ _ ∧ (∀ m ∈ (_ : Option _), _) ∧ _))
  | script .. => inferInstanceAs (Decidable (_ ∧ _ ∧ _ ∧ _ ∧ _ ∧ _ ∧ (∀ c ∈ (_ : Option _), _)))
  | parent .. => inferInstanceAs (Decidable (_ ∧ _ ∧ _ ∧ _ ∧ _ ∧ _ ∧ _))

/-- A name ends in the keyword of the children. -/
def EndsInChild (name : Name) : Prop := "CHILD".toList <:+ upcase name

/-- The dependencies that are read as they are written: there is one blank between two parents and between two
children, and no name of a parent ends in the keyword that comes after the parents. -/
def Straight : Line → Prop
  | parent _ parents _ children _ =>
    (∀ p ∈ parents.dropLast, p.2.length = 1) ∧ (∀ c ∈ children.tail, c.1.length = 1) ∧
      ∀ p ∈ parents, ¬EndsInChild p.1
  | _ => True

/-- The scripts that are found again: their type is in capitals, and their name is not the end of the file. -/
def Stored : Line → Bool
  | script _ type _ _ _ _ rest => (type = "PRE".toList ∨ type = "POST".toList) ∧ rest ≠ []
  | _ => true

end Line

namespace Regex

variable {cs word gap key rest : List Char} {c : Char} {k : String}

lemma upcase_length (cs : List Char) : (upcase cs).length = cs.length := List.length_map _

/-- Capitals stay capitals. -/
lemma toUpper_toUpper (c : Char) : c.toUpper.toUpper = c.toUpper := by
  by_cases lower : c.val ≥ 'a'.val ∧ c.val ≤ 'z'.val
  · have value : c.toUpper.val = c.val + ('A'.val - 'a'.val) := by
      delta Char.toUpper
      rw [dif_pos lower]
    have upper : ¬(c.toUpper.val ≥ 'a'.val ∧ c.toUpper.val ≤ 'z'.val) := by
      rw [value]
      obtain ⟨low, high⟩ := lower
      simp only [ge_iff_le, UInt32.le_iff_toNat_le] at *
      rw [UInt32.toNat_add]
      simp at *
      omega
    exact dif_neg upper
  · have same : c.toUpper = c := dif_neg lower
    rw [same, same]

/-- A blank is no letter. -/
lemma space_toUpper (blank : isSpace c = true) : c.toUpper = c := by
  have low : c.toNat ≤ 32 := by
    simp [isSpace] at blank
    omega
  refine dif_neg fun letter => ?_
  have := UInt32.le_iff_toNat_le.1 letter.1
  exact absurd (Nat.le_trans this low) (by decide)

/-- A keyword is found. -/
lemma keyword_own (own : upcase key = k.toList) (cs : List Char) :
    keyword k (key ++ cs) = some (key, cs) := by
  have length : k.toList.length = key.length := by rw [← own, upcase_length]
  rw [keyword, length, List.take_left, List.drop_left, if_pos own]

/-- There is no blank in a keyword. -/
lemma keyword_clean (own : upcase key = k.toList) (letters : ∀ d ∈ k.toList, isSpace d = false) :
    ∀ c ∈ key, isSpace c = false := by
  intro c mem
  have upper : c.toUpper ∈ k.toList := by
    rw [← own]
    exact List.mem_map_of_mem mem
  rw [Bool.eq_false_iff]
  intro blank
  rw [space_toUpper blank] at upper
  rw [letters c upper] at blank
  cases blank

/-- A keyword is not found where the first letter is another. -/
lemma keyword_other (other : ∀ d ∈ k.toList.head?, c.toUpper ≠ d) (some_key : k.toList ≠ []) :
    keyword k (c :: cs) = none := by
  obtain ⟨d, ds, letters⟩ := List.exists_cons_of_ne_nil some_key
  rw [keyword, letters, List.length_cons, List.take_succ_cons]
  apply if_neg
  intro eq
  rw [letters] at other
  exact other d rfl (List.cons.inj eq).1

/-- Blanks are skipped. -/
lemma blanks_gap (blank : Trail gap) (some_gap : gap ≠ []) (next : ∀ c ∈ cs.head?, isSpace c = false) :
    blanks (gap ++ cs) = some cs := by
  obtain ⟨d, ds, rfl⟩ := List.exists_cons_of_ne_nil some_gap
  have skipped : (ds ++ cs).dropWhile isSpace = cs := by
    rw [List.dropWhile_append_of_pos fun c mem => blank c (List.mem_cons_of_mem _ mem)]
    cases cs with
    | nil => rfl
    | cons c cs =>
      rw [List.dropWhile_cons_of_neg]
      rw [next c rfl]
      exact Bool.false_ne_true
  rw [List.cons_append, blanks, if_pos (blank d List.mem_cons_self), skipped]

lemma Gap.trail (h : Gap gap) : Trail gap := fun c mem => (h.2 c mem).1

lemma head_word (h : Word word) (cs : List Char) : ∀ c ∈ (word ++ cs).head?, isSpace c = false := by
  obtain ⟨d, ds, rfl⟩ := List.exists_cons_of_ne_nil h.1
  intro c eq
  cases eq
  exact h.2 d List.mem_cons_self

/-- A word is read up to the next blank. -/
lemma word_own (h : Word word) (next : ∀ c ∈ cs.head?, isSpace c = true) :
    Regex.word (word ++ cs) = some (word, cs) := by
  obtain ⟨taken, dropped⟩ := takeWhile_word h.2 next
  rw [Regex.word, taken, dropped, if_neg h.1]

lemma head_gap (h : Gap gap) (cs : List Char) : ∀ c ∈ (gap ++ cs).head?, isSpace c = true := by
  obtain ⟨d, ds, rfl⟩ := List.exists_cons_of_ne_nil h.1
  intro c eq
  cases eq
  exact (h.2 d List.mem_cons_self).1

variable {front : Front} {k' : String}

/-- The keyword of a line comes after blanks. -/
lemma front_drop (h : front.Written k) (some_key : k.toList ≠ [])
    (letter : ∀ d ∈ k.toList.head?, isSpace d = false) (cs : List Char) :
    (front.text ++ cs).dropWhile isSpace = front.keyword ++ (front.gap ++ cs) := by
  obtain ⟨lead, own, -⟩ := h
  rw [Front.text, List.append_assoc, List.append_assoc, List.dropWhile_append_of_pos lead]
  cases here : front.keyword with
  | nil =>
    rw [here] at own
    exact absurd own.symm some_key
  | cons c ds =>
    have first : isSpace c = false := by
      rw [here] at own
      rw [Bool.eq_false_iff]
      intro blank
      have clean := letter c.toUpper (by rw [← own]; rfl)
      rw [space_toUpper blank, blank] at clean
      cases clean
    rw [List.cons_append, List.dropWhile_cons_of_neg]
    rw [first]
    exact Bool.false_ne_true

/-- The keyword of another line is not found. -/
lemma front_other (h : front.Written k) (some_key : k.toList ≠ []) (some_key' : k'.toList ≠ [])
    (other : k.toList.head? ≠ k'.toList.head?) (cs : List Char) :
    keyword k' (front.keyword ++ cs) = none := by
  obtain ⟨-, own, -⟩ := h
  cases here : front.keyword with
  | nil =>
    rw [here] at own
    exact absurd own.symm some_key
  | cons c ds =>
    rw [here] at own
    apply keyword_other _ some_key'
    intro d first same
    apply other
    rw [← own, first, ← same]
    rfl

/-- A line of a job. -/
lemma JOB_REG_job {name template trail : List Char} {mark : Option (List Char × List Char)}
    (written : (Line.job front name gap template mark trail).Written) :
    JOB_REG (Line.job front name gap template mark trail).text = some (name, template, mark.isSome) := by
  obtain ⟨start, named, between, filed, marked, trails⟩ := written
  have after : ∀ c ∈ (mark.elim [] (fun m => m.1 ++ m.2) ++ trail).head?, isSpace c = true := by
    cases mark with
    | none => exact fun c first => trails c (List.mem_of_mem_head? first)
    | some m =>
      rw [Option.elim_some, List.append_assoc]
      exact head_gap (marked m rfl).1 _
  have done : ((blanks (mark.elim [] (fun m => m.1 ++ m.2) ++ trail)).bind (keyword "DONE")).isSome =
      mark.isSome := by
    cases mark with
    | none =>
      rw [Option.elim_none, List.nil_append]
      cases trail with
      | nil => rfl
      | cons c cs =>
        have skipped : blanks (c :: cs) = some [] := by
          have whole : blanks ((c :: cs) ++ []) = some [] :=
            blanks_gap trails (List.cons_ne_nil c cs) nofun
          rwa [List.append_nil] at whole
        rw [skipped]
        rfl
    | some m =>
      obtain ⟨blank, key⟩ := marked m rfl
      have letter : ∀ c ∈ (m.2 ++ trail).head?, isSpace c = false := by
        cases here : m.2 with
        | nil =>
          rw [here] at key
          cases key
        | cons d ds =>
          rw [here] at key
          intro c first
          cases first
          rw [Bool.eq_false_iff]
          intro blank
          have same := (List.cons.inj key).1
          rw [space_toUpper blank] at same
          rw [same] at blank
          exact absurd blank (by decide)
      rw [Option.elim_some, List.append_assoc, blanks_gap (Gap.trail blank) blank.1 letter,
        Option.bind_some, keyword_own key]
      rfl
  rw [JOB_REG, Line.text, front_drop start (by simp) (by simp [isSpace]), keyword_own start.2.1]
  show (blanks (front.gap ++ (name ++ _)) >>= _) = _
  rw [blanks_gap (Gap.trail start.2.2) start.2.2.1 (head_word named _)]
  show (Regex.word (name ++ (gap ++ _)) >>= _) = _
  rw [word_own named (head_gap between _)]
  show (blanks (gap ++ (template ++ _)) >>= _) = _
  rw [blanks_gap (Gap.trail between) between.1 (head_word filed _)]
  show (Regex.word (template ++ _) >>= _) = _
  rw [word_own filed after]
  show some (name, template, _) = _
  rw [done]

/-- The type of a script. -/
lemma script_type {type : List Char} (known : upcase type = "PRE".toList ∨ upcase type = "POST".toList)
    (cs : List Char) :
    (keyword "PRE" (type ++ cs) <|> keyword "POST" (type ++ cs)) = some (type, cs) := by
  obtain pre | post := known
  · rw [keyword_own pre]
    rfl
  · have other : keyword "PRE" (type ++ cs) = none := by
      have length : type.length = 4 := by rw [← upcase_length, post]; rfl
      have letters : upcase ((type ++ cs).take 3) = "POS".toList := by
        rw [List.take_append_of_le_length (by omega), upcase, List.map_take, ← upcase, post]
        rfl
      apply if_neg
      show upcase ((type ++ cs).take 3) ≠ _
      rw [letters]
      decide
    rw [other, keyword_own post]
    rfl

section Script

variable {type gap₁ job gap₂ name after : List Char}

/-- A line of a script is no line of a job. -/
lemma JOB_REG_script (written : (Line.script front type gap₁ job gap₂ name after).Written) :
    JOB_REG (Line.script front type gap₁ job gap₂ name after).text = none := by
  obtain ⟨start, -⟩ := written
  rw [JOB_REG, Line.text, front_drop start (by simp) (by simp [isSpace]),
    front_other start (by simp) (by simp) (by decide)]
  rfl

/-- The name of a type starts with a letter. -/
lemma head_type (known : upcase type = "PRE".toList ∨ upcase type = "POST".toList) (cs : List Char) :
    ∀ c ∈ (type ++ cs).head?, isSpace c = false := by
  cases here : type with
  | nil =>
    rw [here] at known
    obtain eq | eq := known <;> cases eq
  | cons d ds =>
    rw [here] at known
    intro c first
    cases first
    have letter : d.toUpper = 'P' := by
      obtain eq | eq := known
      · exact (List.cons.inj eq).1
      · exact (List.cons.inj eq).1
    rw [Bool.eq_false_iff]
    intro blank
    rw [space_toUpper blank] at letter
    rw [letter] at blank
    exact absurd blank (by decide)

/-- A line of a script is read when something follows the name of the script. -/
lemma SCRIPT_REG_script (written : (Line.script front type gap₁ job gap₂ name after).Written) :
    SCRIPT_REG (Line.script front type gap₁ job gap₂ name after).text =
      if after = [] then none
      else some (type, job, ⟨name, Regex.rest (after.dropWhile isSpace)⟩) := by
  obtain ⟨start, known, typed, job_word, between, name_word, next⟩ := written
  rw [SCRIPT_REG, Line.text, front_drop start (by simp) (by simp [isSpace]), keyword_own start.2.1]
  show (blanks (front.gap ++ (type ++ _)) >>= _) = _
  rw [blanks_gap (Gap.trail start.2.2) start.2.2.1 (head_type known _)]
  show ((keyword "PRE" (type ++ _) <|> keyword "POST" (type ++ _)) >>= _) = _
  rw [script_type known]
  show (blanks (gap₁ ++ (job ++ _)) >>= _) = _
  rw [blanks_gap (Gap.trail typed) typed.1 (head_word job_word _)]
  show (Regex.word (job ++ (gap₂ ++ _)) >>= _) = _
  rw [word_own job_word (head_gap between _)]
  show (blanks (gap₂ ++ (name ++ _)) >>= _) = _
  rw [blanks_gap (Gap.trail between) between.1 (head_word name_word _)]
  show (Regex.word (name ++ after) >>= _) = _
  rw [word_own name_word next]
  cases after with
  | nil => rfl
  | cons c cs =>
    have blank := next c rfl
    rw [if_neg (List.cons_ne_nil _ _), List.dropWhile_cons_of_pos blank]
    show (blanks (c :: cs) >>= _) = _
    rw [blanks, if_pos blank]
    rfl

/-- A line of a script is no line of dependencies. -/
lemma PARENT_REG_script (written : (Line.script front type gap₁ job gap₂ name after).Written) :
    PARENT_REG (Line.script front type gap₁ job gap₂ name after).text = none := by
  obtain ⟨start, -⟩ := written
  rw [PARENT_REG, Line.text, front_drop start (by simp) (by simp [isSpace]),
    front_other start (by simp) (by simp) (by decide)]
  rfl

end Script

section Parent

variable {parents : List (Name × List Char)} {child stem : List Char}
  {children : List (List Char × Name)} {trail : List Char}

lemma JOB_REG_parent (written : (Line.parent front parents child children trail).Written) :
    JOB_REG (Line.parent front parents child children trail).text = none := by
  obtain ⟨start, -⟩ := written
  rw [JOB_REG, Line.text, front_drop start (by simp) (by simp [isSpace]),
    front_other start (by simp) (by simp) (by decide)]
  rfl

lemma SCRIPT_REG_parent (written : (Line.parent front parents child children trail).Written) :
    SCRIPT_REG (Line.parent front parents child children trail).text = none := by
  obtain ⟨start, -⟩ := written
  rw [SCRIPT_REG, Line.text, front_drop start (by simp) (by simp [isSpace]),
    front_other start (by simp) (by simp) (by decide)]
  rfl

/-- One step of the part that is as short as possible: the keyword with blanks, or one more character. -/
lemma untilChild_skip (other : (keyword "CHILD" (c :: cs)).bind (fun key => blanks key.2) = none)
    (inside : c ≠ '\n') :
    untilChild (c :: cs) = (untilChild cs).map fun parts => (c :: parts.1, parts.2) := by
  rw [untilChild, other]
  exact if_neg inside

/-- Blanks are skipped. -/
lemma untilChild_gap (between : ∀ c ∈ gap, isSpace c = true ∧ c ≠ '\n') (cs : List Char) :
    untilChild (gap ++ cs) = (untilChild cs).map fun parts => (gap ++ parts.1, parts.2) := by
  induction gap with
  | nil =>
    show untilChild cs = (untilChild cs).map id
    rw [Option.map_id, id]
  | cons c gap ih =>
    obtain ⟨blank, inside⟩ := between c List.mem_cons_self
    have other : keyword "CHILD" (c :: (gap ++ cs)) = none := by
      apply keyword_other _ (by decide)
      intro d first same
      cases first
      rw [space_toUpper blank] at same
      rw [same] at blank
      exact absurd blank (by decide)
    rw [List.cons_append, untilChild_skip (by rw [other]; rfl) inside,
      ih fun d mem => between d (List.mem_cons_of_mem _ mem), Option.map_map]
    rfl

/-- The keyword is found where a word ends in it, and nowhere else in a word. -/
lemma word_end (clean : ∀ c ∈ word, isSpace c = false) (next : ∀ c ∈ cs.head?, isSpace c = true)
    {after : List Char} (found : (keyword "CHILD" (word ++ cs)).bind (fun key => blanks key.2) = some after) :
    upcase word = "CHILD".toList := by
  obtain ⟨⟨letters, rest⟩, key, blank⟩ := Option.bind_eq_some_iff.1 found
  rw [keyword] at key
  obtain ⟨own, eq⟩ := Option.ite_none_right_eq_some.1 key
  cases eq
  have five : "CHILD".toList.length = 5 := rfl
  rw [five] at own blank
  obtain short | same | long := Nat.lt_trichotomy word.length 5
  · -- the letters would go on behind the word, where there is a blank
    cases cs with
    | nil =>
      have length := congrArg List.length own
      rw [List.append_nil, upcase_length, List.length_take, five] at length
      omega
    | cons c cs =>
      have mem : c ∈ (word ++ c :: cs).take 5 := by
        rw [List.mem_take_iff_getElem]
        refine ⟨word.length, by simp; omega, ?_⟩
        simp
      have letter : c.toUpper ∈ "CHILD".toList := by
        rw [← own]
        exact List.mem_map_of_mem mem
      rw [space_toUpper (next c rfl)] at letter
      have none_blank : ∀ d ∈ "CHILD".toList, isSpace d = false := by simp [isSpace]
      exact absurd ((none_blank c letter).symm.trans (next c rfl)) Bool.false_ne_true
  · rw [List.take_append_of_le_length (by omega), List.take_of_length_le (by omega)] at own
    exact own
  · rw [List.drop_append_of_le_length (by omega)] at blank
    cases behind : word.drop 5 with
    | nil =>
      have length := congrArg List.length behind
      rw [List.length_drop, List.length_nil] at length
      omega
    | cons d ds =>
      have inside : d ∈ word := List.mem_of_mem_drop (behind ▸ List.mem_cons_self)
      rw [behind, List.cons_append, blanks, clean d inside] at blank
      cases blank

/-- A word that does not end in the keyword is skipped. -/
lemma untilChild_word (clean : ∀ c ∈ word, isSpace c = false) (next : ∀ c ∈ cs.head?, isSpace c = true)
    (other : ¬Line.EndsInChild word) :
    untilChild (word ++ cs) = (untilChild cs).map fun parts => (word ++ parts.1, parts.2) := by
  induction word with
  | nil =>
    show untilChild cs = (untilChild cs).map id
    rw [Option.map_id, id]
  | cons c word ih =>
    have later : ¬Line.EndsInChild word := fun ends =>
      other (ends.trans (List.suffix_cons c.toUpper (upcase word)))
    have skip : (keyword "CHILD" (c :: (word ++ cs))).bind (fun key => blanks key.2) = none := by
      rw [Option.eq_none_iff_forall_ne_some]
      intro after found
      apply other
      rw [Line.EndsInChild, ← word_end clean next found]
    have inside : c ≠ '\n' := by
      rintro rfl
      exact absurd (clean _ List.mem_cons_self) (by decide)
    rw [List.cons_append, untilChild_skip skip inside,
      ih (fun d mem => clean d (List.mem_cons_of_mem _ mem)) later, Option.map_map]
    rfl

/-- A word that ends in the keyword is cut there. -/
lemma untilChild_stem (clean : ∀ c ∈ stem ++ child, isSpace c = false)
    (own : upcase child = "CHILD".toList) (between : Gap gap)
    (next : ∀ c ∈ cs.head?, isSpace c = false) :
    untilChild (stem ++ (child ++ (gap ++ cs))) = some (stem, Regex.rest cs) := by
  induction stem with
  | nil =>
    cases here : child with
    | nil =>
      rw [here] at own
      cases own
    | cons c ds =>
      have found : (keyword "CHILD" (c :: (ds ++ (gap ++ cs)))).bind (fun key => blanks key.2) =
          some cs := by
        rw [here] at own
        have key := keyword_own own (gap ++ cs)
        rw [List.cons_append] at key
        rw [key, Option.bind_some, blanks_gap (Gap.trail between) between.1 next]
      rw [List.nil_append, List.cons_append, untilChild, found]
  | cons c stem ih =>
    have skip : (keyword "CHILD" (c :: (stem ++ (child ++ (gap ++ cs))))).bind
        (fun key => blanks key.2) = none := by
      rw [Option.eq_none_iff_forall_ne_some]
      intro after found
      rw [← List.append_assoc, ← List.cons_append] at found
      have length := congrArg List.length (word_end clean (head_gap between cs) found)
      have five := congrArg List.length own
      rw [upcase_length] at five length
      rw [List.length_append, List.length_cons] at length
      omega
    have inside : c ≠ '\n' := by
      rintro rfl
      exact absurd (clean _ List.mem_cons_self) (by decide)
    rw [List.cons_append, untilChild_skip skip inside,
      ih fun d mem => clean d (List.mem_cons_of_mem _ mem)]
    rfl

/-- Parents whose names do not end in the keyword are skipped. -/
lemma untilChild_parents (words : ∀ p ∈ parents, Word p.1 ∧ Gap p.2)
    (others : ∀ p ∈ parents, ¬Line.EndsInChild p.1) (cs : List Char) :
    untilChild (Line.listText parents ++ cs) =
      (untilChild cs).map fun parts => (Line.listText parents ++ parts.1, parts.2) := by
  induction parents with
  | nil =>
    show untilChild cs = (untilChild cs).map id
    rw [Option.map_id, id]
  | cons p parents ih =>
    obtain ⟨name, between⟩ := words p List.mem_cons_self
    have text (cs : List Char) : Line.listText (p :: parents) ++ cs =
        p.1 ++ (p.2 ++ (Line.listText parents ++ cs)) := by
      rw [Line.listText, List.flatMap_cons, List.append_assoc, List.append_assoc]
      rfl
    rw [text, untilChild_word name.2 (head_gap between _) (others p List.mem_cons_self),
      untilChild_gap between.2, ih (fun q mem => words q (List.mem_cons_of_mem _ mem))
        fun q mem => others q (List.mem_cons_of_mem _ mem), Option.map_map, Option.map_map]
    simp only [text]
    rfl

/-- Blanks in a row leave parts without a letter. -/
lemma pieces_gap (blank : Trail gap) (cs : List Char) :
    (gap ++ cs).splitOnP isSpace = List.replicate gap.length [] ++ cs.splitOnP isSpace := by
  induction gap with
  | nil => rfl
  | cons c gap ih =>
    have first := List.splitOnP_append_cons (p := isSpace) [] (gap ++ cs) (blank c List.mem_cons_self)
    rw [List.nil_append, List.splitOnP_nil] at first
    rw [List.cons_append, first, ih fun d mem => blank d (List.mem_cons_of_mem _ mem),
      List.length_cons, List.replicate_succ]
    rfl

/-- The parts of a word and the blanks behind it. -/
lemma pieces_word (clean : ∀ c ∈ word, isSpace c = false) (between : Gap gap) (cs : List Char) :
    (word ++ (gap ++ cs)).splitOnP isSpace =
      word :: (List.replicate (gap.length - 1) [] ++ cs.splitOnP isSpace) := by
  obtain ⟨d, ds, rfl⟩ := List.exists_cons_of_ne_nil between.1
  have blank := Gap.trail between
  rw [List.cons_append, List.splitOnP_append_cons _ _ (blank d List.mem_cons_self),
    List.splitOnP_eq_singleton clean, pieces_gap fun c mem => blank c (List.mem_cons_of_mem _ mem)]
  rfl

/-- The parts of words with blanks behind them. -/
lemma pieces_parents (words : ∀ p ∈ parents, Word p.1 ∧ Gap p.2) (clean : ∀ c ∈ stem, isSpace c = false) :
    (Line.listText parents ++ stem).splitOnP isSpace =
      parents.flatMap (fun p => p.1 :: List.replicate (p.2.length - 1) []) ++ [stem] := by
  induction parents with
  | nil => exact List.splitOnP_eq_singleton clean
  | cons p parents ih =>
    obtain ⟨name, between⟩ := words p List.mem_cons_self
    have text : Line.listText (p :: parents) ++ stem =
        p.1 ++ (p.2 ++ (Line.listText parents ++ stem)) := by
      rw [Line.listText, List.flatMap_cons, List.append_assoc, List.append_assoc]
      rfl
    rw [text, pieces_word name.2 between, ih fun q mem => words q (List.mem_cons_of_mem _ mem)]
    simp

/-- The parts of words with blanks in front of them, after a first one. -/
lemma pieces_children (clean : ∀ c ∈ word, isSpace c = false) (words : ∀ c ∈ children, Gap c.1 ∧ Word c.2)
    (trails : Trail trail) :
    (word ++ (Line.listText children ++ trail)).splitOnP isSpace =
      word :: (children.flatMap (fun c => List.replicate (c.1.length - 1) [] ++ [c.2]) ++
        List.replicate trail.length []) := by
  induction children generalizing word with
  | nil =>
    show (word ++ trail).splitOnP isSpace = word :: List.replicate trail.length []
    cases trail with
    | nil =>
      rw [List.append_nil]
      exact List.splitOnP_eq_singleton clean
    | cons c cs =>
      rw [List.splitOnP_append_cons _ _ (trails c List.mem_cons_self), List.splitOnP_eq_singleton clean]
      have rest := @pieces_gap cs (fun d mem => trails d (List.mem_cons_of_mem _ mem)) []
      rw [List.append_nil, List.splitOnP_nil] at rest
      rw [rest, List.length_cons, List.replicate_succ']
      rfl
  | cons c children ih =>
    obtain ⟨between, name⟩ := words c List.mem_cons_self
    have text : Line.listText (c :: children) ++ trail =
        c.1 ++ (c.2 ++ (Line.listText children ++ trail)) := by
      rw [Line.listText, List.flatMap_cons, List.append_assoc, List.append_assoc]
      rfl
    rw [text, pieces_word clean between, ih name.2 fun d mem => words d (List.mem_cons_of_mem _ mem)]
    simp

/-- Parts at the end without a letter are dropped. -/
lemma split_trim {parts : List Name} (last : Name) (some_last : last ≠ []) (n : Nat) :
    (parts ++ [last] ++ List.replicate n []).rdropWhile (· = []) = parts ++ [last] := by
  induction n with
  | zero =>
    rw [List.replicate_zero, List.append_nil, List.rdropWhile_concat_neg]
    simpa using some_last
  | succ n ih =>
    rw [List.replicate_succ', ← List.append_assoc, List.rdropWhile_concat_pos _ _ _ (by simp), ih]

/-- The names of parents with the blanks that are too many. -/
def gapped (parents : List (Name × List Char)) : List Name :=
  parents.dropLast.flatMap (fun p => p.1 :: List.replicate (p.2.length - 1) []) ++
    (parents.getLast?.map Prod.fst).toList

/-- The names of children with the blanks that are too many. -/
def spread (children : List (List Char × Name)) : List Name :=
  (children.head?.map Prod.snd).toList ++
    children.tail.flatMap fun c => List.replicate (c.1.length - 1) [] ++ [c.2]

lemma split_parents (some_parent : parents ≠ []) (words : ∀ p ∈ parents, Word p.1 ∧ Gap p.2) :
    split (Line.listText parents) = gapped parents := by
  obtain ⟨init, last, rfl⟩ := List.eq_nil_or_concat parents |>.resolve_left some_parent
  have name := (words last (by simp)).1
  have pieces := @pieces_parents _ [] words nofun
  have parts : (init ++ [last]).flatMap (fun p => p.1 :: List.replicate (p.2.length - 1) []) ++ [[]] =
      init.flatMap (fun p => p.1 :: List.replicate (p.2.length - 1) []) ++ [last.1] ++
        List.replicate (last.2.length - 1 + 1) [] := by
    rw [List.flatMap_append, List.flatMap_singleton, List.replicate_succ']
    simp
  rw [List.append_nil] at pieces
  rw [List.concat_eq_append] at *
  rw [split, pieces, parts, split_trim last.1 name.1, gapped, List.dropLast_concat,
    List.getLast?_concat]
  rfl

lemma split_children {c : List Char × Name} (words : ∀ d ∈ c :: children, Gap d.1 ∧ Word d.2)
    (trails : Trail trail) :
    split (c.2 ++ (Line.listText children ++ trail)) = spread (c :: children) := by
  have name := (words c List.mem_cons_self).2
  have ended : ∃ parts last, last ≠ [] ∧ spread (c :: children) = parts ++ [last] := by
    obtain rfl | ⟨init, last, rfl⟩ := List.eq_nil_or_concat children
    · exact ⟨[], c.2, name.1, rfl⟩
    · have word := (words last (by simp)).2
      refine ⟨[c.2] ++ init.flatMap (fun c => List.replicate (c.1.length - 1) [] ++ [c.2]) ++
        List.replicate (last.1.length - 1) [], last.2, word.1, ?_⟩
      rw [spread]
      simp
  obtain ⟨parts, last, some_last, eq⟩ := ended
  have pieces := pieces_children name.2 (fun d mem => words d (List.mem_cons_of_mem _ mem)) trails
  rw [split, pieces, ← List.cons_append]
  show (spread (c :: children) ++ List.replicate trail.length []).rdropWhile (· = []) = _
  rw [eq, split_trim last some_last]

/-- The rest of a line ends with the line. -/
lemma rest_append {text : List Char} (inside : ∀ c ∈ text, c ≠ '\n') (cs : List Char) :
    Regex.rest (text ++ cs) = text ++ Regex.rest cs :=
  List.takeWhile_append_of_pos fun c mem => bne_iff_ne.2 (inside c mem)

lemma rest_trail (trails : Trail trail) : Trail (Regex.rest trail) :=
  fun c mem => trails c (List.takeWhile_sublist _ |>.subset mem)

lemma word_inside (h : Word word) : ∀ c ∈ word, c ≠ '\n' := by
  rintro c mem rfl
  exact absurd (h.2 _ mem) (by decide)

lemma list_inside (words : ∀ c ∈ children, Gap c.1 ∧ Word c.2) :
    ∀ c ∈ Line.listText children, c ≠ '\n' := by
  intro c mem
  obtain ⟨d, there, inside⟩ := List.mem_flatMap.1 mem
  obtain gap | name := List.mem_append.1 inside
  · exact ((words d there).1.2 c gap).2
  · exact word_inside (words d there).2 c name

/-- A line of dependencies whose parents do not end in the keyword. -/
lemma PARENT_REG_parent {c : List Char × Name}
    (written : (Line.parent front parents child (c :: children) trail).Written)
    (others : ∀ p ∈ parents, ¬Line.EndsInChild p.1) :
    PARENT_REG (Line.parent front parents child (c :: children) trail).text =
      some (Line.listText parents, c.2 ++ (Line.listText children ++ Regex.rest trail)) := by
  obtain ⟨start, some_parent, words, own, -, names, trails⟩ := written
  obtain ⟨between, name⟩ := names c List.mem_cons_self
  have later : ∀ d ∈ children, Gap d.1 ∧ Word d.2 := fun d mem => names d (List.mem_cons_of_mem _ mem)
  have found : untilChild ([] ++ (child ++ (c.1 ++ (c.2 ++ (Line.listText children ++ trail))))) =
      some ([], Regex.rest (c.2 ++ (Line.listText children ++ trail))) :=
    untilChild_stem (keyword_clean own (by simp [isSpace])) own between (head_word name _)
  have text : Line.listText (c :: children) ++ trail =
      c.1 ++ (c.2 ++ (Line.listText children ++ trail)) := by
    rw [Line.listText, List.flatMap_cons, List.append_assoc, List.append_assoc]
    rfl
  have first : ∀ d ∈ (Line.listText parents ++ (child ++ (Line.listText (c :: children) ++ trail))).head?,
      isSpace d = false := by
    cases parents with
    | nil => exact absurd rfl some_parent
    | cons p parents =>
      rw [Line.listText, List.flatMap_cons, List.append_assoc, List.append_assoc]
      exact head_word (words p List.mem_cons_self).1 _
  rw [PARENT_REG, Line.text, front_drop start (by simp) (by simp [isSpace]), keyword_own start.2.1]
  show (blanks (front.gap ++ _) >>= untilChild) = _
  rw [blanks_gap (Gap.trail start.2.2) start.2.2.1 first]
  show untilChild _ = _
  rw [untilChild_parents words others, text, ← List.nil_append child, List.append_assoc, found,
    rest_append (word_inside name), rest_append (list_inside later)]
  show some (Line.listText parents ++ [], _) = _
  rw [List.append_nil]

/-- The first of the parents whose name ends in the keyword. -/
lemma exists_first (ends : ∃ p ∈ parents, Line.EndsInChild p.1) :
    ∃ before p later, parents = before ++ p :: later ∧ Line.EndsInChild p.1 ∧
      ∀ q ∈ before, ¬Line.EndsInChild q.1 := by
  induction parents with
  | nil =>
    obtain ⟨p, mem, -⟩ := ends
    cases mem
  | cons p parents ih =>
    by_cases here : Line.EndsInChild p.1
    · exact ⟨[], p, parents, rfl, here, nofun⟩
    · obtain ⟨q, mem, last⟩ := ends
      have later : q ∈ parents := by
        obtain rfl | later := List.mem_cons.1 mem
        · exact absurd last here
        · exact later
      obtain ⟨before, r, rest, rfl, last, others⟩ := ih ⟨q, later, last⟩
      refine ⟨p :: before, r, rest, rfl, last, ?_⟩
      intro s mem
      obtain rfl | mem := List.mem_cons.1 mem
      · exact here
      · exact others s mem

/-- The parts of a text are among the pieces between its blanks. -/
lemma mem_split {q : Name} {text : List Char} (mem : q ∈ split text) : q ∈ text.splitOnP isSpace :=
  (List.rdropWhile_prefix _ _).subset mem

/-- Of a parent whose name ends in the keyword, only the start is read. -/
lemma PARENT_REG_ends (written : (Line.parent front parents child children trail).Written)
    (ends : ∃ p ∈ parents, Line.EndsInChild p.1) :
    ∃ found, PARENT_REG (Line.parent front parents child children trail).text = some found ∧
      ∀ q ∈ split found.1, Line.EndsInChild q →
        ∃ p ∈ parents, Line.EndsInChild p.1 ∧ q.length < p.1.length := by
  obtain ⟨start, -, words, own, -⟩ := written
  obtain ⟨before, p, later, rfl, last, others⟩ := exists_first ends
  obtain ⟨upper, letters⟩ := last
  obtain ⟨stem, key, name, -, own_key⟩ := List.map_eq_append_iff.1 letters.symm
  have here := words p (by simp)
  have earlier : ∀ q ∈ before, Word q.1 ∧ Gap q.2 := fun q mem => words q (by simp [mem])
  have clean : ∀ c ∈ stem ++ key, isSpace c = false := by
    rw [← name]
    exact here.1.2
  have next (tail : List Char) : ∀ c ∈ (Line.listText later ++ (child ++ tail)).head?,
      isSpace c = false := by
    cases later with
    | nil =>
      cases letters : child with
      | nil =>
        rw [letters] at own
        cases own
      | cons d ds =>
        intro c first
        cases first
        exact keyword_clean own (by simp [isSpace]) d (letters ▸ List.mem_cons_self)
    | cons q later =>
      rw [Line.listText, List.flatMap_cons, List.append_assoc, List.append_assoc]
      exact head_word (words q (by simp)).1 _
  have text (tail : List Char) : Line.listText (before ++ p :: later) ++ tail =
      Line.listText before ++ (stem ++ (key ++ (p.2 ++ (Line.listText later ++ tail)))) := by
    simp only [Line.listText, List.flatMap_append, List.flatMap_cons, name, List.append_assoc]
  have first (tail : List Char) : ∀ d ∈ (Line.listText (before ++ p :: later) ++ tail).head?,
      isSpace d = false := by
    cases before with
    | nil =>
      rw [Line.listText, List.nil_append, List.flatMap_cons, List.append_assoc, List.append_assoc]
      exact head_word here.1 _
    | cons q before =>
      rw [Line.listText, List.cons_append, List.flatMap_cons, List.append_assoc, List.append_assoc]
      exact head_word (earlier q List.mem_cons_self).1 _
  refine ⟨(Line.listText before ++ stem, Regex.rest (Line.listText later ++ (child ++
    (Line.listText children ++ trail)))), ?_, ?_⟩
  · rw [PARENT_REG, Line.text, front_drop start (by simp) (by simp [isSpace]), keyword_own start.2.1]
    show (blanks (front.gap ++ _) >>= untilChild) = _
    rw [blanks_gap (Gap.trail start.2.2) start.2.2.1 (first _)]
    show untilChild _ = _
    rw [text, untilChild_parents earlier others, untilChild_stem clean own_key here.2 (next _)]
    rfl
  · intro q mem ended
    have piece := mem_split mem
    rw [pieces_parents earlier fun c mem => clean c (List.mem_append_left _ mem)] at piece
    have five : key.length = 5 := by
      rw [← upcase_length, upcase, own_key]
      rfl
    obtain part | stem_part := List.mem_append.1 piece
    · obtain ⟨b, there, mem⟩ := List.mem_flatMap.1 part
      obtain rfl | empty := List.mem_cons.1 mem
      · exact absurd ended (others b there)
      · rw [(List.mem_replicate.1 empty).2] at ended
        exact absurd (List.IsSuffix.length_le ended) (by decide)
    · rw [List.mem_singleton.1 stem_part]
      refine ⟨p, by simp, ⟨upper, letters⟩, ?_⟩
      rw [name, List.length_append]
      omega

end Parent

end Regex

end GridWay.Dagman
