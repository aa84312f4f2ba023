import GridWay.Lib.Proc
import GridWay.Lib.Py
import GridWay.Lib.Rose

/-!
# The cancellation of a job that was forked

`Job.jobCancel` of `drm4g/managers/fork.py`: the process of the job and its descendants are killed one
after the other. The list of the jobs to kill is made anew for each process, while the loop goes on over
the list with which it began.

* `Fork.jobCancel`: the loops.
* `Fork.Tree`: the processes do not change, and every kill succeeds.
* `Fork.jobCancel_kills`: every process of the tree is killed once, the generations in their order.
-/

namespace GridWay.Drm4g.Fork

open Proc

/-- The commands of the cancellation. -/
inductive Command where
  | ps (pid : String)
  | kill (pid : String)
deriving DecidableEq, Repr

namespace Command

/-- The command line. -/
def text : Command → String
  | ps pid => "ps ho pid --ppid " ++ pid
  | kill pid => "kill -9 " ++ pid

/-- The process that a command kills. -/
def killed : Command → Option String
  | ps _ => none
  | kill pid => some pid

end Command

/-- The machine of the job: the output and the errors of a command, after the commands before it. -/
abbrev Remote := List Command → String → String × String

/-- `self.Communicator.execCommand(command)`. -/
def execCommand (o : Remote) (c : Command) : Proc (List Command) (String × String) := fun log =>
  (.ok (o log c.text), log ++ [c])

/-- `jobs_to_kill.remove(job)`. -/
def remove (job : String) (jobs_to_kill : List String) : Except String (List String) :=
  if job ∈ jobs_to_kill then .ok (jobs_to_kill.erase job)
  else .error "list.remove(x): x not in list"

/-- The body of the inner loop. -/
def visit (o : Remote) (job : String) (jobs_to_kill : List String) :
    Proc (List Command) (List String) := do
  let (out, _) ← execCommand o (.ps job)
  let jobs_to_kill := (Py.splitlines out).map (Py.lstrip Py.isSpace) ++ jobs_to_kill
  let (_, err) ← execCommand o (.kill job)
  if err ≠ "" then throw ("Could not kill " ++ job ++ " : " ++ Py.oneLine err)
  match remove job jobs_to_kill with
  | .ok jobs_to_kill => return jobs_to_kill
  | .error err => throw err

/-- The inner loop. It goes on over the list that it was started with. -/
def pass (o : Remote) : List String → List String → Proc (List Command) (List String)
  | [], jobs_to_kill => return jobs_to_kill
  | job :: jobs, jobs_to_kill => do
    let jobs_to_kill ← visit o job jobs_to_kill
    pass o jobs jobs_to_kill

/-- The outer loop, of at most `fuel` rounds; whether it came to its end. -/
def rounds (o : Remote) : Nat → List String → Proc (List Command) Bool
  | _, [] => return true
  | 0, _ :: _ => return false
  | fuel + 1, job :: jobs => do
    let jobs_to_kill ← pass o (job :: jobs) (job :: jobs)
    rounds o fuel jobs_to_kill

/-- `jobCancel`. -/
def jobCancel (o : Remote) (fuel : Nat) (jobId : String) : Proc (List Command) Bool :=
  rounds o fuel [jobId]

/-- A process id. -/
def Pid (pid : String) : Prop := pid ≠ "" ∧ ∀ c ∈ pid.toList, c.isDigit = true

/-- The output of `ps` for some processes, each on a line after blanks. -/
def psLines (pids : List (Nat × String)) : String :=
  String.ofList (pids.flatMap fun p => List.replicate p.1 ' ' ++ p.2.toList ++ ['\n'])

/-- The processes of a tree while they are killed: `ps` lists the children of a process, in some order,
and no kill has errors. -/
structure Tree (o : Remote) (t : Rose String) : Prop where
  distinct : t.labels.Nodup
  pids : ∀ pid ∈ t.labels, Pid pid
  ps : ∀ s, Rose.Part s t → ∀ log, ∃ pids, (o log (Command.ps s.root).text).1 = psLines pids ∧
    (pids.map Prod.snd).Perm (s.children.map Rose.root)
  kill : ∀ pid ∈ t.labels, ∀ log, (o log (Command.kill pid).text).2 = ""

variable {o : Remote} {t s : Rose String} {ts : List (Rose String)} {log : List Command}

lemma Pid.isSpace {pid : String} (digits : Pid pid) : ∀ c ∈ pid.toList, Py.isSpace c = false := by
  intro c mem
  have digit := digits.2 c mem
  rw [Char.isDigit, Bool.and_eq_true, decide_eq_true_iff, decide_eq_true_iff] at digit
  have low : 48 ≤ c.toNat := digit.1
  have high : c.toNat ≤ 57 := digit.2
  simp [Py.isSpace]
  omega

/-- A space of the drivers' language ends a line or is a space. -/
lemma isBreak_of_isSpace {c : Char} (plain : Py.isSpace c = false) : Py.isBreak c = false := by
  simp [Py.isSpace, Py.isBreak] at plain ⊢
  omega

lemma Pid.lstrip {pid : String} (digits : Pid pid) (n : Nat) :
    Py.lstrip Py.isSpace (String.ofList (List.replicate n ' ' ++ pid.toList)) = pid := by
  rw [Py.lstrip, String.toList_ofList]
  induction n with
  | zero =>
    rw [List.replicate_zero, List.nil_append]
    cases cs : pid.toList with
    | nil => exact absurd (String.toList_eq_nil_iff.1 cs) digits.1
    | cons c rest =>
      have first := digits.isSpace c (by rw [cs]; exact List.mem_cons_self)
      rw [List.dropWhile_cons_of_neg (by rw [first]; exact Bool.false_ne_true), ← cs,
        String.ofList_toList]
  | succ n ih =>
    rw [List.replicate_succ, List.cons_append, List.dropWhile_cons_of_pos (by decide)]
    exact ih

/-- The lines of `ps` without their blanks are the processes. -/
lemma stripped_psLines {pids : List (Nat × String)} (all : ∀ p ∈ pids, Pid p.2) :
    (Py.splitlines (psLines pids)).map (Py.lstrip Py.isSpace) = pids.map Prod.snd := by
  rw [Py.splitlines, psLines, String.toList_ofList]
  induction pids with
  | nil => rfl
  | cons p pids ih =>
    have digits := all p List.mem_cons_self
    have rest := ih fun q mem => all q (List.mem_cons_of_mem _ mem)
    have whole : ∀ c ∈ List.replicate p.1 ' ' ++ p.2.toList, Py.isBreak c = false := by
      intro c mem
      rw [List.mem_append] at mem
      obtain blank | digit := mem
      · rw [List.eq_of_mem_replicate blank]
        decide
      · exact isBreak_of_isSpace (digits.isSpace c digit)
    rw [List.flatMap_cons, List.append_assoc, List.singleton_append, Py.lines_append whole,
      List.map_cons, List.map_cons, List.map_cons, rest, digits.lstrip]

lemma exec_bind {β : Type} {c : Command} {f : String × String → Proc (List Command) β} :
    (execCommand o c >>= f) log = f (o log c.text) (log ++ [c]) := rfl

/-- What is done for one process. -/
def work (pid : String) : List Command := [.ps pid, .kill pid]

/-- A process of the tree is visited: its children are put in front of the list, and it is removed. -/
lemma visit_run (tree : Tree o t) (part : Rose.Part s t) (front jobs : List String)
    (log : List Command) (first : s.root ∉ front) (apart : s.root ∉ s.children.map Rose.root) :
    ∃ pids, pids.Perm (s.children.map Rose.root) ∧
      visit o s.root (front ++ s.root :: jobs) log =
        (.ok (pids ++ front ++ jobs), log ++ work s.root) := by
  obtain ⟨lines, out, perm⟩ := tree.ps s part log
  have here : s.root ∈ t.labels := part.labels_subset s.root_mem
  have digits : ∀ p ∈ lines, Pid p.2 := by
    intro p mem
    have child := perm.subset (List.mem_map_of_mem (f := Prod.snd) mem)
    obtain ⟨u, there, root⟩ := List.mem_map.1 child
    rw [← root]
    exact tree.pids _ ((part.subtree there).labels_subset u.root_mem)
  refine ⟨lines.map Prod.snd, perm, ?_⟩
  have clean : s.root ∉ lines.map Prod.snd ++ front := by
    rw [List.mem_append, not_or]
    exact ⟨fun mem => apart (perm.subset mem), first⟩
  have removed : remove s.root (lines.map Prod.snd ++ (front ++ s.root :: jobs)) =
      .ok (lines.map Prod.snd ++ front ++ jobs) := by
    rw [← List.append_assoc, remove, if_pos (List.mem_append_right _ List.mem_cons_self),
      List.erase_append_right _ clean, List.erase_cons_head]
  unfold visit
  rw [exec_bind]
  dsimp only
  rw [exec_bind, tree.kill s.root here, out, stripped_psLines digits]
  rw [if_neg (not_not.2 rfl), removed, List.append_assoc log]
  rfl

/-- The children that a pass leaves, and what it does. -/
lemma pass_run (tree : Tree o t) (front : List String) (log : List Command) (parts : ∀ s ∈ ts, Rose.Part s t)
    (distinct : (ts.map Rose.root).Nodup) (fresh : ∀ pid ∈ front, pid ∉ ts.map Rose.root)
    (apart : ∀ pid ∈ (ts.flatMap Rose.children).map Rose.root, pid ∉ ts.map Rose.root) :
    ∃ pids, pids.Perm ((ts.flatMap Rose.children).map Rose.root) ∧
      pass o (ts.map Rose.root) (front ++ ts.map Rose.root) log =
        (.ok (pids ++ front), log ++ (ts.map Rose.root).flatMap work) := by
  induction ts generalizing front log with
  | nil => exact ⟨[], .refl _, by rw [List.map_nil, List.append_nil, List.flatMap_nil, List.append_nil]; rfl⟩
  | cons s ts ih =>
    obtain ⟨new, rest⟩ := List.nodup_cons.1 distinct
    have own : ∀ pid ∈ s.children.map Rose.root, pid ∉ (s :: ts).map Rose.root := by
      intro pid mem
      apply apart
      rw [List.flatMap_cons, List.map_append]
      exact List.mem_append_left _ mem
    have first : s.root ∉ front := fun mem => fresh s.root mem List.mem_cons_self
    have alone : s.root ∉ s.children.map Rose.root := fun mem => own s.root mem List.mem_cons_self
    obtain ⟨pids, perm, visited⟩ := visit_run tree
      (parts s List.mem_cons_self) front (ts.map Rose.root) log first alone
    obtain ⟨later, perm', passed⟩ := ih (pids ++ front) (log ++ work s.root)
      (fun u mem => parts u (List.mem_cons_of_mem _ mem)) rest
      (by
        intro pid mem there
        obtain child | old := List.mem_append.1 mem
        · exact own pid (perm.subset child) (List.mem_cons_of_mem _ there)
        · exact fresh pid old (List.mem_cons_of_mem _ there))
      (by
        intro pid mem there
        apply apart pid _ (List.mem_cons_of_mem _ there)
        rw [List.flatMap_cons, List.map_append]
        exact List.mem_append_right _ mem)
    refine ⟨later ++ pids, ?_, ?_⟩
    · rw [List.flatMap_cons, List.map_append]
      exact (perm'.append perm).trans List.perm_append_comm
    · rw [List.map_cons, pass, bind_of_ok visited, passed, List.flatMap_cons, List.append_assoc log,
        List.append_assoc later]

/-- A forest whose roots are given in another order. -/
lemma exists_perm_roots {pids : List String} (perm : pids.Perm (ts.map Rose.root)) :
    ∃ next : List (Rose String), next.Perm ts ∧ next.map Rose.root = pids := by
  generalize same : ts.map Rose.root = roots at perm
  induction perm generalizing ts with
  | nil =>
    refine ⟨[], ?_, rfl⟩
    rw [List.map_eq_nil_iff.1 same]
  | @cons pid l l' _ ih =>
    cases ts with
    | nil => cases same
    | cons t ts =>
      cases same
      obtain ⟨next, perm, roots⟩ := ih rfl
      exact ⟨t :: next, perm.cons t, by rw [List.map_cons, roots]⟩
  | swap p q l =>
    match ts with
    | [] => cases same
    | [_] => cases same
    | t :: u :: ts =>
      cases same
      exact ⟨u :: t :: ts, .swap t u ts, rfl⟩
  | trans _ _ ih ih' =>
    obtain ⟨middle, perm, roots⟩ := ih' same
    obtain ⟨next, perm', roots'⟩ := ih roots
    exact ⟨next, perm'.trans perm, roots'⟩

/-- The processes that the commands kill. -/
def kills (log : List Command) : List String := log.filterMap Command.killed

lemma kills_append {log' : List Command} : kills (log ++ log') = kills log ++ kills log' :=
  List.filterMap_append

lemma kills_work (pids : List String) : kills (pids.flatMap work) = pids := by
  induction pids with
  | nil => rfl
  | cons pid pids ih =>
    rw [List.flatMap_cons, kills_append, ih]
    rfl

/-- The rounds visit a forest by generations. -/
lemma rounds_run (tree : Tree o t) (parts : ∀ s ∈ ts, Rose.Part s t)
    (distinct : (Rose.labelsAll ts).Nodup) {fuel : Nat}
    (enough : (Rose.labelsAll ts).length ≤ fuel) (log : List Command) :
    ∃ log' l, rounds o fuel (ts.map Rose.root) log = (.ok true, log') ∧ Rose.Visited ts l ∧
      kills log' = kills log ++ l := by
  induction fuel generalizing ts log with
  | zero =>
    cases ts with
    | nil => exact ⟨log, [], rfl, .nil, by rw [List.append_nil]⟩
    | cons s ts => 
      rw [Rose.labelsAll, Rose.labels_eq] at enough
      cases enough
  | succ fuel ih =>
    cases ts with
    | nil => exact ⟨log, [], rfl, .nil, by rw [List.append_nil]⟩
    | cons s ts =>
      have split := Rose.labelsAll_split (s :: ts)
      have cut := split.nodup distinct
      obtain ⟨roots, later, apart⟩ := List.nodup_append.1 cut
      obtain ⟨pids, perm, passed⟩ := pass_run tree [] log parts roots
        (fun pid mem => (by cases mem))
        (by
          intro pid mem there
          obtain ⟨u, child, rfl⟩ := List.mem_map.1 mem
          exact apart u.root there u.root (Rose.labelsAll_subset child u.root_mem) rfl)
      obtain ⟨next, children, rfl⟩ := exists_perm_roots perm
      have parts' : ∀ u ∈ next, Rose.Part u t := by
        intro u mem
        obtain ⟨v, there, child⟩ := List.mem_flatMap.1 (children.subset mem)
        exact (parts v there).subtree child
      have same := Rose.labelsAll_perm children
      have enough' : (Rose.labelsAll next).length ≤ fuel := by
        have lengths := split.length_eq
        rw [List.length_append, List.map_cons, List.length_cons] at lengths
        rw [same.length_eq]
        omega
      obtain ⟨log', l, run, visited, killed⟩ := ih parts' (same.nodup_iff.2 later) enough'
        (log ++ ((s :: ts).map Rose.root).flatMap work)
      refine ⟨log', (s :: ts).map Rose.root ++ l, ?_, .next children visited, ?_⟩
      · have round : rounds o (fuel + 1) ((s :: ts).map Rose.root) log =
            (pass o ((s :: ts).map Rose.root) ((s :: ts).map Rose.root) >>= rounds o fuel) log := rfl
        rw [List.nil_append, List.append_nil] at passed
        rw [round, bind_of_ok passed]
        exact run
      · rw [killed, kills_append, kills_work, List.append_assoc]

/-- The cancellation ends, and kills every process of the tree once and no other one, the processes of
a generation of any subtree before those of the next. -/
theorem jobCancel_kills (tree : Tree o t) {fuel : Nat} (enough : t.labels.length ≤ fuel) :
    ∃ log, jobCancel o fuel t.root [] = (.ok true, log) ∧ (kills log).Perm t.labels ∧
      (kills log).Nodup ∧ ∀ s, Rose.Part s t → ∀ k, ∀ p ∈ Rose.generation k [s],
        ∀ q ∈ Rose.generation (k + 1) [s], Rose.Before (kills log) p q := by
  have one : Rose.labelsAll [t] = t.labels := by
    rw [Rose.labelsAll, Rose.labelsAll, List.append_nil]
  have parts : ∀ s ∈ [t], Rose.Part s t := by
    intro s mem
    rw [List.mem_singleton] at mem
    subst mem
    exact .refl
  obtain ⟨log, l, run, visited, killed⟩ := rounds_run tree parts (by rw [one]; exact tree.distinct)
    (show (Rose.labelsAll [t]).length ≤ fuel by rw [one]; exact enough) []
  have perm := visited.perm
  rw [one] at perm
  have all : kills log = l := killed
  refine ⟨log, run, ?_, ?_, ?_⟩
  · rw [all]
    exact perm
  · rw [all]
    exact perm.nodup_iff.2 tree.distinct
  · intro s part k p mem q mem'
    obtain ⟨i, sub⟩ := part.generation
    rw [all]
    exact visited.before (Nat.lt_succ_self (i + k)) (sub k mem) (sub (k + 1) mem')

/-- A process with two children and a grandchild. -/
def family : Rose String :=
  .node "10" [.node "11" [.node "13" []], .node "12" []]

/-- What the machine of that process answers. -/
def familyAnswer (command : String) : String × String :=
  if command = "ps ho pid --ppid 10" then ("   12\n   11\n", "")
  else if command = "ps ho pid --ppid 11" then ("   13\n", "")
  else ("", "")

/-- The machine of that process. -/
def familyHost : Remote := fun _ command => familyAnswer command

lemma family_tree : Tree familyHost family where
  distinct := by decide
  pids := by
    intro pid mem
    have all : family.labels = ["10", "11", "13", "12"] := rfl
    rw [all] at mem
    simp only [List.mem_cons, List.not_mem_nil, or_false] at mem
    obtain rfl | rfl | rfl | rfl := mem
    all_goals exact ⟨by decide, List.all_eq_true.1 (by decide)⟩
  ps := by
    intro s part log
    have leaf {pid : String} (none : (familyAnswer (Command.ps pid).text).1 = "") :
        ∃ pids, (familyAnswer (Command.ps (Rose.node pid []).root).text).1 = psLines pids ∧
          (pids.map Prod.snd).Perm ((Rose.node pid []).children.map Rose.root) :=
      ⟨[], none, .refl _⟩
    have childless {pid : String} (part : Rose.Part s (.node pid [])) : s = .node pid [] := by
      cases part with
      | refl => rfl
      | child _ child => cases child
    show ∃ pids, (familyAnswer (Command.ps s.root).text).1 = psLines pids ∧ _
    cases part with
    | refl => exact ⟨[(3, "12"), (3, "11")], by decide, by decide⟩
    | child part child =>
      obtain rfl | later := List.mem_cons.1 child
      · cases part with
        | refl => exact ⟨[(3, "13")], by decide, by decide⟩
        | child part child =>
          rw [List.mem_singleton.1 child] at part
          rw [childless part]
          exact leaf (by decide)
      · rw [List.mem_singleton.1 later] at part
        rw [childless part]
        exact leaf (by decide)
  kill := by
    intro pid mem log
    show (familyAnswer (Command.kill pid).text).2 = ""
    unfold familyAnswer
    split
    · rfl
    · split
      · rfl
      · rfl

theorem family_killed :
    ∃ log, jobCancel familyHost 4 "10" [] = (.ok true, log) ∧
      (kills log).Perm ["10", "11", "13", "12"] ∧ (kills log).Nodup ∧
      ∀ s, Rose.Part s family → ∀ k, ∀ p ∈ Rose.generation k [s],
        ∀ q ∈ Rose.generation (k + 1) [s], Rose.Before (kills log) p q :=
  jobCancel_kills family_tree (by decide)

end GridWay.Drm4g.Fork
