import GridWay.Lib.Machine
import Mathlib.Data.List.Perm.Basic

/-!
# Loops that serve their input

A loop reads its input item by item. It answers an item at once, gives it to a pool of workers, skips
it, or ends at it, with an answer or without. The workers answer what they were given in any order. At
the end of the input a loop ends or goes on reading.

* `Loop.Sound.run`: what was read has one answer or waits for one in every run.
* `Loop.next_eq`: a run that reads beyond the input reads all of it, when only its last item can end
  the loop.
* `Loop.drained_iff`: nothing waits when the loop ends, or something is never answered.
-/

namespace GridWay

/-- How an item is served. -/
inductive Serve where
  | skip
  | answer
  | pool
  | close
  | fall
deriving DecidableEq, Repr

/-- The item has an answer. -/
def Serve.answered : Serve → Bool
  | .answer | .pool | .close => true
  | .skip | .fall => false

/-- The loop ends at the item. -/
def Serve.ends : Serve → Bool
  | .close | .fall => true
  | .skip | .answer | .pool => false

/-- A loop. -/
structure Loop (α ω : Type) where
  serve : α → Serve
  reply : Nat → α → ω
  /-- The loop ends at the end of its input. -/
  atEnd : Bool

namespace Loop

variable {α ω : Type}

/-- The number of the item that is read next, the numbers of the items that wait for a worker, and the
messages with the number of the item that they answer. -/
structure State (ω : Type) where
  next : Nat := 0
  pending : List Nat := []
  out : List (Option Nat × ω) := []
  ended : Bool := false
deriving DecidableEq, Repr

/-- The loop reads, a worker answers, or something else is written. -/
inductive Event (ω : Type) where
  | read
  | work (k : Nat)
  | notify (w : ω)
deriving DecidableEq, Repr

variable (l : Loop α ω) (input : List α)

/-- The loop reads. -/
def read (s : State ω) : State ω :=
  match input[s.next]? with
  | none => { s with ended := l.atEnd }
  | some x =>
    let answered := s.out ++ [(some s.next, l.reply s.next x)]
    match l.serve x with
    | .skip => { s with next := s.next + 1 }
    | .answer => { s with next := s.next + 1, out := answered }
    | .pool => { s with next := s.next + 1, pending := s.pending ++ [s.next] }
    | .close => { s with next := s.next + 1, out := answered, ended := true }
    | .fall => { s with next := s.next + 1, ended := true }

/-- A worker answers. -/
def work (s : State ω) (k : Nat) : State ω :=
  match s.pending[k]? with
  | none => s
  | some i =>
    match input[i]? with
    | none => s
    | some x =>
      { s with
        pending := s.pending.eraseIdx k
        out := s.out ++ [(some i, l.reply i x)] }

/-- A step. When the loop has ended, the workers end with it. -/
def step (s : State ω) (e : Event ω) : State ω :=
  if s.ended then s
  else
    match e with
    | .read => l.read input s
    | .work k => l.work input s k
    | .notify w => { s with out := s.out ++ [(none, w)] }

/-- The number of items that a run reads. -/
def reads (evs : List (Event ω)) : Nat := evs.countP fun | .read => true | _ => false

/-- A run in which all was done: the loop has read beyond its input, and either it has ended, and the
workers with it, or nothing waits for a worker. -/
structure Complete (evs : List (Event ω)) : Prop where
  beyond : input.length < reads evs
  done : (Machine.run (l.step input) {} evs).ended = true ∨
    (Machine.run (l.step input) {} evs).pending = []

/-- The next item ends the loop. -/
def closing (s : State ω) : Bool := (input[s.next]?).elim l.atEnd fun x => (l.serve x).ends

/-- Nothing waits for a worker when the loop ends. -/
def drained (s : State ω) : Event ω → Prop
  | .read => l.closing input s = true → s.ended = false → s.pending = []
  | _ => True

/-- The messages that answer an item. -/
def answers (s : State ω) (i : Nat) : List ω :=
  s.out.filterMap fun p => if p.1 = some i then some p.2 else none

variable {l input} {s : State ω} {e : Event ω} {evs : List (Event ω)} {i j : Nat} {x : α} {w : ω}

lemma mem_answers : w ∈ answers s i ↔ (some i, w) ∈ s.out := by
  rw [answers, List.mem_filterMap]
  constructor
  · rintro ⟨⟨item, w'⟩, mem, eq⟩
    by_cases same : item = some i
    · rw [if_pos same] at eq
      cases same
      cases eq
      exact mem
    · rw [if_neg same] at eq
      cases eq
  · intro mem
    exact ⟨(some i, w), mem, if_pos rfl⟩

/-- What was read has one answer or waits for one. -/
structure Sound (l : Loop α ω) (input : List α) (s : State ω) : Prop where
  below : s.next ≤ input.length
  messages : ∀ i w, (some i, w) ∈ s.out → i < s.next ∧ ∃ x, input[i]? = some x ∧ w = l.reply i x
  waiting : ∀ i ∈ s.pending, i < s.next ∧ ∃ x, input[i]? = some x
  once : ∀ i x, input[i]? = some x → i < s.next →
    (answers s i).length + s.pending.count i = if (l.serve x).answered then 1 else 0
  goesOn : ∀ i x, input[i]? = some x → (l.serve x).ends = true → i < s.next →
    s.ended = true ∧ i + 1 = s.next
  ended : s.ended = true → l.atEnd = true ∧ s.next = input.length ∨
    ∃ i x, input[i]? = some x ∧ (l.serve x).ends = true ∧ i + 1 = s.next

namespace Sound

lemma init : Sound l input {} where
  below := Nat.zero_le _
  messages := by simp
  waiting := by simp
  once := by simp
  goesOn := by simp
  ended := by simp

/-- An item that was not read has no answer. -/
lemma answers_eq_nil (sound : Sound l input s) (later : s.next ≤ i) : answers s i = [] := by
  rw [List.eq_nil_iff_forall_not_mem]
  intro w mem
  exact absurd (sound.messages i w (mem_answers.1 mem)).1 (Nat.not_lt.2 later)

lemma count_eq_zero (sound : Sound l input s) (later : s.next ≤ i) : s.pending.count i = 0 := by
  rw [List.count_eq_zero]
  intro mem
  exact absurd (sound.waiting i mem).1 (Nat.not_lt.2 later)

/-- The loop goes on to the next item, with an answer, with the item waiting, or with neither. -/
lemma next (m k : Nat) (ended : Bool) (sound : Sound l input s) (here : input[s.next]? = some x)
    (reading : s.ended = false) (ends : ended = (l.serve x).ends)
    (one : m + k = if (l.serve x).answered then 1 else 0) :
    Sound l input
      { next := s.next + 1
        pending := s.pending ++ List.replicate k s.next
        out := s.out ++ List.replicate m (some s.next, l.reply s.next x)
        ended } where
  below := (List.getElem?_eq_some_iff.1 here).1
  messages i w mem := by
    obtain old | new := List.mem_append.1 mem
    · obtain ⟨lt, rest⟩ := sound.messages i w old
      exact ⟨Nat.lt_succ_of_lt lt, rest⟩
    · cases (List.mem_replicate.1 new).2
      exact ⟨Nat.lt_succ_self _, x, here, rfl⟩
  waiting i mem := by
    obtain old | new := List.mem_append.1 mem
    · obtain ⟨lt, rest⟩ := sound.waiting i old
      exact ⟨Nat.lt_succ_of_lt lt, rest⟩
    · cases (List.mem_replicate.1 new).2
      exact ⟨Nat.lt_succ_self _, x, here⟩
  once i y at_i lt := by
    have split : answers { s with out := s.out ++ List.replicate m (some s.next, l.reply s.next x) } i
        = answers s i ++ if s.next = i then List.replicate m (l.reply s.next x) else [] := by
      rw [answers, answers, List.filterMap_append]
      congr 1
      by_cases same : s.next = i
      · rw [if_pos same, List.filterMap_replicate_of_some (by rw [if_pos (by rw [same])])]
      · rw [if_neg same, List.filterMap_replicate_of_none]
        exact if_neg fun eq => same (Option.some.inj eq)
    have length := congrArg List.length split
    rw [List.length_append] at length
    obtain earlier | rfl := Nat.lt_succ_iff_lt_or_eq.1 lt
    · have ne : s.next ≠ i := Nat.ne_of_gt earlier
      rw [if_neg ne, List.length_nil] at length
      rw [← sound.once i y at_i earlier, List.count_append, List.count_replicate,
        if_neg (by simpa using ne)]
      exact congrArg₂ (· + ·) length rfl
    · cases Option.some.inj (here.symm.trans at_i)
      rw [if_pos rfl, List.length_replicate, sound.answers_eq_nil (Nat.le_refl _), List.length_nil]
        at length
      rw [List.count_append, sound.count_eq_zero (Nat.le_refl _), List.count_replicate_self, ← one]
      exact congrArg₂ (· + ·) (length.trans (Nat.zero_add m)) (Nat.zero_add k)
  goesOn i y at_i ends' lt := by
    obtain earlier | rfl := Nat.lt_succ_iff_lt_or_eq.1 lt
    · rw [(sound.goesOn i y at_i ends' earlier).1] at reading
      cases reading
    · cases Option.some.inj (here.symm.trans at_i)
      exact ⟨ends.trans ends', rfl⟩
  ended eq := by
    refine .inr ⟨s.next, x, here, ?_, rfl⟩
    rw [← ends]
    exact eq

/-- The loop reads. -/
lemma read (sound : Sound l input s) (reading : s.ended = false) :
    Sound l input (l.read input s) := by
  rw [Loop.read]
  cases here : input[s.next]? with
  | none =>
    have finished : s.next = input.length :=
      Nat.le_antisymm sound.below (List.getElem?_eq_none_iff.1 here)
    refine { sound with goesOn := ?_, ended := fun eq => .inl ⟨eq, finished⟩ }
    intro i y at_i ends lt
    rw [(sound.goesOn i y at_i ends lt).1] at reading
    cases reading
  | some x =>
    dsimp only
    cases how : l.serve x with
    | skip =>
      have next := sound.next 0 0 false here reading (by rw [how]; rfl) (by rw [how]; rfl)
      simpa [reading] using next
    | answer =>
      have next := sound.next 1 0 false here reading (by rw [how]; rfl) (by rw [how]; rfl)
      simpa [reading] using next
    | pool =>
      have next := sound.next 0 1 false here reading (by rw [how]; rfl) (by rw [how]; rfl)
      simpa [reading] using next
    | close =>
      have next := sound.next 1 0 true here reading (by rw [how]; rfl) (by rw [how]; rfl)
      simpa using next
    | fall =>
      have next := sound.next 0 0 true here reading (by rw [how]; rfl) (by rw [how]; rfl)
      simpa using next

/-- A worker answers. -/
lemma work (sound : Sound l input s) (k : Nat) : Sound l input (l.work input s k) := by
  rw [Loop.work]
  cases at_k : s.pending[k]? with
  | none => exact sound
  | some i =>
    have waits : i ∈ s.pending := List.mem_of_getElem? at_k
    obtain ⟨lt, x, here⟩ := sound.waiting i waits
    dsimp only
    rw [here]
    dsimp only
    refine { sound with messages := ?_, waiting := ?_, once := ?_ }
    · intro j w mem
      obtain old | new := List.mem_append.1 mem
      · exact sound.messages j w old
      · cases List.mem_singleton.1 new
        exact ⟨lt, x, here, rfl⟩
    · intro j mem
      exact sound.waiting j (List.mem_of_mem_eraseIdx mem)
    · intro j y at_j lt'
      have perm : s.pending.Perm (i :: s.pending.eraseIdx k) := by
        obtain ⟨inside, rfl⟩ := List.getElem?_eq_some_iff.1 at_k
        exact (List.getElem_cons_eraseIdx_perm inside).symm
      have count := perm.count_eq j
      rw [List.count_cons] at count
      rw [← sound.once j y at_j lt', count, answers, answers, List.filterMap_append,
        List.length_append]
      by_cases same : i = j
      · rw [if_pos (by simpa using same)]
        simp only [List.filterMap_cons, same, if_true, List.filterMap_nil, List.length_singleton]
        omega
      · rw [if_neg (by simpa using same)]
        simp only [List.filterMap_cons, Option.some.injEq, same, if_false, List.filterMap_nil,
          List.length_nil]
        omega

/-- Something else is written. -/
lemma notify (sound : Sound l input s) (w : ω) :
    Sound l input { s with out := s.out ++ [(none, w)] } := by
  refine { sound with messages := ?_, once := ?_ }
  · intro j w' mem
    obtain old | new := List.mem_append.1 mem
    · exact sound.messages j w' old
    · cases List.mem_singleton.1 new
  · intro j y at_j lt
    rw [← sound.once j y at_j lt, answers, answers, List.filterMap_append]
    simp

/-- A step keeps the account. -/
lemma step (sound : Sound l input s) (e : Event ω) : Sound l input (l.step input s e) := by
  rw [Loop.step.eq_def]
  by_cases finished : s.ended = true
  · rw [if_pos finished]
    exact sound
  · rw [if_neg finished]
    cases e with
    | read => exact sound.read (Bool.eq_false_iff.2 finished)
    | work k => exact sound.work k
    | notify w => exact sound.notify w

/-- The account holds after every run. -/
theorem run (evs : List (Event ω)) : Sound l input (Machine.run (l.step input) {} evs) :=
  Machine.run_invariant (Sound l input) (fun _ e sound => sound.step e) init evs

end Sound

/-- A loop that has ended stays as it is. -/
lemma step_ended (finished : s.ended = true) (e : Event ω) : l.step input s e = s := if_pos finished

lemma run_ended (finished : s.ended = true) (evs : List (Event ω)) :
    Machine.run (l.step input) s evs = s := by
  induction evs with
  | nil => rfl
  | cons e evs ih => rw [Machine.run_cons, step_ended finished, ih]

/-- A worker reads nothing. -/
lemma work_next (k : Nat) :
    (l.work input s k).next = s.next ∧ (l.work input s k).ended = s.ended := by
  rw [work]
  cases s.pending[k]? with
  | none => exact ⟨rfl, rfl⟩
  | some i =>
    dsimp only
    cases input[i]? <;> exact ⟨rfl, rfl⟩

/-- What one step does to the place in the input. -/
lemma step_next (reading : (l.step input s e).ended = false) :
    min (s.next + reads [e]) input.length ≤ (l.step input s e).next ∧
      (l.atEnd = true → s.next + reads [e] ≤ (l.step input s e).next) := by
  have before : s.ended = false := by
    by_contra finished
    rw [Bool.not_eq_false] at finished
    rw [step_ended finished, finished] at reading
    cases reading
  rw [step.eq_def, before] at reading ⊢
  cases e with
  | read =>
    show min (s.next + 1) _ ≤ (l.read input s).next ∧ (_ → s.next + 1 ≤ (l.read input s).next)
    replace reading : (l.read input s).ended = false := reading
    rw [read] at reading ⊢
    cases here : input[s.next]? with
    | none =>
      have finished := List.getElem?_eq_none_iff.1 here
      rw [here] at reading
      refine ⟨Nat.le_trans (Nat.min_le_right _ _) finished, fun atEnd => ?_⟩
      rw [show l.atEnd = false from reading] at atEnd
      cases atEnd
    | some x =>
      dsimp only
      cases l.serve x <;> exact ⟨Nat.min_le_left _ _, fun _ => Nat.le_refl _⟩
  | work k =>
    have same : (l.work input s k).next = s.next := (work_next k).1
    show min s.next _ ≤ (l.work input s k).next ∧ (_ → s.next ≤ (l.work input s k).next)
    rw [same]
    exact ⟨Nat.min_le_left _ _, fun _ => Nat.le_refl _⟩
  | notify w => exact ⟨Nat.min_le_left _ _, fun _ => Nat.le_refl _⟩

/-- A loop that has not ended has read what it was asked to read. -/
lemma run_next (reading : (Machine.run (l.step input) s evs).ended = false) :
    min (s.next + reads evs) input.length ≤ (Machine.run (l.step input) s evs).next ∧
      (l.atEnd = true → s.next + reads evs ≤ (Machine.run (l.step input) s evs).next) := by
  induction evs generalizing s with
  | nil => exact ⟨Nat.min_le_left _ _, fun _ => Nat.le_refl _⟩
  | cons e evs ih =>
    rw [Machine.run_cons] at reading ⊢
    have before : (l.step input s e).ended = false := by
      by_contra finished
      rw [Bool.not_eq_false] at finished
      rw [run_ended finished, finished] at reading
      cases reading
    obtain ⟨one, oneEnd⟩ := step_next before
    obtain ⟨rest, restEnd⟩ := ih reading
    have split : reads (e :: evs) = reads [e] + reads evs := by
      rw [reads, reads, reads, ← List.countP_append]
      rfl
    rw [split]
    constructor
    · omega
    · intro atEnd
      have := oneEnd atEnd
      have := restEnd atEnd
      omega

/-- A run that reads beyond the input reads all of it, when only its last item can end the loop. -/
theorem next_eq (beyond : input.length < reads evs)
    (last : ∀ (i : Nat) x, input[i]? = some x → (l.serve x).ends = true → i + 1 = input.length) :
    (Machine.run (l.step input) {} evs).next = input.length := by
  have sound : Sound l input _ := Sound.run evs
  cases finished : (Machine.run (l.step input) {} evs).ended with
  | false =>
    have far := (run_next finished).1
    rw [Nat.zero_add, Nat.min_eq_right (Nat.le_of_lt beyond)] at far
    exact Nat.le_antisymm sound.below far
  | true =>
    obtain ⟨-, all⟩ | ⟨i, x, here, ends, eq⟩ := sound.ended finished
    · exact all
    · rw [← eq]
      exact last i x here ends

/-- A run that reads beyond the input ends if the loop ends there or at an item. -/
theorem ended_iff (beyond : input.length < reads evs) :
    (Machine.run (l.step input) {} evs).ended = true ↔
      l.atEnd = true ∨ ∃ (i : Nat) (x : α), input[i]? = some x ∧ (l.serve x).ends = true := by
  have sound : Sound l input _ := Sound.run evs
  constructor
  · intro finished
    obtain ⟨atEnd, -⟩ | ⟨i, x, here, ends, -⟩ := sound.ended finished
    · exact .inl atEnd
    · exact .inr ⟨i, x, here, ends⟩
  · intro some_end
    by_contra reading
    rw [Bool.not_eq_true] at reading
    obtain ⟨far, farEnd⟩ := run_next reading
    rw [Nat.zero_add] at far farEnd
    rw [Nat.min_eq_right (Nat.le_of_lt beyond)] at far
    obtain atEnd | ⟨i, x, here, ends⟩ := some_end
    · exact absurd (farEnd atEnd) (Nat.not_le.2 (Nat.lt_of_le_of_lt sound.below beyond))
    · have inside := (List.getElem?_eq_some_iff.1 here).1
      rw [(sound.goesOn i x here ends (Nat.lt_of_lt_of_le inside far)).1] at reading
      cases reading

/-- A read that ends the loop is one at the place where it ends, and leaves what waits. -/
lemma read_closing (finished : (l.read input s).ended = true) (reading : s.ended = false) :
    l.closing input s = true ∧ (l.read input s).pending = s.pending := by
  rw [read] at finished ⊢
  rw [closing]
  cases here : input[s.next]? with
  | none =>
    rw [here] at finished
    exact ⟨finished, rfl⟩
  | some x =>
    rw [here] at finished
    dsimp only [Option.elim] at finished ⊢
    cases how : l.serve x with
    | close | fall => exact ⟨rfl, rfl⟩
    | skip | answer | pool =>
      rw [how] at finished
      cases reading.symm.trans finished

/-- A read that does not end the loop is at another place. -/
lemma read_reading (reading : (l.read input s).ended = false) : l.closing input s = false := by
  rw [read] at reading
  rw [closing]
  cases here : input[s.next]? with
  | none =>
    rw [here] at reading
    exact reading
  | some x =>
    rw [here] at reading
    dsimp only [Option.elim] at reading ⊢
    cases how : l.serve x with
    | close | fall =>
      rw [how] at reading
      cases reading
    | skip | answer | pool => rfl

lemma drained_of_ended (finished : s.ended = true) (evs : List (Event ω)) :
    Machine.Guarded (l.step input) (l.drained input) s evs := by
  induction evs with
  | nil => trivial
  | cons e evs ih =>
    refine ⟨?_, ?_⟩
    · cases e with
      | read =>
        intro _ reading
        rw [finished] at reading
        cases reading
      | work _ | notify _ => trivial
    · rw [step_ended finished]
      exact ih

/-- Nothing waits when the loop ends, or something waits for ever. -/
theorem drained_iff (reading : s.ended = false) :
    Machine.Guarded (l.step input) (l.drained input) s evs ↔
      ((Machine.run (l.step input) s evs).ended = true →
        (Machine.run (l.step input) s evs).pending = []) := by
  induction evs generalizing s with
  | nil =>
    refine ⟨fun _ finished => ?_, fun _ => trivial⟩
    rw [Machine.run_nil, reading] at finished
    cases finished
  | cons e evs ih =>
    rw [Machine.run_cons, Machine.Guarded]
    cases finished : (l.step input s e).ended with
    | false =>
      have allowed : l.drained input s e := by
        cases e with
        | read =>
          intro closing
          rw [step.eq_def, reading] at finished
          rw [read_reading finished] at closing
          cases closing
        | work _ | notify _ => trivial
      rw [ih finished]
      exact ⟨And.right, fun rest => ⟨allowed, rest⟩⟩
    | true =>
      rw [run_ended finished]
      have step_eq := step.eq_def l input s e
      rw [reading, if_neg Bool.false_ne_true] at step_eq
      cases e with
      | read =>
        dsimp only at step_eq
        rw [step_eq] at finished ⊢
        obtain ⟨closing, same⟩ := read_closing finished reading
        constructor
        · rintro ⟨allowed, -⟩ -
          rw [same]
          exact allowed closing reading
        · intro empty
          refine ⟨fun _ _ => ?_, drained_of_ended finished evs⟩
          rw [← same]
          exact empty finished
      | work k =>
        rw [step_eq, (work_next k).2, reading] at finished
        cases finished
      | notify w =>
        rw [step_eq] at finished
        have still : false = true := finished
        cases still

/-- The workers can do what waits for them. -/
lemma work_off (sound : Sound l input s) (waiting : s.pending ≠ []) (reading : s.ended = false) :
    (l.step input s (.work 0)).pending.length + 1 = s.pending.length := by
  obtain ⟨i, rest, waits⟩ := List.exists_cons_of_ne_nil waiting
  obtain ⟨-, x, here⟩ := sound.waiting i (by rw [waits]; exact List.mem_cons_self)
  rw [step.eq_def, reading, if_neg Bool.false_ne_true]
  show (l.work input s 0).pending.length + 1 = _
  rw [work, waits, List.getElem?_cons_zero]
  dsimp only
  rw [here]
  simp

lemma exists_done (k : Nat) (sound : Sound l input s) (few : s.pending.length ≤ k) :
    ∃ more : List (Event ω), (Machine.run (l.step input) s more).ended = true ∨
      (Machine.run (l.step input) s more).pending = [] := by
  induction k generalizing s with
  | zero => exact ⟨[], .inr (List.length_eq_zero_iff.1 (Nat.le_zero.1 few))⟩
  | succ k ih =>
    by_cases waiting : s.pending = []
    · exact ⟨[], .inr waiting⟩
    · cases reading : s.ended with
      | true => exact ⟨[], .inl reading⟩
      | false =>
        have fewer := work_off sound waiting reading
        obtain ⟨more, done⟩ := ih (sound.step (.work 0)) (by omega)
        exact ⟨.work 0 :: more, done⟩

/-- Every run goes on to one in which all was done. -/
theorem exists_complete (evs : List (Event ω)) : ∃ more, Complete l input (evs ++ more) := by
  let reading : List (Event ω) := List.replicate (input.length + 1) .read
  have sound : Sound l input _ := Sound.run (evs ++ reading)
  obtain ⟨more, done⟩ := exists_done _ sound (Nat.le_refl _)
  refine ⟨reading ++ more, ?_, ?_⟩
  · have all : reads reading = input.length + 1 := by
      rw [reads, List.countP_replicate]
      rfl
    rw [reads, List.countP_append, List.countP_append, ← reads, ← reads, ← reads, all]
    omega
  · rw [← List.append_assoc, Machine.run_append]
    exact done

end Loop

end GridWay
