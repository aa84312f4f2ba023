import GridWay.Dm.Lists
import GridWay.Lib.Machine
import GridWay.Tm.Frame
import Mathlib.Algebra.GroupWithZero.Nat

/-!
# The transfers of a stage

A stage requests a copy of each file. The callback of a copy closes the file or sets a countdown,
and the timer requests the copy again when the countdown ends; a file of a prolog may have an
alternate source that is tried after the first one. The three stages have their own copies of this
logic. A run of a stage is what the listener and the timer take to it while `tm_state` is its state.

* `Tm.Flight.step`: a copy is answered, or the timer comes to the job.
* `Tm.Flight.transfers_finish`: with a try for every file the stage ends, once, and after a bounded number
  of steps.
-/

namespace GridWay.Tm

open Machine

/-- The stages that transfer files, as far as the Transfer Manager tells them apart. -/
inductive Kind where
  | prolog | epilog | checkpoint
deriving DecidableEq, Repr

namespace Kind

/-- The state in which callbacks and the timer come to the stage. -/
def state : Kind → TmState
  | .prolog => .prolog
  | .epilog => .epilog
  | .checkpoint => .checkpoint

/-- The transfers of the stage. -/
def list (k : Kind) (job : Job) : List Xfr :=
  match k with
  | .prolog | .epilog => job.xfrs.xfrs
  | .checkpoint => job.chkXfrs.xfrs

/-- The transfers that the stage starts with: a checkpoint makes its own. -/
def files (k : Kind) (job : Job) : List Xfr :=
  match k with
  | .prolog | .epilog => job.xfrs.xfrs
  | .checkpoint => checkpointEntries job

/-- The start of the stage. -/
def start : Kind → World → Job → Reply
  | .prolog => prologStageIn
  | .epilog => epilogStageOut
  | .checkpoint => checkpointCp

/-- The source that is tried after the first one. -/
def alternate (k : Kind) (x : Xfr) : Option String :=
  match k with
  | .prolog => x.altSrcUrl
  | .epilog | .checkpoint => none

/-- The remote directory that the stage works on. -/
def rdir (k : Kind) (job : Job) : Option String :=
  match k with
  | .prolog => job.history.head?.map (·.rdir)
  | .epilog | .checkpoint => epilogRdir job

/-- The URLs of a file of the stage. -/
def urls (k : Kind) (w : World) (job : Job) (rdir : String) : String → Option String → Urls :=
  match k with
  | .prolog => prologBuildUrls w job rdir
  | .epilog | .checkpoint => epilogBuildUrls w job rdir

end Kind

/-- The file whose copy a call requests. -/
def copyOf : Call → Option Nat
  | .tmMad _ (.cp i _ _ _) => some i
  | _ => none

/-- The copies that calls request. -/
def copies (calls : List Call) : List Nat := calls.filterMap copyOf

/-- The calls that end a stage: the `END` request, or the removal of the remote directory. -/
def isEnd : Call → Bool
  | .tmMad _ .finish => true
  | .tmMad _ (.rmdir _) => true
  | _ => false

/-- The files that have neither arrived nor been given up. -/
def pending (xs : List Xfr) : Nat := (⟨xs, 0⟩ : Xfrs).pending

/-- A stage under way. -/
structure Flight where
  job : Job
  /-- The copies that the driver has not answered. -/
  copies : List Nat := []
  /-- The copies requested so far; the flag tells whether an alternate source was left. -/
  sent : List (Nat × Bool) := []
  /-- How often the stage has ended. -/
  ends : Nat := 0
  crashed : Bool := false
deriving DecidableEq

/-- What happens to a stage. -/
inductive Event where
  | copied (i : Nat) (failure : Bool)
  | tick
deriving DecidableEq, Repr

namespace Flight

/-- A handler has run. When it leaves the state of the stage, its copies are those of another. -/
def after (k : Kind) (s : Flight) (r : Reply) : Flight :=
  let own := if r.job.tmState = k.state then Tm.copies r.calls else []
  { job := r.job
    copies := s.copies ++ own
    sent := s.sent ++ own.map fun i => (i, (k.list r.job)[i]?.any fun x => (k.alternate x).isSome)
    ends := s.ends + if r.job.tmState ≠ k.state ∨ r.calls.any isEnd then 1 else 0
    crashed := s.crashed || r.calls.contains .fault }

/-- The stage starts. -/
def start (k : Kind) (w : World) (job : Job) : Flight := ({ job } : Flight).after k (k.start w job)

/-- One event. -/
def step (k : Kind) (w : World) (s : Flight) : Event → Flight
  | .copied i failure =>
    ({ s with copies := s.copies.erase i }).after k (listener { verb := .cp i, failure } w s.job)
  | .tick => s.after k (timer w s.job)

/-- The event is one of the stage: it is in its state, and the driver answers what it was asked. -/
def Possible (k : Kind) (s : Flight) : Event → Prop
  | .copied i _ => s.job.tmState = k.state ∧ i ∈ s.copies
  | .tick => s.job.tmState = k.state

instance (k : Kind) (s : Flight) : ∀ e, Decidable (Possible k s e)
  | .copied i _ => inferInstanceAs (Decidable (s.job.tmState = k.state ∧ i ∈ s.copies))
  | .tick => inferInstanceAs (Decidable (s.job.tmState = k.state))

/-- A copy of the stage waits to be requested again. -/
def counting (k : Kind) (s : Flight) : Bool := (k.list s.job).any fun x => decide (0 < x.counter)

/-- The steps that are counted: callbacks, and the timer where it has something to count. -/
def cost (k : Kind) (s : Flight) : Event → Nat
  | .copied _ _ => 1
  | .tick => if s.counting k then 1 else 0

/-- The stage is in order. -/
structure Sound (k : Kind) (tries : Int) (s : Flight) : Prop where
  alive : s.crashed = false
  /-- No source of a file was tried more often than configured. -/
  tried : ∀ e ∈ s.sent, (s.sent.count e : Int) ≤ tries
  /-- A file has one outstanding copy at a time. -/
  single : s.copies.Nodup
  /-- What is pending is being copied, or waits for the timer. -/
  waits : pending (k.list s.job) ≠ 0 → s.copies ≠ [] ∨ s.counting k
  /-- The stage ends exactly once, when nothing is pending. -/
  ends : s.ends = if pending (k.list s.job) = 0 then 1 else 0

end Flight

/-- The positions of the entries with a property, from `i` on. -/
def marked (p : Xfr → Bool) (i : Nat) (xs : List Xfr) : List Nat :=
  ((xs.zipIdx i).filter fun e => p e.1).map (·.2)

section marked

variable {p : Xfr → Bool} {i : Nat} {x : Xfr} {xs ys : List Xfr}

lemma marked_cons :
    marked p i (x :: xs) = (if p x then [i] else []) ++ marked p (i + 1) xs := by
  rw [marked, List.zipIdx_cons, List.filter_cons]
  split <;> rfl

lemma mem_marked : i ∈ marked p 0 xs ↔ ∃ x, xs[i]? = some x ∧ p x := by
  rw [marked, List.mem_map]
  constructor
  · rintro ⟨e, mem, rfl⟩
    obtain ⟨mem, marks⟩ := List.mem_filter.1 mem
    exact ⟨e.1, List.mem_zipIdx_iff_getElem?.1 mem, marks⟩
  · rintro ⟨x, found, marks⟩
    exact ⟨(x, i), List.mem_filter.2 ⟨List.mem_zipIdx_iff_getElem?.2 found, marks⟩, rfl⟩

lemma lt_of_marked (mem : i ∈ marked p 0 xs) : i < xs.length := by
  obtain ⟨x, found, -⟩ := mem_marked.1 mem
  exact (List.getElem?_eq_some_iff.1 found).1

lemma nodup_marked : (marked p i xs).Nodup := by
  have positions : ((xs.zipIdx i).map (·.2)).Nodup := by
    rw [List.zipIdx_map_snd]
    exact List.nodup_range' 1
  exact positions.sublist (List.filter_sublist.map _)

end marked

variable {urls : String → Option String → Urls} {mad : String} {mode : Xfr → Char}

/-- The URLs of a file can be built. -/
def launches (urls : String → Option String → Urls) (x : Xfr) : Bool :=
  match x.srcUrl with
  | none => false
  | some src =>
    match urls src x.dstUrl with
    | .ok _ _ => true
    | _ => false

/-- The entry of a file after the start of a stage. -/
def launched (urls : String → Option String → Urls) (x : Xfr) : Xfr :=
  match x.srcUrl with
  | none => x
  | some src =>
    match urls src x.dstUrl with
    | .ok _ _ => x
    | .skip => { x with done := true, success := true }
    | .error => { x with done := true, success := false }

/-- Calls that neither end a stage nor fault. -/
def Plain (calls : List Call) : Prop := ∀ c ∈ calls, isEnd c = false ∧ c ≠ .fault

lemma Plain.append {cs cs' : List Call} (first : Plain cs) (second : Plain cs') :
    Plain (cs ++ cs') := by
  intro c mem
  obtain here | there := List.mem_append.1 mem
  · exact first c here
  · exact second c there

lemma plain_nil : Plain [] := fun _ mem => absurd mem List.not_mem_nil

lemma plain_cp (i : Nat) (m : Char) (src dst : String) : Plain [.tmMad mad (.cp i m src dst)] := by
  intro c mem
  obtain rfl := List.mem_singleton.1 mem
  exact ⟨rfl, nofun⟩

/-- One file at the start of a stage. -/
lemma startXfr_spec (urls : String → Option String → Urls) (mad : String) (mode : Xfr → Char)
    (i : Nat) (x : Xfr) :
    (startXfr urls mad mode i x).1 = launched urls x ∧ Plain (startXfr urls mad mode i x).2 ∧
      copies (startXfr urls mad mode i x).2 = if launches urls x then [i] else [] := by
  rw [launched, launches, startXfr]
  cases source : x.srcUrl with
  | none => exact ⟨rfl, plain_nil, rfl⟩
  | some src =>
    cases built : urls src x.dstUrl with
    | ok s d => simp only [built]; exact ⟨trivial, plain_cp _ _ _ _, rfl⟩
    | skip => simp only [built]; exact ⟨trivial, plain_nil, rfl⟩
    | error => simp only [built]; exact ⟨trivial, plain_nil, rfl⟩

/-- The files at the start of a stage. -/
lemma startXfrs_spec (urls : String → Option String → Urls) (mad : String) (mode : Xfr → Char)
    (i : Nat) (xs : List Xfr) :
    (startXfrs urls mad mode i xs).1 = xs.map (launched urls) ∧
      Plain (startXfrs urls mad mode i xs).2 ∧
      copies (startXfrs urls mad mode i xs).2 = marked (launches urls) i xs := by
  induction xs generalizing i with
  | nil => exact ⟨rfl, plain_nil, rfl⟩
  | cons x xs ih =>
    obtain ⟨entry, plain, request⟩ := startXfr_spec urls mad mode i x
    obtain ⟨entries, plains, requests⟩ := ih (i + 1)
    refine ⟨congr (congrArg _ entry) entries, plain.append plains, ?_⟩
    rw [marked_cons, ← request, ← requests]
    exact List.filterMap_append

/-- The entry of a file after the timer. -/
def ticked (x : Xfr) : Xfr :=
  if x.counter = -1 then x
  else if x.counter = 1 then { x with counter := -1 }
  else { x with counter := x.counter - 1 }

/-- The countdown of a file ends. -/
def fires (x : Xfr) : Bool := x.counter = 1

/-- The timer loop, where the URLs of the files that it requests can be built. -/
lemma tickXfrs_spec (mad : String) (mode : Xfr → Char) (i : Nat) {xs : List Xfr}
    (built : ∀ x ∈ xs, x.counter = 1 → launches urls x) :
    ∃ cs, tickXfrs urls mad mode i xs = some (xs.map ticked, cs) ∧ Plain cs ∧
      copies cs = marked fires i xs := by
  induction xs generalizing i with
  | nil => exact ⟨[], rfl, plain_nil, rfl⟩
  | cons x xs ih =>
    obtain ⟨cs, rest, plains, requests⟩ := ih (i + 1) fun y mem => built y (by simp [mem])
    obtain ⟨c, here, plain, request⟩ : ∃ c, tickXfr urls mad mode i x = some (ticked x, c) ∧
        Plain c ∧ copies c = if fires x then [i] else [] := by
      rw [tickXfr, ticked, fires]
      by_cases still : x.counter = -1
      · exact ⟨[], by simp [still], plain_nil, by simp [still, copies]⟩
      · by_cases last : x.counter = 1
        · have build := built x (by simp) last
          rw [launches] at build
          split at build
          case h_1 => cases build
          case h_2 src source =>
            split at build
            case h_1 src' dst built =>
              exact ⟨[.tmMad mad (.cp i (mode x) src' dst)], by simp [last, source, built],
                plain_cp _ _ _ _, by simp [last, copies, copyOf]⟩
            case h_2 => cases build
        · have more : x.counter - 1 ≠ 0 := by omega
          exact ⟨[], by simp [still, last, more], plain_nil, by simp [last, copies]⟩
    refine ⟨c ++ cs, ?_, plain.append plains, ?_⟩
    · rw [tickXfrs, here, rest]
      rfl
    · rw [marked_cons, ← request, ← requests]
      exact List.filterMap_append

/-- How often the source that a file is copied from was tried. -/
def current (k : Kind) (x : Xfr) (first second : Nat) : Nat :=
  if (k.alternate x).isSome then first else second

/-- A file of a stage under way: whether a copy is outstanding, and how often its sources were
tried. -/
structure FileInv (k : Kind) (urls : String → Option String → Urls) (tries : Int) (x : Xfr)
    (flying : Prop) (first second : Nat) : Prop where
  source : x.srcUrl.isSome
  most : (first : Int) ≤ max tries 0 ∧ (second : Int) ≤ max tries 0
  closed : x.done = true → ¬ flying ∧ x.counter = -1
  left : x.done = false → 0 < x.tries ∧ x.tries ≤ tries
  built : x.done = false → launches urls x
  next : x.done = false → ∀ alt, k.alternate x = some alt →
    second = 0 ∧ launches urls { x with srcUrl := some alt }
  /-- A file that is copied has used one try more than one that waits. -/
  phase : x.done = false →
    flying ∧ x.counter = -1 ∧ (current k x first second : Int) + x.tries = tries + 1 ∨
      ¬ flying ∧ 0 < x.counter ∧ x.counter ≤ tries ∧
        (current k x first second : Int) + x.tries = tries

/-- What is left to do for a file: its tries, each with its countdown. -/
def weight (k : Kind) (tries : Int) (x : Xfr) : Nat :=
  if x.done then 0
  else (x.tries.toNat + if (k.alternate x).isSome then tries.toNat else 0) * (tries.toNat + 1)
    + x.counter.toNat

section file

variable {k : Kind} {tries : Int} {x : Xfr} {flying : Prop} {first second : Nat}

/-- A file whose copy failed: it is given up, tried from its alternate source, or counted down. -/
def failed (k : Kind) (tries : Int) (x : Xfr) : Xfr :=
  if x.tries - 1 = 0 then
    match k.alternate x with
    | some alt => { x with tries := tries, srcUrl := some alt, altSrcUrl := none, counter := -1 }
    | none => Xfr.close false { x with tries := x.tries - 1 }
  else { x with tries := x.tries - 1, counter := tries - (x.tries - 1) }

/-- The alternate source is tried at once. -/
def again (k : Kind) (x : Xfr) : Bool := x.tries - 1 = 0 && (k.alternate x).isSome

lemma failed_again (more : again k x = true) : k.alternate (failed k tries x) = none := by
  obtain ⟨last, left⟩ := Bool.and_eq_true_iff.1 more
  obtain ⟨alt, left⟩ := Option.isSome_iff_exists.1 left
  rw [failed, if_pos (of_decide_eq_true last), left]
  cases k <;> rfl

lemma FileInv.success (inv : FileInv k urls tries x flying first second) :
    FileInv k urls tries (Xfr.close true x) False first second where
  source := inv.source
  most := inv.most
  closed _ := ⟨not_false, rfl⟩
  left := nofun
  built := nofun
  next := nofun
  phase := nofun

@[simp] lemma ticked_frame (x : Xfr) :
    (ticked x).srcUrl = x.srcUrl ∧ (ticked x).dstUrl = x.dstUrl ∧
      (ticked x).altSrcUrl = x.altSrcUrl ∧ (ticked x).done = x.done ∧
      (ticked x).tries = x.tries := by
  rw [ticked]
  split
  · simp
  · split <;> simp

lemma alternate_ticked : k.alternate (ticked x) = k.alternate x := by
  cases k <;> simp [Kind.alternate]

lemma launches_congr {y : Xfr} (source : y.srcUrl = x.srcUrl) (dst : y.dstUrl = x.dstUrl) :
    launches urls y = launches urls x := by
  rw [launches, launches, source, dst]

lemma not_fires (still : x.counter ≠ 1) : fires x = false := by simpa [fires] using still

/-- The timer takes a file one step further. -/
lemma FileInv.tick (inv : FileInv k urls tries x flying first second) :
    FileInv k urls tries (ticked x) (flying ∨ fires x)
      (first + if fires x ∧ (k.alternate x).isSome then 1 else 0)
      (second + if fires x ∧ ¬ (k.alternate x).isSome then 1 else 0) := by
  obtain ⟨source, dst, alt, finished, used⟩ := ticked_frame x
  by_cases last : x.counter = 1
  · -- the countdown ends, and the file is copied again
    have fire : fires x := by simpa [fires] using last
    have up : x.done = false := by
      by_contra down
      have := (inv.closed (by simpa using down)).2
      omega
    have room := inv.left up
    have waits : ¬ flying ∧ (current k x first second : Int) + x.tries = tries := by
      obtain ⟨-, still, -⟩ | ⟨off, -, -, count⟩ := inv.phase up
      · omega
      · exact ⟨off, count⟩
    have count := waits.2
    have still : (ticked x).counter = -1 := by simp [ticked, last]
    rw [current] at count
    refine ⟨by simpa [source] using inv.source, ?_, ?_, ?_, ?_, ?_, ?_⟩
    · have most := inv.most
      cases left : (k.alternate x).isSome
      · simp only [fire, left, true_and, Bool.false_eq_true, not_false_eq_true, if_true,
          if_false] at count ⊢
        push_cast
        omega
      · simp only [fire, left, true_and, not_true, if_true, if_false] at count ⊢
        push_cast
        omega
    · intro down
      rw [finished, up] at down
      cases down
    · exact fun _ => used ▸ room
    · exact fun _ => (launches_congr source dst).trans (inv.built up)
    · intro _ a some
      rw [alternate_ticked] at some
      have next := inv.next up a some
      refine ⟨by simp [some, next.1], ?_⟩
      rw [← next.2]
      exact launches_congr rfl dst
    · intro _
      refine .inl ⟨.inr fire, still, ?_⟩
      rw [current, alternate_ticked, used]
      cases left : (k.alternate x).isSome
      · simp only [fire, left, true_and, Bool.false_eq_true, not_false_eq_true, if_true,
          if_false] at count ⊢
        push_cast
        omega
      · simp only [fire, left, true_and, not_true, if_true, if_false] at count ⊢
        push_cast
        omega
  · simp only [not_fires last, Bool.false_eq_true, false_and, if_false, Nat.add_zero, or_false]
    by_cases still : x.counter = -1
    · rwa [ticked, if_pos still]
    · have up : x.done = false := by
        by_contra down
        exact still (inv.closed (by simpa using down)).2
      obtain ⟨-, here, -⟩ | ⟨off, pos, within, count⟩ := inv.phase up
      · exact absurd here still
      · have less : (ticked x).counter = x.counter - 1 := by simp [ticked, still, last]
        refine ⟨by simpa [source] using inv.source, inv.most, ?_, ?_, ?_, ?_, ?_⟩
        · intro down
          rw [finished, up] at down
          cases down
        · exact fun _ => used ▸ inv.left up
        · exact fun _ => (launches_congr source dst).trans (inv.built up)
        · intro _ a some
          rw [alternate_ticked] at some
          have next := inv.next up a some
          refine ⟨next.1, ?_⟩
          rw [← next.2]
          exact launches_congr rfl dst
        · intro _
          refine .inr ⟨off, by omega, by omega, ?_⟩
          rw [current, alternate_ticked, used]
          exact count

/-- A failed copy takes a file one step further. -/
lemma FileInv.failure (inv : FileInv k urls tries x True first second) (up : x.done = false) :
    FileInv k urls tries (failed k tries x) (again k x) first
      (second + if again k x then 1 else 0) := by
  have room := inv.left up
  have most := inv.most
  obtain ⟨-, still, count⟩ | ⟨off, -⟩ := inv.phase up
  case inr => exact absurd trivial off
  rw [failed, again]
  by_cases last : x.tries - 1 = 0
  · cases left : k.alternate x with
    | none =>
      simp only [last, if_true, decide_true, Option.isSome_none, Bool.and_false,
        Bool.false_eq_true, if_false, Nat.add_zero]
      refine ⟨inv.source, most, fun _ => ⟨not_false, rfl⟩, nofun, nofun, nofun, nofun⟩
    | some alt =>
      -- the first source is used up, and the alternate one is not touched
      obtain ⟨unused, build⟩ := inv.next up alt left
      simp only [last, if_true, decide_true, Option.isSome_some, Bool.and_true]
      have none : k.alternate { x with
          tries := tries, srcUrl := some alt, altSrcUrl := none, counter := -1 } = none := by
        cases k <;> rfl
      refine ⟨rfl, ?_, ?_, ?_, ?_, ?_, ?_⟩
      · omega
      · intro down
        rw [up] at down
        cases down
      · intro _
        dsimp only
        omega
      · exact fun _ => (launches_congr rfl rfl).trans build
      · intro _ a some
        rw [none] at some
        cases some
      · intro _
        refine .inl ⟨trivial, rfl, ?_⟩
        rw [current, none, unused]
        simp
        omega
  · simp only [last, if_false, decide_false, Bool.false_and, Bool.false_eq_true, Nat.add_zero]
    have same : k.alternate { x with tries := x.tries - 1, counter := tries - (x.tries - 1) } =
        k.alternate x := by
      cases k <;> rfl
    refine ⟨inv.source, most, ?_, ?_, ?_, ?_, ?_⟩
    · intro down
      rw [up] at down
      cases down
    · intro _
      dsimp only
      omega
    · exact fun _ => (launches_congr rfl rfl).trans (inv.built up)
    · intro _ a some
      rw [same] at some
      exact inv.next up a some
    · intro _
      refine .inr ⟨not_false, ?_, ?_, ?_⟩
      · dsimp only
        omega
      · dsimp only
        omega
      · rw [current, same]
        rw [current] at count
        dsimp only
        omega

lemma weight_open (k : Kind) (tries : Int) {x : Xfr} (up : x.done = false) :
    weight k tries x = (x.tries.toNat + if (k.alternate x).isSome then tries.toNat else 0) *
      (tries.toNat + 1) + x.counter.toNat := by
  simp [weight, up]

lemma weight_success (up : x.done = false) (inv : FileInv k urls tries x flying first second) :
    weight k tries (Xfr.close true x) + 1 ≤ weight k tries x := by
  have room := inv.left up
  have one : 1 * 1 ≤ (x.tries.toNat + if (k.alternate x).isSome then tries.toNat else 0) *
      (tries.toNat + 1) := Nat.mul_le_mul (by omega) (by omega)
  simp only [weight, Xfr.close, if_true, up, Bool.false_eq_true, if_false]
  omega

lemma weight_failure (up : x.done = false) (inv : FileInv k urls tries x True first second) :
    weight k tries (failed k tries x) + 1 ≤ weight k tries x := by
  have room := inv.left up
  obtain ⟨-, still, -⟩ | ⟨off, -⟩ := inv.phase up
  case inr => exact absurd trivial off
  by_cases last : x.tries - 1 = 0
  · cases left : k.alternate x with
    | none =>
      rw [failed, if_pos last, left]
      have closes := weight_success (k := k) (x := x) up inv
      simpa [weight, Xfr.close] using closes
    | some alt =>
      have none : k.alternate { x with
          tries := tries, srcUrl := some alt, altSrcUrl := none, counter := -1 } = none := by
        cases k <;> rfl
      rw [failed, if_pos last, left]
      dsimp only
      rw [weight_open k tries up, weight_open k tries (by exact up), none, left, still,
        show x.tries.toNat = 1 by omega]
      simp only [Option.isSome_none, Option.isSome_some, Bool.false_eq_true, if_false, if_true,
        Nat.add_zero, Nat.add_mul]
      omega
  · have same : k.alternate { x with tries := x.tries - 1, counter := tries - (x.tries - 1) } =
        k.alternate x := by
      cases k <;> rfl
    rw [failed, if_neg last, weight_open k tries up, weight_open k tries (by exact up), same, still]
    dsimp only
    generalize (if (k.alternate x).isSome then tries.toNat else 0) = rest
    rw [show x.tries.toNat = (x.tries - 1).toNat + 1 by omega,
      show (x.tries - 1).toNat + 1 + rest = (x.tries - 1).toNat + rest + 1 by omega, Nat.succ_mul]
    omega

lemma weight_tick (inv : FileInv k urls tries x flying first second) :
    weight k tries (ticked x) + (if 0 < x.counter then 1 else 0) ≤ weight k tries x := by
  obtain ⟨source, dst, alt, finished, used⟩ := ticked_frame x
  rw [weight, weight, alternate_ticked, finished, used]
  by_cases up : x.done
  · simp [up, (inv.closed up).2]
  · simp only [up, Bool.false_eq_true, if_false]
    have counter :
        (ticked x).counter.toNat + (if 0 < x.counter then 1 else 0) ≤ x.counter.toNat := by
      rw [ticked]
      split
      case isTrue still => simp [still]
      case isFalse =>
        split
        case isTrue last => simp [last]
        case isFalse =>
          obtain ⟨-, still, -⟩ | ⟨-, pos, -⟩ := inv.phase (by simpa using up)
          · contradiction
          · simp only [pos, if_true]
            omega
    omega

end file

/-- The stage is over with these transfers. -/
structure Over (k : Kind) (ys : List Xfr) (r : Reply) : Prop where
  files : k.list r.job = ys
  alive : .fault ∉ r.calls
  ends : r.job.tmState ≠ k.state ∨ r.calls.any isEnd
  still : r.job.tmState = k.state → copies r.calls = []

/-- What a handler of a stage leaves: the stage goes on with the transfers, or it is over. -/
structure Result (k : Kind) (ys : List Xfr) (cs : List Call) (r : Reply) : Prop where
  goes : pending ys ≠ 0 → k.list r.job = ys ∧ r.job.tmState = k.state ∧ r.calls = cs
  finished : pending ys = 0 → Over k ys r
  plain : Plain cs

section result

variable {k : Kind} {w : World} {job : Job} {head : HistoryRecord} {past : List HistoryRecord}
variable {rdir : String} {xs ys : List Xfr} {x y : Xfr} {i : Nat} {cs : List Call} {r : Reply}

lemma Result.list (result : Result k ys cs r) : k.list r.job = ys := by
  by_cases none : pending ys = 0
  · exact (result.finished none).files
  · exact (result.goes none).1

lemma Over.after (finished : Over k ys r) (plain : Plain cs) (none : copies cs = []) :
    Over k ys (r.after cs) where
  files := finished.files
  alive mem := by
    obtain here | there := List.mem_append.1 mem
    · exact (plain _ here).2 rfl
    · exact finished.alive there
  ends := finished.ends.imp id fun some => by
    rw [Reply.after_calls, List.any_append, some, Bool.or_true]
  still state := by
    have rest := finished.still state
    rw [copies] at none rest
    rw [copies, Reply.after_calls, List.filterMap_append, none, rest]
    rfl

lemma epilogRdir_of {job job' : Job} (dir : epilogRdir job = some rdir)
    (history : job'.history = job.history) (state : job'.jobState = job.jobState) :
    epilogRdir job' = some rdir := by
  rw [← dir, epilogRdir, epilogRdir, history, state]

lemma pending_mk (xs : List Xfr) (limit : Int) : (⟨xs, limit⟩ : Xfrs).pending = pending xs := rfl

/-- What is pending has no copy to be requested. -/
lemma pending_open (mem : y ∈ ys) (source : y.srcUrl.isSome) (up : y.done = false) :
    pending ys ≠ 0 := by
  have pos : 0 < pending ys := List.countP_pos_iff.2 ⟨y, mem, by simp [source, up]⟩
  omega

lemma prologVerdict_over (job : Job) (head : HistoryRecord)
    (list : job.xfrs.xfrs = ys) :
    Over .prolog ys (prologVerdict job head) := by
  rw [prologVerdict]
  split
  · exact ⟨list, by simp, .inr rfl, nofun⟩
  · exact ⟨list, by simp, .inr rfl, fun _ => rfl⟩

lemma epilogFinish_over (job : Job) (head : HistoryRecord) (rdir : String)
    (list : job.xfrs.xfrs = ys) :
    Over .epilog ys (epilogFinish job head rdir) := by
  rw [epilogFinish]
  split
  · exact ⟨list, by simp, .inr rfl, fun _ => rfl⟩
  · exact ⟨list, by simp, .inr rfl, fun _ => rfl⟩

lemma epilogGiveUp_over (job : Job) (head : HistoryRecord) (rdir : String)
    (list : job.xfrs.xfrs = ys) :
    Over .epilog ys (epilogGiveUp job head rdir) := by
  rw [epilogGiveUp]
  split
  · exact ⟨list, by simp, .inr rfl, nofun⟩
  · exact ⟨list, by simp, .inr rfl, nofun⟩

lemma epilogVerdict_over (job : Job) (head : HistoryRecord) (rdir : String)
    (list : job.xfrs.xfrs = ys) :
    Over .epilog ys (epilogVerdict job head rdir) := by
  rw [epilogVerdict]
  split
  · exact epilogGiveUp_over job head rdir list
  · exact epilogFinish_over job head rdir list

/-- An entry whose copy was requested is as it was before, any other one is closed. -/
lemma launched_eq (urls : String → Option String → Urls) (source : x.srcUrl.isSome) :
    (launches urls x = true → launched urls x = x) ∧
      (launches urls x = false →
        ∃ ok, launched urls x = { x with done := true, success := ok }) := by
  rw [launches, launched]
  cases url : x.srcUrl with
  | none => simp [url] at source
  | some src =>
    dsimp only
    cases built : urls src x.dstUrl with
    | ok s d => exact ⟨fun _ => rfl, nofun⟩
    | skip => exact ⟨nofun, fun _ => ⟨true, rfl⟩⟩
    | error => exact ⟨nofun, fun _ => ⟨false, rfl⟩⟩

/-- A file at the start of a stage. -/
lemma FileInv.start {urls : String → Option String → Urls} (fresh : Dm.Filled job x)
    (enough : launches urls x → 1 ≤ job.template.numberOfRetries)
    (next : launches urls x → ∀ alt, k.alternate x = some alt →
      launches urls { x with srcUrl := some alt }) :
    FileInv k urls job.template.numberOfRetries (launched urls x) (launches urls x)
      (if launches urls x ∧ (k.alternate (launched urls x)).isSome = true then 1 else 0)
      (if launches urls x ∧ (k.alternate (launched urls x)).isSome = false then 1 else 0) := by
  obtain ⟨source, tries, up, -, still⟩ := fresh
  obtain ⟨same, closes⟩ := launched_eq urls source
  cases launch : launches urls x with
  | true =>
    have few := enough launch
    rw [same launch]
    simp only [true_and]
    refine ⟨source, ?_, ?_, ?_, ?_, ?_, ?_⟩
    · cases (k.alternate x).isSome <;> simp <;> omega
    · intro down
      rw [up] at down
      cases down
    · intro _
      omega
    · exact fun _ => launch
    · intro _ alt some
      exact ⟨by simp [some], next launch alt some⟩
    · intro _
      refine .inl ⟨trivial, still, ?_⟩
      rw [current, tries]
      cases (k.alternate x).isSome <;> simp <;> omega
  | false =>
    obtain ⟨ok, closed⟩ := closes launch
    rw [closed]
    simp only [Bool.false_eq_true, false_and, if_false]
    -- the file is closed, so nothing is said of what is left of it
    refine ⟨source, by omega, fun _ => ⟨not_false, still⟩, ?_, ?_, ?_, ?_⟩
    · intro waits
      cases waits
    · intro waits
      cases waits
    · intro waits
      cases waits
    · intro waits
      cases waits

/-- Nothing is pending after the start when no copy was requested. -/
lemma pending_launched (urls : String → Option String → Urls)
    (fresh : ∀ x ∈ xs, Dm.Filled job x) :
    pending (xs.map (launched urls)) = 0 ↔ ∀ x ∈ xs, launches urls x = false := by
  rw [pending, Xfrs.pending, List.countP_eq_zero, List.forall_mem_map]
  refine forall₂_congr fun x mem => ?_
  obtain ⟨same, closes⟩ := launched_eq urls (fresh x mem).source
  cases launch : launches urls x with
  | true => simp [same launch, (fresh x mem).source, (fresh x mem).fresh.1]
  | false =>
    obtain ⟨ok, closed⟩ := closes launch
    simp [closed]

lemma startXfr_none (urls : String → Option String → Urls) (mad : String) (mode : Xfr → Char)
    (i : Nat) (x : Xfr) :
    (startXfr urls mad mode i x).2 = [] ↔ launches urls x = false := by
  rw [startXfr, launches]
  cases x.srcUrl with
  | none => simp
  | some src =>
    dsimp only
    cases urls src x.dstUrl <;> simp

lemma startXfrs_none {urls : String → Option String → Urls} :
    (startXfrs urls mad mode i xs).2 = [] ↔ ∀ x ∈ xs, launches urls x = false := by
  induction xs generalizing i with
  | nil => simp [startXfrs]
  | cons x xs ih =>
    rw [startXfrs, List.forall_mem_cons, ← startXfr_none urls mad mode i x,
      ← ih (i := i + 1)]
    exact List.append_eq_nil_iff

lemma marked_none {p : Xfr → Bool} (none : ∀ x ∈ xs, p x = false) : marked p i xs = [] := by
  induction xs generalizing i with
  | nil => rfl
  | cons x xs ih =>
    obtain ⟨here, rest⟩ := List.forall_mem_cons.1 none
    rw [marked_cons, here, ih rest]
    rfl

/-- The start of an epilog. -/
lemma epilogStageOut_result (history : job.history = head :: past)
    (dir : epilogRdir job = some rdir) (state : job.tmState = .epilog)
    (fresh : ∀ x ∈ job.xfrs.xfrs, Dm.Filled job x) :
    Result .epilog (job.xfrs.xfrs.map (launched (epilogBuildUrls w job rdir)))
      (startXfrs (epilogBuildUrls w job rdir) head.tmMad (fun _ => '-') 0 job.xfrs.xfrs).2
      (epilogStageOut w job) := by
  obtain ⟨entries, plain, requests⟩ := startXfrs_spec (epilogBuildUrls w job rdir) head.tmMad
    (fun _ => '-') 0 job.xfrs.xfrs
  rw [epilogStageOut, history]
  simp only [dir]
  by_cases empty : job.xfrs.xfrs = []
  · rw [if_pos empty, empty]
    exact ⟨fun some => absurd rfl some, fun _ => epilogFinish_over job head rdir empty, plain_nil⟩
  · rw [if_neg empty, entries, pending_mk]
    constructor
    · intro some
      rw [if_neg some]
      exact ⟨rfl, state, rfl⟩
    · intro none
      rw [if_pos none]
      apply Over.after _ plain
      · rw [requests]
        exact marked_none ((pending_launched _ fresh).1 none)
      · exact epilogGiveUp_over _ head rdir rfl
    · exact plain

/-- The start of an epilog keeps the transfers of a checkpoint, and is no checkpoint. -/
lemma epilogStageOut_frame (w : World) (job : Job)
    (history : job.history = head :: past) (dir : epilogRdir job = some rdir)
    (state : job.tmState = .epilog) :
    (epilogStageOut w job).job.chkXfrs = job.chkXfrs ∧
      (epilogStageOut w job).job.tmState ≠ .checkpoint ∧ .fault ∉ (epilogStageOut w job).calls := by
  obtain ⟨-, plain, -⟩ := startXfrs_spec (epilogBuildUrls w job rdir) head.tmMad
    (fun _ => '-') 0 job.xfrs.xfrs
  rw [epilogStageOut, history]
  simp only [dir]
  split
  · have finished := epilogFinish_over job head rdir rfl
    refine ⟨?_, ?_, finished.alive⟩
    · rw [epilogFinish]
      split <;> rfl
    · rw [epilogFinish]
      split <;> simp [state]
  · split
    · refine ⟨?_, ?_, ?_⟩
      · rw [epilogGiveUp]
        split <;> rfl
      · rw [epilogGiveUp]
        split <;> simp
      · intro mem
        obtain here | there := List.mem_append.1 mem
        · exact (plain _ here).2 rfl
        · exact (epilogGiveUp_over _ head rdir rfl).alive there
    · exact ⟨rfl, by simp [state], fun mem => (plain _ mem).2 rfl⟩

lemma checkpointVerdict_over (w : World) (job : Job) (list : job.chkXfrs.xfrs = ys)
    (history : job.history = head :: past) (dir : epilogRdir job = some rdir) :
    Over .checkpoint ys (checkpointVerdict w job head) := by
  subst list
  rw [checkpointVerdict]
  split
  · obtain ⟨list, state, alive⟩ :=
      epilogStageOut_frame w { job with tmState := .epilog } history dir rfl
    exact ⟨congrArg Xfrs.xfrs list, alive, .inl state, fun same => absurd same state⟩
  · exact ⟨rfl, by simp, .inr rfl, nofun⟩

/-- The start of a stage. -/
lemma start_result (k : Kind) (w : World) (history : job.history = head :: past)
    (dir : k.rdir job = some rdir) (state : job.tmState = k.state)
    (fresh : ∀ x ∈ k.files job, Dm.Filled job x) :
    ∃ cs, Result k ((k.files job).map (launched (k.urls w job rdir))) cs (k.start w job) ∧
      copies cs = marked (launches (k.urls w job rdir)) 0 (k.files job) := by
  obtain ⟨entries, plain, requests⟩ := startXfrs_spec (k.urls w job rdir) head.tmMad
    (if k = .prolog then (·.mode) else fun _ => '-') 0 (k.files job)
  refine ⟨_, ?_, requests⟩
  cases k with
  | prolog =>
    obtain rfl : head.rdir = rdir := by simpa [Kind.rdir, history] using dir
    have empty : (startXfrs (prologBuildUrls w job head.rdir) head.tmMad (·.mode) 0
        job.xfrs.xfrs).2 = [] ↔ pending (job.xfrs.xfrs.map _) = 0 :=
      startXfrs_none.trans (pending_launched _ fresh).symm
    simp only [Kind.start, Kind.urls, Kind.files, if_true] at *
    rw [prologStageIn, history]
    dsimp only
    rw [entries]
    constructor
    · intro some
      rw [if_neg fun none => some (empty.1 none)]
      exact ⟨rfl, state, rfl⟩
    · intro none
      rw [if_pos (empty.2 none)]
      exact prologVerdict_over _ head rfl
    · exact plain
  | epilog => exact epilogStageOut_result (w := w) history dir state fresh
  | checkpoint =>
    have none := pending_launched (epilogBuildUrls w job rdir) fresh
    simp only [Kind.start, Kind.urls, Kind.files, reduceCtorEq, if_false] at *
    rw [checkpointCp, history]
    simp only [show epilogRdir job = some rdir from dir]
    rw [entries, pending_mk]
    constructor
    · intro some
      rw [if_neg some]
      exact ⟨rfl, state, rfl⟩
    · intro finished
      rw [if_pos finished]
      apply Over.after _ plain
      · rw [requests]
        exact marked_none (none.1 finished)
      · apply checkpointVerdict_over w
        · rfl
        · rfl
        · apply epilogRdir_of dir
          · exact history.symm
          · rfl
    · exact plain

/-- A failed copy in a prolog. -/
lemma prologCpFailed_eq (up : 0 < x.tries)
    (next : ∀ alt, x.altSrcUrl = some alt →
      launches (prologBuildUrls w job head.rdir) { x with srcUrl := some alt }) :
    ∃ cs, prologCpFailed w job head i x =
        some (failed .prolog job.template.numberOfRetries x, cs) ∧ Plain cs ∧
      copies cs = if again .prolog x then [i] else [] := by
  rw [prologCpFailed, failed, again, Kind.alternate]
  by_cases last : x.tries - 1 = 0
  · cases left : x.altSrcUrl with
    | none => exact ⟨[], by simp [last], plain_nil, by simp [copies]⟩
    | some alt =>
      have build := next alt left
      simp only [launches] at build
      cases built : prologBuildUrls w job head.rdir alt x.dstUrl with
      | ok src dst =>
        exact ⟨[.tmMad head.tmMad (.cp i x.mode src dst)], by simp [last, built], plain_cp _ _ _ _,
          by simp [last, copies, copyOf]⟩
      | skip => simp [built] at build
      | error => simp [built] at build
  · have pos : x.tries - 1 > 0 := by omega
    exact ⟨[], by simp only [last, pos, if_true, if_false], plain_nil, by simp [last, copies]⟩

/-- A copy that has not ended its file leaves something pending. -/
lemma pending_set (found : xs[i]? = some x) (source : y.srcUrl.isSome) (up : y.done = false) :
    pending (xs.set i y) ≠ 0 := by
  obtain ⟨inside, -⟩ := List.getElem?_eq_some_iff.1 found
  exact pending_open (List.mem_set inside y) source up

/-- A file that is tried again is pending. -/
lemma pending_failed (tries : Int) (found : xs[i]? = some x) (source : x.srcUrl.isSome)
    (up : x.done = false) (more : x.tries - 1 ≠ 0 ∨ again k x) :
    pending (xs.set i (failed k tries x)) ≠ 0 := by
  apply pending_set found
  · rw [failed]
    split
    · split
      · rfl
      · exact source
    · exact source
  · rw [failed]
    split
    case isTrue last =>
      cases left : k.alternate x with
      | none => simp [again, left, last] at more
      | some => exact up
    · exact up

/-- The entry of a file whose copy is answered. -/
def answered (k : Kind) (tries : Int) (failure : Bool) (x : Xfr) : Xfr :=
  if failure then failed k tries x else Xfr.close true x

/-- The entry of a file in the callback of an epilog or a checkpoint, which goes on to look at the
pending files unless the copy is to be requested again. -/
lemma epilogCp_eq (failure : Bool) (none : k.alternate x = none) :
    (if failure then epilogCpFailed job x else (Xfr.close true x, true)) =
      (answered k job.template.numberOfRetries failure x,
        decide (failure → x.tries - 1 = 0)) := by
  cases failure with
  | false => rfl
  | true =>
    rw [if_pos rfl, epilogCpFailed, answered, if_pos rfl, failed, none]
    by_cases last : x.tries - 1 = 0
    · simp [last]
    · simp [last]

/-- The callback of a copy. -/
lemma callback_result (k : Kind) (failure : Bool) (history : job.history = head :: past)
    (dir : k.rdir job = some rdir) (state : job.tmState = k.state)
    (found : (k.list job)[i]? = some x) (source : x.srcUrl.isSome) (up : x.done = false)
    (room : 0 < x.tries)
    (next : ∀ alt, k.alternate x = some alt →
      launches (k.urls w job rdir) { x with srcUrl := some alt }) :
    ∃ cs, Result k ((k.list job).set i (answered k job.template.numberOfRetries failure x)) cs
        (listener { verb := .cp i, failure } w job) ∧
      copies cs = if failure && again k x then [i] else [] := by
  have kept := pending_failed (k := k) job.template.numberOfRetries found source up
  have ended (failure : Bool) (none : pending ((k.list job).set i
      (answered k job.template.numberOfRetries failure x)) = 0) : failure → x.tries - 1 = 0 := by
    rintro rfl
    by_contra more
    exact kept (.inl more) none
  cases k with
  | prolog =>
    obtain rfl : head.rdir = rdir := by simpa [Kind.rdir, history] using dir
    simp only [Kind.list, Kind.state, Kind.urls] at *
    obtain ⟨cs, entry, plain, request⟩ : ∃ cs,
        (if failure then prologCpFailed w job head i x else some (Xfr.close true x, [])) =
          some (answered .prolog job.template.numberOfRetries failure x, cs) ∧ Plain cs ∧
        copies cs = if failure && again .prolog x then [i] else [] := by
      cases failure with
      | false => exact ⟨[], rfl, plain_nil, rfl⟩
      | true => exact prologCpFailed_eq room next
    refine ⟨cs, ?_, request⟩
    rw [listener, state, if_neg nofun]
    simp only [cpCb, state]
    rw [prologCpCb, history]
    simp only [found, entry]
    rw [pending_mk]
    constructor
    · intro some
      rw [if_neg some]
      exact ⟨rfl, state, rfl⟩
    · intro none
      rw [if_pos none]
      apply Over.after _ plain
      · cases failure with
        | false => exact request
        | true =>
          rw [request, if_neg]
          intro more
          exact kept (.inr (by simpa using more)) none
      · exact prologVerdict_over _ head rfl
    · exact plain
  | epilog =>
    simp only [Kind.list, Kind.state, Kind.urls] at *
    refine ⟨[], ?_, by simp [again, Kind.alternate, copies]⟩
    rw [listener, state, if_neg nofun]
    simp only [cpCb, state]
    rw [epilogCpCb, history]
    simp only [found, epilogCp_eq (k := .epilog) failure rfl, pending_mk, decide_eq_true_eq]
    constructor
    · intro some
      rw [if_neg fun both => some both.2]
      exact ⟨rfl, state, rfl⟩
    · intro none
      rw [if_pos ⟨ended failure none, none⟩, epilogRdir_of dir]
      · exact epilogVerdict_over _ head rdir rfl
      · exact history.symm
      · rfl
    · exact plain_nil
  | checkpoint =>
    simp only [Kind.list, Kind.state, Kind.urls] at *
    refine ⟨[], ?_, by simp [again, Kind.alternate, copies]⟩
    rw [listener, state, if_neg nofun]
    simp only [cpCb, state]
    rw [checkpointCpCb, history]
    simp only [found, epilogCp_eq (k := .checkpoint) failure rfl, pending_mk, decide_eq_true_eq]
    constructor
    · intro some
      rw [if_neg fun both => some both.2]
      exact ⟨rfl, state, rfl⟩
    · intro none
      rw [if_pos ⟨ended failure none, none⟩]
      apply checkpointVerdict_over w
      · rfl
      · rfl
      · apply epilogRdir_of dir
        · exact history.symm
        · rfl
    · exact plain_nil

/-- The timer comes to a stage. -/
lemma timer_result (k : Kind) (history : job.history = head :: past)
    (dir : k.rdir job = some rdir) (state : job.tmState = k.state)
    (built : ∀ x ∈ k.list job, x.counter = 1 → launches (k.urls w job rdir) x) :
    k.list (timer w job).job = (k.list job).map ticked ∧
      (timer w job).job.tmState = k.state ∧ Plain (timer w job).calls ∧
      copies (timer w job).calls = marked fires 0 (k.list job) := by
  have idle : job.tmState ≠ .init := by
    rw [state]
    cases k <;> nofun
  rw [timer, if_neg (by simp [idle]), tick, state]
  cases k with
  | prolog =>
    obtain rfl : head.rdir = rdir := by simpa [Kind.rdir, history] using dir
    obtain ⟨cs, ticks, plain, requests⟩ := tickXfrs_spec head.tmMad (·.mode) 0 built
    simp only [Kind.state, Kind.list, Kind.urls, history] at ticks ⊢
    rw [ticks]
    exact ⟨rfl, rfl, plain, requests⟩
  | epilog =>
    obtain ⟨cs, ticks, plain, requests⟩ := tickXfrs_spec head.tmMad (fun _ => '-') 0 built
    simp only [Kind.state, Kind.list, Kind.urls, Kind.rdir, history] at ticks dir ⊢
    rw [dir]
    dsimp only
    rw [ticks]
    exact ⟨rfl, rfl, plain, requests⟩
  | checkpoint =>
    obtain ⟨cs, ticks, plain, requests⟩ := tickXfrs_spec head.tmMad (fun _ => '-') 0 built
    simp only [Kind.state, Kind.list, Kind.urls, Kind.rdir, history] at ticks dir ⊢
    rw [dir]
    dsimp only
    rw [ticks]
    exact ⟨rfl, rfl, plain, requests⟩

end result

/-- A list of marked files holds each of them once. -/
lemma count_flags {l : List Nat} (nodup : l.Nodup) (f : Nat → Bool) (i : Nat) (b : Bool) :
    (l.map fun j => (j, f j)).count (i, b) = if i ∈ l ∧ f i = b then 1 else 0 := by
  have flags : (l.map fun j => (j, f j)).Nodup :=
    List.Pairwise.map _ (fun _ _ other same => other (congrArg Prod.fst same)) nodup
  have mem : (i, b) ∈ (l.map fun j => (j, f j)) ↔ i ∈ l ∧ f i = b := by
    rw [List.mem_map]
    constructor
    · rintro ⟨j, mem, same⟩
      obtain ⟨rfl, rfl⟩ := Prod.mk.inj same
      exact ⟨mem, rfl⟩
    · rintro ⟨mem, rfl⟩
      exact ⟨i, mem, rfl⟩
  rw [flags.count]
  simp only [mem]

namespace Flight

/-- The alternate source of a file is left. -/
def flag (k : Kind) (xs : List Xfr) (i : Nat) : Bool := xs[i]?.any fun x => (k.alternate x).isSome

/-- The files of a stage under way. -/
structure Files (k : Kind) (urls : String → Option String → Urls) (tries : Int) (xs : List Xfr)
    (out : List Nat) (sent : List (Nat × Bool)) : Prop where
  each : ∀ i x, xs[i]? = some x →
    FileInv k urls tries x (i ∈ out) (sent.count (i, true)) (sent.count (i, false))
  single : out.Nodup
  inside : (∀ i ∈ out, i < xs.length) ∧ ∀ e ∈ sent, e.1 < xs.length

/-- A stage under way keeps the rest of its job `base`. -/
structure Inv (k : Kind) (urls : String → Option String → Urls) (base : Job) (s : Flight) :
    Prop where
  rest : ownOf base s.job = base
  files : Files k urls base.template.numberOfRetries (k.list s.job) s.copies s.sent
  alive : s.crashed = false
  ends : s.ends = if pending (k.list s.job) = 0 then 1 else 0

section files

variable {k : Kind} {urls : String → Option String → Urls} {tries : Int} {xs ys : List Xfr}
variable {out : List Nat} {sent : List (Nat × Bool)} {base : Job} {s : Flight} {r : Reply}
variable {cs : List Call} {x y : Xfr} {i : Nat} {w : World} {e : Event} {rdir : String}
variable {head : HistoryRecord} {past : List HistoryRecord}

/-- What has not ended is copied or counted down. -/
lemma Files.waits (files : Files k urls tries xs out sent) (some : pending xs ≠ 0) :
    out ≠ [] ∨ xs.any fun x => decide (0 < x.counter) := by
  obtain ⟨x, mem, here⟩ := List.countP_pos_iff.1 (Nat.pos_of_ne_zero some)
  obtain ⟨i, inside, rfl⟩ := List.mem_iff_getElem.1 mem
  have up : xs[i].done = false := by simp_all
  obtain ⟨flying, -⟩ | ⟨-, pos, -⟩ :=
    (files.each i xs[i] (List.getElem?_eq_getElem inside)).phase up
  · exact .inl (List.ne_nil_of_mem flying)
  · exact .inr (List.any_eq_true.2 ⟨_, mem, by simpa using pos⟩)

/-- When nothing is pending nothing is copied. -/
lemma Files.landed (files : Files k urls tries xs out sent) (none : pending xs = 0) : out = [] := by
  apply List.eq_nil_iff_forall_not_mem.2
  intro i mem
  obtain ⟨x, found⟩ : ∃ x, xs[i]? = some x :=
    ⟨_, List.getElem?_eq_getElem (files.inside.1 i mem)⟩
  have inv := files.each i x found
  cases up : x.done with
  | true => exact (inv.closed up).1 mem
  | false => exact pending_open (List.mem_of_getElem? found) inv.source up none

/-- A stage under way is in order. -/
lemma Inv.sound (inv : Inv k urls base s) : Sound k base.template.numberOfRetries s where
  alive := inv.alive
  tried e mem := by
    obtain ⟨i, b⟩ := e
    have found := List.getElem?_eq_getElem (inv.files.inside.2 _ mem)
    have most := (inv.files.each i _ found).most
    have pos : 0 < s.sent.count (i, b) := List.count_pos_iff.2 mem
    cases b <;> omega
  single := inv.files.single
  waits := inv.files.waits
  ends := inv.ends

/-- A handler has run: the copies that it requested are added to those of the stage. -/
lemma Inv.after (result : Result k ys cs r) (rest : ownOf base r.job = base)
    (files : Files k urls base.template.numberOfRetries ys (s.copies ++ Tm.copies cs)
      (s.sent ++ (Tm.copies cs).map fun i => (i, flag k ys i)))
    (alive : s.crashed = false) (ends : s.ends = 0) : Inv k urls base (s.after k r) := by
  by_cases none : pending ys = 0
  · -- nothing is copied any more
    have finished := result.finished none
    have landed := files.landed none
    obtain ⟨-, quiet⟩ := List.append_eq_nil_iff.1 landed
    have own : (if r.job.tmState = k.state then Tm.copies r.calls else []) = [] :=
      ite_eq_right_iff.2 finished.still
    constructor
    · exact rest
    · simpa only [Flight.after, finished.files, own, quiet, flag] using files
    · simp [Flight.after, alive, finished.alive]
    · simp only [Flight.after, finished.files, none, if_true, ends, if_pos finished.ends]
  · obtain ⟨list, state, calls⟩ := result.goes none
    have going : ¬ (r.job.tmState ≠ k.state ∨ r.calls.any isEnd) := by
      rw [calls]
      rintro (left | ended)
      · exact left state
      · obtain ⟨c, mem, ended⟩ := List.any_eq_true.1 ended
        rw [(result.plain c mem).1] at ended
        cases ended
    have quiet : .fault ∉ cs := fun mem => (result.plain _ mem).2 rfl
    constructor
    · exact rest
    · simpa only [Flight.after, list, state, calls, if_true, flag] using files
    · simp [Flight.after, alive, calls, quiet]
    · simp only [Flight.after, list, none, if_false, ends, if_neg going]

/-- The requested copies of a file are those of its flag. -/
lemma count_sent (k : Kind) (sent : List (Nat × Bool)) {l : List Nat} (nodup : l.Nodup)
    (found : ys[i]? = some y) (b : Bool) :
    (sent ++ l.map fun j => (j, flag k ys j)).count (i, b) =
      sent.count (i, b) + if i ∈ l ∧ (k.alternate y).isSome = b then 1 else 0 := by
  rw [List.count_append, count_flags nodup, flag, found]
  rfl

/-- The files at the start of a stage. -/
lemma Files.start {job : Job} (fresh : ∀ x ∈ xs, Dm.Filled job x)
    (enough : 1 ≤ job.template.numberOfRetries ∨ ∀ x ∈ xs, launches urls x = false)
    (alternates : ∀ x ∈ xs, launches urls x → ∀ alt, k.alternate x = some alt →
      launches urls { x with srcUrl := some alt }) :
    Files k urls job.template.numberOfRetries (xs.map (launched urls))
      (marked (launches urls) 0 xs)
      ((marked (launches urls) 0 xs).map fun i => (i, flag k (xs.map (launched urls)) i)) := by
  refine ⟨?_, nodup_marked, ?_⟩
  · intro i y found
    have counts (b : Bool) := count_sent k [] (nodup_marked : (marked (launches urls) 0 xs).Nodup)
      found b
    simp only [List.nil_append] at counts
    rw [counts, counts]
    rw [List.getElem?_map] at found
    obtain ⟨x, here, rfl⟩ := Option.map_eq_some_iff.1 found
    have mem := List.mem_of_getElem? here
    have flying : i ∈ marked (launches urls) 0 xs ↔ launches urls x := by
      rw [mem_marked, here]
      simp
    simp only [flying, List.count_nil, Nat.zero_add]
    apply FileInv.start (fresh x mem) _ (alternates x mem)
    intro launch
    refine enough.resolve_right fun none => ?_
    rw [none x mem] at launch
    cases launch
  · rw [List.length_map]
    refine ⟨fun _ => lt_of_marked, ?_⟩
    intro e mem
    obtain ⟨i, here, rfl⟩ := List.mem_map.1 mem
    exact lt_of_marked here

/-- The files after the answer of a copy. -/
lemma Files.answer (files : Files k urls tries xs out sent) (mem : i ∈ out)
    (found : xs[i]? = some x) (failure : Bool) :
    Files k urls tries (xs.set i (answered k tries failure x))
      (out.erase i ++ if failure && again k x then [i] else [])
      (sent ++ (if failure && again k x then [i] else []).map fun j =>
        (j, flag k (xs.set i (answered k tries failure x)) j)) := by
  have inside := files.inside.1 i mem
  have inv := files.each i x found
  have up : x.done = false := by
    by_contra down
    exact (inv.closed (by simpa using down)).1 mem
  generalize requests : (if failure && again k x then [i] else []) = l
  have single : l.Nodup := by
    subst requests
    split <;> simp
  have only : ∀ j ∈ l, j = i := by
    subst requests
    intro j mem
    split at mem
    · exact List.mem_singleton.1 mem
    · cases mem
  have away : i ∉ out.erase i := fun still => (files.single.mem_erase_iff.1 still).1 rfl
  refine ⟨?_, ?_, ?_, ?_⟩
  · intro j y there
    rw [count_sent k _ single there, count_sent k _ single there]
    by_cases same : j = i
    · subst same
      obtain rfl : answered k tries failure x = y := by
        simpa [List.getElem?_set_self inside] using there
      subst requests
      cases failure with
      | false => simpa [away, answered] using inv.success
      | true =>
        have flying :
            FileInv k urls tries x True (sent.count (j, true)) (sent.count (j, false)) := by
          simpa only [mem] using inv
        have fails := flying.failure up
        cases more : again k x with
        | false => simpa [away, answered, more] using fails
        | true => simpa [away, answered, more, failed_again more] using fails
    · rw [List.getElem?_set_ne (Ne.symm same)] at there
      have other : j ∉ l := fun here => same (only j here)
      simpa [other, List.mem_erase_of_ne same] using files.each j y there
  · apply List.nodup_append.2
    refine ⟨files.single.erase i, single, ?_⟩
    rintro j still _ here rfl
    obtain rfl := only j here
    exact away still
  · intro j here
    rw [List.length_set]
    obtain still | new := List.mem_append.1 here
    · exact files.inside.1 j (List.mem_of_mem_erase still)
    · exact only j new ▸ inside
  · intro e here
    rw [List.length_set]
    obtain old | new := List.mem_append.1 here
    · exact files.inside.2 e old
    · obtain ⟨j, flagged, rfl⟩ := List.mem_map.1 new
      exact only j flagged ▸ inside

/-- The files after the timer. -/
lemma Files.tick (files : Files k urls tries xs out sent) :
    Files k urls tries (xs.map ticked) (out ++ marked fires 0 xs)
      (sent ++ (marked fires 0 xs).map fun i => (i, flag k (xs.map ticked) i)) := by
  refine ⟨?_, ?_, ?_, ?_⟩
  · intro i y found
    rw [count_sent k _ nodup_marked found, count_sent k _ nodup_marked found]
    rw [List.getElem?_map] at found
    obtain ⟨x, here, rfl⟩ := Option.map_eq_some_iff.1 found
    have fire : i ∈ marked fires 0 xs ↔ fires x := by
      rw [mem_marked, here]
      simp
    have ticks := (files.each i x here).tick
    simpa only [List.mem_append, fire, alternate_ticked, Bool.not_eq_true] using ticks
  · rw [List.nodup_append]
    refine ⟨files.single, nodup_marked, ?_⟩
    rintro i flying _ fire rfl
    obtain ⟨x, here, fire⟩ := mem_marked.1 fire
    have last : x.counter = 1 := by simpa [fires] using fire
    have inv := files.each i x here
    cases up : x.done with
    | true => exact (inv.closed up).1 flying
    | false =>
      obtain ⟨-, still, -⟩ | ⟨off, -⟩ := inv.phase up
      · omega
      · exact off flying
  · intro i here
    rw [List.length_map]
    obtain old | new := List.mem_append.1 here
    · exact files.inside.1 i old
    · exact lt_of_marked new
  · intro e here
    rw [List.length_map]
    obtain old | new := List.mem_append.1 here
    · exact files.inside.2 e old
    · obtain ⟨i, flagged, rfl⟩ := List.mem_map.1 new
      exact lt_of_marked flagged

lemma pending_ticked : pending (xs.map ticked) = pending xs := by
  rw [pending, pending, Xfrs.pending, Xfrs.pending, List.countP_map]
  congr 1
  funext x
  obtain ⟨source, -, -, finished, -⟩ := ticked_frame x
  rw [Function.comp_apply, source, finished]

/-- What is left to do for the files of a stage. -/
def load (k : Kind) (tries : Int) (xs : List Xfr) : Nat := (xs.map (weight k tries)).sum

lemma load_set (k : Kind) (tries : Int) (found : xs[i]? = some x) (y : Xfr) :
    load k tries (xs.set i y) + weight k tries x = load k tries xs + weight k tries y := by
  induction xs generalizing i with
  | nil => cases found
  | cons z xs ih =>
    cases i with
    | zero =>
      obtain rfl := Option.some.inj found
      simp only [load, List.set_cons_zero, List.map_cons, List.sum_cons]
      omega
    | succ i =>
      have rest := ih found
      simp only [load, List.set_cons_succ, List.map_cons, List.sum_cons] at rest ⊢
      omega

lemma load_tick (each : ∀ x ∈ xs,
      weight k tries (ticked x) + (if 0 < x.counter then 1 else 0) ≤ weight k tries x) :
    load k tries (xs.map ticked) + (if xs.any fun x => decide (0 < x.counter) then 1 else 0) ≤
      load k tries xs := by
  induction xs with
  | nil => exact Nat.le_refl _
  | cons x xs ih =>
    obtain ⟨here, rest⟩ := List.forall_mem_cons.1 each
    have less := ih rest
    simp only [load, List.map_cons, List.sum_cons, List.any_cons, Bool.or_eq_true,
      decide_eq_true_eq] at less ⊢
    by_cases counts : 0 < x.counter
    · rw [if_pos counts] at here
      rw [if_pos (.inl counts)]
      split at less <;> omega
    · rw [if_neg counts] at here
      simp only [counts, false_or]
      omega

/-- The work of a file before it is first copied. -/
lemma weight_le (used : x.tries ≤ tries) (still : x.counter = -1) :
    weight k tries x ≤ 2 * tries.toNat * (tries.toNat + 1) := by
  rw [weight]
  split
  · exact Nat.zero_le _
  · rw [still]
    apply Nat.mul_le_mul_right
    split <;> omega

lemma load_le {bound : Nat} (each : ∀ x ∈ xs, weight k tries x ≤ bound) :
    load k tries xs ≤ bound * xs.length := by
  induction xs with
  | nil => exact Nat.zero_le _
  | cons x xs ih =>
    obtain ⟨here, rest⟩ := List.forall_mem_cons.1 each
    have less := ih rest
    simp only [load, List.map_cons, List.sum_cons, List.length_cons, Nat.mul_succ] at less ⊢
    omega

/-- A step keeps a stage in order, and pays for itself with the work that is left. -/
lemma Inv.step (inv : Inv k (k.urls w base rdir) base s) (history : base.history = head :: past)
    (dir : k.rdir base = some rdir) (possible : Possible k s e) :
    Inv k (k.urls w base rdir) base (step k w s e) ∧
      load k base.template.numberOfRetries (k.list (step k w s e).job) + cost k s e ≤
        load k base.template.numberOfRetries (k.list s.job) := by
  have template : s.job.template = base.template := (congrArg Job.template inv.rest :)
  have history' : s.job.history = head :: past := (congrArg Job.history inv.rest :).trans history
  have dir' : k.rdir s.job = some rdir := by
    rw [← dir, ← inv.rest]
    cases k <;> rfl
  have urls : k.urls w s.job rdir = k.urls w base rdir := by
    rw [← inv.rest]
    cases k <;> rfl
  cases e with
  | copied i failure =>
    obtain ⟨state, mem⟩ := possible
    have inside := inv.files.inside.1 i mem
    have found := List.getElem?_eq_getElem inside
    generalize (k.list s.job)[i] = x at found
    have file := inv.files.each i x found
    have up : x.done = false := by
      by_contra down
      exact (file.closed (by simpa using down)).1 mem
    obtain ⟨cs, result, requests⟩ := callback_result (w := w) k failure history' dir' state found
      file.source up (file.left up).1 fun alt some => urls ▸ (file.next up alt some).2
    rw [template] at result
    have own := (listener_own { verb := .cp i, failure } w s.job).of_same inv.rest
    have some : pending (k.list s.job) ≠ 0 :=
      pending_open (List.mem_of_getElem? found) file.source up
    have files := inv.files.answer mem found failure
    rw [← requests] at files
    refine ⟨Inv.after result own.rest files inv.alive ?_, ?_⟩
    · rw [inv.ends, if_neg some]
    · have total := load_set k base.template.numberOfRetries found
        (answered k base.template.numberOfRetries failure x)
      have less : weight k base.template.numberOfRetries
          (answered k base.template.numberOfRetries failure x) + 1 ≤
            weight k base.template.numberOfRetries x := by
        cases failure with
        | false => exact weight_success up file
        | true =>
          apply weight_failure up
          simpa only [mem] using file
      have list : k.list (listener { verb := .cp i, failure } w s.job).job = _ := result.list
      simp only [Flight.step, Flight.after, cost, list]
      omega
  | tick =>
    have built : ∀ x ∈ k.list s.job, x.counter = 1 → launches (k.urls w s.job rdir) x := by
      intro x mem last
      obtain ⟨i, inside, rfl⟩ := List.mem_iff_getElem.1 mem
      have file := inv.files.each i _ (List.getElem?_eq_getElem inside)
      rw [urls]
      apply file.built
      by_contra down
      have := (file.closed (by simpa using down)).2
      omega
    obtain ⟨list, state, plain, requests⟩ := timer_result k history' dir' possible built
    have files := inv.files.tick
    rw [← requests, ← list] at files
    refine ⟨⟨?_, ?_, ?_, ?_⟩, ?_⟩
    · exact ((timer_own w s.job).of_same inv.rest).rest
    · simpa only [Flight.step, Flight.after, state, if_true, flag] using files
    · have quiet : .fault ∉ (timer w s.job).calls := fun mem => (plain _ mem).2 rfl
      simp [Flight.step, Flight.after, inv.alive, quiet]
    · have going : ¬ ((timer w s.job).job.tmState ≠ k.state ∨ (timer w s.job).calls.any isEnd) := by
        rintro (left | ended)
        · exact left state
        · obtain ⟨c, mem, ended⟩ := List.any_eq_true.1 ended
          rw [(plain c mem).1] at ended
          cases ended
      simp only [Flight.step, Flight.after, list, pending_ticked, if_neg going, Nat.add_zero,
        inv.ends]
    · have less : load k base.template.numberOfRetries ((k.list s.job).map ticked) +
          (if s.counting k then 1 else 0) ≤
            load k base.template.numberOfRetries (k.list s.job) := by
        apply load_tick
        intro x mem
        obtain ⟨i, inside, rfl⟩ := List.mem_iff_getElem.1 mem
        exact weight_tick (inv.files.each i _ (List.getElem?_eq_getElem inside))
      rw [← list] at less
      exact less

/-- A stage in order starts. -/
lemma Inv.start (history : base.history = head :: past) (dir : k.rdir base = some rdir)
    (state : base.tmState = k.state) (fresh : ∀ x ∈ k.files base, Dm.Filled base x)
    (enough : 1 ≤ base.template.numberOfRetries ∨
      ∀ x ∈ k.files base, launches (k.urls w base rdir) x = false)
    (alternates : ∀ x ∈ k.files base, launches (k.urls w base rdir) x →
      ∀ alt, k.alternate x = some alt →
        launches (k.urls w base rdir) { x with srcUrl := some alt }) :
    Inv k (k.urls w base rdir) base (start k w base) ∧
      load k base.template.numberOfRetries (k.list (start k w base).job) ≤
        2 * base.template.numberOfRetries.toNat * (base.template.numberOfRetries.toNat + 1) *
          (k.files base).length := by
  obtain ⟨cs, result, requests⟩ := start_result k w history dir state fresh
  have files := Files.start fresh enough alternates
  rw [← requests] at files
  have own : Own base (k.start w base) := by
    cases k with
    | prolog => exact prologStageIn_own
    | epilog => exact epilogStageOut_own
    | checkpoint => exact checkpointCp_own
  refine ⟨Inv.after result own.rest files rfl rfl, ?_⟩
  have list : k.list (Flight.start k w base).job = _ := result.list
  rw [list, ← List.length_map (launched (k.urls w base rdir))]
  apply load_le
  intro y mem
  obtain ⟨x, here, rfl⟩ := List.mem_map.1 mem
  obtain ⟨source, tries, up, -, still⟩ := fresh x here
  obtain ⟨same, closes⟩ := launched_eq (k.urls w base rdir) source
  cases launch : launches (k.urls w base rdir) x with
  | true =>
    rw [same launch]
    exact weight_le (Int.le_of_eq tries) still
  | false =>
    obtain ⟨ok, closed⟩ := closes launch
    rw [closed]
    exact Nat.zero_le _

end files

/-- A stage whose files have a try each, and whose alternate sources can be copied from, is in order
after any callbacks and timers. It takes a bounded number of them, so it comes to its end. -/
theorem transfers_finish (k : Kind) (w : World) (job : Job) (head : HistoryRecord)
    (past : List HistoryRecord) (rdir : String) (history : job.history = head :: past)
    (dir : k.rdir job = some rdir) (state : job.tmState = k.state)
    (fresh : ∀ x ∈ k.files job, Dm.Filled job x)
    (enough : 1 ≤ job.template.numberOfRetries ∨
      ∀ x ∈ k.files job, launches (k.urls w job rdir) x = false)
    (alternates : ∀ x ∈ k.files job, launches (k.urls w job rdir) x →
      ∀ alt, k.alternate x = some alt →
        launches (k.urls w job rdir) { x with srcUrl := some alt })
    (evs : List Event) (guarded : Guarded (step k w) (Possible k) (start k w job) evs) :
    Sound k job.template.numberOfRetries (run (step k w) (start k w job) evs) ∧
      spent (step k w) (cost k) (start k w job) evs ≤
        2 * job.template.numberOfRetries.toNat * (job.template.numberOfRetries.toNat + 1) *
          (k.files job).length := by
  obtain ⟨init, bound⟩ := Inv.start history dir state fresh enough alternates
  constructor
  · apply Inv.sound
    apply run_induction _ _ init guarded
    intro s e inv possible
    exact (inv.step history dir possible).1
  · have paid := spent_le (Inv k (k.urls w job rdir) job)
      (fun s => load k job.template.numberOfRetries (k.list s.job))
      (fun s e inv possible => (inv.step history dir possible).1)
      (fun s e inv possible => (inv.step history dir possible).2) init guarded
    exact Nat.le_trans (Nat.le_of_add_left_le paid) bound

/-- The record of the host that the files of a job are copied to and from. -/
def oneRecord : HistoryRecord :=
  { host := 0, queue := "", tmMad := "dummy", rdir := "3", emMad := "ssh", emRc := "",
    emForkRc := "", cancelTries := 0 }

/-- A job with one file to copy. -/
def oneFile (tries : Int) (tmState : TmState) : Job :=
  { id := 3
    template := { numberOfRetries := tries }
    tmState
    xfrs := { xfrs := [{ tries, srcUrl := some "f" }] }
    history := [oneRecord] }

/-- Two tries of a file, the first of which fails. -/
theorem transfers_finish_second :
    let evs := [Event.copied 0 true, .tick, .copied 0 false, .tick]
    let job := oneFile 2 .epilog
    Sound .epilog 2 (run (step .epilog {}) (start .epilog {} job) evs) ∧
      spent (step .epilog {}) (cost .epilog) (start .epilog {} job) evs ≤ 12 :=
  transfers_finish .epilog {} (oneFile 2 .epilog) oneRecord [] "3" rfl (by decide) rfl
    (by simp [oneFile, Kind.files]; constructor <;> simp) (.inl (by decide))
    (by intro x mem built alt some; cases some) _ (by decide)

/-- Without retries a file of a prolog whose copy fails is neither requested again nor given up. -/
theorem no_tries_waits :
    let evs := [Event.copied 0 true]
    let s := run (step .prolog {}) (start .prolog {} (oneFile 0 .prolog)) evs
    Guarded (step .prolog {}) (Possible .prolog) (start .prolog {} (oneFile 0 .prolog)) evs ∧
      pending (Kind.prolog.list s.job) = 1 ∧ s.copies = [] ∧ s.counting .prolog = false ∧
      s.ends = 0 := by
  decide

end Flight

end GridWay.Tm
