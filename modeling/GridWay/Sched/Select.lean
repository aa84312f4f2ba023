import GridWay.Sched.Matching

/-!
# The selection of a queue

`gw_scheduler_filter_select_queues` goes over all queues of a message, those that do not meet the
requirements too: `gw_rm_job_match` sends them with rank 0 and no slots. The slots of a queue that
is taken for its rank are not remembered, so the queues that tie with it are compared with slots
that were seen before.

* `Scheduler.Best`: the queue is the best one of those that meet the requirements.
* `Scheduler.select_best_iff`: when the best queue is selected.
-/

namespace GridWay

namespace Scheduler

variable {qs before after mid rest : List MatchQueue} {first best : MatchQueue} {i j : Nat}
  {r m : Int}

/-- The selected queue meets the requirements, no queue that meets them has a higher rank, and none
of those with its rank has more free slots. -/
def Best (qs : List MatchQueue) : Prop :=
  ∃ q, qs[selectQueue qs]? = some q ∧ q.matched = true ∧
    ∀ q' ∈ qs, q'.matched = true → q'.rank ≤ q.rank ∧ (q'.rank = q.rank → q'.slots ≤ q.slots)

/-- The queues that tie with the highest rank before them. -/
def ties (highest : Int) : List MatchQueue → List MatchQueue
  | [] => []
  | q :: qs =>
    if q.rank > highest then ties q.rank qs
    else if q.rank = highest then q :: ties highest qs
    else ties highest qs

/-- The queues whose slots are remembered when the scan comes to the first queue of the highest
rank: itself when it is the first of all, else the first of all and the ties before it. -/
def remembered (before : List MatchQueue) (first : MatchQueue) : List MatchQueue :=
  match before with
  | [] => [first]
  | q :: qs => q :: ties q.rank qs

/-- The first queue of the highest rank stays selected, and it is the best one. -/
def FirstBest (before : List MatchQueue) (first : MatchQueue) (after : List MatchQueue) : Prop :=
  (∀ q ∈ after, q.rank = first.rank → ∃ x ∈ remembered before first, q.slots ≤ x.slots) ∧
    first.matched = true ∧
    ∀ q ∈ after, q.matched = true → q.rank = first.rank → q.slots ≤ first.slots

/-- A later queue of the highest rank has more slots than what is remembered, and it is the best
one. -/
def LaterBest (before : List MatchQueue) (first : MatchQueue) (after : List MatchQueue) : Prop :=
  ∃ mid best rest, after = mid ++ best :: rest ∧ best.rank = first.rank ∧ best.matched = true ∧
    (∀ x ∈ remembered before first, x.slots < best.slots) ∧
    (∀ q ∈ mid, q.rank = first.rank → q.slots < best.slots) ∧
    (∀ q ∈ rest, q.rank = first.rank → q.slots ≤ best.slots) ∧
    (first.matched = true → first.slots ≤ best.slots)

/-- `first` is the first queue of the highest rank. -/
structure Top (before : List MatchQueue) (first : MatchQueue) (after : List MatchQueue) : Prop where
  before : ∀ q ∈ before, q.rank < first.rank
  after : ∀ q ∈ after, q.rank ≤ first.rank

/-- What is remembered and the order of the queues of the highest rank do no harm. -/
def Selectable (qs : List MatchQueue) : Prop :=
  ∃ before first after, qs = before ++ first :: after ∧ Top before first after ∧
    (FirstBest before first after ∨ LaterBest before first after)

section Lists

variable {α : Type*} {P : α → Prop} {f : α → Int} {xs : List α}

/-- The first entry with the greatest value above a bound. -/
lemma exists_first_max (above : ∃ x ∈ xs, P x ∧ m < f x) :
    ∃ mid best rest, xs = mid ++ best :: rest ∧ P best ∧ m < f best ∧
      (∀ x ∈ mid, P x → f x < f best) ∧ ∀ x ∈ rest, P x → f x ≤ f best := by
  induction xs generalizing m with
  | nil =>
    obtain ⟨x, mem, -⟩ := above
    cases mem
  | cons x xs ih =>
    have later (m' : Int) (less : m ≤ m') (small : P x → f x ≤ m')
        (more : ∃ y ∈ xs, P y ∧ m' < f y) :
        ∃ mid best rest, x :: xs = mid ++ best :: rest ∧ P best ∧ m < f best ∧
          (∀ y ∈ mid, P y → f y < f best) ∧ ∀ y ∈ rest, P y → f y ≤ f best := by
      obtain ⟨mid, best, rest, rfl, good, past, less', most⟩ := ih more
      refine ⟨x :: mid, best, rest, rfl, good, Int.lt_of_le_of_lt less past, ?_, most⟩
      intro y mem here
      rcases List.mem_cons.1 mem with rfl | mem
      · exact Int.lt_of_le_of_lt (small here) past
      · exact less' y mem here
    by_cases here : P x ∧ m < f x
    · by_cases more : ∃ y ∈ xs, P y ∧ f x < f y
      · exact later (f x) (Int.le_of_lt here.2) (fun _ => Int.le_refl _) more
      · refine ⟨[], x, xs, rfl, here.1, here.2, (fun _ mem => by cases mem),
          fun y mem good => ?_⟩
        by_contra past
        exact more ⟨y, mem, good, Int.not_le.1 past⟩
    · obtain ⟨y, mem, good, past⟩ := above
      apply later m (Int.le_refl _)
      · intro good
        by_contra past
        exact here ⟨good, Int.not_le.1 past⟩
      · rcases List.mem_cons.1 mem with rfl | mem
        · exact absurd ⟨good, past⟩ here
        · exact ⟨y, mem, good, past⟩

end Lists

section Scan

/-- The loop over the queues from position `j` on. -/
def scan : Nat × Int × Int → Nat → List MatchQueue → Nat × Int × Int
  | best, _, [] => best
  | best, j, q :: qs => scan (betterQueue best q j) (j + 1) qs

lemma selectQueue_scan (q : MatchQueue) (qs : List MatchQueue) :
    selectQueue (q :: qs) = (scan (0, q.rank, q.slots) 1 qs).1 := by
  have loop (best : Nat × Int × Int) (j : Nat) (qs : List MatchQueue) :
      (qs.zipIdx j).foldl (fun best x => betterQueue best x.1 x.2) best = scan best j qs := by
    induction qs generalizing best j with
    | nil => rfl
    | cons q qs ih =>
      rw [List.zipIdx_cons, List.foldl_cons]
      exact ih _ _
  exact congrArg Prod.fst (loop _ _ _)

lemma scan_append (start : Nat × Int × Int) (j : Nat) (xs ys : List MatchQueue) :
    scan start j (xs ++ ys) = scan (scan start j xs) (j + xs.length) ys := by
  induction xs generalizing start j with
  | nil => rfl
  | cons q xs ih =>
    rw [List.cons_append, scan, scan, ih, List.length_cons, Nat.add_assoc, Nat.add_comm 1]

/-- What is remembered after a part of the queues. -/
lemma scan_slots :
    m ≤ (scan (i, r, m) j qs).2.2 ∧ (∀ x ∈ ties r qs, x.slots ≤ (scan (i, r, m) j qs).2.2) ∧
      ((scan (i, r, m) j qs).2.2 = m ∨ ∃ x ∈ ties r qs, x.slots = (scan (i, r, m) j qs).2.2) := by
  induction qs generalizing i r m j with
  | nil => exact ⟨Int.le_refl _, (fun _ mem => by cases mem), .inl rfl⟩
  | cons q qs ih =>
    rw [scan, betterQueue, ties]
    by_cases higher : q.rank > r
    · simp only [if_pos higher]
      exact ih
    · simp only [if_neg higher]
      by_cases tie : q.rank = r
      · simp only [tie, true_and, if_true]
        by_cases more : q.slots > m
        · simp only [if_pos more]
          obtain ⟨less, all, one⟩ := @ih j (j + 1) r q.slots
          refine ⟨by omega, fun x mem => ?_, .inr ?_⟩
          · rcases List.mem_cons.1 mem with rfl | mem
            · exact less
            · exact all x mem
          · rcases one with same | ⟨x, mem, same⟩
            · exact ⟨q, List.mem_cons_self, same.symm⟩
            · exact ⟨x, List.mem_cons_of_mem q mem, same⟩
        · simp only [if_neg more]
          obtain ⟨less, all, one⟩ := @ih i (j + 1) r m
          refine ⟨less, fun x mem => ?_, ?_⟩
          · rcases List.mem_cons.1 mem with rfl | mem
            · omega
            · exact all x mem
          · rcases one with same | ⟨x, mem, same⟩
            · exact .inl same
            · exact .inr ⟨x, List.mem_cons_of_mem q mem, same⟩
      · simp only [tie, false_and, if_false]
        exact ih

/-- The highest rank of a part of the queues that are all below a rank. -/
lemma scan_rank {top : Int} (start : r < top) (below : ∀ q ∈ qs, q.rank < top) :
    (scan (i, r, m) j qs).2.1 < top := by
  induction qs generalizing i r m j with
  | nil => exact start
  | cons q qs ih =>
    have rest := fun x mem => below x (List.mem_cons_of_mem q mem)
    rw [scan, betterQueue]
    split
    · exact ih (below q List.mem_cons_self) rest
    · split
      · exact ih start rest
      · exact ih start rest

/-- Queues that have no more slots than what is remembered change nothing. -/
lemma scan_none (below : ∀ q ∈ qs, q.rank ≤ r) (few : ∀ q ∈ qs, q.rank = r → q.slots ≤ m) :
    scan (i, r, m) j qs = (i, r, m) := by
  induction qs generalizing j with
  | nil => rfl
  | cons q qs ih =>
    have same : betterQueue (i, r, m) q j = (i, r, m) := by
      rw [betterQueue]
      rw [if_neg (Int.not_lt.2 (below q List.mem_cons_self)), if_neg]
      rintro ⟨tie, more⟩
      exact Int.not_le.2 more (few q List.mem_cons_self tie)
    rw [scan, same]
    exact ih (fun x mem => below x (List.mem_cons_of_mem q mem))
      fun x mem => few x (List.mem_cons_of_mem q mem)

/-- Queues with fewer slots than a bound leave fewer slots than the bound. -/
lemma scan_less {bound : Int} (below : ∀ q ∈ qs, q.rank ≤ r)
    (few : ∀ q ∈ qs, q.rank = r → q.slots < bound) (start : m < bound) :
    ∃ i' m', scan (i, r, m) j qs = (i', r, m') ∧ m' < bound := by
  induction qs generalizing i m j with
  | nil => exact ⟨i, m, rfl, start⟩
  | cons q qs ih =>
    have below' := fun x mem => below x (List.mem_cons_of_mem q mem)
    have few' := fun x mem => few x (List.mem_cons_of_mem q mem)
    rw [scan, betterQueue]
    rw [if_neg (Int.not_lt.2 (below q List.mem_cons_self))]
    split
    · rename_i tie
      exact ih below' few' (few q List.mem_cons_self tie.1)
    · exact ih below' few' start

/-- The first queue with the most slots above what is remembered is selected. -/
lemma scan_best (midBelow : ∀ q ∈ mid, q.rank ≤ r) (restBelow : ∀ q ∈ rest, q.rank ≤ r)
    (tie : best.rank = r) (past : m < best.slots)
    (less : ∀ q ∈ mid, q.rank = r → q.slots < best.slots)
    (most : ∀ q ∈ rest, q.rank = r → q.slots ≤ best.slots) :
    (scan (i, r, m) j (mid ++ best :: rest)).1 = j + mid.length := by
  obtain ⟨i', m', eq, less'⟩ := scan_less (i := i) (j := j) midBelow less past
  have taken : betterQueue (i', r, m') best (j + mid.length) =
      (j + mid.length, r, best.slots) := by
    rw [betterQueue]
    rw [if_neg (by omega), if_pos ⟨tie, less'⟩]
  rw [scan_append, eq, scan, taken, scan_none restBelow most]

end Scan

section Top

/-- A message has a first queue of the highest rank. -/
lemma exists_top (some : qs ≠ []) : ∃ before first after, qs = before ++ first :: after ∧
    Top before first after := by
  obtain ⟨q, rest, rfl⟩ := List.exists_cons_of_ne_nil some
  obtain ⟨before, first, after, eq, -, -, below, most⟩ :=
    exists_first_max (m := q.rank - 1) (P := fun _ => True) (f := MatchQueue.rank)
      ⟨q, List.mem_cons_self, trivial, by omega⟩
  exact ⟨before, first, after, eq, fun x mem => below x mem trivial,
    fun x mem => most x mem trivial⟩

/-- The scan when it comes behind the first queue of the highest rank. -/
lemma select_top (top : Top before first after) :
    ∃ m, selectQueue (before ++ first :: after) =
        (scan (before.length, first.rank, m) (before.length + 1) after).1 ∧
      (∀ x ∈ remembered before first, x.slots ≤ m) ∧
      ∃ x ∈ remembered before first, x.slots = m := by
  cases before with
  | nil =>
    refine ⟨first.slots, selectQueue_scan first after, ?_, first, List.mem_cons_self, rfl⟩
    intro x mem
    have same : x = first := List.mem_singleton.1 mem
    exact Int.le_of_eq (congrArg (·.slots) same)
  | cons q qs =>
    have below := fun x mem => top.before x (List.mem_cons_of_mem q mem)
    obtain ⟨less, all, one⟩ := @scan_slots qs 0 1 q.rank q.slots
    have lower :=
      @scan_rank qs 0 1 q.rank q.slots first.rank (top.before q List.mem_cons_self) below
    have taken : betterQueue (scan (0, q.rank, q.slots) 1 qs) first (1 + qs.length) =
        (1 + qs.length, first.rank, (scan (0, q.rank, q.slots) 1 qs).2.2) := by
      rw [betterQueue, if_pos lower]
    refine ⟨(scan (0, q.rank, q.slots) 1 qs).2.2, ?_, ?_, ?_⟩
    · rw [List.cons_append, selectQueue_scan, scan_append, scan, taken, List.length_cons,
        Nat.add_comm 1]
    · intro x mem
      rcases List.mem_cons.1 mem with rfl | mem
      · exact less
      · exact all x mem
    · rcases one with same | ⟨x, mem, same⟩
      · exact ⟨q, List.mem_cons_self, same.symm⟩
      · exact ⟨x, List.mem_cons_of_mem q mem, same⟩

/-- When nothing later has more slots than what is remembered, the first queue of the highest rank
is selected. -/
lemma select_first (top : Top before first after)
    (few : ∀ q ∈ after, q.rank = first.rank →
      ∃ x ∈ remembered before first, q.slots ≤ x.slots) :
    (before ++ first :: after)[selectQueue (before ++ first :: after)]? = some first := by
  obtain ⟨m, eq, all, -⟩ := select_top top
  rw [eq, scan_none top.after]
  · simp
  · intro q mem tie
    obtain ⟨x, here, less⟩ := few q mem tie
    exact Int.le_trans less (all x here)

/-- When something later has more slots, the first with the most is selected. -/
lemma select_later (top : Top before first (mid ++ best :: rest)) (tie : best.rank = first.rank)
    (past : ∀ x ∈ remembered before first, x.slots < best.slots)
    (less : ∀ q ∈ mid, q.rank = first.rank → q.slots < best.slots)
    (most : ∀ q ∈ rest, q.rank = first.rank → q.slots ≤ best.slots) :
    (before ++ first :: (mid ++ best :: rest))[
      selectQueue (before ++ first :: (mid ++ best :: rest))]? = some best := by
  obtain ⟨m, eq, -, x, mem, rfl⟩ := select_top top
  rw [eq, scan_best (fun q mem => top.after q (List.mem_append_left _ mem))
    (fun q mem => top.after q (List.mem_append_right _ (List.mem_cons_of_mem best mem))) tie
    (past x mem) less most]
  have place : before.length + 1 + mid.length = (before ++ first :: mid).length := by
    rw [List.length_append, List.length_cons]
    omega
  have split : before ++ first :: (mid ++ best :: rest) =
      (before ++ first :: mid) ++ best :: rest := by simp
  rw [place, split, List.getElem?_append_right (Nat.le_refl _), Nat.sub_self]
  rfl

/-- The highest rank is that of the first queue that has it. -/
lemma Top.le (top : Top before first after) {q : MatchQueue}
    (mem : q ∈ before ++ first :: after) :
    q.rank ≤ first.rank ∧ (q.rank = first.rank → q = first ∨ q ∈ after) := by
  rcases List.mem_append.1 mem with mem | mem
  · have below := top.before q mem
    exact ⟨Int.le_of_lt below, fun same => absurd same (Int.ne_of_lt below)⟩
  · rcases List.mem_cons.1 mem with rfl | mem
    · exact ⟨Int.le_refl _, fun _ => .inl rfl⟩
    · exact ⟨top.after q mem, fun _ => .inr mem⟩

/-- The best queue of a message is selected exactly when what is remembered does no harm. -/
lemma best_iff (some : qs ≠ []) : Best qs ↔ Selectable qs := by
  constructor
  · rintro ⟨q, selected, meets, best⟩
    obtain ⟨before, first, after, rfl, top⟩ := exists_top some
    refine ⟨before, first, after, rfl, top, ?_⟩
    obtain ⟨m, -, all, x, mem, rfl⟩ := select_top top
    by_cases past : ∃ q ∈ after, q.rank = first.rank ∧ x.slots < q.slots
    · obtain ⟨mid, later, rest, rfl, tie, more, less, most⟩ := exists_first_max past
      have past' : ∀ y ∈ remembered before first, y.slots < later.slots := fun y here =>
        Int.lt_of_le_of_lt (all y here) more
      have taken := select_later top tie past' less most
      obtain rfl := Option.some.inj (taken.symm.trans selected)
      refine .inr ⟨mid, later, rest, rfl, tie, meets, past', less, most, fun here => ?_⟩
      exact (best first (by simp) here).2 tie.symm
    · have few : ∀ q ∈ after, q.rank = first.rank →
          ∃ y ∈ remembered before first, q.slots ≤ y.slots := by
        intro q here tie
        refine ⟨x, mem, ?_⟩
        by_contra more
        exact past ⟨q, here, tie, Int.not_le.1 more⟩
      have taken := select_first top few
      obtain rfl := Option.some.inj (taken.symm.trans selected)
      exact .inl ⟨few, meets, fun q here meets' tie =>
        (best q (List.mem_append_right _ (List.mem_cons_of_mem _ here)) meets').2 tie⟩
  · rintro ⟨before, first, after, rfl, top, ⟨few, meets, most⟩ | later⟩
    · refine ⟨first, select_first top few, meets, fun q mem meets' => ?_⟩
      obtain ⟨below, tied⟩ := top.le mem
      refine ⟨below, fun tie => ?_⟩
      rcases tied tie with rfl | here
      · exact Int.le_refl _
      · exact most q here meets' tie
    · obtain ⟨mid, best, rest, rfl, tie, meets, past, less, most, fewer⟩ := later
      refine ⟨best, select_later top tie past less most, meets, fun q mem meets' => ?_⟩
      obtain ⟨below, tied⟩ := top.le mem
      rw [tie]
      refine ⟨below, fun same => ?_⟩
      rcases tied same with rfl | here
      · exact fewer meets'
      · rcases List.mem_append.1 here with here | here
        · exact Int.le_of_lt (less q here same)
        · rcases List.mem_cons.1 here with rfl | here
          · exact Int.le_refl _
          · exact most q here same

end Top

/-- Of the queues of a host that meet the requirements of a job, the best one is selected exactly
when the first queue of the highest rank, or a later one with more slots than what is remembered,
is the best. -/
theorem select_best_iff (v : MatchView) (reqs rank : Option String) (hid : HostId) (host : HostRow)
    (m : Match) (sent : v.matchHost reqs rank hid host = some m) :
    Best m.queues ↔ Selectable m.queues := by
  apply best_iff
  intro none
  unfold MatchView.matchHost at sent
  dsimp only at sent
  split at sent
  · rename_i matched
    cases sent
    rw [show host.queues.zipIdx.filterMap _ = [] from none] at matched
    cases matched
  · cases sent

/-- A view in which the queue at a position has a rank when it meets the requirements. -/
def rankView (ranks : List (Option Int)) : MatchView where
  checkReqs _ j _ := (ranks[j]?.join).isSome
  computeRank _ j _ := (ranks[j]?.join).getD 0

/-- A host whose queues have these free slots. -/
def slotRow (slots : List Int) : HostRow where
  fixedPriority := 1
  queues := slots.map fun n => some {
    name := "short", maxJobsInQueue := 0, runningJobs := 0, maxRunningJobs := n, activeJobs := 0 }

/-- The message for a host with three queues that meet the requirements. -/
def threeQueues : Match where
  hostId := 0
  fixedPriority := 1
  queues := [
    { name := "short", matched := true, rank := 1, slots := 8 },
    { name := "short", matched := true, rank := 5, slots := 2 },
    { name := "short", matched := true, rank := 5, slots := 6 }]

theorem select_best_three :
    (rankView [some 1, some 5, some 5]).matchHost none none 0 (slotRow [8, 2, 6]) =
      some threeQueues ∧
    (Best threeQueues.queues ↔ Selectable threeQueues.queues) :=
  ⟨by decide, select_best_iff (rankView [some 1, some 5, some 5]) none none 0 (slotRow [8, 2, 6])
    threeQueues (by decide)⟩

/-- A queue that does not meet the requirements wins against one with a negative rank, and slots
that were seen at a lower rank hide the better one of two queues. -/
theorem select_not_best :
    (∃ m, (rankView [none, some (-1)]).matchHost none none 0 (slotRow [4, 4]) = some m ∧
      ¬ Best m.queues) ∧
    ∃ m, (rankView [some 1, some 5, some 5]).matchHost none none 0 (slotRow [8, 2, 6]) = some m ∧
      ¬ Best m.queues := by
  constructor
  · refine ⟨_, rfl, ?_⟩
    rintro ⟨q, selected, meets, -⟩
    have unmatched : q.matched = false := by
      have same : some (⟨"short", false, 0, 0⟩ : MatchQueue) = some q := selected
      rw [← Option.some.inj same]
    rw [unmatched] at meets
    cases meets
  · refine ⟨_, rfl, ?_⟩
    rintro ⟨q, selected, -, best⟩
    have same : some (⟨"short", true, 5, 2⟩ : MatchQueue) = some q := selected
    have fewer := (best ⟨"short", true, 5, 6⟩ (by decide) rfl).2
    rw [← Option.some.inj same] at fewer
    exact absurd (fewer rfl) (by decide)

end Scheduler

end GridWay
