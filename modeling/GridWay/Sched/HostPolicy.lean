import GridWay.Lib.Normal
import GridWay.Lib.Qsort
import GridWay.Sched.Matching
import Mathlib.Algebra.Field.Rat
import Mathlib.Algebra.Order.Group.MinMax
import Mathlib.Algebra.Order.Ring.Rat
import Mathlib.Data.List.Forall2

/-!
# The policies of the hosts

`gw_scheduler_host_policies`: the entries of a match list get a priority, the weighted sum of a
fixed term, a rank term and a usage term, and are sorted by it. Every term is normalised by an
extreme of the list. Floating point numbers are read as the rationals they stand for.

* `Scheduler.hostPolicies`: the priorities and the order.
* `Scheduler.hostPolicies_sound`: the terms are normalised, and to change a host to its advantage
  does not move it behind another.
-/

namespace GridWay

namespace Scheduler

/-- The statistics of a host for a user: averages of the database and the last execution. -/
structure HostTimes where
  avrgTransfer : ℚ := 0
  avrgExecution : ℚ := 0
  avrgSuspension : ℚ := 0
  lastTransfer : ℚ := 0
  lastExecution : ℚ := 0
  lastSuspension : ℚ := 0
deriving DecidableEq

/-- The weights of the host policies. -/
structure HostWeights where
  wrfixed : ℚ := 1
  wrank : ℚ := 1
  wusage : ℚ := 1
  ugRatio : ℚ := 1 / 4

/-- An entry of a match list with its terms. -/
structure RatedQueue extends SchQueue where
  usage : ℚ := 0
  nfixed : ℚ := 0
  nrank : ℚ := 0
  nusage : ℚ := 0
  priority : ℚ := 0
deriving DecidableEq

/-- The extremes of a match list. They start from the limits of `int` and `float`. -/
structure Extremes where
  maxFixed : Int := 0
  maxRank : Int := -2 ^ 31
  minRank : Int := 2 ^ 31 - 1
  minUsage : ℚ := 2 ^ 128 - 2 ^ 104
  maxUsage : ℚ := 0

/-- `gw_scheduler_host_estimated_time`. -/
def hostEstimatedTime (ugRatio : ℚ) (th : HostTimes) : ℚ :=
  let avrg := th.avrgExecution + th.avrgSuspension + th.avrgTransfer
  let last := th.lastExecution + th.lastSuspension + th.lastTransfer
  -- no information of the database, or of a last execution
  if avrg = 0 then last
  else if last = 0 then avrg
  else (1 - ugRatio) * avrg + ugRatio * last

/-- `queue_cmp`. -/
def queueCmp (r1 r2 : RatedQueue) : Int :=
  if r1.priority < r2.priority then 1
  else if r1.priority > r2.priority then -1
  else 0

/-- The usage of an entry; `none` when the user has no such host. -/
def setUsage (w : HostWeights) (times : List HostTimes) (q : SchQueue) : Option RatedQueue :=
  if w.wusage > 0 then
    (times[q.uhaId]?).map fun th => { q with usage := hostEstimatedTime w.ugRatio th }
  else some { q with }

/-- One round of the first loop. -/
def Extremes.round (x : Extremes) (q : RatedQueue) : Extremes where
  maxFixed := if q.fixed > x.maxFixed then q.fixed else x.maxFixed
  maxRank := if q.rank > x.maxRank then q.rank else x.maxRank
  minRank := if q.rank < x.minRank then q.rank else x.minRank
  minUsage := if q.usage < x.minUsage ∧ q.usage ≠ 0 then q.usage else x.minUsage
  maxUsage := if q.usage > x.maxUsage then q.usage else x.maxUsage

/-- The first loop. -/
def extremes (qs : List RatedQueue) : Extremes := qs.foldl Extremes.round {}

/-- A quotient; there is none by zero. -/
def quotient (a b : ℚ) : Option ℚ := if b = 0 then none else some (a / b)

/-- The rank term. -/
def rankTerm (x : Extremes) (q : RatedQueue) : Option ℚ :=
  if q.rank > 0 ∧ x.maxRank ≠ 0 then quotient q.rank x.maxRank
  else if q.rank < 0 ∧ x.minRank ≠ 0 then quotient (-q.rank) x.minRank
  else some 0

/-- The usage term; `0` stands for a usage that is not known. -/
def usageTerm (x : Extremes) (q : RatedQueue) : Option ℚ :=
  if q.usage = 0 then
    if x.maxUsage = 0 then some 0 else quotient x.minUsage x.maxUsage
  else quotient x.minUsage q.usage

/-- One round of the second loop; `none` when it divides by zero. -/
def rateQueue (w : HostWeights) (x : Extremes) (q : RatedQueue) : Option RatedQueue := do
  let nfixed ← quotient q.fixed x.maxFixed
  let nrank ← rankTerm x q
  let nusage ← usageTerm x q
  return { q with
    nfixed, nrank, nusage
    priority := w.wrfixed * nfixed + w.wrank * nrank + w.wusage * nusage }

/-- The second loop and the sort. -/
def arrange (sort : Qsort queueCmp) (w : HostWeights) (qs : List RatedQueue) :
    Option (List RatedQueue) :=
  (qs.mapM (rateQueue w (extremes qs))).map sort.sort

/-- `gw_scheduler_host_policies` on the match list of a job. -/
def hostPolicies (sort : Qsort queueCmp) (w : HostWeights) (times : List HostTimes)
    (mhosts : List SchQueue) : Option (List RatedQueue) := do
  arrange sort w (← mhosts.mapM (setUsage w times))

/-- The terms of an entry, when no extreme is in the way. -/
def rankShare (x : Extremes) (q : RatedQueue) : ℚ :=
  if q.rank > 0 then q.rank / x.maxRank
  else if q.rank < 0 then -q.rank / x.minRank
  else 0

/-- The usage term, when no extreme is in the way. -/
def usageShare (x : Extremes) (q : RatedQueue) : ℚ :=
  if q.usage = 0 then x.minUsage / x.maxUsage else x.minUsage / q.usage

/-- An entry with its terms. -/
def rate (w : HostWeights) (x : Extremes) (q : RatedQueue) : RatedQueue :=
  let nfixed : ℚ := q.fixed / x.maxFixed
  { q with
    nfixed, nrank := rankShare x q, nusage := usageShare x q
    priority := w.wrfixed * nfixed + w.wrank * rankShare x q + w.wusage * usageShare x q }

/-- The normalised terms of an entry. -/
structure Normalised (q : RatedQueue) : Prop where
  fixed : 0 ≤ q.nfixed ∧ q.nfixed ≤ 1
  rank : -1 ≤ q.nrank ∧ q.nrank ≤ 1
  usage : 0 ≤ q.nusage ∧ q.nusage ≤ 1

/-- Changes that speak for a host: a higher rank, a higher fixed priority, a shorter usage that is
known. -/
inductive Better : RatedQueue → RatedQueue → Prop
  | rank {q : RatedQueue} {rank : Int} (higher : q.rank ≤ rank) : Better q { q with rank }
  | fixed {q : RatedQueue} {fixed : Int} (higher : q.fixed ≤ fixed) : Better q { q with fixed }
  | usage {q : RatedQueue} {usage : ℚ} (known : 0 < usage) (shorter : usage ≤ q.usage) :
    Better q { q with usage }

/-- The extremes are those of a list. -/
structure Extremes.Proper (x : Extremes) : Prop where
  fixed : 0 ≤ x.maxFixed
  least : 0 < x.minUsage
  most : 0 ≤ x.maxUsage
  known : x.maxUsage ≠ 0 → x.minUsage ≤ x.maxUsage

/-- An entry is within the extremes. -/
structure Extremes.Covers (x : Extremes) (q : RatedQueue) : Prop where
  fixed : 0 ≤ q.fixed ∧ q.fixed ≤ x.maxFixed
  rank : x.minRank ≤ q.rank ∧ q.rank ≤ x.maxRank
  usage : 0 ≤ q.usage ∧ q.usage ≤ x.maxUsage
  known : q.usage ≠ 0 → x.minUsage ≤ q.usage

/-- The fixed priority and the usage of an entry are not negative. -/
def Sane (q : RatedQueue) : Prop := 0 ≤ q.fixed ∧ 0 ≤ q.usage

namespace Extremes

variable {x : Extremes} {a b q : RatedQueue} {qs : List RatedQueue}

@[simp] lemma round_maxFixed : (x.round q).maxFixed = max x.maxFixed q.fixed := by
  simp only [round]
  split <;> omega

@[simp] lemma round_maxRank : (x.round q).maxRank = max x.maxRank q.rank := by
  simp only [round]
  split <;> omega

@[simp] lemma round_minRank : (x.round q).minRank = min x.minRank q.rank := by
  simp only [round]
  split <;> omega

@[simp] lemma round_maxUsage : (x.round q).maxUsage = max x.maxUsage q.usage := by
  simp only [round, gt_iff_lt]
  split
  case isTrue more => exact (max_eq_right more.le).symm
  case isFalse less => exact (max_eq_left (not_lt.1 less)).symm

@[simp] lemma round_minUsage :
    (x.round q).minUsage = if q.usage = 0 then x.minUsage else min x.minUsage q.usage := by
  simp only [round]
  by_cases unknown : q.usage = 0
  · simp [unknown]
  · simp only [unknown, not_false_eq_true, and_true, if_false, ne_eq]
    split
    case isTrue less => exact (min_eq_right less.le).symm
    case isFalse more => exact (min_eq_left (not_lt.1 more)).symm

lemma Proper.init : Proper {} where
  fixed := le_refl 0
  least := by norm_num
  most := le_refl 0
  known h := absurd rfl h

lemma Proper.round (proper : Proper x) (sane : Sane q) : Proper (x.round q) where
  fixed := by simp [proper.fixed]
  least := by
    rw [round_minUsage]
    split
    case isTrue => exact proper.least
    case isFalse known => exact lt_min proper.least (lt_of_le_of_ne sane.2 (Ne.symm known))
  most := by simp [proper.most]
  known some := by
    rw [round_maxUsage] at some
    rw [round_minUsage, round_maxUsage]
    split
    case isTrue unknown =>
      rw [unknown, max_eq_left proper.most] at some ⊢
      exact proper.known some
    case isFalse => exact (min_le_right _ _).trans (le_max_right _ _)

/-- What was covered stays covered. -/
lemma Covers.round (covers : Covers x b) : Covers (x.round q) b where
  fixed := ⟨covers.fixed.1, by simp [covers.fixed.2]⟩
  rank := ⟨by simp [covers.rank.1], by simp [covers.rank.2]⟩
  usage := ⟨covers.usage.1, by simp [covers.usage.2]⟩
  known h := by
    have least := covers.known h
    rw [round_minUsage]
    split
    · exact least
    · exact (min_le_left _ _).trans least

lemma covers_round (sane : Sane q) : Covers (x.round q) q where
  fixed := ⟨sane.1, by simp⟩
  rank := ⟨by simp, by simp⟩
  usage := ⟨sane.2, by simp⟩
  known h := by simp [h]

/-- The order of two rounds does not matter. -/
lemma round_comm : (x.round a).round b = (x.round b).round a := by
  have ext {x y : Extremes} (h₁ : x.maxFixed = y.maxFixed) (h₂ : x.maxRank = y.maxRank)
      (h₃ : x.minRank = y.minRank) (h₄ : x.minUsage = y.minUsage)
      (h₅ : x.maxUsage = y.maxUsage) : x = y := by
    cases x
    cases y
    simp_all
  apply ext
  · simp [max_right_comm]
  · simp [max_right_comm]
  · simp [min_right_comm]
  · simp only [round_minUsage]
    split <;> split <;> simp_all [min_right_comm]
  · simp [max_right_comm]

/-- A loop keeps the extremes proper and covers what it has seen. -/
lemma fold_covers (proper : Proper x) (sane : ∀ q ∈ qs, Sane q) :
    Proper (qs.foldl Extremes.round x) ∧
      ∀ b, Covers x b ∨ b ∈ qs → Covers (qs.foldl Extremes.round x) b := by
  induction qs generalizing x with
  | nil => exact ⟨proper, fun b seen => seen.resolve_right (by simp)⟩
  | cons q qs ih =>
    have here := sane q (by simp)
    obtain ⟨proper', covers⟩ := ih (proper.round here) fun p mem => sane p (by simp [mem])
    refine ⟨proper', fun b seen => covers b ?_⟩
    obtain before | now := seen
    · exact .inl before.round
    · obtain rfl | later := List.mem_cons.1 now
      · exact .inl (covers_round here)
      · exact .inr later

end Extremes

variable {w : HostWeights} {x : Extremes} {a a' b q : RatedQueue} {qs : List RatedQueue}

/-- The extremes of a list cover its entries. -/
lemma extremes_covers (sane : ∀ q ∈ qs, Sane q) :
    (extremes qs).Proper ∧ ∀ q ∈ qs, (extremes qs).Covers q :=
  (Extremes.fold_covers .init sane).imp_right fun covers q mem => covers q (.inr mem)

/-- The extremes of a list are those of the other entries, after one more round. -/
lemma extremes_middle (pre post : List RatedQueue) (a : RatedQueue) :
    extremes (pre ++ a :: post) = (extremes (pre ++ post)).round a := by
  have last : (pre ++ a :: post).Perm (pre ++ post ++ [a]) :=
    List.perm_middle.trans (List.perm_append_singleton a _).symm
  rw [extremes, last.foldl_eq' fun _ _ _ _ _ => Extremes.round_comm, List.foldl_append]
  rfl

lemma rankTerm_eq (covers : x.Covers q) : rankTerm x q = some (rankShare x q) := by
  obtain ⟨low, high⟩ := covers.rank
  rw [rankTerm, rankShare]
  obtain neg | zero | pos := lt_trichotomy q.rank 0
  · have least : x.minRank ≠ 0 := by omega
    simp [neg, neg.not_gt, least, quotient]
  · simp [zero]
  · have most : x.maxRank ≠ 0 := by omega
    simp [pos, most, quotient]

lemma usageTerm_eq : usageTerm x q = some (usageShare x q) := by
  rw [usageTerm, usageShare, quotient, quotient]
  by_cases unknown : q.usage = 0
  · by_cases none : x.maxUsage = 0
    · simp [unknown, none]
    · simp [unknown, none]
  · simp [unknown]

/-- The only quotient that may be by zero is that of the fixed priorities. -/
lemma rateQueue_eq (covers : x.Covers q) :
    rateQueue w x q = if x.maxFixed = 0 then none else some (rate w x q) := by
  rw [rateQueue, rankTerm_eq covers, usageTerm_eq, quotient]
  by_cases zero : x.maxFixed = 0
  · simp [zero]
  · simp [zero, rate]

lemma rankShare_bounds (covers : x.Covers q) : -1 ≤ rankShare x q ∧ rankShare x q ≤ 1 := by
  obtain ⟨low, high⟩ := covers.rank
  rw [rankShare]
  split
  case isTrue pos =>
    have unit := Normal.unit (Int.cast_nonneg (R := ℚ) pos.le) (Int.cast_le.2 high)
    exact ⟨by linarith [unit.1], unit.2⟩
  case isFalse =>
    split
    case isTrue neg =>
      have unit := Normal.unit (K := ℚ) (neg_nonneg.2 (Int.cast_nonpos.2 neg.le))
        (neg_le_neg (Int.cast_le.2 low))
      rw [neg_div_neg_eq] at unit
      rw [neg_div]
      exact ⟨neg_le_neg unit.2, by linarith [unit.1]⟩
    case isFalse => norm_num

lemma usageShare_bounds (proper : x.Proper) (covers : x.Covers q) :
    0 ≤ usageShare x q ∧ usageShare x q ≤ 1 := by
  rw [usageShare]
  split
  case isTrue =>
    by_cases none : x.maxUsage = 0
    · simp [none]
    · exact Normal.unit proper.least.le (proper.known none)
  case isFalse known => exact Normal.unit proper.least.le (covers.known known)

lemma rate_normalised (proper : x.Proper) (covers : x.Covers q) : Normalised (rate w x q) where
  fixed := Normal.unit (Int.cast_nonneg covers.fixed.1) (Int.cast_le.2 covers.fixed.2)
  rank := rankShare_bounds covers
  usage := usageShare_bounds proper covers

/-- A rank term after one more round: both signs are shares of a largest value. -/
lemma rankShare_round : rankShare (x.round a) q =
    if q.rank > 0 then (q.rank : ℚ) / max (x.maxRank : ℚ) a.rank
    else if q.rank < 0 then -((-q.rank : ℚ) / max (-x.minRank : ℚ) (-a.rank)) else 0 := by
  rw [rankShare, Extremes.round_maxRank, Extremes.round_minRank, Int.cast_max, Int.cast_min,
    max_neg_neg, neg_div_neg_eq, neg_div]

/-- A raised rank comes closer to the best one, or leaves the worst one behind. -/
lemma rank_raise {r : Int} (x : Extremes) (higher : a.rank ≤ r) :
    rankShare (x.round a) a ≤ rankShare (x.round { a with rank := r }) { a with rank := r } := by
  have higher' : (a.rank : ℚ) ≤ r := Int.cast_le.2 higher
  rw [rankShare_round, rankShare_round]
  obtain neg | zero | pos := lt_trichotomy a.rank 0
  · have neg' : (0 : ℚ) < -a.rank := by simpa using neg
    have below : -((-a.rank : ℚ) / max (-x.minRank : ℚ) (-a.rank)) ≤ 0 :=
      neg_nonpos.2 (div_nonneg neg'.le (neg'.le.trans (le_max_right _ _)))
    simp only [neg, neg.not_gt, if_true, if_false]
    obtain neg'' | zero | pos := lt_trichotomy r 0
    · have neg₃ : (0 : ℚ) < -r := by simpa using neg''
      simp only [neg'', neg''.not_gt, if_true, if_false]
      exact neg_le_neg (Normal.peak_raise neg₃.le (neg_le_neg higher')
        (neg₃.trans_le (le_max_right _ _)))
    · simpa [zero] using below
    · simp only [pos, if_true]
      have pos' : (0 : ℚ) < r := Int.cast_pos.2 pos
      exact below.trans (div_nonneg pos'.le (pos'.le.trans (le_max_right _ _)))
  · rw [if_neg (by omega), if_neg (by omega)]
    split
    case isTrue pos =>
      have pos' : (0 : ℚ) < r := Int.cast_pos.2 pos
      exact div_nonneg pos'.le (pos'.le.trans (le_max_right _ _))
    case isFalse =>
      rw [if_neg (by dsimp only; omega)]
  · have pos' : (0 : ℚ) < a.rank := Int.cast_pos.2 pos
    rw [if_pos pos, if_pos (by dsimp only; omega)]
    exact Normal.peak_raise pos'.le higher' (pos'.trans_le (le_max_right _ _))

/-- The ranks of the others fall back. -/
lemma rank_other {r : Int} (covers : x.Covers b) (higher : a.rank ≤ r) :
    rankShare (x.round { a with rank := r }) b ≤ rankShare (x.round a) b := by
  have higher' : (a.rank : ℚ) ≤ r := Int.cast_le.2 higher
  obtain ⟨low, high⟩ := covers.rank
  rw [rankShare_round, rankShare_round]
  obtain neg | zero | pos := lt_trichotomy b.rank 0
  · have neg' : (0 : ℚ) < -b.rank := by simpa using neg
    have least : (-b.rank : ℚ) ≤ -x.minRank := neg_le_neg (Int.cast_le.2 low)
    simp only [neg, neg.not_gt, if_true, if_false]
    exact neg_le_neg (Normal.peak_other neg'.le (neg_le_neg higher')
      (neg'.trans_le (least.trans (le_max_left _ _))))
  · simp [zero]
  · have pos' : (0 : ℚ) < b.rank := Int.cast_pos.2 pos
    have most : (b.rank : ℚ) ≤ x.maxRank := Int.cast_le.2 high
    simp only [pos, if_true]
    exact Normal.peak_other pos'.le higher' (pos'.trans_le (most.trans (le_max_left _ _)))

/-- A shortened usage comes closer to the shortest one. -/
lemma usage_gains {t : ℚ} (proper : x.Proper) (covers : x.Covers b) (known : 0 < t)
    (shorter : t ≤ a.usage) :
    usageShare (x.round a) a - usageShare (x.round a) b ≤
      usageShare (x.round { a with usage := t }) { a with usage := t } -
        usageShare (x.round { a with usage := t }) b := by
  have known' : a.usage ≠ 0 := (known.trans_le shorter).ne'
  simp only [usageShare, Extremes.round_minUsage, Extremes.round_maxUsage, known.ne', known',
    if_false]
  split
  case isTrue => exact Normal.floor_unknown proper.least known shorter
  case isFalse =>
    have own := Normal.floor_shorten proper.least known shorter
    have other := Normal.floor_other x.minUsage covers.usage.1 shorter
    linarith

/-- A raised fixed priority comes closer to the highest one. -/
lemma fixed_gains {f : Int} (covers : x.Covers b) (sane : Sane a) (higher : a.fixed ≤ f)
    (some : 0 < (x.round a).maxFixed) :
    (a.fixed / (x.round a).maxFixed : ℚ) - b.fixed / (x.round a).maxFixed ≤
      f / (x.round { a with fixed := f }).maxFixed -
        b.fixed / (x.round { a with fixed := f }).maxFixed := by
  have higher' : (a.fixed : ℚ) ≤ f := Int.cast_le.2 higher
  have pos : (0 : ℚ) < (x.round a).maxFixed := Int.cast_pos.2 some
  simp only [Extremes.round_maxFixed, Int.cast_max] at pos ⊢
  have own := Normal.peak_raise (Int.cast_nonneg sane.1) higher' pos
  have other := Normal.peak_other (Int.cast_nonneg covers.fixed.1) higher' pos
  linarith

/-- A change for the better does not narrow the lead that a host has. -/
lemma better_gains (weights : 0 ≤ w.wrfixed ∧ 0 ≤ w.wrank ∧ 0 ≤ w.wusage) (proper : x.Proper)
    (covers : x.Covers b) (sane : Sane a) (better : Better a a') (some : 0 < (x.round a).maxFixed) :
    (rate w (x.round a) a).priority - (rate w (x.round a) b).priority ≤
      (rate w (x.round a') a').priority - (rate w (x.round a') b).priority := by
  cases better with
  | @rank r higher =>
    -- the rounds agree on the fixed priorities and on the usages
    have own := mul_le_mul_of_nonneg_left (rank_raise x higher) weights.2.1
    have other := mul_le_mul_of_nonneg_left (rank_other covers higher) weights.2.1
    have same (q : RatedQueue) : usageShare (x.round { a with rank := r }) q =
      usageShare (x.round a) q := by simp [usageShare]
    have same' : usageShare (x.round a) { a with rank := r } = usageShare (x.round a) a := rfl
    simp only [rate, same, same', Extremes.round_maxFixed]
    linarith
  | @fixed f higher =>
    have gain := mul_le_mul_of_nonneg_left (fixed_gains covers sane higher some) weights.1
    have same (q : RatedQueue) : usageShare (x.round { a with fixed := f }) q =
      usageShare (x.round a) q := by simp [usageShare]
    have same' (q : RatedQueue) : rankShare (x.round { a with fixed := f }) q =
      rankShare (x.round a) q := by simp [rankShare]
    have own : usageShare (x.round a) { a with fixed := f } = usageShare (x.round a) a := rfl
    have own' : rankShare (x.round a) { a with fixed := f } = rankShare (x.round a) a := rfl
    simp only [rate, same, same', own, own']
    linarith
  | @usage t known shorter =>
    have gain := mul_le_mul_of_nonneg_left (usage_gains proper covers known shorter) weights.2.2
    have same (q : RatedQueue) : rankShare (x.round { a with usage := t }) q =
      rankShare (x.round a) q := by simp [rankShare]
    have own : rankShare (x.round a) { a with usage := t } = rankShare (x.round a) a := rfl
    simp only [rate, same, own, Extremes.round_maxFixed]
    linarith

/-- Of two entries that both lists have, the first one does not come to stand behind the second. -/
structure StaysAhead (w : HostWeights) (qs qs' out out' : List RatedQueue) (a a' b : RatedQueue) :
    Prop where
  /-- What stood in front has no lower priority afterwards. -/
  level : [rate w (extremes qs) a, rate w (extremes qs) b].Sublist out →
    (rate w (extremes qs') b).priority ≤ (rate w (extremes qs') a').priority
  /-- What had the higher priority stands in front afterwards. -/
  front : (rate w (extremes qs) b).priority < (rate w (extremes qs) a).priority →
    [rate w (extremes qs') a', rate w (extremes qs') b].Sublist out' ∧
      ¬ [rate w (extremes qs') b, rate w (extremes qs') a'].Sublist out'

section

variable {sort : Qsort queueCmp} {times : List HostTimes} {mhosts : List SchQueue}

lemma queueCmp_le (r1 r2 : RatedQueue) : queueCmp r1 r2 ≤ 0 ↔ r2.priority ≤ r1.priority := by
  rw [queueCmp]
  split
  case isTrue less => simp [less]
  case isFalse more =>
    have le := not_lt.1 more
    split <;> simp [le]

lemma queueCmp_pos (r1 r2 : RatedQueue) : 0 < queueCmp r1 r2 ↔ r1.priority < r2.priority := by
  rw [← not_le, queueCmp_le, not_le]

/-- A sort of the entries. -/
def queueSort : Qsort queueCmp :=
  .merge (fun a b c first second => (queueCmp_le a c).2
      (((queueCmp_le b c).1 second).trans ((queueCmp_le a b).1 first)))
    (fun a b => (le_total b.priority a.priority).imp (queueCmp_le a b).2 (queueCmp_le b a).2)

/-- A loop whose rounds all have a result. -/
lemma mapM_some {α β : Type*} {f : α → Option β} {g : α → β} {xs : List α}
    (each : ∀ x ∈ xs, f x = some (g x)) : xs.mapM f = some (xs.map g) := by
  induction xs with
  | nil => rfl
  | cons x xs ih =>
    rw [List.mapM_cons, each x (by simp), ih fun y mem => each y (by simp [mem])]
    rfl

/-- A loop that has a result has one for every entry. -/
lemma mapM_each {α β : Type*} {f : α → Option β} {xs : List α} {ys : List β}
    (ran : xs.mapM f = some ys) : ∀ x ∈ xs, (f x).isSome := by
  induction xs generalizing ys with
  | nil => simp
  | cons x xs ih =>
    rw [List.mapM_cons] at ran
    obtain ⟨y, here, ran⟩ := Option.bind_eq_some_iff.1 ran
    obtain ⟨ys, rest, -⟩ := Option.bind_eq_some_iff.1 ran
    exact List.forall_mem_cons.2 ⟨by simp [here], ih rest⟩

/-- The highest fixed priority of a list. -/
lemma maxFixed_pos (sane : ∀ q ∈ qs, Sane q) (some : ∃ q ∈ qs, q.fixed ≠ 0) :
    0 < (extremes qs).maxFixed := by
  obtain ⟨q, mem, used⟩ := some
  have covers := ((extremes_covers sane).2 q mem).fixed
  omega

/-- The list with the priorities. -/
lemma arrange_eq (sort : Qsort queueCmp) (w : HostWeights) (sane : ∀ q ∈ qs, Sane q)
    (some : ∃ q ∈ qs, q.fixed ≠ 0) :
    arrange sort w qs = .some (sort.sort (qs.map (rate w (extremes qs)))) := by
  have each : ∀ q ∈ qs, rateQueue w (extremes qs) q = .some (rate w (extremes qs) q) := by
    intro q mem
    rw [rateQueue_eq ((extremes_covers sane).2 q mem), if_neg (maxFixed_pos sane some).ne']
  rw [arrange, mapM_some each]
  rfl

/-- The usages of the first loop. -/
lemma setUsage_all (hosts : ∀ q ∈ mhosts, q.uhaId < times.length)
    (usage : ∀ th ∈ times, 0 ≤ hostEstimatedTime w.ugRatio th) :
    ∃ qs, mhosts.mapM (setUsage w times) = some qs ∧ qs.map (·.toSchQueue) = mhosts ∧
      ∀ q ∈ qs, 0 ≤ q.usage := by
  induction mhosts with
  | nil => exact ⟨[], rfl, rfl, by simp⟩
  | cons q mhosts ih =>
    obtain ⟨qs, rest, same, times_nonneg⟩ := ih fun p mem => hosts p (by simp [mem])
    have here := hosts q (by simp)
    obtain ⟨r, rated, same_q, nonneg⟩ : ∃ r, setUsage w times q = some r ∧ r.toSchQueue = q ∧
        0 ≤ r.usage := by
      rw [setUsage]
      split
      case isTrue =>
        rw [List.getElem?_eq_getElem here]
        exact ⟨_, rfl, rfl, usage _ (List.getElem_mem here)⟩
      case isFalse => exact ⟨_, rfl, rfl, le_refl 0⟩
    refine ⟨r :: qs, ?_, ?_, ?_⟩
    · rw [List.mapM_cons, rated, rest]
      rfl
    · rw [List.map_cons, same, same_q]
    · exact List.forall_mem_cons.2 ⟨nonneg, times_nonneg⟩

lemma Better.sane (better : Better a a') (sane : Sane a) : Sane a' := by
  cases better with
  | rank higher => exact sane
  | fixed higher => exact ⟨sane.1.trans higher, sane.2⟩
  | usage known shorter => exact ⟨sane.1, known.le⟩

lemma Better.used (better : Better a a') (sane : Sane a) (used : a.fixed ≠ 0) : a'.fixed ≠ 0 := by
  have low := sane.1
  cases better with
  | rank higher => exact used
  | fixed higher => exact (lt_of_lt_of_le (by omega : 0 < a.fixed) higher).ne'
  | usage known shorter => exact used

/-- A host that is changed for the better, within its list. -/
lemma better_stays (sort : Qsort queueCmp) (weights : 0 ≤ w.wrfixed ∧ 0 ≤ w.wrank ∧ 0 ≤ w.wusage)
    {pre post : List RatedQueue} (sane : ∀ q ∈ pre ++ a :: post, Sane q)
    (some : ∃ q ∈ pre ++ a :: post, q.fixed ≠ 0) (better : Better a a') :
    ∃ out out', arrange sort w (pre ++ a :: post) = .some out ∧
      arrange sort w (pre ++ a' :: post) = .some out' ∧
      ∀ b ∈ pre ++ post,
        StaysAhead w (pre ++ a :: post) (pre ++ a' :: post) out out' a a' b := by
  have sane_a := sane a (by simp)
  have sane_rest : ∀ q ∈ pre ++ post, Sane q := fun q mem => sane q (by
    obtain before | after := List.mem_append.1 mem
    · simp [before]
    · simp [after])
  have sane' : ∀ q ∈ pre ++ a' :: post, Sane q := by
    intro q mem
    obtain rfl | rest : q = a' ∨ q ∈ pre ++ post := by simpa [or_left_comm] using mem
    · exact better.sane sane_a
    · exact sane_rest q rest
  have some' : ∃ q ∈ pre ++ a' :: post, q.fixed ≠ 0 := by
    obtain ⟨q, mem, used⟩ := some
    obtain rfl | rest : q = a ∨ q ∈ pre ++ post := by simpa [or_left_comm] using mem
    · exact ⟨a', by simp, better.used sane_a used⟩
    · refine ⟨q, ?_, used⟩
      rw [List.mem_append, List.mem_cons, or_left_comm]
      exact .inr (List.mem_append.1 rest)
  refine ⟨_, _, arrange_eq sort w sane some, arrange_eq sort w sane' some', fun b mem => ?_⟩
  obtain ⟨proper, covers⟩ := extremes_covers sane_rest
  have gain := better_gains weights proper (covers b mem) sane_a better
    (by rw [← extremes_middle]; exact maxFixed_pos sane some)
  rw [← extremes_middle, ← extremes_middle] at gain
  constructor
  · intro front
    have le := (queueCmp_le _ _).1 (by simpa using (sort.sorted _).sublist front)
    linarith
  · intro higher
    have higher' := (queueCmp_pos _ _).2 (by linarith :
      (rate w (extremes (pre ++ a' :: post)) b).priority <
        (rate w (extremes (pre ++ a' :: post)) a').priority)
    refine ⟨sort.in_front higher' ?_ ?_ ?_, sort.not_in_front _ higher'⟩
    · exact (queueCmp_le _ _).2 ((queueCmp_pos _ _).1 higher').le
    · exact List.mem_map_of_mem (by simp)
    · apply List.mem_map_of_mem
      simpa [or_left_comm] using Or.inr (List.mem_append.1 mem)

end

/-- A loop that keeps a part of every entry. -/
lemma mapM_keeps {α β γ : Type*} {f : α → Option β} {g : β → γ} {h : α → γ}
    (keeps : ∀ x y, f x = some y → g y = h x) :
    ∀ {xs : List α} {ys : List β}, xs.mapM f = some ys → ys.map g = xs.map h := by
  intro xs
  induction xs with
  | nil =>
    intro ys ran
    obtain rfl := Option.some.inj ran
    rfl
  | cons x xs ih =>
    intro ys ran
    rw [List.mapM_cons] at ran
    obtain ⟨y, here, ran⟩ := Option.bind_eq_some_iff.1 ran
    obtain ⟨ys, rest, ran⟩ := Option.bind_eq_some_iff.1 ran
    obtain rfl := Option.some.inj ran
    rw [List.map_cons, List.map_cons, keeps x y here, ih rest]

lemma setUsage_keeps {times : List HostTimes} {p : SchQueue} (set : setUsage w times p = some q) :
    q.toSchQueue = p := by
  rw [setUsage] at set
  split at set
  case isTrue =>
    obtain ⟨th, -, rfl⟩ := Option.map_eq_some_iff.1 set
    rfl
  case isFalse =>
    obtain rfl := Option.some.inj set
    rfl

lemma rateQueue_keeps {p : RatedQueue} (rated : rateQueue w x p = some q) :
    q.toSchQueue = p.toSchQueue := by
  rw [rateQueue] at rated
  obtain ⟨nfixed, -, rated⟩ := Option.bind_eq_some_iff.1 rated
  obtain ⟨nrank, -, rated⟩ := Option.bind_eq_some_iff.1 rated
  obtain ⟨nusage, -, rated⟩ := Option.bind_eq_some_iff.1 rated
  obtain rfl := Option.some.inj rated
  rfl

/-- Every rearrangement of a list is given by an order. -/
lemma permute_of_perm {α : Type*} {xs ys : List α} (perm : ys.Perm xs) :
    ∃ order, permute order xs = ys := by
  -- the entries with their positions are rearranged in the same way
  have names : List.Forall₂ (fun x (p : α × Nat) => x = p.1) xs xs.zipIdx := by
    rw [← List.forall₂_map_right_iff (R := Eq), List.forall₂_eq_eq_eq, List.zipIdx_map_fst]
  obtain ⟨ps, same, moved⟩ := List.perm_comp_forall₂ perm names
  have same : ys = ps.map Prod.fst := by
    rw [← List.forall₂_eq_eq_eq]
    exact (List.forall₂_map_right_iff).2 same
  have order : (ps.map Prod.snd).Perm (List.range xs.length) := by
    rw [List.range_eq_range', ← List.zipIdx_map_snd]
    exact moved.map _
  have entry : ∀ p ∈ ps, xs[p.2]? = some p.1 := fun p mem =>
    List.mem_zipIdx_iff_getElem?.1 (moved.mem_iff.1 mem)
  refine ⟨ps.map Prod.snd, ?_⟩
  rw [permute, if_pos order, List.filterMap_map, same, ← List.filterMap_eq_map]
  exact List.filterMap_congr entry

lemma hostPolicies_perm {sort : Qsort queueCmp} {times : List HostTimes} {mhosts : List SchQueue}
    {out : List RatedQueue} (ran : hostPolicies sort w times mhosts = some out) :
    (out.map (·.toSchQueue)).Perm mhosts := by
  obtain ⟨qs, set, ran⟩ := Option.bind_eq_some_iff.1 ran
  obtain ⟨rated, rates, rfl⟩ := Option.map_eq_some_iff.1 ran
  have names := (mapM_keeps (fun _ _ => rateQueue_keeps) rates).trans
    (mapM_keeps (fun _ _ => setUsage_keeps) set)
  rw [List.map_id'] at names
  exact names ▸ (sort.perm rated).map _

/-- The policies give one of the orders that the scheduler takes for them. -/
theorem hostPolicies_order {sort : Qsort queueCmp} {times : List HostTimes}
    {mhosts : List SchQueue} {out : List RatedQueue}
    (ran : hostPolicies sort w times mhosts = some out) :
    ∃ order, permute order mhosts = out.map (·.toSchQueue) :=
  permute_of_perm (hostPolicies_perm ran)

/-- What a host list is after the policies. The match list is permuted, by priority, with normalised
terms; and a host that is changed for the better stays ahead of those it was ahead of. -/
theorem hostPolicies_sound (sort : Qsort queueCmp) (w : HostWeights) (times : List HostTimes)
    (mhosts : List SchQueue) (weights : 0 ≤ w.wrfixed ∧ 0 ≤ w.wrank ∧ 0 ≤ w.wusage)
    (hosts : ∀ q ∈ mhosts, q.uhaId < times.length)
    (usage : ∀ th ∈ times, 0 ≤ hostEstimatedTime w.ugRatio th)
    (fixed : ∀ q ∈ mhosts, 0 ≤ q.fixed) (some : ∃ q ∈ mhosts, q.fixed ≠ 0) :
    ∃ qs out, mhosts.mapM (setUsage w times) = .some qs ∧
      hostPolicies sort w times mhosts = .some out ∧
      (out.map (·.toSchQueue)).Perm mhosts ∧
      (∀ q ∈ out, Normalised q) ∧
      (out.Pairwise fun a b => b.priority ≤ a.priority) ∧
      ∀ pre a post a', qs = pre ++ a :: post → Better a a' →
        ∃ out', arrange sort w (pre ++ a' :: post) = .some out' ∧
          ∀ b ∈ pre ++ post, StaysAhead w qs (pre ++ a' :: post) out out' a a' b := by
  obtain ⟨qs, set, same, usages⟩ := setUsage_all hosts usage
  have sane : ∀ q ∈ qs, Sane q := by
    intro q mem
    exact ⟨fixed q.toSchQueue (same ▸ List.mem_map_of_mem mem), usages q mem⟩
  have used : ∃ q ∈ qs, q.fixed ≠ 0 := by
    obtain ⟨q, mem, used⟩ := some
    obtain ⟨r, mem_r, rfl⟩ := List.mem_map.1 (same.symm ▸ mem)
    exact ⟨r, mem_r, used⟩
  obtain ⟨proper, covers⟩ := extremes_covers sane
  have ran : hostPolicies sort w times mhosts =
      .some (sort.sort (qs.map (rate w (extremes qs)))) := by
    rw [hostPolicies, set]
    exact arrange_eq sort w sane used
  refine ⟨qs, _, set, ran, ?_, ?_, ?_, ?_⟩
  · exact hostPolicies_perm ran
  · intro q mem
    obtain ⟨r, mem_r, rfl⟩ := List.mem_map.1 (sort.mem.1 mem)
    exact rate_normalised proper (covers r mem_r)
  · exact sort.order _ fun a b => (queueCmp_le a b).1
  · rintro pre a post a' rfl better
    obtain ⟨out, out', first, second, stays⟩ := better_stays sort weights sane used better
    obtain rfl := Option.some.inj ((arrange_eq sort w sane used).symm.trans first)
    exact ⟨out', second, stays⟩

/-- A list of two hosts, one of which was never used. -/
theorem hostPolicies_sound_pair :
    let mhosts : List SchQueue :=
      [{ haId := 0, uhaId := 0, qname := "a", slots := 1, fixed := 1, rank := -3 },
       { haId := 1, uhaId := 1, qname := "b", slots := 2, fixed := 0, rank := 4 }]
    ∃ qs out, mhosts.mapM (setUsage {} [{}, { lastExecution := 7 }]) = .some qs ∧
      hostPolicies queueSort {} [{}, { lastExecution := 7 }] mhosts = .some out ∧
      (out.map (·.toSchQueue)).Perm mhosts ∧
      (∀ q ∈ out, Normalised q) ∧
      (out.Pairwise fun a b => b.priority ≤ a.priority) ∧
      ∀ pre a post a', qs = pre ++ a :: post → Better a a' →
        ∃ out', arrange queueSort {} (pre ++ a' :: post) = .some out' ∧
          ∀ b ∈ pre ++ post, StaysAhead {} qs (pre ++ a' :: post) out out' a a' b :=
  hostPolicies_sound queueSort {} [{}, { lastExecution := 7 }] _ (by norm_num) (by decide)
    (by norm_num [hostEstimatedTime]) (by decide) ⟨_, List.mem_cons_self, by decide⟩

/-- A host that becomes unknown falls behind one it was ahead of, and so does a host whose rank is
raised where the weight of the ranks is negative. -/
theorem better_falls_behind :
    (¬ ∀ (pre post : List RatedQueue) (a b : RatedQueue) (usage : ℚ),
      0 ≤ usage → usage ≤ a.usage → b ∈ pre ++ post →
        (rate {} (extremes (pre ++ a :: post)) b).priority <
          (rate {} (extremes (pre ++ a :: post)) a).priority →
        (rate {} (extremes (pre ++ { a with usage } :: post)) b).priority ≤
          (rate {} (extremes (pre ++ { a with usage } :: post)) { a with usage }).priority) ∧
    ¬ ∀ (w : HostWeights) (pre post : List RatedQueue) (a b : RatedQueue) (rank : Int),
      a.rank ≤ rank → b ∈ pre ++ post →
        (rate w (extremes (pre ++ a :: post)) b).priority <
          (rate w (extremes (pre ++ a :: post)) a).priority →
        (rate w (extremes (pre ++ { a with rank } :: post)) b).priority ≤
          (rate w (extremes (pre ++ { a with rank } :: post)) { a with rank }).priority := by
  let host (id : Nat) (rank : Int) (usage : ℚ) : RatedQueue :=
    { haId := id, uhaId := id, qname := "q", slots := 1, fixed := 1, rank, usage }
  constructor
  · intro always
    have behind := always [] [host 1 0 3, host 2 0 6] (host 0 0 2) (host 1 0 3) 0 (le_refl 0)
      (by norm_num [host]) (by simp)
    norm_num [host, rate, extremes, Extremes.round, rankShare, usageShare] at behind
  · intro always
    have behind := always { wrank := -1 } [] [host 1 1 0] (host 0 0 0) (host 1 1 0) 2
      (by norm_num [host]) (by simp)
    norm_num [host, rate, extremes, Extremes.round, rankShare, usageShare] at behind

end Scheduler

end GridWay
