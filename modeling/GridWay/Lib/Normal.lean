import Mathlib.Algebra.Order.Field.Basic
import Mathlib.Tactic.Linarith

/-!
# Normalised terms

A term is normalised by an extreme of the list it is in: a value by the largest one, a cost by the
smallest one. To change one entry of the list moves the extreme too, and with it the terms of all
the others, but never to the advantage of another entry.

* `Normal.peak_raise`, `Normal.peak_other`: a value is raised.
* `Normal.floor_shorten`, `Normal.floor_other`: a cost is shortened.
-/

namespace GridWay.Normal

variable {K : Type*} [Field K] [LinearOrder K] [IsStrictOrderedRing K]
variable {m f g b t u : K}

lemma unit (low : 0 ≤ f) (high : f ≤ m) : 0 ≤ f / m ∧ f / m ≤ 1 :=
  ⟨div_nonneg low (low.trans high), div_le_one_of_le₀ high (low.trans high)⟩

/-- The entry that is raised comes closer to the largest one. -/
lemma peak_raise (low : 0 ≤ f) (raise : f ≤ g) (pos : 0 < max m f) :
    f / max m f ≤ g / max m g := by
  obtain below | above := le_total g m
  · rw [max_eq_left (raise.trans below), max_eq_left below]
    rw [max_eq_left (raise.trans below)] at pos
    exact div_le_div_of_nonneg_right raise pos.le
  · rw [max_eq_right above]
    obtain zero | pos' := (low.trans raise).eq_or_lt
    · have : f = 0 := le_antisymm (zero ▸ raise) low
      simp [this, ← zero]
    · rw [div_self pos'.ne']
      exact (unit low (le_max_right m f)).2

/-- The others fall back. -/
lemma peak_other (low : 0 ≤ b) (raise : f ≤ g) (pos : 0 < max m f) :
    b / max m g ≤ b / max m f :=
  div_le_div_of_nonneg_left low pos (max_le_max_left m raise)

/-- The entry that is shortened comes closer to the smallest one. -/
lemma floor_shorten (pos : 0 < m) (known : 0 < t) (shorten : t ≤ u) :
    min m u / u ≤ min m t / t := by
  have known' := known.trans_le shorten
  obtain below | above := le_total m t
  · rw [min_eq_left (below.trans shorten), min_eq_left below]
    exact div_le_div_of_nonneg_left pos.le known shorten
  · rw [min_eq_right above, div_self known.ne']
    exact div_le_one_of_le₀ (min_le_right m u) known'.le

/-- The others fall back. -/
lemma floor_other (m : K) (low : 0 ≤ b) (shorten : t ≤ u) : min m t / b ≤ min m u / b :=
  div_le_div_of_nonneg_right (min_le_min_left m shorten) low

/-- An entry without a cost is given the largest one; the entry that is shortened gains on it too. -/
lemma floor_unknown {M : K} (pos : 0 < m) (known : 0 < t) (shorten : t ≤ u) :
    min m u / u - min m u / max M u ≤ min m t / t - min m t / max M t := by
  have known' := known.trans_le shorten
  obtain below | above := le_total u M
  · have own := floor_shorten pos known shorten
    have other := floor_other m (known'.le.trans below) shorten
    rw [max_eq_left below, max_eq_left (shorten.trans below)]
    linarith
  · rw [max_eq_right above, sub_self, sub_nonneg]
    exact div_le_div_of_nonneg_left (le_min pos.le known.le) known (le_max_right M t)

end GridWay.Normal
