import GridWay.Jt.Template
import Mathlib.Data.List.Infix

/-!
# The placeholders of the library

The values of a template may contain placeholders, which the library replaces when it writes them
(`drmaa_gw_jt_parse`). A loop replaces the first occurrence as long as there is one. Two of the
replacements are shorter than their placeholders, and the third is the home directory of the user,
which may be longer.

* `drmaa_gw_jt_parse`: the three loops.
* `parse_returns`: the loops end.
* `parse_returns_iff`: the home directories for which they end.
-/

namespace GridWay.Drmaa

open Jt (Text)

/-- `strstr`: the text in front of the first occurrence, and the text behind it. -/
def strstr (ph : Text) : Text → Option (Text × Text)
  | [] => none
  | c :: cs =>
    if ph.isPrefixOf (c :: cs) then some ([], (c :: cs).drop ph.length)
    else (strstr ph cs).map fun (before, behind) => (c :: before, behind)

/-- A placeholder is replaced where it comes first, as long as there is one. The loop has no result
when it has not ended after a number of rounds. -/
def replaced (ph word : Text) : ℕ → Text → Option Text
  | 0, _ => none
  | rounds + 1, x =>
    match strstr ph x with
    | none => some x
    | some (before, behind) => replaced ph word rounds (before ++ word ++ behind)

/-- `DRMAA_PLACEHOLDER_INCR`. -/
def DRMAA_PLACEHOLDER_INCR : Text := "$drmaa_incr_ph$".toList

/-- `DRMAA_PLACEHOLDER_WD`. -/
def DRMAA_PLACEHOLDER_WD : Text := "$drmaa_wd_ph$".toList

/-- `DRMAA_PLACEHOLDER_HD`. -/
def DRMAA_PLACEHOLDER_HD : Text := "$drmaa_hd_ph$".toList

/-- `DRMAA_GW_PARAM`. -/
def DRMAA_GW_PARAM : Text := "$\x7bPARAM\x7d".toList

/-- `drmaa_gw_jt_parse`, for a user with a home directory. -/
def drmaa_gw_jt_parse (home : Text) (rounds : ℕ) (value : Text) : Option Text := do
  let value ← replaced DRMAA_PLACEHOLDER_INCR DRMAA_GW_PARAM rounds value
  let value ← replaced DRMAA_PLACEHOLDER_WD [] rounds value
  replaced DRMAA_PLACEHOLDER_HD home rounds value

section Loops

variable {ph word x y before behind : Text} {rounds : ℕ}

/-- What is found is in the text. -/
lemma strstr_eq (found : strstr ph x = some (before, behind)) : x = before ++ (ph ++ behind) := by
  induction x generalizing before with
  | nil => cases found
  | cons c cs ih =>
    rw [strstr] at found
    split at found
    case isTrue here =>
      obtain ⟨rest, eq⟩ := List.isPrefixOf_iff_prefix.1 here
      cases found
      rw [← eq, List.drop_left, List.nil_append]
    case isFalse =>
      obtain ⟨⟨b, a⟩, later, eq⟩ := Option.map_eq_some_iff.1 found
      cases eq
      exact congrArg (c :: ·) (ih later)

/-- Nothing is found in a text without an occurrence. -/
lemma strstr_none (some_ph : ph ≠ []) : strstr ph x = none ↔ ¬ ph <:+: x := by
  induction x with
  | nil => exact iff_of_true rfl fun inside => some_ph (List.infix_nil.1 inside)
  | cons c cs ih =>
    rw [strstr, List.infix_cons_iff]
    split
    case isTrue here =>
      exact iff_of_false (Option.some_ne_none _)
        (not_not.2 (.inl (List.isPrefixOf_iff_prefix.1 here)))
    case isFalse other =>
      rw [Option.map_eq_none_iff, ih, not_or]
      exact (and_iff_right fun here => other (List.isPrefixOf_iff_prefix.2 here)).symm

/-- What is found comes first. -/
lemma strstr_first (some_ph : ph ≠ []) (found : strstr ph x = some (before, behind)) :
    ¬ ph <:+: before := by
  induction x generalizing before with
  | nil => cases found
  | cons c cs ih =>
    rw [strstr] at found
    split at found
    case isTrue =>
      cases found
      exact fun inside => some_ph (List.infix_nil.1 inside)
    case isFalse other =>
      obtain ⟨⟨b, a⟩, later, eq⟩ := Option.map_eq_some_iff.1 found
      cases eq
      have whole : c :: b <+: c :: cs := ⟨ph ++ behind, (congrArg (c :: ·) (strstr_eq later)).symm⟩
      rw [List.infix_cons_iff]
      rintro (here | inside)
      · exact other (List.isPrefixOf_iff_prefix.2 (here.trans whole))
      · exact ih later inside

/-- A text without the placeholder stays as it is. -/
lemma replaced_same (some_ph : ph ≠ []) (absent : ¬ ph <:+: x)
    (result : replaced ph word rounds x = some y) : y = x := by
  cases rounds with
  | zero => cases result
  | succ rounds =>
    rw [replaced, (strstr_none some_ph).2 absent] at result
    exact (Option.some.inj result).symm

/-- A loop ends that makes the text shorter. -/
lemma replaced_shorter (shorter : word.length < ph.length) (enough : x.length < rounds) :
    ∃ y, replaced ph word rounds x = some y ∧ y.length ≤ x.length := by
  induction rounds generalizing x with
  | zero => exact absurd enough (Nat.not_lt_zero _)
  | succ rounds ih =>
    rw [replaced]
    cases found : strstr ph x with
    | none => exact ⟨x, rfl, le_rfl⟩
    | some parts =>
      obtain ⟨before, behind⟩ := parts
      have size := congrArg List.length (strstr_eq found)
      have less : (before ++ word ++ behind).length < x.length := by
        simp only [List.length_append] at size ⊢
        omega
      obtain ⟨y, result, le⟩ := ih (x := before ++ word ++ behind) (by omega)
      exact ⟨y, result, le.trans less.le⟩

/-- No occurrence reaches into an absolute path. -/
lemma absent_absolute {dir : Text} (slash : '/' ∉ ph) (absent : ¬ ph <:+: before)
    (absent' : ¬ ph <:+: '/' :: dir) : ¬ ph <:+: before ++ '/' :: dir := by
  rw [List.infix_append_iff]
  rintro (inside | inside | ⟨front, back, rfl, ends, starts⟩)
  · exact absent inside
  · exact absent' inside
  · cases back with
    | nil =>
      rw [List.append_nil] at absent
      exact absent ends.isInfix
    | cons c cs =>
      obtain rfl : c = '/' := (List.cons_prefix_cons.1 starts).1
      exact slash (List.mem_append_right _ (List.mem_cons_self ..))

/-- A loop ends that writes an absolute path without the placeholder: what is behind the path that
was written last becomes shorter. -/
lemma replaced_absolute {dir front : Text} (some_ph : ph ≠ []) (slash : '/' ∉ ph)
    (absent : ¬ ph <:+: '/' :: dir) (done : ¬ ph <:+: front) (enough : x.length < rounds) :
    ∃ y, replaced ph ('/' :: dir) rounds (front ++ x) = some y := by
  induction rounds generalizing front x with
  | zero => exact absurd enough (Nat.not_lt_zero _)
  | succ rounds ih =>
    rw [replaced]
    cases found : strstr ph (front ++ x) with
    | none => exact ⟨front ++ x, rfl⟩
    | some parts =>
      obtain ⟨before, behind⟩ := parts
      have eq : front ++ x = before ++ ph ++ behind := by
        rw [strstr_eq found, List.append_assoc]
      have less : behind.length < x.length := by
        by_contra long
        -- the occurrence would be in the part that is done
        obtain ⟨mid, rfl⟩ : x <:+ behind := List.suffix_of_suffix_length_le
          (List.suffix_append front x) ⟨before ++ ph, eq.symm⟩ (Nat.le_of_not_lt long)
        rw [← List.append_assoc] at eq
        obtain rfl := List.append_cancel_right eq
        exact done (List.infix_append before ph mid)
      exact ih (absent_absolute slash (strstr_first some_ph found) absent) (by omega)

/-- A loop does not end that writes the placeholder. -/
lemma replaced_endless (some_ph : ph ≠ []) (again : ph <:+: word) (inside : ph <:+: x) :
    replaced ph word rounds x = none := by
  induction rounds generalizing x with
  | zero => rfl
  | succ rounds ih =>
    rw [replaced]
    cases found : strstr ph x with
    | none => exact absurd inside ((strstr_none some_ph).1 found)
    | some parts => exact ih (again.trans (List.infix_append parts.1 word parts.2))

end Loops

/-- The loops end for an absolute path, after as many rounds as the value has characters. -/
lemma parse_returns {dir value : Text} {rounds : ℕ}
    (absent : ¬ DRMAA_PLACEHOLDER_HD <:+: '/' :: dir) (enough : value.length < rounds) :
    ∃ x, drmaa_gw_jt_parse ('/' :: dir) rounds value = some x := by
  obtain ⟨incr, first, le⟩ :
      ∃ y, replaced DRMAA_PLACEHOLDER_INCR DRMAA_GW_PARAM rounds value = some y ∧
        y.length ≤ value.length := replaced_shorter (by decide) enough
  obtain ⟨wd, second, le'⟩ :
      ∃ y, replaced DRMAA_PLACEHOLDER_WD [] rounds incr = some y ∧ y.length ≤ incr.length :=
    replaced_shorter (by decide) (by omega)
  have third : ∃ x, replaced DRMAA_PLACEHOLDER_HD ('/' :: dir) rounds ([] ++ wd) = some x :=
    replaced_absolute (by decide) (by decide) absent (by decide) (by omega)
  obtain ⟨x, third⟩ := third
  refine ⟨x, ?_⟩
  rw [drmaa_gw_jt_parse, first]
  dsimp only [Option.bind_eq_bind, Option.bind_some]
  rw [second]
  exact third

/-- The library can write every value if and only if the home directory does not contain the
placeholder that it replaces. -/
theorem parse_returns_iff {home dir : Text} (absolute : home = '/' :: dir) :
    (∀ value, ∃ (rounds : ℕ) (x : Text), drmaa_gw_jt_parse home rounds value = some x) ↔
      ¬ DRMAA_PLACEHOLDER_HD <:+: home := by
  subst absolute
  constructor
  · intro returns again
    obtain ⟨rounds, x, result⟩ := returns DRMAA_PLACEHOLDER_HD
    obtain ⟨incr, first, result⟩ := Option.bind_eq_some_iff.1 result
    obtain ⟨wd, second, third⟩ := Option.bind_eq_some_iff.1 result
    obtain rfl := replaced_same (by decide) (by decide) first
    obtain rfl := replaced_same (by decide) (by decide) second
    rw [replaced_endless (by decide) again List.infix_rfl] at third
    cases third
  · intro absent value
    exact ⟨value.length + 1, parse_returns absent (Nat.lt_succ_self _)⟩

theorem parse_returns_iff_user :
    (∀ value, ∃ (rounds : ℕ) (x : Text),
      drmaa_gw_jt_parse "/home/user".toList rounds value = some x) ∧
    ¬ ∀ value, ∃ (rounds : ℕ) (x : Text),
      drmaa_gw_jt_parse "/$drmaa_hd_ph$".toList rounds value = some x :=
  ⟨(parse_returns_iff rfl).2 (by decide),
    fun returns => (parse_returns_iff rfl).1 returns (by decide)⟩

end GridWay.Drmaa
