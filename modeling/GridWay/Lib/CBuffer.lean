import Mathlib.Data.List.Basic

/-!
# Strings in character arrays

A string of C ends at the first null character of its array. A function that leaves the array has no
result.

* `CBuffer.store`, `CBuffer.strcat`, `CBuffer.strdup`: a character, a string at the end, a copy.
* `CBuffer.holding`: an array of nulls after a string.
-/

namespace GridWay

/-- The null character. -/
def nul : Char := Char.ofNat 0

/-- A text that is a string of C. -/
abbrev CString := { text : List Char // nul ∉ text }

/-- A character array. -/
abbrev CBuffer := List Char

namespace CBuffer

/-- An array of nulls. -/
def zeros (n : ℕ) : CBuffer := List.replicate n nul

/-- `strlen`. -/
def strlen (b : CBuffer) : Option ℕ :=
  let n := (b.takeWhile (· ≠ nul)).length
  if n < b.length then some n else none

def store (b : CBuffer) (i : ℕ) (c : Char) : Option CBuffer :=
  if i < b.length then some (b.set i c) else none

/-- `strcpy` to a place in the array, with the end of the string. -/
def strcpy (b : CBuffer) (i : ℕ) (text : List Char) : Option CBuffer :=
  if i + text.length < b.length then
    some (b.take i ++ text ++ nul :: b.drop (i + text.length + 1))
  else none

def strcat (b : CBuffer) (text : List Char) : Option CBuffer :=
  (strlen b).bind fun n => strcpy b n text

def strdup (b : CBuffer) : Option (List Char) := (strlen b).map b.take

/-- A string at the start of an array of `n` characters that is null otherwise. -/
def holding (n : ℕ) (text : List Char) : CBuffer := text ++ zeros (n - text.length)

variable {n : ℕ} {text more : List Char} {c : Char}

lemma length_holding (le : text.length ≤ n) : (holding n text).length = n := by
  rw [holding, zeros, List.length_append, List.length_replicate]
  omega

lemma strlen_holding (plain : nul ∉ text) (le : text.length ≤ n) :
    strlen (holding n text) = if text.length < n then some text.length else none := by
  have front : ∀ d ∈ text, decide (d ≠ nul) = true := by
    intro d mem
    refine decide_eq_true ?_
    rintro rfl
    exact plain mem
  have word : ((holding n text).takeWhile (· ≠ nul)).length = text.length := by
    rw [holding, List.takeWhile_append_of_pos front, zeros]
    cases n - text.length <;> simp [List.replicate_succ]
  rw [strlen, word, length_holding le]

lemma store_holding (le : text.length ≤ n) : store (holding n text) text.length c =
    if text.length < n then some (holding n (text ++ [c])) else none := by
  rw [store, length_holding le]
  split
  case isTrue room =>
    obtain ⟨k, rest⟩ := Nat.exists_eq_add_of_lt room
    have before : n - text.length = k + 1 := by omega
    have after : n - (text ++ [c]).length = k := by
      rw [List.length_append, List.length_singleton]
      omega
    rw [holding, holding, before, after, zeros, List.replicate_succ,
      List.set_append_right _ _ (Nat.le_refl _), Nat.sub_self, List.set_cons_zero,
      List.append_assoc]
    rfl
  case isFalse => rfl

lemma strcat_holding (plain : nul ∉ text) (le : text.length ≤ n) : strcat (holding n text) more =
    if (text ++ more).length < n then some (holding n (text ++ more)) else none := by
  rw [strcat, strlen_holding plain le, List.length_append]
  by_cases room : text.length + more.length < n
  · have short : text.length < n := by omega
    have last : n - text.length - (more.length + 1) + 1 = n - (text ++ more).length := by
      rw [List.length_append]
      omega
    rw [if_pos short, if_pos room, Option.bind_some, strcpy, length_holding le, if_pos room,
      holding, List.take_left, Nat.add_assoc, List.drop_append, List.drop_eq_nil_of_le (by omega),
      List.nil_append, Nat.add_sub_cancel_left, zeros, List.drop_replicate, holding, zeros, ← last,
      List.replicate_succ]
  · rw [if_neg room]
    split
    · rw [Option.bind_some, strcpy, length_holding le, if_neg room]
    · rfl

lemma strdup_holding (plain : nul ∉ text) (le : text.length ≤ n) :
    strdup (holding n text) = if text.length < n then some text else none := by
  rw [strdup, strlen_holding plain le]
  split
  · rw [Option.map_some, holding, List.take_left]
  · rfl

end CBuffer

end GridWay
