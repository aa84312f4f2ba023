import Mathlib.Data.List.Basic

/-!
# Reading lines with fields of bounded width

A line is read from a stream into a buffer of bounded size, and then scanned: words separated by
blanks, each into a buffer of its own, and the rest of the line into a last one. A field that is as
long as its buffer is large leaves no room for the end of the string.

* `Scan.readLine`, `Scan.scan`: the reader, with all its bounds.
* `Scan.parts`: the words of a line and the rest of it, without any bound.
* `Scan.scan_eq`: the reader finds the parts of a line, or a field does not fit.
-/

namespace GridWay.Scan

/-- `isspace`. -/
def isSpace (c : Char) : Bool := c.toNat == 32 || (decide (9 ≤ c.toNat) && decide (c.toNat ≤ 13))

/-- A line of at most `n` characters, its end included; `none` when the stream ends in it. -/
def readLine : Nat → List Char → Option (List Char × List Char)
  | 0, _ => none
  | _, [] => none
  | n + 1, c :: cs =>
    if c = '\n' ∨ n = 0 then some ([c], cs)
    else (readLine n cs).map fun (line, rest) => (c :: line, rest)

/-- A string ends at the first null character. -/
def cstr (cs : List Char) : List Char := cs.takeWhile (·.toNat != 0)

/-- A word of at most `width` characters after blanks. -/
def scanWord (width : Nat) (cs : List Char) : Option (List Char × List Char) :=
  let cs := cs.dropWhile isSpace
  let word := (cs.takeWhile (!isSpace ·)).take width
  if word = [] then none else some (word, cs.drop word.length)

/-- The rest of a line after blanks, of at most `width` characters. -/
def scanRest (width : Nat) (cs : List Char) : Option (List Char) :=
  let text := ((cs.dropWhile isSpace).takeWhile (· != '\n')).take width
  if text = [] then none else some text

/-- `sscanf` for words of the given widths and the rest of the line. It ends at the first field that
is not there; the result is `none` when a field overflows its buffer, which is as large as the field
is wide. -/
def scan (rest : Nat) : List Nat → List Char → Option (List (List Char) × Option (List Char))
  | [], cs =>
    match scanRest rest cs with
    | none => some ([], none)
    | some text => if text.length < rest then some ([], some text) else none
  | width :: widths, cs =>
    match scanWord width cs with
    | none => some ([], none)
    | some (word, cs) =>
      if word.length < width then
        (scan rest widths cs).map fun (words, text) => (word :: words, text)
      else none

/-- The rest of a line without its bound. -/
def tail (cs : List Char) : Option (List Char) :=
  let text := (cs.dropWhile isSpace).takeWhile (· != '\n')
  if text = [] then none else some text

/-- The first `n` words of a line and the rest of it. -/
def parts : Nat → List Char → List (List Char) × Option (List Char)
  | 0, cs => ([], tail cs)
  | n + 1, cs =>
    let cs := cs.dropWhile isSpace
    if cs = [] then ([], none)
    else
      let (words, text) := parts n (cs.dropWhile (!isSpace ·))
      (cs.takeWhile (!isSpace ·) :: words, text)

/-- The fields leave room for the ends of the strings. -/
def fits (rest : Nat) : List Nat → List (List Char) × Option (List Char) → Bool
  | [], (_, text) => text.all (·.length < rest)
  | _ :: _, ([], _) => true
  | width :: widths, (word :: words, text) =>
    decide (word.length < width) && fits rest widths (words, text)

section Line

variable {text line rest : List Char} {n : Nat}

end Line

section Fields

variable {cs : List Char} {rest n width : Nat} {widths : List Nat}

lemma takeWhile_eq_nil {p : Char → Bool} (first : ∀ c ∈ cs.head?, p c = true)
    (nil : cs.takeWhile p = []) : cs = [] := by
  cases cs with
  | nil => rfl
  | cons c cs =>
    rw [List.takeWhile_cons, if_pos (first c rfl)] at nil
    cases nil

lemma head_dropWhile {p : Char → Bool} : ∀ c ∈ (cs.dropWhile p).head?, p c = false := by
  intro c mem
  have := List.head?_dropWhile_not p cs
  rw [Option.mem_def.1 mem] at this
  simpa using this

lemma take_eq_nil {xs : List Char} (pos : 0 < n) : xs.take n = [] ↔ xs = [] := by
  rw [List.take_eq_nil_iff]
  exact or_iff_right (Nat.ne_of_gt pos)

lemma scanRest_eq (pos : 0 < rest) : scanRest rest cs = (tail cs).map (·.take rest) := by
  unfold scanRest tail
  dsimp only
  generalize (cs.dropWhile isSpace).takeWhile (· != '\n') = text
  by_cases empty : text = []
  · rw [if_pos ((take_eq_nil pos).2 empty), if_pos empty]
    rfl
  · rw [if_neg (mt (take_eq_nil pos).1 empty), if_neg empty]
    rfl

lemma scanWord_eq (pos : 0 < width) :
    scanWord width cs =
      if cs.dropWhile isSpace = [] then none
      else
        let word := ((cs.dropWhile isSpace).takeWhile (!isSpace ·)).take width
        some (word, (cs.dropWhile isSpace).drop word.length) := by
  unfold scanWord
  by_cases empty : cs.dropWhile isSpace = []
  · simp [empty]
  · have word : (cs.dropWhile isSpace).takeWhile (!isSpace ·) ≠ [] := by
      intro nil
      refine empty (takeWhile_eq_nil (fun c mem => ?_) nil)
      rw [head_dropWhile c mem]
      rfl
    dsimp only
    rw [if_neg (mt (take_eq_nil pos).1 word), if_neg empty]

/-- The parts of a line, or an overflow. -/
lemma scan_eq (restPos : 0 < rest) (pos : ∀ w ∈ widths, 0 < w) (cs : List Char) :
    scan rest widths cs =
      if fits rest widths (parts widths.length cs) then some (parts widths.length cs) else none := by
  induction widths generalizing cs with
  | nil =>
    rw [scan, scanRest_eq restPos, List.length_nil, parts, fits]
    cases tail cs with
    | none => rfl
    | some text =>
      simp only [Option.map_some, List.length_take, Option.all_some, decide_eq_true_eq]
      by_cases short : text.length < rest
      · rw [if_pos (by omega), if_pos short, List.take_of_length_le (Nat.le_of_lt short)]
      · rw [if_neg (by omega), if_neg short]
  | cons width widths ih =>
    have here := pos width List.mem_cons_self
    have ih := ih (fun w mem => pos w (List.mem_cons_of_mem _ mem))
    rw [scan, scanWord_eq here, List.length_cons, parts]
    dsimp only
    generalize cs.dropWhile isSpace = cs
    by_cases empty : cs = []
    · rw [if_pos empty, if_pos empty]
      rfl
    · rw [if_neg empty, if_neg empty]
      generalize whole : cs.takeWhile (!isSpace ·) = word
      have rest_eq : cs.drop word.length = cs.dropWhile (!isSpace ·) := by
        have split := List.takeWhile_append_dropWhile (p := (!isSpace ·)) (l := cs)
        rw [whole] at split
        rw [← split, List.drop_left, split]
      dsimp only [fits]
      rw [List.length_take]
      by_cases short : word.length < width
      · rw [if_pos (by omega), List.take_of_length_le (Nat.le_of_lt short),
          Nat.min_eq_right (Nat.le_of_lt short), rest_eq, ih]
        simp only [decide_eq_true short, Bool.true_and]
        split <;> rfl
      · rw [if_neg (by omega)]
        simp [short]

lemma takeWhile_word {word s : List Char} (clean : ∀ c ∈ word, isSpace c = false)
    (next : ∀ c ∈ s.head?, isSpace c = true) :
    (word ++ s).takeWhile (!isSpace ·) = word ∧ (word ++ s).dropWhile (!isSpace ·) = s := by
  have all : ∀ c ∈ word, (!isSpace c) = true := fun c mem => by rw [clean c mem]; rfl
  rw [List.takeWhile_append_of_pos all, List.dropWhile_append_of_pos all]
  cases s with
  | nil => exact ⟨List.append_nil _, rfl⟩
  | cons c s =>
    simp [next c rfl]

lemma dropWhile_word {word s : List Char} (some : word ≠ [])
    (clean : ∀ c ∈ word, isSpace c = false) : (word ++ s).dropWhile isSpace = word ++ s := by
  obtain ⟨c, word, rfl⟩ := List.exists_cons_of_ne_nil some
  rw [List.cons_append, List.dropWhile_cons_of_neg]
  rw [clean c List.mem_cons_self]
  exact Bool.false_ne_true

/-- A word in front of a blank is the first part. -/
lemma parts_word {word cs : List Char} (some : word ≠ []) (clean : ∀ c ∈ word, isSpace c = false) :
    parts (n + 1) (word ++ ' ' :: cs) = (word :: (parts n cs).1, (parts n cs).2) := by
  have blank : ∀ n, parts n (' ' :: cs) = parts n cs := by
    intro n
    cases n <;> rfl
  have filled : word ++ ' ' :: cs ≠ [] := by simp
  obtain ⟨taken, dropped⟩ := takeWhile_word (s := ' ' :: cs) clean (by simp [isSpace])
  rw [parts, dropWhile_word some clean, if_neg filled, taken, dropped, blank]

/-- Words with a blank behind each of them are the parts of a line. -/
lemma parts_words {words : List (List Char)} {cs : List Char} (some : ∀ w ∈ words, w ≠ [])
    (clean : ∀ w ∈ words, ∀ c ∈ w, isSpace c = false) :
    parts words.length (words.flatMap (· ++ [' ']) ++ cs) = (words, tail cs) := by
  induction words with
  | nil => rfl
  | cons word words ih =>
    have ih := ih (fun w mem => some w (List.mem_cons_of_mem _ mem))
      (fun w mem => clean w (List.mem_cons_of_mem _ mem))
    rw [List.flatMap_cons, List.append_assoc, List.append_assoc, List.singleton_append,
      List.length_cons, parts_word (some word List.mem_cons_self) (clean word List.mem_cons_self), ih]

end Fields

end GridWay.Scan
