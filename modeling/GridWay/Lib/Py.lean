import GridWay.Lib.Text
import Mathlib.Data.List.SplitOn

/-!
# Strings of the drivers' language

The string functions that the drivers use, on characters and on strings.
-/

namespace GridWay.Py

/-- White space. -/
def isSpace (c : Char) : Bool :=
  let n := c.toNat
  (9 ≤ n && n ≤ 13) || (28 ≤ n && n ≤ 32) || n == 133 || n == 160 || n == 5760 ||
    (8192 ≤ n && n ≤ 8202) || n == 8232 || n == 8233 || n == 8239 || n == 8287 || n == 12288

/-- The text from the first occurrence of `sub` on. -/
def findFrom (sub : List Char) : List Char → Option (List Char)
  | [] => if sub = [] then some [] else none
  | c :: cs => if sub.isPrefixOf (c :: cs) then some (c :: cs) else findFrom sub cs

/-- `sub in s`. -/
def isIn (sub s : String) : Bool := (findFrom sub.toList s.toList).isSome

/-- `s.split(c, 1)` in two parts. -/
def splitFirst (c : Char) (s : String) : Option (String × String) :=
  (Cut.atFirst c s.toList).map fun (a, b) => (String.ofList a, String.ofList b)

/-- `s.rsplit(c, 1)` in two parts. -/
def splitLast (c : Char) (s : String) : Option (String × String) :=
  (Cut.atLast c s.toList).map fun (a, b) => (String.ofList a, String.ofList b)

/-- `s.split('cc')`. -/
def splitPairs (c : Char) (s : String) : List String := (Cut.pieces c s.toList).map String.ofList

/-- `s.split(c)`. -/
def splitAll (c : Char) (s : String) : List String := (s.toList.splitOn c).map String.ofList

/-- `s.split()`. -/
def words (s : String) : List String :=
  ((s.toList.splitOnP isSpace).filter (· ≠ [])).map String.ofList

/-- The characters that end a line. -/
def isBreak (c : Char) : Bool :=
  let n := c.toNat
  (10 ≤ n && n ≤ 13) || (28 ≤ n && n ≤ 30) || n == 133 || n == 8232 || n == 8233

/-- The lines of a text. -/
def lines : List Char → List (List Char)
  | [] => []
  | '\r' :: '\n' :: cs => [] :: lines cs
  | c :: cs =>
    if isBreak c then [] :: lines cs
    else
      match lines cs with
      | [] => [[c]]
      | line :: rest => (c :: line) :: rest

/-- `s.splitlines()`. -/
def splitlines (s : String) : List String := (lines s.toList).map String.ofList

/-- `s.lstrip(..)` and `s.rstrip(..)` of the characters of a kind. -/
def lstrip (p : Char → Bool) (s : String) : String := String.ofList (s.toList.dropWhile p)

def rstrip (p : Char → Bool) (s : String) : String :=
  String.ofList (s.toList.reverse.dropWhile p).reverse

/-- `s.strip()`. -/
def strip (s : String) : String := rstrip isSpace (lstrip isSpace s)

/-- `sep.join(parts)`. -/
def joinWith (sep : String) : List String → String
  | [] => ""
  | [s] => s
  | s :: parts => s ++ sep ++ joinWith sep parts

/-- `s.count(c)`. -/
def count (c : Char) (s : String) : Nat := s.toList.count c

/-- `' '.join(s.split('\n'))`. -/
def oneLine (s : String) : String := joinWith " " (splitAll '\n' s)

/-- `os.path.join` of two paths. -/
def join (a b : String) : String :=
  if b.toList.head? = some '/' then b
  else if a = "" ∨ a.toList.getLast? = some '/' then a ++ b
  else a ++ "/" ++ b

/-- `os.path.basename`. -/
def basename (path : String) : String :=
  String.ofList (path.toList.reverse.takeWhile (· != '/')).reverse

/-- `os.path.dirname`. -/
def dirname (path : String) : String :=
  let head := path.toList.take (path.toList.length - (basename path).toList.length)
  if head.all (· == '/') then String.ofList head
  else rstrip (· == '/') (String.ofList head)

/-- The longest run of characters of a kind at the start of a text, of at least `least` characters,
that `after` follows. -/
def run (p : Char → Bool) (least : Nat) (after cs : List Char) : Option (List Char) :=
  let most := cs.takeWhile p
  ((List.range (most.length + 1)).reverse.find? fun n =>
    decide (least ≤ n) && after.isPrefixOf (cs.drop n)).map cs.take

/-- `re.compile('before(p*)after').search(text).group(1)`. -/
def group (before : List Char) (p : Char → Bool) (least : Nat) (after : List Char) :
    List Char → Option (List Char)
  | [] => if before = [] then run p least after [] else none
  | c :: cs =>
    let here :=
      if before.isPrefixOf (c :: cs) then run p least after ((c :: cs).drop before.length) else none
    here.or (group before p least after cs)

/-- The text after white space and the given character. -/
def skip (c : Char) (cs : List Char) : Option (List Char) :=
  match cs.dropWhile isSpace with
  | [] => none
  | d :: cs => if d = c then some cs else none

/-- `re.compile('name\s*=\s*left(.*)right').search(text).group(1)`. -/
def assigned (name : List Char) (left right : Char) : List Char → Option (List Char)
  | [] => none
  | c :: cs =>
    let here :=
      if name.isPrefixOf (c :: cs) then do
        let value ← skip left (← skip '=' ((c :: cs).drop name.length))
        (Cut.atLast right (value.takeWhile (· != '\n'))).map Prod.fst
      else none
    here.or (assigned name left right cs)

/-- `str` of a missing key. -/
def keyError (key : String) : String := "'" ++ key ++ "'"

/-- The parts between separators have no separator in them. -/
lemma splitOnP_clean {p : Char → Bool} {cs part : List Char} (mem : part ∈ cs.splitOnP p) :
    ∀ c ∈ part, p c = false := by
  induction cs generalizing part with
  | nil =>
    rw [List.splitOnP_nil, List.mem_singleton] at mem
    subst mem
    simp
  | cons c cs ih =>
    rw [List.splitOnP_cons] at mem
    by_cases sep : p c = true
    · rw [if_pos sep, List.mem_cons] at mem
      obtain rfl | later := mem
      · simp
      · exact ih later
    · rw [if_neg sep] at mem
      cases parts : cs.splitOnP p with
      | nil => exact absurd parts (List.splitOnP_ne_nil p cs)
      | cons first rest =>
        rw [parts, List.modifyHead_cons, List.mem_cons] at mem
        obtain rfl | later := mem
        · intro d mem
          obtain rfl | old := List.mem_cons.1 mem
          · exact Bool.eq_false_iff.2 sep
          · have here : first ∈ cs.splitOnP p := parts ▸ List.mem_cons_self
            exact ih here d old
        · exact ih (by rw [parts]; exact List.mem_cons_of_mem _ later)

/-- A text that is found is in the text. -/
lemma findFrom_isSome {sub cs : List Char} : (findFrom sub cs).isSome = true ↔ sub <:+: cs := by
  induction cs with
  | nil =>
    rw [findFrom, List.infix_nil]
    by_cases empty : sub = []
    · rw [if_pos empty]
      exact ⟨fun _ => empty, fun _ => rfl⟩
    · rw [if_neg empty]
      exact ⟨fun no => (by cases no), fun eq => absurd eq empty⟩
  | cons c cs ih =>
    rw [findFrom, List.infix_cons_iff]
    by_cases here : sub.isPrefixOf (c :: cs) = true
    · rw [if_pos here]
      exact ⟨fun _ => .inl (List.isPrefixOf_iff_prefix.1 here), fun _ => rfl⟩
    · rw [if_neg here, ih]
      exact ⟨.inr, fun h => h.resolve_left fun pre => here (List.isPrefixOf_iff_prefix.2 pre)⟩

lemma isIn_iff {sub s : String} : isIn sub s = true ↔ sub.toList <:+: s.toList := findFrom_isSome

/-- The parts between separators are in the text. -/
lemma splitOnP_infix {p : Char → Bool} {cs part : List Char} (mem : part ∈ cs.splitOnP p) :
    part <:+: cs := by
  have heads (cs : List Char) (part : List Char) (mem : part ∈ cs.splitOnP p) :
      part <:+: cs ∧ ((cs.splitOnP p).head? = some part → part <+: cs) := by
    induction cs generalizing part with
    | nil =>
      rw [List.splitOnP_nil, List.mem_singleton] at mem
      subst mem
      exact ⟨List.nil_infix, fun _ => List.nil_prefix⟩
    | cons c cs ih =>
      rw [List.splitOnP_cons_eq_if_modifyHead] at mem ⊢
      by_cases sep : p c = true
      · rw [if_pos sep] at mem ⊢
        obtain rfl | later := List.mem_cons.1 mem
        · exact ⟨List.nil_infix, fun _ => List.nil_prefix⟩
        · refine ⟨List.infix_cons (ih part later).1, fun first => ?_⟩
          rw [List.head?_cons, Option.some.injEq] at first
          rw [← first]
          exact List.nil_prefix
      · rw [if_neg sep] at mem ⊢
        cases parts : cs.splitOnP p with
        | nil => exact absurd parts (List.splitOnP_ne_nil p cs)
        | cons first rest =>
          rw [parts] at mem ih
          rw [List.modifyHead_cons] at mem ⊢
          have start := (ih first List.mem_cons_self).2 rfl
          obtain rfl | later := List.mem_cons.1 mem
          · have pre : c :: first <+: c :: cs := List.cons_prefix_cons.2 ⟨rfl, start⟩
            exact ⟨pre.isInfix, fun _ => pre⟩
          · refine ⟨List.infix_cons (ih part (List.mem_cons_of_mem _ later)).1, fun eq => ?_⟩
            rw [List.head?_cons, Option.some.injEq] at eq
            rw [← eq]
            exact List.cons_prefix_cons.2 ⟨rfl, start⟩
  exact (heads cs part mem).1

/-- A word is in its text. -/
lemma isIn_of_word {s word : String} (mem : word ∈ words s) : isIn word s = true := by
  obtain ⟨part, cut, rfl⟩ := List.mem_map.1 mem
  rw [isIn_iff, String.toList_ofList]
  exact splitOnP_infix (List.mem_filter.1 cut).1

/-- A line that a newline ends. -/
lemma lines_append {line : List Char} (whole : ∀ c ∈ line, isBreak c = false) (rest : List Char) :
    lines (line ++ '\n' :: rest) = line :: lines rest := by
  induction line with
  | nil =>
    show lines ('\n' :: rest) = _
    rw [lines]
    · exact if_pos (by decide)
    · intro cs eq
      exact absurd eq (by decide)
  | cons c line ih =>
    have plain := whole c List.mem_cons_self
    have later := ih fun d mem => whole d (List.mem_cons_of_mem _ mem)
    have other : c ≠ '\r' := by
      rintro rfl
      exact absurd plain (by decide)
    rw [List.cons_append, lines]
    · rw [plain, if_neg Bool.false_ne_true, later]
    · intro cs eq
      exact absurd eq other

/-- The words of two texts with white space between them. -/
lemma words_cut {c : Char} (space : isSpace c = true) (xs ys : List Char) :
    words (String.ofList (xs ++ c :: ys)) = words (String.ofList xs) ++ words (String.ofList ys) := by
  rw [words, String.toList_ofList, List.splitOnP_append_cons _ _ space, List.filter_append,
    List.map_append, words, words, String.toList_ofList, String.toList_ofList]

/-- The words of two texts with a blank between them. -/
lemma words_append (a b : String) : words (a ++ " " ++ b) = words a ++ words b := by
  have text : a ++ " " ++ b = String.ofList (a.toList ++ ' ' :: b.toList) := by
    apply String.toList_injective
    rw [String.toList_ofList, String.toList_append, String.toList_append, List.append_assoc]
    rfl
  rw [text, words_cut (by decide), String.ofList_toList, String.ofList_toList]

/-- The words of two texts with a newline between them. -/
lemma words_newline (a b : String) : words (a ++ ("\n" ++ b)) = words a ++ words b := by
  have text : a ++ ("\n" ++ b) = String.ofList (a.toList ++ '\n' :: b.toList) := by
    apply String.toList_injective
    rw [String.toList_ofList, String.toList_append, String.toList_append]
    rfl
  rw [text, words_cut (by decide), String.ofList_toList, String.ofList_toList]

/-- The words of texts that are joined with blanks. -/
lemma words_joinWith (parts : List String) : words (joinWith " " parts) = parts.flatMap words := by
  induction parts with
  | nil => rfl
  | cons s parts ih =>
    cases parts with
    | nil => exact (List.append_nil _).symm
    | cons t parts =>
      rw [joinWith, words_append, ih]
      · rfl
      · intro eq
        cases eq

/-- A word has no white space in it. -/
lemma word_clean {s word : String} (mem : word ∈ words s) : ∀ c ∈ word.toList, isSpace c = false := by
  obtain ⟨part, cut, rfl⟩ := List.mem_map.1 mem
  rw [String.toList_ofList]
  exact splitOnP_clean (List.mem_filter.1 cut).1

example : dirname "/a/b/c" = "/a/b" := by decide

example : assigned "ID".toList '[' ']' "x ID = [a]]\n]".toList = some "a]".toList := by
  decide

end GridWay.Py
