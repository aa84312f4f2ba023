import Mathlib.Data.List.Basic
import Mathlib.Data.List.Forall2

/-!
# Questions and answers over one stream

One side writes a reply of several records, the other reads record after record until it knows that the
reply is complete. What a reader leaves unread meets the next one; a reader that finds nothing waits for
ever.

* `Exchange.readRecords`: a reader that stops at a first record that refuses, or at a last one.
* `Exchange.session_of_exact`: when every reader takes its own reply and no more, so does a session.
* `Exchange.session_stuck`: a reader that gets no reply waits.
-/

namespace GridWay.Exchange

variable {ω ρ γ ι α : Type*}

/-- Takes a record of a kind off the stream. -/
def recv (view : ω → Option ρ) : List ω → Option (ρ × List ω)
  | [] => none
  | w :: input => (view w).map fun m => (m, input)

/-- Reads on after a record until the last one. -/
def readOn (view : ω → Option ρ) (last : ρ → Bool) (m : ρ) :
    List ω → Option ((List ρ × ρ) × List ω)
  | [] => if last m then some (([], m), []) else none
  | w :: input =>
    if last m then some (([], m), w :: input)
    else
      (view w).bind fun m' =>
        (readOn view last m' input).map fun r => ((m :: r.1.1, r.1.2), r.2)

/-- Reads a reply: what the last record says of it, and the records before the last. A first record that
refuses is the whole reply. -/
def readRecords [DecidableEq γ] (view : ω → Option ρ) (rc : ρ → γ) (success : γ) (last : ρ → Bool)
    (input : List ω) : Option ((γ × List ρ) × List ω) :=
  match recv view input with
  | none => none
  | some (m, input) =>
    if rc m ≠ success then some ((rc m, []), input)
    else
      match readOn view last m input with
      | none => none
      | some ((records, final), input) =>
        if records.length = 0 then some ((success, []), input)
        else some ((rc final, records), input)

/-- A session: every question is answered, and its reader reads. -/
def session (reply : ι → List ω) (read : ι → List ω → Option (α × List ω)) :
    List ι → List ω → Option (List α × List ω)
  | [], input => some ([], input)
  | q :: qs, input =>
    (read q (input ++ reply q)).bind fun r =>
      (session reply read qs r.2).map fun rs => (r.1 :: rs.1, rs.2)

variable {view : ω → Option ρ} {inject : ρ → ω} {rc : ρ → γ} {success : γ} {last : ρ → Bool}
  {m final : ρ} {records : List ρ} {rest : List ω}

/-- A reader that reads on finds the last record. -/
lemma readOn_exact (inverse : ∀ m, view (inject m) = some m)
    (more : ∀ r ∈ m :: records, last r = false) (ends : last final = true) :
    readOn view last m ((records ++ [final]).map inject ++ rest) =
      some ((m :: records, final), rest) := by
  induction records generalizing m with
  | nil =>
    rw [List.nil_append, List.map_singleton, List.singleton_append, readOn,
      more m List.mem_cons_self, if_neg Bool.false_ne_true, inverse]
    show (readOn view last final rest).map _ = _
    have stops : readOn view last final rest = some (([], final), rest) := by
      cases rest with
      | nil => exact if_pos ends
      | cons w rest => exact if_pos ends
    rw [stops]
    rfl
  | cons r records ih =>
    rw [List.cons_append, List.map_cons, List.cons_append, readOn, more m List.mem_cons_self,
      if_neg Bool.false_ne_true, inverse]
    show (readOn view last r _).map _ = _
    rw [ih fun r' mem => more r' (List.mem_cons_of_mem _ mem)]
    rfl

/-- A reply that refuses is one record. -/
lemma readRecords_refused [DecidableEq γ] (inject : ρ → ω) (inverse : ∀ m, view (inject m) = some m)
    (refuses : rc m ≠ success) :
    readRecords view rc success last (inject m :: rest) = some ((rc m, []), rest) := by
  rw [readRecords, recv, inverse]
  exact if_pos refuses

/-- A reply of some records and a last one is read, and nothing else. -/
theorem readRecords_exact [DecidableEq γ] (inject : ρ → ω) (inverse : ∀ m, view (inject m) = some m)
    (fine : ∀ r ∈ records, rc r = success ∧ last r = false)
    (ends : rc final = success ∧ last final = true) :
    readRecords view rc success last ((records ++ [final]).map inject ++ rest) =
      some ((success, records), rest) := by
  cases records with
  | nil =>
    rw [List.nil_append, List.map_singleton, List.singleton_append, readRecords, recv, inverse]
    have stops : readOn view last final rest = some (([], final), rest) := by
      cases rest with
      | nil => exact if_pos ends.2
      | cons w rest => exact if_pos ends.2
    show (if rc final ≠ success then _ else _) = _
    rw [if_neg (not_not.2 ends.1), stops]
    rfl
  | cons m records =>
    rw [List.cons_append, List.map_cons, List.cons_append, readRecords, recv, inverse]
    show (if rc m ≠ success then _ else _) = _
    rw [if_neg (not_not.2 (fine m List.mem_cons_self).1),
      readOn_exact inverse (fun r mem => (fine r mem).2) ends.2]
    show (if (m :: records).length = 0 then _ else _) = _
    rw [if_neg (show ¬(m :: records).length = 0 from Nat.succ_ne_zero _), ends.1]

variable {reply : ι → List ω} {read : ι → List ω → Option (α × List ω)} {Tells : ι → α → Prop}

/-- When every reader takes its own reply and no more, so does a session. -/
theorem session_of_exact {qs : List ι}
    (exact : ∀ q ∈ qs, ∃ r, Tells q r ∧ ∀ rest, read q (reply q ++ rest) = some (r, rest)) :
    ∃ rs, List.Forall₂ Tells qs rs ∧ session reply read qs [] = some (rs, []) := by
  induction qs with
  | nil => exact ⟨[], .nil, rfl⟩
  | cons q qs ih =>
    obtain ⟨⟨r, tells, reads⟩, later⟩ := List.forall_mem_cons.1 exact
    obtain ⟨rs, all, done⟩ := ih later
    refine ⟨r :: rs, .cons tells all, ?_⟩
    have one := reads []
    rw [List.append_nil] at one
    rw [session, List.nil_append, one]
    show (session reply read qs []).map _ = _
    rw [done]
    rfl

/-- A reader that gets no reply waits, and with it the session. -/
theorem session_stuck {q : ι} {qs later : List ι}
    (exact : ∀ q ∈ qs, ∃ r, ∀ rest, read q (reply q ++ rest) = some (r, rest))
    (silent : reply q = []) (waits : read q [] = none) :
    session reply read (qs ++ q :: later) [] = none := by
  induction qs with
  | nil =>
    rw [List.nil_append, session, silent, List.append_nil, waits]
    rfl
  | cons q' qs ih =>
    obtain ⟨⟨r, reads⟩, rest⟩ := List.forall_mem_cons.1 exact
    have one := reads []
    rw [List.append_nil] at one
    rw [List.cons_append, session, List.nil_append, one]
    show (session reply read (qs ++ q :: later) []).map _ = _
    rw [ih rest]
    rfl

end GridWay.Exchange
