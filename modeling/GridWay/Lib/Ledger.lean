import Mathlib.Data.List.Nodup

/-!
# Requests in flight

A system counts the requests that it sent, and marks what it asked for. The other side has the requests
that wait for an answer. The accounts are kept when the counter is the number of these, and the marks
name each of them once.

* `Ledger.Move.kept`: asking what was not asked for, and answering what waits, keeps the accounts.
-/

namespace GridWay

/-- What a system counts and marks, and what waits on the other side. -/
structure Ledger (σ ρ : Type*) where
  count : σ → Int
  waiting : σ → List ρ
  asked : σ → ρ → Prop

namespace Ledger

variable {σ ρ : Type*} [DecidableEq ρ] (l : Ledger σ ρ)

/-- The accounts are kept. -/
structure Kept (s : σ) : Prop where
  count : l.count s = (l.waiting s).length
  nodup : (l.waiting s).Nodup
  asked : ∀ r, l.asked s r ↔ r ∈ l.waiting s

/-- A move of the accounts. -/
inductive Move (s s' : σ) : Prop where
  | same (count : l.count s' = l.count s) (waiting : l.waiting s' = l.waiting s)
    (asked : ∀ r, l.asked s' r ↔ l.asked s r)
  | ask (r : ρ) (new : ¬l.asked s r) (count : l.count s' = l.count s + 1)
    (waiting : l.waiting s' = l.waiting s ++ [r])
    (asked : ∀ r', l.asked s' r' ↔ l.asked s r' ∨ r' = r)
  | answer (r : ρ) (waits : r ∈ l.waiting s) (count : l.count s' = l.count s - 1)
    (waiting : l.waiting s' = (l.waiting s).erase r)
    (asked : ∀ r', l.asked s' r' ↔ l.asked s r' ∧ r' ≠ r)

variable {l} {s s' : σ}

/-- A move keeps the accounts. -/
theorem Move.kept (move : l.Move s s') (kept : l.Kept s) : l.Kept s' := by
  cases move with
  | same count waiting asked =>
    refine ⟨?_, ?_, fun r => ?_⟩
    · rw [count, waiting, kept.count]
    · rw [waiting]
      exact kept.nodup
    · rw [asked, waiting, kept.asked]
  | ask r new count waiting asked =>
    rw [kept.asked] at new
    refine ⟨?_, ?_, fun r' => ?_⟩
    · rw [count, waiting, kept.count, List.length_append]
      rfl
    · rw [waiting, List.nodup_append]
      refine ⟨kept.nodup, List.nodup_singleton r, ?_⟩
      rintro r' mem other one rfl
      exact new (List.mem_singleton.1 one ▸ mem)
    · rw [asked, waiting, kept.asked, List.mem_append, List.mem_singleton]
  | answer r waits count waiting asked =>
    refine ⟨?_, ?_, fun r' => ?_⟩
    · have pos := List.length_pos_of_mem waits
      rw [count, waiting, kept.count, List.length_erase_of_mem waits]
      omega
    · rw [waiting]
      exact kept.nodup.erase r
    · rw [asked, waiting, kept.asked, kept.nodup.mem_erase_iff, and_comm]

end Ledger

end GridWay
