import GridWay.Im.Reqs

/-!
# What a client checks

`gw_host_client_check_syntax`: a client evaluates the requirements and the rank of a template for a
host of its own before it submits a job.

* `gw_host_client_check_syntax`: the call.
* `Reqs.Stands`, `Rank.Stands`: what a text stands for.
* `client_accepts_iff`: what is accepted, and what the daemon makes of it on any host.
-/

namespace GridWay.Im

open GridWay.Lalr

/-- `gw_host_client_check_syntax`, without the line that shows where an error is: -2 when something
is missing, -1 after a syntax error, else 0. -/
def gw_host_client_check_syntax (fnmatch : String → String → Bool) (host : Option Host)
    (reqs rank : Option (List Char)) : Option Int :=
  match host, reqs, rank with
  | some host, some reqs, some rank =>
    ((Reqs.parser fnmatch host 0).parse .none true (scan reqs)).bind fun out =>
      match out with
      | .accept _ =>
        ((Rank.parser host 0).parse .none none (scan rank)).bind fun out =>
          match out with
          | .accept _ => some 0
          | .abort | .exhausted => some (-1)
          | .undefined => none
      | .abort | .exhausted => some (-1)
      | .undefined => none
  | _, _, _ => some (-2)

/-- Nothing comes after a statement, or a semicolon. -/
def Ended (front ts : List Token) : Prop := ts = front ∨ ts = front ++ [.sym ';']

namespace Reqs

/-- A text stands for a requirement, or for none. -/
def Stands (reqs : List Char) : Option Expr → Prop
  | none => Ended [] (scan reqs)
  | some e => Reads .expr e ∧ e.depth < 9999 ∧ Ended e.tokens (scan reqs)

/-- The answer for a queue of a host. -/
def means (fnmatch : String → String → Bool) (host : Host) (queue : Int) : Option Expr → Option Bool
  | none => some true
  | some e => e.value fnmatch host queue

section Stands

variable {fnmatch : String → String → Bool} {host : Host} {queue : Int} {reqs : List Char} {e : Expr}
  {r : Option Expr}

/-- A requirement that was computed had room. -/
lemma compute_fits {n : ℕ} {b : Bool} (computed : e.compute fnmatch host queue n = .ok b) :
    n + e.depth < 10000 := by
  induction e generalizing n b with
  | int x rel k =>
    obtain ⟨_, room, -⟩ := Parser.bind_ok computed
    exact (Parser.room_ok room).1
  | str x differs p =>
    obtain ⟨_, room, -⟩ := Parser.bind_ok computed
    exact (Parser.room_ok room).1
  | paren e ih =>
    obtain ⟨_, -, after⟩ := Parser.bind_ok computed
    obtain ⟨_, inner, room⟩ := Parser.bind_ok after
    have inner := ih inner
    have outer : n + 3 < 10000 := (Parser.room_ok room).1
    rw [Expr.depth]
    omega
  | not e ih =>
    obtain ⟨_, -, after⟩ := Parser.bind_ok computed
    obtain ⟨_, inner, -⟩ := Parser.bind_ok after
    have inner := ih inner
    rw [Expr.depth]
    omega
  | bin op l r ih ih' =>
    obtain ⟨_, left, after⟩ := Parser.bind_ok computed
    obtain ⟨_, -, after⟩ := Parser.bind_ok after
    obtain ⟨_, right, -⟩ := Parser.bind_ok after
    have left := ih left
    have right := ih' right
    rw [Expr.depth]
    omega

lemma compute_quiet (n : ℕ) : Parser.Quiet (e.compute fnmatch host queue n) := by
  induction e generalizing n with
  | int x rel k => exact .bind .room fun _ => .lift
  | str x differs p => exact .bind .room fun _ => .lift
  | paren e ih => exact .bind .room fun _ => .bind (ih _) fun _ => .room
  | not e ih => exact .bind .room fun _ => .bind (ih _) fun _ => .lift
  | bin op l r ih ih' => exact .bind (ih _) fun _ => .bind .room fun _ => .bind (ih' _) fun _ => .lift

/-- The parser accepts what stands for a requirement that has a value. -/
lemma ends_of_stands (stands : Stands reqs r) : (parser fnmatch host queue).Ends ⟨[(0, .none)], scan reqs, true⟩
    (settle (Parser.lift (means fnmatch host queue r))) := by
  cases r with
  | none => exact ends_empty (stands.imp_right id)
  | some e =>
    obtain ⟨reads, shallow, ended⟩ := stands
    have ends (rest : List Token) (semicolon : rest = [] ∨ rest = [.sym ';']) :
        (parser fnmatch host queue).Ends ⟨[(0, .none)], e.tokens ++ rest, true⟩
          (settle (Parser.lift (e.value fnmatch host queue))) := by
      rw [← compute_value (show 1 + e.depth < 10000 by omega)]
      exact ends_expr semicolon reads
    obtain eq | eq := ended
    · rw [eq, ← List.append_nil e.tokens]
      exact ends [] (.inl rfl)
    · rw [eq]
      exact ends _ (.inr rfl)

/-- What is accepted stands for a requirement. -/
lemma stands_of_accept {b : Bool}
    (parsed : (parser fnmatch host queue).parse .none true (scan reqs) = some (.accept b)) :
    ∃ r, Stands reqs r ∧ means fnmatch host queue r = some b := by
  obtain ⟨semicolon, ended, empty | ⟨e, reads, eq⟩⟩ := accepted_statement parsed
  · have ends : Ended [] (scan reqs) := ended.imp empty.trans empty.trans
    have same := (ends_empty ends).unique ⟨_, parsed⟩
    cases same
    exact ⟨none, ends, rfl⟩
  · have ran : (parser fnmatch host queue).Ends _ _ := ends_expr ended reads
    rw [← eq] at ran
    have same := ran.unique ⟨_, parsed⟩
    cases computed : e.compute fnmatch host queue 1 with
    | error out =>
      rw [computed] at same
      obtain rfl : out = .accept b := same
      exact absurd computed (compute_quiet 1 b)
    | ok b' =>
      rw [computed] at same
      cases same
      have fits := compute_fits computed
      rw [compute_value fits] at computed
      refine ⟨some e, ⟨reads, by omega, ?_⟩, ?_⟩
      · obtain rfl | rfl := ended
        · exact .inl (eq.trans (List.append_nil _))
        · exact .inr eq
      · exact Parser.lift_ok computed

end Stands

end Reqs

namespace Rank

/-- A text stands for an expression, or for none. -/
def Stands (rank : List Char) : Option Expr → Prop
  | none => Ended [] (scan rank)
  | some e => Reads .sum e ∧ e.depth < 9999 ∧ Ended e.tokens (scan rank)

/-- The rank of a queue of a host. -/
def means (host : Host) (queue : Int) : Option Expr → Option Int
  | none => some host.fixedPriority
  | some e => e.value host queue

section Stands

variable {host : Host} {queue : Int} {rank : List Char} {e : Expr} {k : Option Expr}

/-- An expression that was computed had room. -/
lemma compute_fits {n : ℕ} {a : Int} (computed : e.compute host queue n = .ok a) : n + e.depth < 10000 := by
  induction e generalizing n a with
  | int k => exact (Parser.room_ok computed).1
  | generic name => exact (Parser.room_ok computed).1
  | var v =>
    obtain ⟨_, room, -⟩ := Parser.bind_ok computed
    exact (Parser.room_ok room).1
  | paren e ih =>
    obtain ⟨_, -, after⟩ := Parser.bind_ok computed
    obtain ⟨_, inner, room⟩ := Parser.bind_ok after
    have inner := ih inner
    have outer : n + 3 < 10000 := (Parser.room_ok room).1
    rw [Expr.depth]
    omega
  | neg e ih =>
    obtain ⟨_, -, after⟩ := Parser.bind_ok computed
    obtain ⟨_, inner, -⟩ := Parser.bind_ok after
    have inner := ih inner
    rw [Expr.depth]
    omega
  | bin op l r ih ih' =>
    obtain ⟨_, left, after⟩ := Parser.bind_ok computed
    obtain ⟨_, -, after⟩ := Parser.bind_ok after
    obtain ⟨_, right, -⟩ := Parser.bind_ok after
    have left := ih left
    have right := ih' right
    rw [Expr.depth]
    omega

lemma compute_quiet (n : ℕ) : Parser.Quiet (e.compute host queue n) := by
  induction e generalizing n with
  | int k => exact .room
  | generic name => exact .room
  | var v => exact .bind .room fun _ => .lift
  | paren e ih => exact .bind .room fun _ => .bind (ih _) fun _ => .room
  | neg e ih => exact .bind .room fun _ => .bind (ih _) fun _ => .lift
  | bin op l r ih ih' => exact .bind (ih _) fun _ => .bind .room fun _ => .bind (ih' _) fun _ => .lift

/-- The parser accepts what stands for an expression that has a value. -/
lemma ends_of_stands (stands : Stands rank k) : (parser host queue).Ends ⟨[(0, .none)], scan rank, none⟩
    (settle (Parser.lift (means host queue k))) := by
  cases k with
  | none => exact ends_empty (stands.imp_right id)
  | some e =>
    obtain ⟨reads, shallow, ended⟩ := stands
    have ends (rest : List Token) (semicolon : rest = [] ∨ rest = [.sym ';']) :
        (parser host queue).Ends ⟨[(0, .none)], e.tokens ++ rest, none⟩
          (settle (Parser.lift (e.value host queue))) := by
      rw [← compute_value (show 1 + e.depth < 10000 by omega)]
      exact ends_expr semicolon reads
    obtain eq | eq := ended
    · rw [eq, ← List.append_nil e.tokens]
      exact ends [] (.inl rfl)
    · rw [eq]
      exact ends _ (.inr rfl)

/-- What is accepted stands for an expression. -/
lemma stands_of_accept {result : Option Int}
    (parsed : (parser host queue).parse .none none (scan rank) = some (.accept result)) :
    ∃ k n, Stands rank k ∧ means host queue k = some n := by
  obtain ⟨semicolon, ended, empty | ⟨e, reads, eq⟩⟩ := accepted_statement parsed
  · exact ⟨none, host.fixedPriority, ended.imp empty.trans empty.trans, rfl⟩
  · have ran : (parser host queue).Ends _ _ := ends_expr ended reads
    rw [← eq] at ran
    have same := ran.unique ⟨_, parsed⟩
    cases computed : e.compute host queue 1 with
    | error out =>
      rw [computed] at same
      obtain rfl : out = .accept result := same
      exact absurd computed (compute_quiet 1 result)
    | ok n =>
      have fits := compute_fits computed
      rw [compute_value fits] at computed
      refine ⟨some e, n, ⟨reads, by omega, ?_⟩, Parser.lift_ok computed⟩
      obtain rfl | rfl := ended
      · exact .inl (eq.trans (List.append_nil _))
      · exact .inr eq

end Stands

end Rank

section Client

variable {fnmatch : String → String → Bool} {host : Host} {queue : Int} {reqs rank : List Char}
  {r : Option Reqs.Expr} {k : Option Rank.Expr}

/-- Requirements that are read have the answer that they stand for on every host. -/
lemma check_reqs_means (stands : Reqs.Stands reqs r) :
    gw_host_check_reqs fnmatch (some host) queue (some reqs) = Reqs.means fnmatch host queue r := by
  rw [Reqs.check_reqs_of (Reqs.ends_of_stands stands)]
  cases Reqs.means fnmatch host queue r with
  | none => rfl
  | some b => rfl

lemma compute_rank_means (stands : Rank.Stands rank k) :
    gw_host_compute_rank (some host) queue (some rank) = Rank.means host queue k := by
  rw [Rank.compute_rank_of (Rank.ends_of_stands stands)]
  cases Rank.means host queue k with
  | none => rfl
  | some n => rfl

lemma client_accepted (accepted : gw_host_client_check_syntax fnmatch (some host) (some reqs) (some rank) = some 0) :
    ∃ r k b n, Reqs.Stands reqs r ∧ Rank.Stands rank k ∧ Reqs.means fnmatch host 0 r = some b ∧
      Rank.means host 0 k = some n := by
  obtain ⟨out, parsed, after⟩ := Option.bind_eq_some_iff.1 accepted
  cases out with
  | accept b =>
    obtain ⟨out, parsed', after⟩ := Option.bind_eq_some_iff.1 after
    cases out with
    | accept result =>
      obtain ⟨r, stands, value⟩ := Reqs.stands_of_accept parsed
      obtain ⟨k, n, stands', value'⟩ := Rank.stands_of_accept parsed'
      exact ⟨r, k, b, n, stands, stands', value, value'⟩
    | abort | exhausted | undefined => cases after
  | abort | exhausted | undefined => cases after

lemma client_accepts {b : Bool} {n : Int} (stands : Reqs.Stands reqs r) (stands' : Rank.Stands rank k)
    (value : Reqs.means fnmatch host 0 r = some b) (value' : Rank.means host 0 k = some n) :
    gw_host_client_check_syntax fnmatch (some host) (some reqs) (some rank) = some 0 := by
  have ends : (Reqs.parser fnmatch host 0).Ends ⟨[(0, .none)], scan reqs, true⟩
      (Reqs.settle (Parser.lift (Reqs.means fnmatch host 0 r))) := Reqs.ends_of_stands stands
  have ends' : (Rank.parser host 0).Ends ⟨[(0, .none)], scan rank, none⟩
      (Rank.settle (Parser.lift (Rank.means host 0 k))) := Rank.ends_of_stands stands'
  rw [value] at ends
  rw [value'] at ends'
  unfold gw_host_client_check_syntax
  dsimp only
  rw [Certificate.parse_of_ends Reqs.checked Reqs.coded ends,
    Certificate.parse_of_ends Rank.checked (Rank.coded host 0) ends']
  rfl

end Client

/-- A client accepts the requirements and the rank that the grammars have and that have values for
the host of the client. On every host the daemon then evaluates them as they were read. -/
theorem client_accepts_iff (fnmatch : String → String → Bool) (probe : Host) (reqs rank : List Char) :
    gw_host_client_check_syntax fnmatch (some probe) (some reqs) (some rank) = some 0 ↔
      ∃ r k b n, (Reqs.Stands reqs r ∧ Reqs.means fnmatch probe 0 r = some b ∧
          ∀ host queue, gw_host_check_reqs fnmatch (some host) queue (some reqs) = Reqs.means fnmatch host queue r) ∧
        (Rank.Stands rank k ∧ Rank.means probe 0 k = some n ∧
          ∀ host queue, gw_host_compute_rank (some host) queue (some rank) = Rank.means host queue k) := by
  constructor
  · intro accepted
    obtain ⟨r, k, b, n, stands, stands', value, value'⟩ := client_accepted accepted
    exact ⟨r, k, b, n, ⟨stands, value, fun _ _ => check_reqs_means stands⟩,
      stands', value', fun _ _ => compute_rank_means stands'⟩
  · rintro ⟨r, k, b, n, ⟨stands, value, -⟩, stands', value', -⟩
    exact client_accepts stands stands' value value'

end GridWay.Im
