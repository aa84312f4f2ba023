import GridWay.Gwd.One
import GridWay.Gwd.Turn
import GridWay.Dm.Sides

/-!
# Calls to the other managers

Which replies queue actions at the Execution Manager and at the Transfer Manager, and which write
to the drivers. A handler of the Dispatch Manager does the former as its marks say; the checks of
the scheduler and a dispatch do neither.

* `Call.apart`: a call that reaches neither manager and no driver.
* `emCalls_trace`, `tmCalls_trace`: the queued actions are marks.
-/

namespace GridWay

open Lifecycle

/-- A call that reaches neither the other managers nor a driver. -/
@[simp] def Call.apart : Call → Bool
  | .em _ => false
  | .tm _ => false
  | .emMad _ _ => false
  | .tmMad _ _ => false
  | _ => true

section Apart

variable {cs : List Call}

lemma apart_emCalls (apart : cs.all Call.apart = true) : emCalls cs = [] :=
  List.filterMap_eq_nil_iff.2 fun c mem => by
    have apart := List.all_eq_true.1 apart c mem
    cases c <;> first | rfl | cases apart

lemma apart_emReqs (apart : cs.all Call.apart = true) : emReqs cs = [] :=
  List.filterMap_eq_nil_iff.2 fun c mem => by
    have apart := List.all_eq_true.1 apart c mem
    cases c <;> first | rfl | cases apart

end Apart

section Trace

variable {cs : List Call}

/-- The EM actions that marks queue. -/
def emsIn (ms : List Mark) : List EmAction :=
  ms.filterMap fun
    | .em a => some a
    | _ => none

/-- The TM actions that marks queue. -/
def tmsIn (ms : List Mark) : List TmAction :=
  ms.filterMap fun
    | .tm a => some a
    | _ => none

lemma emCalls_trace (cs : List Call) : emCalls cs = emsIn (trace cs) := by
  induction cs with
  | nil => rfl
  | cons c cs ih =>
    rw [emCalls_cons, ih, trace_cons]
    cases c
    case rm a => cases a <;> rfl
    all_goals rfl

lemma tmCalls_trace (cs : List Call) : tmCalls cs = tmsIn (trace cs) := by
  induction cs with
  | nil => rfl
  | cons c cs ih =>
    rw [tmCalls_cons, ih, trace_cons]
    cases c
    case rm a => cases a <;> rfl
    all_goals rfl

/-- Without a mark nothing is written to a driver. -/
lemma reqs_trace (none : .driver ∉ trace cs) : emReqs cs = [] ∧ tmReqs cs = [] := by
  induction cs with
  | nil => exact ⟨rfl, rfl⟩
  | cons c cs ih =>
    rw [trace_cons] at none
    obtain ⟨em, tm⟩ := ih fun mem => none (List.mem_append_right _ mem)
    rw [emReqs_cons, tmReqs_cons, em, tm, List.append_nil, List.append_nil]
    cases c
    case emMad => exact absurd (List.mem_append_left _ List.mem_cons_self) none
    case tmMad => exact absurd (List.mem_append_left _ List.mem_cons_self) none
    all_goals exact ⟨rfl, rfl⟩

end Trace

namespace Lifecycle

/-- The actions that start an execution. -/
def starts (a : DmAction) : Bool := a == .preWrapper || a == .wrapper

/-- A submission is queued when an execution starts. -/
lemma marks_submit : ∀ a st done staged, starts a = false →
    .submit ∉ emsIn (Dm.marks a st done staged) := by
  decide

/-- Only a hard kill writes to a driver itself. -/
lemma marks_driver : ∀ a st done staged, a ≠ .killHard → .driver ∉ Dm.marks a st done staged := by
  decide

end Lifecycle

namespace Dm

variable {w : World} {job : Job}

lemma handle_reqs {a : DmAction} (other : a ≠ .killHard) (safe : .fault ∉ (handle a w job).calls) :
    emReqs (handle a w job).calls = [] ∧ tmReqs (handle a w job).calls = [] := by
  apply reqs_trace
  rw [handle_trace safe]
  exact marks_driver a _ _ _ other

lemma uncheckJob_apart : (uncheckJob w job).calls.all Call.apart = true := by
  unfold uncheckJob
  repeat' split
  all_goals rfl

lemma checkJobSuspension_apart : (checkJobSuspension w job).calls.all Call.apart = true := by
  unfold checkJobSuspension
  repeat' split
  all_goals rfl

lemma checkJobRescheduling_apart : (checkJobRescheduling w job).calls.all Call.apart = true := by
  unfold checkJobRescheduling
  repeat' split
  all_goals rfl

lemma checkJob_apart : (checkJob w job).calls.all Call.apart = true := by
  unfold checkJob
  split
  · rw [Reply.after_calls, List.all_append, checkJobSuspension_apart, checkJobRescheduling_apart]
    rfl
  · rfl

lemma dispatchJob_apart (hid : HostId) (host : Host) (rank : Int) (queue : String) :
    (dispatchJob hid host rank queue w job).calls.all Call.apart = true := by
  unfold dispatchJob
  split
  · dsimp only
    split <;> rfl
  · split
    · exact uncheckJob_apart
    · dsimp only
      split <;> rfl
  · rfl

end Dm

namespace Tm

variable {job : Job} {r : Reply}

/-- The Transfer Manager does not reach the executions. -/
lemma Own.emCalls (h : Own job r) : emCalls r.calls = [] :=
  List.filterMap_eq_nil_iff.2 fun c mem => by
    have transfer := h.of_mem mem
    cases c <;> first | rfl | cases transfer

lemma Own.tmCalls (h : Own job r) : tmCalls r.calls = [] :=
  List.filterMap_eq_nil_iff.2 fun c mem => by
    have transfer := h.of_mem mem
    cases c <;> first | rfl | cases transfer

lemma Own.emReqs (h : Own job r) : emReqs r.calls = [] :=
  List.filterMap_eq_nil_iff.2 fun c mem => by
    have transfer := h.of_mem mem
    cases c <;> first | rfl | cases transfer

end Tm

end GridWay
