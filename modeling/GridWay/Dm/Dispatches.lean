import GridWay.Dm.Lifecycle
import Mathlib.Data.Fintype.Option

/-!
# Open dispatches

How many dispatches of a job are open: a dispatch is opened by the scheduler and closed when its
execution is over. A job has at most one transition waiting at the Dispatch Manager, and what is
open follows from its state and from that transition.

* `Lifecycle.holding`: the number of open dispatches, newest first.
* `Lifecycle.fits`: the transitions that may wait in a state.
* `Lifecycle.orderly`: the actions that keep this order.
* `Lifecycle.effects_settle`: an orderly action pays exactly what it closes.
-/

namespace GridWay

instance : Fintype JobState :=
  .ofList
    [.init, .pending, .hold, .prolog, .preWrapper, .wrapper, .epilog, .epilogStd,
      .epilogRestart, .epilogFail, .stopCancel, .stopEpilog, .stopped, .killCancel, .killEpilog,
      .migrCancel, .migrProlog, .migrEpilog, .zombie, .failed]
    fun st => by cases st <;> decide

instance : Fintype DmAction :=
  .ofList
    [.hold, .release, .stop, .resume, .kill, .killHard, .wait, .reschedule, .prologDone,
      .prologFailed, .epilogDone, .epilogFailed, .wrapperDone, .wrapperFailed, .prolog,
      .migrProlog, .preWrapper, .wrapper, .epilog, .epilogStd, .migrEpilog, .stopEpilog,
      .killEpilog, .epilogFail, .epilogRestart, .migrCancel, .pending, .zombie, .failed, .stopped]
    fun a => by cases a <;> decide

namespace Lifecycle

/-- Once one of these transitions waits, no execution of the job is open. -/
def closing : DmAction → Bool
  | .pending | .failed | .epilog | .epilogStd | .epilogFail | .epilogRestart | .stopEpilog
  | .killEpilog | .stopped | .zombie => true
  | _ => false

/-- The number of open dispatches of a job in a state, with a transition waiting. -/
def holding (st : JobState) (m : Option DmAction) : Nat :=
  match m with
  | some .prolog => 1
  | some .migrCancel => 2
  | some .migrProlog => 1
  | some a => if closing a then 0 else 1
  | none =>
    match st with
    | .prolog | .preWrapper | .wrapper | .stopCancel | .killCancel | .migrProlog | .migrEpilog => 1
    | .migrCancel => 2
    | _ => 0

/-- The states in which a transition may wait. -/
def leaves : DmAction → List JobState
  | .prolog => [.pending, .hold, .prolog]
  | .preWrapper => [.prolog]
  | .wrapper => [.prolog, .preWrapper, .migrEpilog]
  | .migrCancel => [.wrapper]
  | .migrProlog => [.migrCancel]
  | .migrEpilog => [.migrProlog, .migrEpilog]
  | .epilogStd => [.wrapper, .stopCancel, .killCancel, .epilogStd]
  | .epilog => [.wrapper, .stopCancel, .killCancel, .epilogStd, .epilog]
  | .epilogRestart => [.epilogStd, .epilogRestart]
  | .epilogFail => [.preWrapper, .wrapper, .stopCancel, .killCancel, .epilogFail]
  | .stopEpilog => [.stopCancel, .stopEpilog]
  | .killEpilog => [.killCancel, .killEpilog]
  | .pending => [.prolog, .migrProlog, .epilog, .epilogFail, .epilogRestart]
  | .failed => [.prolog, .migrProlog, .epilog, .epilogFail, .epilogRestart]
  | .stopped => [.stopEpilog]
  | .zombie => [.epilog, .killEpilog]
  | _ => []

/-- A transition may wait in a state. -/
def fits (st : JobState) : Option DmAction → Bool
  | none => true
  | some a => st ∈ leaves a

/-- The number of dispatches that a payment closes. -/
def Payment.count : Payment → Nat
  | .none => 0
  | .head => 1
  | .prev => 1
  | .both => 2

/-- The states in which a prolog is on its way. -/
def inProlog (st : JobState) : Bool := st == .prolog || st == .migrProlog

/-- The states in which the execution of the newest record is on its way. -/
def inExecution (st : JobState) : Bool :=
  st == .preWrapper || st == .wrapper || st == .stopCancel || st == .killCancel

/-- The states that the epilog callbacks leave. -/
def inEpilog (st : JobState) : Bool :=
  st == .epilog || st == .epilogFail || st == .epilogRestart || st == .stopEpilog
    || st == .killEpilog || st == .migrEpilog || st == .epilogStd

/-- The dispatches that a hard kill pays in a state. -/
def killPays (st : JobState) : Nat :=
  match st with
  | .migrProlog | .migrEpilog | .prolog | .preWrapper | .wrapper | .stopCancel | .killCancel => 1
  | .migrCancel => 2
  | _ => 0

/-- An action that comes in order, in the state of a job and with the transition that waits:
no second transition is queued while one waits, the failures come in the states they are about,
a kill or stop does not hit the window between a dispatch and its transition, and a migration finds
its execution running. -/
def orderly (a : DmAction) (st : JobState) (done : Bool) (m : Option DmAction) : Bool :=
  match a with
  | .prologDone => m.isNone || !inProlog st
  | .prologFailed => m.isNone && inProlog st
  | .wrapperDone => m.isNone || !(inExecution st || st == .migrCancel)
  | .wrapperFailed => m.isNone && inExecution st
  | .epilogDone => m.isNone || !inEpilog st
  | .epilogFailed => m.isNone || !inEpilog st
  | .kill => !(resting st && m == some .prolog) && !(st == .wrapper && m == some .migrCancel)
  | .stop => !(st == .wrapper && m == some .migrCancel)
  | .killHard => holding st m == killPays st
  | .migrCancel => st == .wrapper && !done
  | _ => true

/-- The transition that waits after an action that queued `as`: a transition leaves the queue
when it is taken. -/
def waiting (a : DmAction) (m : Option DmAction) (as : List DmAction) : List DmAction :=
  (if a.isTransition then [] else m.toList) ++ as.filter DmAction.isTransition

/-- An effect settles the account: what was open is what is still open and what was paid. -/
def Settles (a : DmAction) (st : JobState) (m : Option DmAction) (eff : Effect) : Prop :=
  (waiting a m eff.queued).length ≤ 1 ∧ fits eff.next (waiting a m eff.queued).head? ∧
  holding st m = (if eff.frees then 0 else holding eff.next (waiting a m eff.queued).head?) +
    eff.pays.count ∧
  (eff.pays = .head → holding st m = 1) ∧ (eff.pays = .prev → holding st m = 2) ∧
  (eff.pays = .both → holding st m = 2)

instance {a st m eff} : Decidable (Settles a st m eff) :=
  inferInstanceAs (Decidable (_ ∧ _))

/-- A release from `HOLD` opens and closes nothing. -/
lemma holding_released (m : Option DmAction) : holding .pending m = holding .hold m := by
  revert m
  decide

lemma fits_released (m : Option DmAction) : fits .hold m → fits .pending m := by
  revert m
  decide

/-- A transition is taken in a state that it leaves, and is itself what waited. -/
lemma transition_settles : ∀ a : DmAction, a.isTransition → ∀ st ∈ leaves a, ∀ done,
    orderly a st done (some a) → ∀ eff ∈ effects a st done, Settles a st (some a) eff := by
  decide

/-- A request may find no transition waiting. -/
lemma request_settles : ∀ a : DmAction, ¬a.isTransition → ∀ st done,
    orderly a st done none → ∀ eff ∈ effects a st done, Settles a st none eff := by
  decide

/-- A request that finds a transition waiting comes in a state that the transition leaves. -/
lemma request_settles_waiting : ∀ a : DmAction, ¬a.isTransition → ∀ b, ∀ st ∈ leaves b, ∀ done,
    orderly a st done (some b) → ∀ eff ∈ effects a st done, Settles a st (some b) eff := by
  decide

/-- An orderly action pays exactly what it closes. -/
theorem effects_settle (a : DmAction) (st : JobState) (done : Bool) (m : Option DmAction)
    (fit : fits st m) (taken : a.isTransition → m = some a) (order : orderly a st done m) :
    ∀ eff ∈ effects a st done, Settles a st m eff := by
  by_cases move : a.isTransition
  · obtain rfl := taken move
    exact transition_settles a move st (of_decide_eq_true fit) done order
  · cases m with
    | none => exact request_settles a move st done order
    | some b => exact request_settles_waiting a move b st (of_decide_eq_true fit) done order

end Lifecycle

end GridWay
