import GridWay.Lib.Proc
import GridWay.Lib.Py

/-!
# The communicators of the transfers

The methods of the communicators that the transfer driver calls (`communicators/local.py`, `ssh.py` and
`openssh.py`). What a command or a copy does is left open: it returns, it returns an error text, or it
raises an exception, and in the last two cases it may have done its work or not. The trace has what was
attempted, and whether the work was done.

* `Local`, `Ssh`, `OpenSsh`: the methods of each communicator.
* `OpenSsh.execCommand_run`: what the attempts of a command come to.
-/

namespace GridWay.Drm4g.Transfer

/-- What a command or a copy is for. -/
inductive Effect where
  | removed (directory : String)
  | made (directory : String)
  | copied (source target : String)
  | executable (path : String)
deriving DecidableEq, Repr

/-- What a command or a copy ends with. -/
inductive Outcome where
  | output
  | error (text : {text : String // text ≠ ""}) (done : Bool)
  | raised (message : String) (done : Bool)

/-- The work was done. -/
def Outcome.done : Outcome → Bool
  | .output => true
  | .error _ done => done
  | .raised _ done => done

/-- The machines: what each attempt at a command ends with, and the directories that hold a file `.lock`; the
path of an URL; and how deep calls can be. -/
structure Machines where
  outcome : Effect → Nat → Outcome
  locked : String → Bool
  path : String → Option String
  depth : Nat

/-- What was attempted, and whether the work was done. -/
abbrev Trace := List (Effect × Bool)

/-- The number of attempts at a command. -/
def tries (s : Trace) (e : Effect) : Nat := s.countP fun x => x.1 = e

/-- An attempt at a command or a copy. -/
def attempt (o : Machines) (e : Effect) : Proc Trace Outcome := fun s =>
  (.ok (o.outcome e (tries s e)), s ++ [(e, (o.outcome e (tries s e)).done)])

/-- An attempt that raises what goes wrong. -/
def raising (o : Machines) (e : Effect) : Proc Trace Unit := do
  match ← attempt o e with
  | .output => return
  | .error text _ => throw text.val
  | .raised message _ => throw message

lemma raising_run (o : Machines) (e : Effect) (s : Trace) : ∃ r,
    raising o e s = (r, s ++ [(e, (o.outcome e (tries s e)).done)]) ∧
      (r = .ok () ↔ o.outcome e (tries s e) = .output) := by
  have run : raising o e s = (match o.outcome e (tries s e) with
    | .output => pure ()
    | .error text _ => throw text.val
    | .raised message _ => throw message : Proc Trace Unit) (s ++ [(e, (o.outcome e (tries s e)).done)]) :=
    rfl
  rw [run]
  cases o.outcome e (tries s e) with
  | output => exact ⟨.ok (), rfl, fun _ => rfl, fun _ => rfl⟩
  | error text done =>
    refine ⟨.error text, rfl, fun h => ?_, fun h => ?_⟩
    · cases h
    · cases h
  | raised message done =>
    refine ⟨.error message, rfl, fun h => ?_, fun h => ?_⟩
    · cases h
    · cases h

/-- A communicator object. The path of its work directory is expanded, where the communicator does this. -/
structure Settings where
  work_directory : String
  frontend : String
deriving DecidableEq, Repr

/-- `re.compile(r'^~').sub(work_directory, path)`, for the path of an URL that may have none. -/
def expand (c : Settings) : Option String → Except String String
  | none => .error "expected string or bytes-like object"
  | some path =>
    match path.toList with
    | '~' :: rest => .ok (c.work_directory ++ String.ofList rest)
    | _ => .ok path

/-- The path of a copy that is not one of the work directory. -/
def plain : Option String → Except String String
  | none => .error "expected str, bytes or os.PathLike object, not NoneType"
  | some path => .ok path

/-- An exception of the standard library is passed on. -/
def lift {α : Type} : Except String α → Proc Trace α
  | .ok a => pure a
  | .error err => throw err

namespace Local

/-- `execCommand`: the error text of a command. -/
def execCommand (o : Machines) (e : Effect) : Proc Trace String := do
  match ← attempt o e with
  | .output => return ""
  | .error text _ => return text
  | .raised message _ => throw message

/-- A command whose error text is raised. -/
def checked (o : Machines) (e : Effect) (complain : String → String) : Proc Trace Unit := do
  let err ← execCommand o e
  if err ≠ "" then throw (complain err)

def mkDirectory (o : Machines) (c : Settings) (path : Option String) : Proc Trace Unit := do
  let to_dir ← lift (expand c path)
  checked o (.made to_dir) fun err =>
    "Could not create " ++ to_dir ++ " directory: " ++ Py.oneLine err ++ " "

def rmDirectory (o : Machines) (c : Settings) (path : Option String) : Proc Trace Unit := do
  let to_dir ← lift (expand c path)
  checked o (.removed to_dir) fun err =>
    "Could not remove " ++ to_dir ++ " directory: " ++ Py.oneLine err ++ " "

/-- `copy`, when the paths are known. The last step is `os.chmod`. -/
def copyTo (o : Machines) (from_dir to_dir execution_mode : String) : Proc Trace Unit := do
  checked o (.copied from_dir to_dir) fun err =>
    "Could not copy from " ++ from_dir ++ " to " ++ to_dir ++ " : " ++ Py.oneLine err
  if execution_mode = "X" then raising o (.executable to_dir)

/-- The paths of `copy`, from or to a file of this machine. A path that is missing is written as one. -/
def paths (c : Settings) (put : Bool) (source target : Option String) : Except String (String × String) := do
  let from_dir ← if put then .ok (source.getD "None") else expand c source
  let to_dir ← if put then expand c target else .ok (target.getD "None")
  return (from_dir, to_dir)

def copy (o : Machines) (c : Settings) (put : Bool) (source target : Option String)
    (execution_mode : String) : Proc Trace Unit := do
  let (from_dir, to_dir) ← lift (paths c put source target)
  copyTo o from_dir to_dir execution_mode

def checkoutLock (o : Machines) (c : Settings) (path : Option String) : Proc Trace Bool := do
  let to_dir ← lift (expand c path)
  return o.locked to_dir

/-- What a command returns. -/
def reported : Outcome → Except String String
  | .output => .ok ""
  | .error text _ => .ok text
  | .raised message _ => .error message

lemma execCommand_run (o : Machines) (e : Effect) (s : Trace) : execCommand o e s =
    (reported (o.outcome e (tries s e)), s ++ [(e, (o.outcome e (tries s e)).done)]) := by
  show (match o.outcome e (tries s e) with
    | .output => pure ""
    | .error text _ => pure text.val
    | .raised message _ => throw message : Proc Trace String) _ = _
  cases o.outcome e (tries s e) with
  | _ => rfl

lemma checked_run (o : Machines) (e : Effect) (complain : String → String) (s : Trace) : ∃ r,
    checked o e complain s = (r, s ++ [(e, (o.outcome e (tries s e)).done)]) ∧
      (r = .ok () ↔ o.outcome e (tries s e) = .output) := by
  have run := execCommand_run o e s
  cases outcome : o.outcome e (tries s e) with
  | output =>
    rw [outcome] at run
    exact ⟨_, Proc.bind_of_ok run, fun _ => rfl, fun _ => rfl⟩
  | error text done =>
    rw [outcome] at run
    refine ⟨.error (complain text), (Proc.bind_of_ok run).trans ?_, fun h => ?_, fun h => ?_⟩
    · rw [if_pos text.2]
      rfl
    · cases h
    · cases h
  | raised message done =>
    rw [outcome] at run
    refine ⟨_, Proc.bind_of_error run, fun h => ?_, fun h => ?_⟩
    · cases h
    · cases h

/-- A copy that returns has copied the file, and made it executable. -/
lemma copyTo_run (o : Machines) (from_dir to_dir mode : String) (s : Trace) : ∃ r t,
    copyTo o from_dir to_dir mode s = (r, t) ∧
      (r = .ok () → (.copied from_dir to_dir, true) ∈ t ∧ (mode = "X" → (.executable to_dir, true) ∈ t)) := by
  obtain ⟨first, copied, ok⟩ := checked_run o (.copied from_dir to_dir)
    (fun err => "Could not copy from " ++ from_dir ++ " to " ++ to_dir ++ " : " ++ Py.oneLine err) s
  cases first with
  | error err =>
    refine ⟨_, _, Proc.bind_of_error copied, fun h => ?_⟩
    cases h
  | ok _ =>
    have output := ok.1 rfl
    rw [output] at copied
    have here : (Effect.copied from_dir to_dir, true) ∈ s ++ [(.copied from_dir to_dir, true)] :=
      List.mem_append_right _ (List.mem_singleton_self _)
    by_cases isX : mode = "X"
    · obtain ⟨second, changed, ok⟩ := raising_run o (.executable to_dir)
        (s ++ [(.copied from_dir to_dir, true)])
      rw [copyTo, Proc.bind_of_ok copied, if_pos isX]
      refine ⟨second, _, changed, fun h => ?_⟩
      rw [ok.1 h]
      exact ⟨List.mem_append_left _ here, fun _ => List.mem_append_right _ (List.mem_singleton_self _)⟩
    · rw [copyTo, Proc.bind_of_ok copied, if_neg isX]
      exact ⟨.ok (), _, rfl, fun _ => ⟨here, fun h => absurd h isX⟩⟩

end Local

namespace Ssh

/-- `_set_dir`. -/
def set_dir (c : Settings) (path : Option String) : Except String String := do
  let work_directory ← expand c path
  match work_directory.toList with
  | [] => .error "string index out of range"
  | '~' :: rest => .ok (String.ofList ('.' :: rest))
  | _ => .ok work_directory

def mkDirectory (o : Machines) (c : Settings) (path : Option String) : Proc Trace Unit := do
  let to_dir ← lift (set_dir c path)
  Local.checked o (.made to_dir) fun stderr =>
    "Could not create " ++ to_dir ++ " directory on '" ++ c.frontend ++ "': " ++ stderr

def rmDirectory (o : Machines) (c : Settings) (path : Option String) : Proc Trace Unit := do
  let to_dir ← lift (set_dir c path)
  Local.checked o (.removed to_dir) fun stderr =>
    "Could not remove " ++ to_dir ++ " directory on '" ++ c.frontend ++ "': " ++ stderr

/-- The paths of `copy`. -/
def paths (c : Settings) (put : Bool) (source target : Option String) : Except String (String × String) :=
  if put then do
    let from_dir ← plain source
    let to_dir ← set_dir c target
    return (from_dir, to_dir)
  else do
    let from_dir ← set_dir c source
    let to_dir ← plain target
    return (from_dir, to_dir)

/-- `copy`. What `scp` reports is raised, and what `chmod` reports is not looked at. -/
def copy (o : Machines) (c : Settings) (put : Bool) (source target : Option String)
    (execution_mode : String) : Proc Trace Unit := do
  let (from_dir, to_dir) ← lift (paths c put source target)
  raising o (.copied from_dir to_dir)
  if put then
    if execution_mode = "X" then discard (Local.execCommand o (.executable to_dir))

/-- `checkoutLock` is the one of the base class, which returns nothing. -/
def checkoutLock : Proc Trace Bool := return false

end Ssh

namespace OpenSsh

/-- The exception says that a connection could not be shared. -/
def muxed (err : String) : Bool := Py.isIn "disabling multiplexing" err

/-- What Python raises when the calls are too deep. -/
def recursionError : String := "maximum recursion depth exceeded"

/-- `execCommand`, with the depth that is left. After an exception nothing is returned. -/
def execCommand (o : Machines) (e : Effect) : Nat → Proc Trace (Option String)
  | 0 => throw recursionError
  | n + 1 =>
    tryCatch
      (do
        match ← attempt o e with
        | .output => return some ""
        | .error text _ => return some text.val
        | .raised message _ => throw message)
      fun err => do
        if muxed err then discard (execCommand o e n)
        return none

/-- What Python raises when nothing is taken for a pair. -/
def unpackError : String := "cannot unpack non-iterable NoneType object"

/-- `stdout, stderr = self.execCommand(..)`. -/
def run (o : Machines) (e : Effect) (n : Nat) : Proc Trace String := do
  match ← execCommand o e n with
  | some stderr => return stderr
  | none => throw unpackError

/-- `mkDirectory` and `rmDirectory`: an exception or an error text is written to the log. -/
def directory (o : Machines) (c : Settings) (effect : String → Effect) (path : Option String) :
    Nat → Proc Trace Unit
  | 0 => throw recursionError
  | n + 1 =>
    tryCatch
      (do
        let to_dir ← lift (expand c path)
        discard (run o (effect to_dir) n))
      fun err => if muxed err then directory o c effect path n else return

def mkDirectory (o : Machines) (c : Settings) : Option String → Nat → Proc Trace Unit :=
  directory o c .made

def rmDirectory (o : Machines) (c : Settings) : Option String → Nat → Proc Trace Unit :=
  directory o c .removed

/-- `remote_scp`: the code with which `scp` returns is written to the log. -/
def remote_scp (o : Machines) (e : Effect) : Proc Trace Unit := do
  match ← attempt o e with
  | .output => return
  | .error _ _ => return
  | .raised message _ => throw message

/-- `copy`. It is tried again without the execution mode. -/
def copy (o : Machines) (c : Settings) (put : Bool) (source target : Option String)
    (execution_mode : String) : Nat → Proc Trace Unit
  | 0 => throw recursionError
  | n + 1 =>
    tryCatch
      (do
        if put then
          let from_dir ← lift (plain source)
          let to_dir ← lift (expand c target)
          raising o (.copied from_dir to_dir)
          if execution_mode = "X" then discard (run o (.executable to_dir) n)
        else
          let from_dir ← lift (expand c source)
          let to_dir ← lift (plain target)
          remote_scp o (.copied from_dir to_dir))
      fun err => if muxed err then copy o c put source target "" n else return

/-- `checkoutLock` is the one of the base class, which returns nothing. -/
def checkoutLock : Proc Trace Bool := return false

variable {o : Machines} {e : Effect} {s : Trace}

/-- The attempt is made again. -/
def retried : Outcome → Bool
  | .raised message _ => muxed message
  | _ => false

/-- One of the attempts from one on does the work, where an attempt is made as long as those before it are
made again. -/
def performs (outcome : Nat → Outcome) : Nat → Nat → Bool
  | 0, _ => false
  | n + 1, k => (outcome k).done || (retried (outcome k) && performs outcome n (k + 1))

/-- What the attempts at a command come to. -/
structure Attempts (o : Machines) (e : Effect) (n : Nat) (s new : Trace) : Prop where
  only : ∀ x ∈ new, x.1 = e
  done : (e, true) ∈ new ↔ performs (o.outcome e) n (tries s e) = true

/-- What an attempt returns. -/
def returned : Outcome → Except String (Option String)
  | .output => .ok (some "")
  | .error text _ => .ok (some text.val)
  | .raised message _ => .error message

lemma tries_self (s : Trace) (e : Effect) (done : Bool) : tries (s ++ [(e, done)]) e = tries s e + 1 := by
  rw [tries, List.countP_append, List.countP_singleton]
  simp [tries]

lemma tries_other {new : Trace} (other : ∀ x ∈ new, x.1 ≠ e) : tries (s ++ new) e = tries s e := by
  rw [tries, List.countP_append]
  have none : new.countP (fun x => x.1 = e) = 0 :=
    List.countP_eq_zero.2 fun x mem same => other x mem (of_decide_eq_true same)
  rw [none]
  rfl

namespace Attempts

variable {n : Nat} {new : Trace}

lemma none : Attempts o e 0 s [] where
  only _ mem := (List.not_mem_nil mem).elim
  done := ⟨fun mem => (List.not_mem_nil mem).elim, fun h => by cases h⟩

lemma last (once : retried (o.outcome e (tries s e)) = false) :
    Attempts o e (n + 1) s [(e, (o.outcome e (tries s e)).done)] where
  only x mem := by rw [List.mem_singleton.1 mem]
  done := by
    rw [performs, once, Bool.false_and, Bool.or_false, List.mem_singleton, Prod.mk.injEq]
    exact ⟨fun h => h.2.symm, fun h => ⟨rfl, h.symm⟩⟩

lemma again (more : retried (o.outcome e (tries s e)) = true)
    (rest : Attempts o e n (s ++ [(e, (o.outcome e (tries s e)).done)]) new) :
    Attempts o e (n + 1) s ((e, (o.outcome e (tries s e)).done) :: new) where
  only := List.forall_mem_cons.2 ⟨rfl, rest.only⟩
  done := by
    have done := rest.done
    rw [tries_self] at done
    rw [performs, more, Bool.true_and, Bool.or_eq_true, List.mem_cons, Prod.mk.injEq, done]
    exact or_congr ⟨fun h => h.2.symm, fun h => ⟨rfl, h.symm⟩⟩ Iff.rfl

/-- Other commands are left alone. -/
lemma other {e' : Effect} (attempts : Attempts o e n s new) (ne : e ≠ e') : ∀ x ∈ new, x.1 ≠ e' :=
  fun x mem same => ne (attempts.only x mem ▸ same)

end Attempts

lemma execCommand_of_ok {n : Nat} {r : Option String} (h : returned (o.outcome e (tries s e)) = .ok r) :
    execCommand o e (n + 1) s = (.ok r, s ++ [(e, (o.outcome e (tries s e)).done)]) := by
  refine Proc.handle_of_ok ?_
  show (match o.outcome e (tries s e) with
    | .output => pure (some "")
    | .error text _ => pure (some text.val)
    | .raised message _ => throw message : Proc Trace (Option String)) _ = _
  cases outcome : o.outcome e (tries s e) with
  | output =>
    rw [outcome] at h
    cases h
    rfl
  | error text done =>
    rw [outcome] at h
    cases h
    rfl
  | raised message done =>
    rw [outcome] at h
    cases h

lemma execCommand_of_raised {n : Nat} {message : String} {done : Bool}
    (h : o.outcome e (tries s e) = .raised message done) :
    execCommand o e (n + 1) s =
      (do
        if muxed message then discard (execCommand o e n)
        return none : Proc Trace (Option String)) (s ++ [(e, done)]) := by
  refine Proc.handle_of_error ?_
  show (match o.outcome e (tries s e) with
    | .output => pure (some "")
    | .error text _ => pure (some text.val)
    | .raised message _ => throw message : Proc Trace (Option String))
      (s ++ [(e, (o.outcome e (tries s e)).done)]) = _
  rw [h]
  rfl

/-- The attempts that the depth of the calls allows are made; the only exception is that it does not. -/
lemma execCommand_run (n : Nat) : ∃ r new, execCommand o e n s = (r, s ++ new) ∧ Attempts o e n s new ∧
    ∀ err, r = .error err → err = recursionError := by
  induction n generalizing s with
  | zero =>
    refine ⟨.error recursionError, [], ?_, Attempts.none, ?_⟩
    · rw [List.append_nil]
      rfl
    · rintro _ ⟨⟩
      rfl
  | succ n ih =>
    cases outcome : o.outcome e (tries s e) with
    | output =>
      refine ⟨_, _, execCommand_of_ok (r := some "") ?_, Attempts.last ?_, fun _ h => ?_⟩
      · rw [outcome]
        rfl
      · rw [outcome]
        rfl
      · cases h
    | error text done =>
      refine ⟨_, _, execCommand_of_ok (r := some text.val) ?_, Attempts.last ?_, fun _ h => ?_⟩
      · rw [outcome]
        rfl
      · rw [outcome]
        rfl
      · cases h
    | raised message done =>
      have once : (o.outcome e (tries s e)).done = done := by
        rw [outcome]
        rfl
      rw [execCommand_of_raised outcome]
      cases mux : muxed message with
      | false =>
        have retry : retried (o.outcome e (tries s e)) = false := by
          rw [outcome]
          exact mux
        refine ⟨.ok none, [(e, done)], rfl, once ▸ Attempts.last retry, fun _ h => ?_⟩
        cases h
      | true =>
        have retry : retried (o.outcome e (tries s e)) = true := by
          rw [outcome]
          exact mux
        obtain ⟨r, new, run, attempts, deep⟩ := ih (s := s ++ [(e, done)])
        have more : Attempts o e (n + 1) s ((e, done) :: new) := by
          rw [← once] at attempts ⊢
          exact Attempts.again retry attempts
        rw [if_pos rfl]
        have after := Proc.run_discard run
        rw [List.append_assoc, List.singleton_append] at after
        cases r with
        | ok result =>
          rw [Proc.bind_of_ok after]
          exact ⟨.ok none, (e, done) :: new, rfl, more, fun _ h => by cases h⟩
        | error err =>
          rw [Proc.bind_of_error after]
          refine ⟨.error err, (e, done) :: new, rfl, more, ?_⟩
          rintro _ ⟨⟩
          exact deep err rfl

/-- A command whose results are unpacked does not raise what would make it be tried again. -/
lemma run_run (n : Nat) : ∃ r new, run o e n s = (r, s ++ new) ∧ Attempts o e n s new ∧
    ∀ err, r = .error err → muxed err = false := by
  obtain ⟨r, new, run, attempts, deep⟩ := execCommand_run (o := o) (e := e) (s := s) n
  cases r with
  | error err =>
    refine ⟨.error err, new, Proc.bind_of_error run, attempts, ?_⟩
    rintro _ ⟨⟩
    rw [deep err rfl]
    decide
  | ok result =>
    have next := Proc.bind_of_ok (f := fun result => match result with
      | some stderr => pure stderr
      | none => throw unpackError) run
    cases result with
    | some stderr => exact ⟨.ok stderr, new, next, attempts, fun _ h => by cases h⟩
    | none =>
      refine ⟨.error unpackError, new, next, attempts, ?_⟩
      rintro _ ⟨⟩
      decide

variable {c : Settings} {path source target : Option String} {dir err execution_mode : String}
  {effect : String → Effect} {n : Nat}

/-- The error of a path is not one that would make a method be tried again. -/
lemma expand_error (h : expand c path = .error err) : muxed err = false := by
  cases path with
  | none =>
    cases h
    decide
  | some path =>
    rw [expand] at h
    split at h <;> cases h

lemma plain_error (h : plain path = .error err) : muxed err = false := by
  cases path with
  | none =>
    cases h
    decide
  | some path => cases h

/-- `mkDirectory` and `rmDirectory` return, whatever their command comes to. -/
lemma directory_run (effect : String → Effect) (h : expand c path = .ok dir) : ∃ new,
    directory o c effect path (n + 1) s = (.ok (), s ++ new) ∧ Attempts o (effect dir) n s new := by
  obtain ⟨r, new, run, attempts, calm⟩ := run_run (o := o) (e := effect dir) (s := s) n
  have body := Proc.run_discard run
  refine ⟨new, ?_, attempts⟩
  have lifted : (lift (expand c path) : Proc Trace String) s = (.ok dir, s) := by
    rw [h]
    rfl
  cases r with
  | ok _ => exact Proc.handle_of_ok ((Proc.bind_of_ok lifted).trans body)
  | error err =>
    refine (Proc.handle_of_error ((Proc.bind_of_ok lifted).trans body)).trans ?_
    rw [calm err rfl]
    rfl

lemma directory_error (h : expand c path = .error err) :
    directory o c effect path (n + 1) s = (.ok (), s) := by
  have lifted : (lift (expand c path) : Proc Trace String) s = (.error err, s) := by
    rw [h]
    rfl
  refine (Proc.handle_of_error (Proc.bind_of_error lifted)).trans ?_
  rw [expand_error h]
  rfl

/-- The paths of a copy. -/
def paths (c : Settings) (put : Bool) (source target : Option String) : Except String (String × String) :=
  if put then do
    let from_dir ← plain source
    let to_dir ← expand c target
    return (from_dir, to_dir)
  else do
    let from_dir ← expand c source
    let to_dir ← plain target
    return (from_dir, to_dir)

/-- The copy is tried again. -/
def again (put : Bool) : Outcome → Bool
  | .output => false
  | .error text _ => put && muxed text
  | .raised message _ => muxed message

/-- One of the copies from one on does the work. -/
def copies (put : Bool) (outcome : Nat → Outcome) : Nat → Nat → Bool
  | 0, _ => false
  | n + 1, k => (outcome k).done || (again put (outcome k) && copies put outcome n (k + 1))

/-- The copy is not tried again more often than the depth of the calls allows. -/
def settles (put : Bool) (outcome : Nat → Outcome) : Nat → Nat → Bool
  | 0, _ => false
  | n + 1, k => !again put (outcome k) || settles put outcome n (k + 1)

/-- What the attempts at a copy come to: the file is made executable after a first copy that is not tried
again. -/
structure Copies (o : Machines) (put : Bool) (execution_mode : String) (e x : Effect) (n : Nat)
    (s new : Trace) (r : Except String Unit) : Prop where
  only : ∀ y ∈ new, y.1 = e ∨ y.1 = x
  done : (e, true) ∈ new ↔ copies put (o.outcome e) n (tries s e) = true
  returns : r = .ok () ↔ settles put (o.outcome e) n (tries s e) = true
  mode : (x, true) ∈ new ↔ put = true ∧ execution_mode = "X" ∧ ∃ m, n = m + 1 ∧
    o.outcome e (tries s e) = .output ∧ performs (o.outcome x) m (tries s x) = true

variable {put : Bool} {from_dir to_dir : String}

lemma lift_ok {α : Type} {x : Except String α} {a : α} (h : x = .ok a) :
    (lift x : Proc Trace α) s = (.ok a, s) := by
  rw [h]
  rfl

lemma lift_error {α : Type} {x : Except String α} (h : x = .error err) :
    (lift x : Proc Trace α) s = (.error err, s) := by
  rw [h]
  rfl

/-- What a copy returns; `remote_scp` drops the code with which `scp` returns. -/
def transferred (put : Bool) : Outcome → Except String Unit
  | .output => .ok ()
  | .error text _ => if put then .error text else .ok ()
  | .raised message _ => .error message

/-- The copy itself. -/
def transfer (o : Machines) (put : Bool) (e : Effect) : Proc Trace Unit :=
  if put then raising o e else remote_scp o e

lemma transfer_run (put : Bool) : transfer o put e s =
    (transferred put (o.outcome e (tries s e)), s ++ [(e, (o.outcome e (tries s e)).done)]) := by
  cases put with
  | true =>
    show (match o.outcome e (tries s e) with
      | .output => pure ()
      | .error text _ => throw text.val
      | .raised message _ => throw message : Proc Trace Unit) _ = _
    cases o.outcome e (tries s e) with
    | _ => rfl
  | false =>
    show (match o.outcome e (tries s e) with
      | .output => pure ()
      | .error _ _ => pure ()
      | .raised message _ => throw message : Proc Trace Unit) _ = _
    cases o.outcome e (tries s e) with
    | _ => rfl

/-- What is done after the copy. -/
def finish (o : Machines) (put : Bool) (execution_mode to_dir : String) (n : Nat) : Proc Trace Unit :=
  if put then if execution_mode = "X" then discard (run o (.executable to_dir) n) else return else return

/-- A copy whose paths are there. -/
lemma copy_succ (h : paths c put source target = .ok (from_dir, to_dir)) :
    copy o c put source target execution_mode (n + 1) s =
      (tryCatch
        (do
          transfer o put (.copied from_dir to_dir)
          finish o put execution_mode to_dir n)
        fun err => if muxed err then copy o c put source target "" n else return : Proc Trace Unit) s := by
  have handled {x y : Proc Trace Unit} {h : String → Proc Trace Unit} (same : x s = y s) :
      (tryCatch x h) s = (tryCatch y h) s := by
    show Proc.handle x h s = Proc.handle y h s
    rw [Proc.handle, Proc.handle, same]
  refine handled ?_
  cases put with
  | true =>
    rw [paths, if_pos rfl] at h
    cases first : plain source with
    | error err =>
      rw [first] at h
      cases h
    | ok a =>
      rw [first] at h
      cases second : expand c target with
      | error err =>
        rw [second] at h
        cases h
      | ok b =>
        rw [second] at h
        cases h
        rfl
  | false =>
    rw [paths, if_neg Bool.false_ne_true] at h
    cases first : expand c source with
    | error err =>
      rw [first] at h
      cases h
    | ok a =>
      rw [first] at h
      cases second : plain target with
      | error err =>
        rw [second] at h
        cases h
      | ok b =>
        rw [second] at h
        cases h
        show remote_scp o (.copied from_dir to_dir) s =
          (remote_scp o (.copied from_dir to_dir) >>= fun _ => pure ()) s
        rw [Proc.run_bind]
        cases remote_scp o (.copied from_dir to_dir) s with
        | mk r t =>
          cases r with
          | _ => rfl

lemma transferred_again (x : Outcome) :
    (∃ err, transferred put x = .error err ∧ muxed err = true) ↔ again put x = true := by
  constructor
  · rintro ⟨err, h, mux⟩
    cases x with
    | output => cases h
    | error text done =>
      cases put with
      | true =>
        cases h
        exact mux
      | false => cases h
    | raised message done =>
      cases h
      exact mux
  · intro more
    cases x with
    | output => cases more
    | error text done =>
      cases put with
      | true => exact ⟨text, rfl, more⟩
      | false => cases more
    | raised message done => exact ⟨message, rfl, more⟩

/-- A copy that is tried again. -/
lemma copy_again (h : paths c put source target = .ok (from_dir, to_dir))
    (more : again put (o.outcome (.copied from_dir to_dir) (tries s (.copied from_dir to_dir))) = true) :
    copy o c put source target execution_mode (n + 1) s =
      copy o c put source target "" n (s ++ [(.copied from_dir to_dir,
        (o.outcome (.copied from_dir to_dir) (tries s (.copied from_dir to_dir))).done)]) := by
  obtain ⟨err, raised, mux⟩ := (transferred_again _).2 more
  have body := transfer_run (o := o) (e := .copied from_dir to_dir) (s := s) put
  rw [raised] at body
  rw [copy_succ h]
  refine (Proc.handle_of_error (Proc.bind_of_error body)).trans ?_
  rw [mux]
  rfl

/-- A copy that is not tried again: it returns, after the attempts to make the file executable. -/
lemma copy_last (execution_mode : String) (h : paths c put source target = .ok (from_dir, to_dir))
    (once : again put (o.outcome (.copied from_dir to_dir) (tries s (.copied from_dir to_dir))) = false) :
    ∃ new, copy o c put source target execution_mode (n + 1) s =
        (.ok (), s ++ [(.copied from_dir to_dir,
          (o.outcome (.copied from_dir to_dir) (tries s (.copied from_dir to_dir))).done)] ++ new) ∧
      (∀ y ∈ new, y.1 = .executable to_dir) ∧
      ((.executable to_dir, true) ∈ new ↔ put = true ∧ execution_mode = "X" ∧
        o.outcome (.copied from_dir to_dir) (tries s (.copied from_dir to_dir)) = .output ∧
        performs (o.outcome (.executable to_dir)) n (tries s (.executable to_dir)) = true) := by
  have body := transfer_run (o := o) (e := .copied from_dir to_dir) (s := s) put
  rw [copy_succ h]
  cases result : transferred put (o.outcome (.copied from_dir to_dir) (tries s (.copied from_dir to_dir)))
  case error err =>
    rw [result] at body
    have calm : muxed err = false := by
      refine Bool.eq_false_iff.2 fun mux => ?_
      rw [(transferred_again _).1 ⟨err, result, mux⟩] at once
      cases once
    refine ⟨[], ?_, fun _ mem => (List.not_mem_nil mem).elim, fun mem => (List.not_mem_nil mem).elim, ?_⟩
    · refine (Proc.handle_of_error (Proc.bind_of_error body)).trans ?_
      rw [calm, List.append_nil]
      rfl
    · rintro ⟨-, -, output, -⟩
      rw [output] at result
      cases result
  case ok =>
    rw [result] at body
    by_cases mode : put = true ∧ execution_mode = "X"
    · obtain ⟨rfl, rfl⟩ := mode
      have output : o.outcome (.copied from_dir to_dir) (tries s (.copied from_dir to_dir)) = .output := by
        cases outcome : o.outcome (.copied from_dir to_dir) (tries s (.copied from_dir to_dir)) with
        | output => rfl
        | error text done =>
          rw [outcome] at result
          cases result
        | raised message done =>
          rw [outcome] at result
          cases result
      obtain ⟨r, new, run, attempts, calm⟩ := run_run (o := o) (e := .executable to_dir)
        (s := s ++ [(.copied from_dir to_dir,
          (o.outcome (.copied from_dir to_dir) (tries s (.copied from_dir to_dir))).done)]) n
      have finished := Proc.run_discard run
      have other : tries (s ++ [(.copied from_dir to_dir,
          (o.outcome (.copied from_dir to_dir) (tries s (.copied from_dir to_dir))).done)])
          (.executable to_dir) = tries s (.executable to_dir) := by
        refine tries_other fun x mem same => ?_
        rw [List.mem_singleton.1 mem] at same
        cases same
      refine ⟨new, ?_, attempts.only, ?_⟩
      · cases r with
        | ok _ => exact Proc.handle_of_ok ((Proc.bind_of_ok body).trans finished)
        | error err =>
          refine (Proc.handle_of_error ((Proc.bind_of_ok body).trans finished)).trans ?_
          rw [calm err rfl]
          rfl
      · rw [attempts.done, other]
        exact ⟨fun done => ⟨rfl, rfl, output, done⟩, fun h => h.2.2.2⟩
    · have finished : finish o put execution_mode to_dir n = pure () := by
        rw [finish]
        cases put with
        | true => rw [if_pos rfl, if_neg fun same => mode ⟨rfl, same⟩]
        | false => rfl
      refine ⟨[], ?_, fun _ mem => (List.not_mem_nil mem).elim, fun mem => (List.not_mem_nil mem).elim,
        fun h => absurd ⟨h.1, h.2.1⟩ mode⟩
      rw [finished, List.append_nil]
      exact Proc.handle_of_ok (Proc.bind_of_ok body)

/-- A copy is made as often as it has to be tried again and the depth of the calls allows. -/
theorem copy_run (h : paths c put source target = .ok (from_dir, to_dir)) (execution_mode : String)
    (n : Nat) :
    ∃ r new, copy o c put source target execution_mode n s = (r, s ++ new) ∧
      Copies o put execution_mode (.copied from_dir to_dir) (.executable to_dir) n s new r := by
  induction n generalizing s execution_mode with
  | zero =>
    refine ⟨.error recursionError, [], ?_, fun _ mem => (List.not_mem_nil mem).elim, ?_, ?_, ?_⟩
    · rw [List.append_nil]
      rfl
    · exact ⟨fun mem => (List.not_mem_nil mem).elim, fun h => by cases h⟩
    · constructor
      · rintro ⟨⟩
      · rintro ⟨⟩
    · refine ⟨fun mem => (List.not_mem_nil mem).elim, ?_⟩
      rintro ⟨-, -, m, same, -⟩
      cases same
  | succ n ih =>
    cases more : again put (o.outcome (.copied from_dir to_dir) (tries s (.copied from_dir to_dir))) with
    | true =>
      obtain ⟨r, new, run, only, done, returns, mode⟩ := ih ""
        (s := s ++ [(.copied from_dir to_dir,
          (o.outcome (.copied from_dir to_dir) (tries s (.copied from_dir to_dir))).done)])
      rw [tries_self] at done returns
      rw [copy_again h more, run, List.append_assoc, List.singleton_append]
      refine ⟨r, _, rfl, ?_, ?_, ?_, ?_⟩
      · exact List.forall_mem_cons.2 ⟨.inl rfl, only⟩
      · rw [copies, more, Bool.true_and, Bool.or_eq_true, List.mem_cons, Prod.mk.injEq, done]
        exact or_congr ⟨fun h => h.2.symm, fun h => ⟨rfl, h.symm⟩⟩ Iff.rfl
      · rw [settles, more]
        exact returns
      · constructor
        · intro mem
          obtain same | mem := List.mem_cons.1 mem
          · cases same
          · exact absurd (mode.1 mem).2.1 (by decide)
        · rintro ⟨-, -, m, -, output, -⟩
          rw [output] at more
          cases more
    | false =>
      obtain ⟨new, run, only, mode⟩ := copy_last (n := n) execution_mode h more
      rw [run, List.append_assoc, List.singleton_append]
      refine ⟨.ok (), _, rfl, ?_, ?_, ?_, ?_⟩
      · exact List.forall_mem_cons.2 ⟨.inl rfl, fun y mem => .inr (only y mem)⟩
      · rw [copies, more, Bool.false_and, Bool.or_false, List.mem_cons, Prod.mk.injEq]
        constructor
        · rintro (⟨-, done⟩ | mem)
          · exact done.symm
          · cases only _ mem
        · exact fun done => .inl ⟨rfl, done.symm⟩
      · rw [settles, more]
        exact ⟨fun _ => rfl, fun _ => rfl⟩
      · rw [List.mem_cons]
        constructor
        · rintro (same | mem)
          · cases same
          · obtain ⟨isPut, isX, output, done⟩ := mode.1 mem
            exact ⟨isPut, isX, n, rfl, output, done⟩
        · rintro ⟨isPut, isX, m, same, output, done⟩
          cases same
          exact .inr (mode.2 ⟨isPut, isX, output, done⟩)

/-- A copy without a path returns. -/
lemma copy_error (h : paths c put source target = .error err) :
    copy o c put source target execution_mode (n + 1) s = (.ok (), s) := by
  have raised {x : Proc Trace Unit} {again : Proc Trace Unit} {err : String} (body : x s = (.error err, s))
      (calm : muxed err = false) :
      (tryCatch x fun err => if muxed err then again else return : Proc Trace Unit) s = (.ok (), s) := by
    refine (Proc.handle_of_error body).trans ?_
    rw [calm]
    rfl
  cases put with
  | true =>
    rw [paths, if_pos rfl] at h
    cases first : plain source with
    | error err => exact raised (Proc.bind_of_error (lift_error first)) (plain_error first)
    | ok from_dir =>
      rw [first] at h
      cases second : expand c target with
      | error err =>
        exact raised ((Proc.bind_of_ok (lift_ok first)).trans (Proc.bind_of_error (lift_error second)))
          (expand_error second)
      | ok to_dir =>
        rw [second] at h
        cases h
  | false =>
    rw [paths, if_neg Bool.false_ne_true] at h
    cases first : expand c source with
    | error err => exact raised (Proc.bind_of_error (lift_error first)) (expand_error first)
    | ok from_dir =>
      rw [first] at h
      cases second : plain target with
      | error err =>
        exact raised ((Proc.bind_of_ok (lift_ok first)).trans (Proc.bind_of_error (lift_error second)))
          (plain_error second)
      | ok to_dir =>
        rw [second] at h
        cases h

end OpenSsh

end GridWay.Drm4g.Transfer
