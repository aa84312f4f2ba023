import GridWay.Drm4g.Communicators

/-!
# The transfer driver

The requests of the transfer driver that make and remove directories and copy files (`core/tm_mad.py`). A
request is answered with a success unless an exception is raised.

* `do_MKDIR`, `do_RMDIR`, `do_CP`: the requests.
* `Truthful`: a success is reported for work that was done, and a locked directory stays.
* `truthful_iff`: when this is so, for each communicator.
-/

namespace GridWay.Drm4g.Transfer

/-- The communicators that are modelled; `ssh_fabric` is another one. -/
inductive Kind where
  | local
  | ssh
  | openssh
deriving DecidableEq, Repr

/-- A communicator object. -/
structure Com where
  kind : Kind
  settings : Settings
deriving DecidableEq, Repr

namespace Com

/-- The path of an URL on the resource. -/
def directory (com : Com) (path : Option String) : Except String String :=
  match com.kind with
  | .local => expand com.settings path
  | .ssh => Ssh.set_dir com.settings path
  | .openssh => expand com.settings path

def mkDirectory (o : Machines) (com : Com) (url : String) : Proc Trace Unit :=
  match com.kind with
  | .local => Local.mkDirectory o com.settings (o.path url)
  | .ssh => Ssh.mkDirectory o com.settings (o.path url)
  | .openssh => OpenSsh.mkDirectory o com.settings (o.path url) o.depth

def rmDirectory (o : Machines) (com : Com) (url : String) : Proc Trace Unit :=
  match com.kind with
  | .local => Local.rmDirectory o com.settings (o.path url)
  | .ssh => Ssh.rmDirectory o com.settings (o.path url)
  | .openssh => OpenSsh.rmDirectory o com.settings (o.path url) o.depth

def copy (o : Machines) (com : Com) (source_url destination_url execution_mode : String) :
    Proc Trace Unit :=
  let put := Py.isIn "file://" source_url
  match com.kind with
  | .local => Local.copy o com.settings put (o.path source_url) (o.path destination_url) execution_mode
  | .ssh => Ssh.copy o com.settings put (o.path source_url) (o.path destination_url) execution_mode
  | .openssh =>
    OpenSsh.copy o com.settings put (o.path source_url) (o.path destination_url) execution_mode o.depth

def checkoutLock (o : Machines) (com : Com) (url : String) : Proc Trace Bool :=
  match com.kind with
  | .local => Local.checkoutLock o com.settings (o.path url)
  | .ssh => Ssh.checkoutLock
  | .openssh => OpenSsh.checkoutLock

end Com

/-- The line that answers a request. No failure is a success. -/
structure Reply where
  operation : String
  jid : String
  tid : String
  failure : Option String
deriving DecidableEq, Repr

/-- The text of the line. -/
def Reply.out (r : Reply) : String :=
  r.operation ++ " " ++ r.jid ++ " " ++ r.tid ++
    match r.failure with
    | none => " SUCCESS -"
    | some err => " FAILURE " ++ err

/-- A request. -/
structure Request where
  jid : String
  tid : String
  exe_mode : String
  src_url : String
  dst_url : String
deriving DecidableEq, Repr

/-- What `_update_com` returns: an exception, nothing, or a communicator. Nothing has no methods. -/
abbrev Found := Except String (Option Com)

/-- The communicator of which a method is called. -/
def Found.com (found : Found) (method : String) : Proc Trace Com :=
  match found with
  | .error err => throw err
  | .ok none => throw ("'NoneType' object has no attribute '" ++ method ++ "'")
  | .ok (some com) => return com

/-- The answer to a request: what it returns, or the exception that it raised. -/
def answer (work : Proc Trace (Option String)) (reply : Option String → Reply) (s : Trace) : Reply × Trace :=
  match work s with
  | (.ok failure, s) => (reply failure, s)
  | (.error err, s) => (reply (some err), s)

def do_MKDIR (o : Machines) (found : Found) (r : Request) : Trace → Reply × Trace :=
  answer
    (do
      let com ← found.com "rmDirectory"
      com.rmDirectory o r.src_url
      com.mkDirectory o r.src_url
      return none)
    fun failure => { operation := "MKDIR", jid := r.jid, tid := "-", failure }

def do_RMDIR (o : Machines) (found : Found) (r : Request) : Trace → Reply × Trace :=
  answer
    (do
      let com ← found.com "checkoutLock"
      if ← com.checkoutLock o r.src_url then
        return some ("Directory \"" ++ r.src_url ++ "\" is locked")
      com.rmDirectory o r.src_url
      return none)
    fun failure => { operation := "RMDIR", jid := r.jid, tid := "-", failure }

def do_CP (o : Machines) (found : Found) (r : Request) : Trace → Reply × Trace :=
  answer
    (do
      let com ← found.com "copy"
      com.copy o r.src_url r.dst_url r.exe_mode
      return none)
    fun failure => { operation := "CP", jid := r.jid, tid := r.tid, failure }

/-- The paths of a copy. -/
def Com.paths (com : Com) (put : Bool) (source target : Option String) : Except String (String × String) :=
  match com.kind with
  | .local => Local.paths com.settings put source target
  | .ssh => Ssh.paths com.settings put source target
  | .openssh => OpenSsh.paths com.settings put source target

/-- The requests about directories and files. -/
inductive Operation where
  | mkdir
  | rmdir
  | cp
deriving DecidableEq, Repr

/-- The answer to a request, and what was done for it. -/
def perform (o : Machines) (found : Found) (op : Operation) (r : Request) : Reply × Trace :=
  match op with
  | .mkdir => do_MKDIR o found r []
  | .rmdir => do_RMDIR o found r []
  | .cp => do_CP o found r []

section Answers

variable (o : Machines) (found : Found) (r : Request)

/-- A success is reported when the directory was made. -/
def MakesDirectory : Prop :=
  (perform o found .mkdir r).1.failure = none →
    ∃ com dir, found = .ok (some com) ∧ com.directory (o.path r.src_url) = .ok dir ∧
      (.made dir, true) ∈ (perform o found .mkdir r).2

/-- A success is reported when the directory was removed, and one that holds a lock stays. -/
def RemovesDirectory : Prop :=
  ((perform o found .rmdir r).1.failure = none →
    ∃ com dir, found = .ok (some com) ∧ com.directory (o.path r.src_url) = .ok dir ∧
      (.removed dir, true) ∈ (perform o found .rmdir r).2) ∧
  ∀ com dir, found = .ok (some com) → com.directory (o.path r.src_url) = .ok dir → o.locked dir = true →
    (.removed dir, true) ∉ (perform o found .rmdir r).2

/-- A success is reported when the file was copied, and made executable where this was asked for. -/
def CopiesFile : Prop :=
  (perform o found .cp r).1.failure = none →
    ∃ com from_dir to_dir, found = .ok (some com) ∧
      com.paths (Py.isIn "file://" r.src_url) (o.path r.src_url) (o.path r.dst_url) =
        .ok (from_dir, to_dir) ∧
      (.copied from_dir to_dir, true) ∈ (perform o found .cp r).2 ∧
      (r.exe_mode = "X" → (.executable to_dir, true) ∈ (perform o found .cp r).2)

/-- The answer to a request is true. -/
def Truthful : Operation → Prop
  | .mkdir => MakesDirectory o found r
  | .rmdir => RemovesDirectory o found r
  | .cp => CopiesFile o found r

end Answers

/-- What a communicator depends on for the answer to be true. -/
def Com.Honest (com : Com) (o : Machines) (r : Request) : Operation → Prop
  | .mkdir =>
    match com.kind with
    | .openssh => o.depth ≠ 0 → ∃ dir, com.directory (o.path r.src_url) = .ok dir ∧
        OpenSsh.performs (o.outcome (.made dir)) (o.depth - 1) 0 = true
    | _ => True
  | .rmdir =>
    match com.kind with
    | .local => True
    | .ssh => ∀ dir, com.directory (o.path r.src_url) = .ok dir → o.locked dir = true →
        (o.outcome (.removed dir) 0).done = false
    | .openssh => o.depth ≠ 0 → ∃ dir, com.directory (o.path r.src_url) = .ok dir ∧
        OpenSsh.performs (o.outcome (.removed dir)) (o.depth - 1) 0 = true ∧ o.locked dir = false
  | .cp =>
    let put := Py.isIn "file://" r.src_url
    let paths := com.paths put (o.path r.src_url) (o.path r.dst_url)
    match com.kind with
    | .local => True
    | .ssh => r.exe_mode = "X" → ∀ from_dir to_dir, paths = .ok (from_dir, to_dir) →
        o.outcome (.copied from_dir to_dir) 0 = .output →
          put = true ∧ ∀ text, o.outcome (.executable to_dir) 0 ≠ .error text false
    | .openssh => o.depth ≠ 0 → ∃ from_dir to_dir, paths = .ok (from_dir, to_dir) ∧
        (OpenSsh.settles put (o.outcome (.copied from_dir to_dir)) o.depth 0 = true →
          OpenSsh.copies put (o.outcome (.copied from_dir to_dir)) o.depth 0 = true ∧
            (r.exe_mode = "X" → put = true ∧ o.outcome (.copied from_dir to_dir) 0 = .output ∧
              OpenSsh.performs (o.outcome (.executable to_dir)) (o.depth - 1) 0 = true))

/-- What the answer to a request depends on. -/
def Honest (o : Machines) (found : Found) (op : Operation) (r : Request) : Prop :=
  ∀ com, found = .ok (some com) → com.Honest o r op

variable {o : Machines} {found : Found} {r : Request} {com : Com} {s t : Trace} {url err dir : String}
  {work : Proc Trace (Option String)} {reply : Option String → Reply} {failure : Option String}

lemma answer_ok (h : work s = (.ok failure, t)) : answer work reply s = (reply failure, t) := by
  rw [answer, h]

lemma answer_error (h : work s = (.error err, t)) : answer work reply s = (reply (some err), t) := by
  rw [answer, h]

/-- Without a communicator there is no success, and nothing is done. -/
lemma perform_none (nobody : ∀ com, found ≠ .ok (some com)) (op : Operation) :
    (perform o found op r).1.failure ≠ none ∧ (perform o found op r).2 = [] := by
  cases found with
  | error err =>
    cases op with
    | _ => exact ⟨Option.some_ne_none _, rfl⟩
  | ok com =>
    cases com with
    | some com => exact absurd rfl (nobody com)
    | none =>
      cases op with
      | _ => exact ⟨Option.some_ne_none _, rfl⟩

/-- The methods of the communicators that raise what a command reports. -/
lemma rmDirectory_run (com : Com) (kind : com.kind ≠ .openssh) (path : com.directory (o.path url) = .ok dir) (s : Trace) :
    ∃ r, com.rmDirectory o url s = (r, s ++ [(.removed dir, (o.outcome (.removed dir)
        (tries s (.removed dir))).done)]) ∧
      (r = .ok () ↔ o.outcome (.removed dir) (tries s (.removed dir)) = .output) := by
  obtain ⟨kind', settings⟩ := com
  cases kind' with
  | openssh => exact absurd rfl kind
  | «local» =>
    obtain ⟨r, run, ok⟩ := Local.checked_run o (.removed dir)
      (fun err => "Could not remove " ++ dir ++ " directory: " ++ Py.oneLine err ++ " ") s
    exact ⟨r, (Proc.bind_of_ok (OpenSsh.lift_ok path)).trans run, ok⟩
  | ssh =>
    obtain ⟨r, run, ok⟩ := Local.checked_run o (.removed dir)
      (fun err => "Could not remove " ++ dir ++ " directory on '" ++ settings.frontend ++ "': " ++ err) s
    exact ⟨r, (Proc.bind_of_ok (OpenSsh.lift_ok path)).trans run, ok⟩

lemma mkDirectory_run (com : Com) (kind : com.kind ≠ .openssh) (path : com.directory (o.path url) = .ok dir) (s : Trace) :
    ∃ r, com.mkDirectory o url s = (r, s ++ [(.made dir, (o.outcome (.made dir)
        (tries s (.made dir))).done)]) ∧
      (r = .ok () ↔ o.outcome (.made dir) (tries s (.made dir)) = .output) := by
  obtain ⟨kind', settings⟩ := com
  cases kind' with
  | openssh => exact absurd rfl kind
  | «local» =>
    obtain ⟨r, run, ok⟩ := Local.checked_run o (.made dir)
      (fun err => "Could not create " ++ dir ++ " directory: " ++ Py.oneLine err ++ " ") s
    exact ⟨r, (Proc.bind_of_ok (OpenSsh.lift_ok path)).trans run, ok⟩
  | ssh =>
    obtain ⟨r, run, ok⟩ := Local.checked_run o (.made dir)
      (fun err => "Could not create " ++ dir ++ " directory on '" ++ settings.frontend ++ "': " ++ err) s
    exact ⟨r, (Proc.bind_of_ok (OpenSsh.lift_ok path)).trans run, ok⟩

/-- A directory without a path is not removed. -/
lemma rmDirectory_error (com : Com) (kind : com.kind ≠ .openssh) (path : com.directory (o.path url) = .error err)
    (s : Trace) : com.rmDirectory o url s = (.error err, s) := by
  obtain ⟨kind', settings⟩ := com
  cases kind' with
  | openssh => exact absurd rfl kind
  | _ => exact Proc.bind_of_error (OpenSsh.lift_error path)

lemma got (method : String) (s : Trace) : Found.com (.ok (some com)) method s = (.ok com, s) := rfl

section Mkdir

lemma mkdir_of_error (first : com.rmDirectory o r.src_url [] = (.error err, s)) :
    perform o (.ok (some com)) .mkdir r =
      ({ operation := "MKDIR", jid := r.jid, tid := "-", failure := some err }, s) :=
  answer_error ((Proc.bind_of_ok (got _ _)).trans (Proc.bind_of_error first))

lemma mkdir_of_ok (first : com.rmDirectory o r.src_url [] = (.ok (), s)) {result : Except String Unit}
    (second : com.mkDirectory o r.src_url s = (result, t)) :
    (perform o (.ok (some com)) .mkdir r).2 = t ∧
      ((perform o (.ok (some com)) .mkdir r).1.failure = none ↔ result = .ok ()) := by
  cases result with
  | ok _ =>
    have run : perform o (.ok (some com)) .mkdir r =
        ({ operation := "MKDIR", jid := r.jid, tid := "-", failure := none }, t) :=
      answer_ok ((Proc.bind_of_ok (got _ _)).trans ((Proc.bind_of_ok first).trans (Proc.bind_of_ok second)))
    rw [run]
    exact ⟨rfl, fun _ => rfl, fun _ => rfl⟩
  | error err =>
    have run : perform o (.ok (some com)) .mkdir r =
        ({ operation := "MKDIR", jid := r.jid, tid := "-", failure := some err }, t) :=
      answer_error
        ((Proc.bind_of_ok (got _ _)).trans ((Proc.bind_of_ok first).trans (Proc.bind_of_error second)))
    rw [run]
    refine ⟨rfl, fun h => ?_, fun h => ?_⟩
    · cases h
    · cases h

/-- Where the communicator raises what a command reports, the directory was made. -/
lemma mkdir_raising (kind : com.kind ≠ .openssh) : MakesDirectory o (.ok (some com)) r := by
  intro success
  cases path : com.directory (o.path r.src_url) with
  | error err =>
    rw [mkdir_of_error (rmDirectory_error com kind path [])] at success
    cases success
  | ok dir =>
    obtain ⟨first, ran, -⟩ := rmDirectory_run com kind path []
    cases first with
    | error err =>
      rw [mkdir_of_error ran] at success
      cases success
    | ok _ =>
      obtain ⟨second, made, ok⟩ := mkDirectory_run com kind path ([] ++ [(.removed dir,
        (o.outcome (.removed dir) (tries [] (.removed dir))).done)])
      obtain ⟨trace, returns⟩ := mkdir_of_ok ran made
      have output := ok.1 (returns.1 success)
      refine ⟨com, dir, rfl, path, ?_⟩
      rw [trace, output]
      exact List.mem_append_right _ (List.mem_singleton_self _)

/-- Where the communicator writes what a command reports to its log, the request is a success. -/
lemma mkdir_openssh (kind : com.kind = .openssh) :
    MakesDirectory o (.ok (some com)) r ↔ com.Honest o r .mkdir := by
  obtain ⟨_, settings⟩ := com
  subst kind
  show _ ↔ (o.depth ≠ 0 → ∃ dir, expand settings (o.path r.src_url) = .ok dir ∧ _)
  cases depth : o.depth with
  | zero =>
    have raised : Com.rmDirectory o ⟨.openssh, settings⟩ r.src_url [] =
        (.error OpenSsh.recursionError, []) := by
      show OpenSsh.rmDirectory o settings _ o.depth [] = _
      rw [depth]
      rfl
    refine ⟨fun _ h => absurd rfl h, fun _ success => ?_⟩
    rw [mkdir_of_error raised] at success
    cases success
  | succ n =>
    cases path : expand settings (o.path r.src_url) with
    | error err =>
      have first : Com.rmDirectory o ⟨.openssh, settings⟩ r.src_url [] = (.ok (), []) := by
        show OpenSsh.rmDirectory o settings _ o.depth [] = _
        rw [depth]
        exact OpenSsh.directory_error path
      have second : Com.mkDirectory o ⟨.openssh, settings⟩ r.src_url [] = (.ok (), []) := by
        show OpenSsh.mkDirectory o settings _ o.depth [] = _
        rw [depth]
        exact OpenSsh.directory_error path
      obtain ⟨trace, returns⟩ := mkdir_of_ok first second
      refine ⟨fun claim => ?_, fun honest => ?_⟩
      · obtain ⟨_, dir, same, found, -⟩ := claim (returns.2 rfl)
        cases same
        cases path.symm.trans found
      · obtain ⟨dir, found, -⟩ := honest (Nat.succ_ne_zero n)
        cases found
    | ok dir =>
      obtain ⟨new, ran, attempts⟩ := OpenSsh.directory_run (o := o) (n := n) (s := []) .removed path
      obtain ⟨new', ran', attempts'⟩ := OpenSsh.directory_run (o := o) (n := n) (s := [] ++ new) .made path
      have first : Com.rmDirectory o ⟨.openssh, settings⟩ r.src_url [] = (.ok (), [] ++ new) := by
        show OpenSsh.rmDirectory o settings _ o.depth [] = _
        rw [depth]
        exact ran
      have second : Com.mkDirectory o ⟨.openssh, settings⟩ r.src_url ([] ++ new) =
          (.ok (), [] ++ new ++ new') := by
        show OpenSsh.mkDirectory o settings _ o.depth _ = _
        rw [depth]
        exact ran'
      obtain ⟨trace, returns⟩ := mkdir_of_ok first second
      have count : tries ([] ++ new) (.made dir) = 0 :=
        OpenSsh.tries_other (s := []) (attempts.other fun same => by cases same)
      have made : (.made dir, true) ∈ (perform o (.ok (some ⟨.openssh, settings⟩)) .mkdir r).2 ↔
          OpenSsh.performs (o.outcome (.made dir)) n 0 = true := by
        rw [trace, List.nil_append, List.mem_append, ← count, ← attempts'.done]
        exact ⟨fun h => h.resolve_left fun mem => attempts.other (fun same => by cases same) _ mem rfl, .inr⟩
      refine ⟨fun claim _ => ?_, fun honest _ => ?_⟩
      · obtain ⟨_, dir', same, found, mem⟩ := claim (returns.2 rfl)
        cases same
        cases path.symm.trans found
        exact ⟨dir, rfl, made.1 mem⟩
      · obtain ⟨dir', found, done⟩ := honest (Nat.succ_ne_zero n)
        cases found
        exact ⟨⟨.openssh, settings⟩, dir, rfl, path, made.2 done⟩

end Mkdir

section Rmdir

variable {settings : Settings} {result : Except String Unit}

lemma rmdir_of_error (lock : com.checkoutLock o r.src_url [] = (.error err, s)) :
    perform o (.ok (some com)) .rmdir r =
      ({ operation := "RMDIR", jid := r.jid, tid := "-", failure := some err }, s) :=
  answer_error ((Proc.bind_of_ok (got _ _)).trans (Proc.bind_of_error lock))

lemma rmdir_locked (lock : com.checkoutLock o r.src_url [] = (.ok true, s)) :
    perform o (.ok (some com)) .rmdir r = ({
      operation := "RMDIR", jid := r.jid, tid := "-"
      failure := some ("Directory \"" ++ r.src_url ++ "\" is locked") }, s) :=
  answer_ok ((Proc.bind_of_ok (got _ _)).trans (Proc.bind_of_ok lock))

lemma rmdir_free (lock : com.checkoutLock o r.src_url [] = (.ok false, s))
    (run : com.rmDirectory o r.src_url s = (result, t)) :
    (perform o (.ok (some com)) .rmdir r).2 = t ∧
      ((perform o (.ok (some com)) .rmdir r).1.failure = none ↔ result = .ok ()) := by
  cases result with
  | ok _ =>
    have done : perform o (.ok (some com)) .rmdir r =
        ({ operation := "RMDIR", jid := r.jid, tid := "-", failure := none }, t) :=
      answer_ok ((Proc.bind_of_ok (got _ _)).trans ((Proc.bind_of_ok lock).trans (Proc.bind_of_ok run)))
    rw [done]
    exact ⟨rfl, fun _ => rfl, fun _ => rfl⟩
  | error err =>
    have done : perform o (.ok (some com)) .rmdir r =
        ({ operation := "RMDIR", jid := r.jid, tid := "-", failure := some err }, t) :=
      answer_error
        ((Proc.bind_of_ok (got _ _)).trans ((Proc.bind_of_ok lock).trans (Proc.bind_of_error run)))
    rw [done]
    refine ⟨rfl, fun h => ?_, fun h => ?_⟩
    · cases h
    · cases h

/-- The local communicator looks for the lock. -/
lemma rmdir_local : RemovesDirectory o (.ok (some ⟨.local, settings⟩)) r := by
  cases path : expand settings (o.path r.src_url) with
  | error err =>
    have lock : Com.checkoutLock o ⟨.local, settings⟩ r.src_url [] = (.error err, []) :=
      Proc.bind_of_error (OpenSsh.lift_error path)
    rw [RemovesDirectory, rmdir_of_error lock]
    refine ⟨fun success => ?_, fun _ dir _ _ _ => List.not_mem_nil⟩
    cases success
  | ok dir =>
    have lock : Com.checkoutLock o ⟨.local, settings⟩ r.src_url [] = (.ok (o.locked dir), []) :=
      Proc.bind_of_ok (OpenSsh.lift_ok path)
    cases locked : o.locked dir with
    | true =>
      rw [locked] at lock
      rw [RemovesDirectory, rmdir_locked lock]
      refine ⟨fun success => ?_, fun _ dir _ _ _ => List.not_mem_nil⟩
      cases success
    | false =>
      rw [locked] at lock
      obtain ⟨result, run, ok⟩ := rmDirectory_run (o := o) ⟨.local, settings⟩
        (fun h => by cases h) path []
      obtain ⟨trace, returns⟩ := rmdir_free lock run
      refine ⟨fun success => ⟨_, dir, rfl, path, ?_⟩, fun _ dir' same found locked' => ?_⟩
      · rw [trace, ok.1 (returns.1 success)]
        exact List.mem_singleton_self _
      · cases same
        cases path.symm.trans found
        rw [locked] at locked'
        cases locked'

/-- The one of `ssh` does not, and removes the directory. -/
lemma rmdir_ssh : RemovesDirectory o (.ok (some ⟨.ssh, settings⟩)) r ↔
    Com.Honest ⟨.ssh, settings⟩ o r .rmdir := by
  have lock : Com.checkoutLock o ⟨.ssh, settings⟩ r.src_url [] = (.ok false, []) := rfl
  show _ ↔ ∀ dir, Ssh.set_dir settings (o.path r.src_url) = .ok dir → _
  cases path : Ssh.set_dir settings (o.path r.src_url) with
  | error err =>
    have run : Com.rmDirectory o ⟨.ssh, settings⟩ r.src_url [] = (.error err, []) :=
      rmDirectory_error ⟨.ssh, settings⟩ (fun h => by cases h) path []
    obtain ⟨trace, returns⟩ := rmdir_free lock run
    refine ⟨fun _ dir found => ?_, fun _ => ⟨fun success => ?_, fun _ dir _ _ _ => ?_⟩⟩
    · cases found
    · cases returns.1 success
    · rw [trace]
      exact List.not_mem_nil
  | ok dir =>
    obtain ⟨result, run, ok⟩ := rmDirectory_run (o := o) ⟨.ssh, settings⟩ (fun h => by cases h) path []
    obtain ⟨trace, returns⟩ := rmdir_free lock run
    have removed : (.removed dir, true) ∈ (perform o (.ok (some ⟨.ssh, settings⟩)) .rmdir r).2 ↔
        (o.outcome (.removed dir) 0).done = true := by
      rw [trace, List.nil_append, List.mem_singleton, Prod.mk.injEq]
      exact ⟨fun h => h.2.symm, fun h => ⟨rfl, h.symm⟩⟩
    constructor
    · rintro ⟨-, stays⟩ dir' ⟨⟩ locked
      exact Bool.eq_false_iff.2 fun done => stays _ dir rfl path locked (removed.2 done)
    · refine fun honest => ⟨fun success => ⟨_, dir, rfl, path, ?_⟩, fun _ dir' same found locked mem => ?_⟩
      · have output : o.outcome (.removed dir) 0 = .output := ok.1 (returns.1 success)
        rw [removed, output]
        rfl
      · cases same
        cases path.symm.trans found
        rw [removed, honest dir rfl locked] at mem
        cases mem

/-- The one of `openssh` does not either, and the request is a success. -/
lemma rmdir_openssh : RemovesDirectory o (.ok (some ⟨.openssh, settings⟩)) r ↔
    Com.Honest ⟨.openssh, settings⟩ o r .rmdir := by
  have lock : Com.checkoutLock o ⟨.openssh, settings⟩ r.src_url [] = (.ok false, []) := rfl
  show _ ↔ (o.depth ≠ 0 → ∃ dir, expand settings (o.path r.src_url) = .ok dir ∧ _)
  cases depth : o.depth with
  | zero =>
    have run : Com.rmDirectory o ⟨.openssh, settings⟩ r.src_url [] =
        (.error OpenSsh.recursionError, []) := by
      show OpenSsh.rmDirectory o settings _ o.depth [] = _
      rw [depth]
      rfl
    obtain ⟨trace, returns⟩ := rmdir_free lock run
    refine ⟨fun _ h => absurd rfl h, fun _ => ⟨fun success => ?_, fun _ dir _ _ _ => ?_⟩⟩
    · cases returns.1 success
    · rw [trace]
      exact List.not_mem_nil
  | succ n =>
    cases path : expand settings (o.path r.src_url) with
    | error err =>
      have run : Com.rmDirectory o ⟨.openssh, settings⟩ r.src_url [] = (.ok (), []) := by
        show OpenSsh.rmDirectory o settings _ o.depth [] = _
        rw [depth]
        exact OpenSsh.directory_error path
      obtain ⟨trace, returns⟩ := rmdir_free lock run
      refine ⟨fun claim => ?_, fun honest => ?_⟩
      · obtain ⟨_, dir, same, found, -⟩ := claim.1 (returns.2 rfl)
        cases same
        cases path.symm.trans found
      · obtain ⟨dir, found, -⟩ := honest (Nat.succ_ne_zero n)
        cases found
    | ok dir =>
      obtain ⟨new, ran, attempts⟩ := OpenSsh.directory_run (o := o) (n := n) (s := []) .removed path
      have run : Com.rmDirectory o ⟨.openssh, settings⟩ r.src_url [] = (.ok (), new) := by
        show OpenSsh.rmDirectory o settings _ o.depth [] = _
        rw [depth]
        exact ran
      obtain ⟨trace, returns⟩ := rmdir_free lock run
      have removed : (.removed dir, true) ∈ (perform o (.ok (some ⟨.openssh, settings⟩)) .rmdir r).2 ↔
          OpenSsh.performs (o.outcome (.removed dir)) n 0 = true := by
        rw [trace]
        exact attempts.done
      constructor
      · rintro ⟨claim, stays⟩ -
        obtain ⟨_, dir', same, found, mem⟩ := claim (returns.2 rfl)
        cases same
        cases path.symm.trans found
        exact ⟨dir, rfl, removed.1 mem, Bool.eq_false_iff.2 fun locked => stays _ dir rfl path locked mem⟩
      · intro honest
        obtain ⟨dir', found, done, free⟩ := honest (Nat.succ_ne_zero n)
        cases found
        refine ⟨fun _ => ⟨_, dir, rfl, path, removed.2 done⟩, fun _ dir' same found locked => ?_⟩
        cases same
        cases path.symm.trans found
        rw [free] at locked
        cases locked

end Rmdir

section Cp

variable {settings : Settings} {result : Except String Unit} {put : Bool} {source target : Option String}
  {from_dir to_dir mode : String}

lemma cp_of_run (run : com.copy o r.src_url r.dst_url r.exe_mode [] = (result, t)) :
    (perform o (.ok (some com)) .cp r).2 = t ∧
      ((perform o (.ok (some com)) .cp r).1.failure = none ↔ result = .ok ()) := by
  cases result with
  | ok _ =>
    have done : perform o (.ok (some com)) .cp r =
        ({ operation := "CP", jid := r.jid, tid := r.tid, failure := none }, t) :=
      answer_ok ((Proc.bind_of_ok (got _ _)).trans (Proc.bind_of_ok run))
    rw [done]
    exact ⟨rfl, fun _ => rfl, fun _ => rfl⟩
  | error err =>
    have done : perform o (.ok (some com)) .cp r =
        ({ operation := "CP", jid := r.jid, tid := r.tid, failure := some err }, t) :=
      answer_error ((Proc.bind_of_ok (got _ _)).trans (Proc.bind_of_error run))
    rw [done]
    refine ⟨rfl, fun h => ?_, fun h => ?_⟩
    · cases h
    · cases h

/-- A local copy that returns was made. -/
lemma cp_local : CopiesFile o (.ok (some ⟨.local, settings⟩)) r := by
  intro success
  cases paths : Local.paths settings (Py.isIn "file://" r.src_url) (o.path r.src_url)
    (o.path r.dst_url) with
  | error err =>
    have run : Com.copy o ⟨.local, settings⟩ r.src_url r.dst_url r.exe_mode [] = (.error err, []) :=
      Proc.bind_of_error (OpenSsh.lift_error paths)
    cases (cp_of_run run).2.1 success
  | ok pair =>
    obtain ⟨from_dir, to_dir⟩ := pair
    obtain ⟨result, t, ran, done⟩ := Local.copyTo_run o from_dir to_dir r.exe_mode []
    have run : Com.copy o ⟨.local, settings⟩ r.src_url r.dst_url r.exe_mode [] = (result, t) :=
      (Proc.bind_of_ok (OpenSsh.lift_ok paths)).trans ran
    obtain ⟨trace, returns⟩ := cp_of_run run
    obtain ⟨copied, executable⟩ := done (returns.1 success)
    exact ⟨_, from_dir, to_dir, rfl, paths, trace ▸ copied, fun isX => trace ▸ executable isX⟩

/-- With `ssh` a file that is fetched is not made executable, and what `chmod` reports is lost. -/
lemma cp_ssh : CopiesFile o (.ok (some ⟨.ssh, settings⟩)) r ↔ Com.Honest ⟨.ssh, settings⟩ o r .cp := by
  show _ ↔ (r.exe_mode = "X" → ∀ from_dir to_dir, Ssh.paths settings (Py.isIn "file://" r.src_url)
    (o.path r.src_url) (o.path r.dst_url) = .ok (from_dir, to_dir) → _)
  cases paths : Ssh.paths settings (Py.isIn "file://" r.src_url) (o.path r.src_url)
    (o.path r.dst_url) with
  | error err =>
    have run : Com.copy o ⟨.ssh, settings⟩ r.src_url r.dst_url r.exe_mode [] = (.error err, []) :=
      Proc.bind_of_error (OpenSsh.lift_error paths)
    refine ⟨fun _ _ _ _ found => ?_, fun _ success => ?_⟩
    · cases found
    · cases (cp_of_run run).2.1 success
  | ok pair =>
    obtain ⟨from_dir, to_dir⟩ := pair
    obtain ⟨first, copied, ok⟩ := raising_run o (.copied from_dir to_dir) []
    have begun (s : Trace) : Com.copy o ⟨.ssh, settings⟩ r.src_url r.dst_url r.exe_mode s = (do
        raising o (.copied from_dir to_dir)
        if Py.isIn "file://" r.src_url then
          if r.exe_mode = "X" then discard (Local.execCommand o (.executable to_dir)) : Proc Trace Unit) s :=
      Proc.bind_of_ok (OpenSsh.lift_ok paths)
    have only {f t : String} (found : Except.ok (from_dir, to_dir) = (.ok (f, t) : Except String _)) :
        f = from_dir ∧ t = to_dir := by
      cases found
      exact ⟨rfl, rfl⟩
    have zero : tries [] (.copied from_dir to_dir) = 0 := rfl
    rw [zero] at copied ok
    cases first with
    | error err =>
      have run := (begun []).trans (Proc.bind_of_error copied)
      refine ⟨fun _ _ f t found output => ?_, fun _ success => ?_⟩
      · obtain ⟨rfl, rfl⟩ := only found
        cases ok.2 output
      · cases (cp_of_run run).2.1 success
    | ok _ =>
      have output := ok.1 rfl
      rw [output] at copied
      have next := (begun []).trans (Proc.bind_of_ok copied)
      have here : (Effect.copied from_dir to_dir, true) ∈ ([] : Trace) ++ [(.copied from_dir to_dir, true)] :=
        List.mem_singleton_self _
      -- the file is fetched, or no execution mode is asked for: nothing is done after the copy
      have still (run : Com.copy o ⟨.ssh, settings⟩ r.src_url r.dst_url r.exe_mode [] =
          (.ok (), [] ++ [(.copied from_dir to_dir, true)])) :
          CopiesFile o (.ok (some ⟨.ssh, settings⟩)) r ↔ r.exe_mode ≠ "X" := by
        obtain ⟨trace, returns⟩ := cp_of_run run
        constructor
        · intro claim isX
          obtain ⟨_, f, t, same, found, -, executable⟩ := claim (returns.2 rfl)
          cases same
          have mem := executable isX
          rw [trace, List.nil_append, List.mem_singleton] at mem
          cases mem
        · exact fun other _ => ⟨_, from_dir, to_dir, rfl, paths, trace ▸ here, fun isX => absurd isX other⟩
      cases put : Py.isIn "file://" r.src_url with
      | false =>
        rw [put] at next
        rw [still next]
        refine ⟨fun other isX => absurd isX other, fun honest isX => ?_⟩
        cases (honest isX from_dir to_dir rfl output).1
      | true =>
        rw [put] at next
        by_cases isX : r.exe_mode = "X"
        · have changed := Proc.run_discard (Local.execCommand_run o (.executable to_dir)
            ([] ++ [(.copied from_dir to_dir, Outcome.output.done)]))
          have count : tries ([] ++ [(.copied from_dir to_dir, Outcome.output.done)]) (.executable to_dir) = 0 :=
            rfl
          rw [count] at changed
          have run := next.trans ((congrFun (if_pos isX) _).trans changed)
          obtain ⟨trace, returns⟩ := cp_of_run run
          have answered {done : Bool} (change : (o.outcome (.executable to_dir) 0).done = done) :
              (.executable to_dir, true) ∈ (perform o (.ok (some ⟨.ssh, settings⟩)) .cp r).2 ↔ done = true := by
            rw [trace, change, List.nil_append, List.mem_append, List.mem_singleton, List.mem_singleton,
              Prod.mk.injEq, Prod.mk.injEq]
            refine ⟨fun h => ?_, fun h => .inr ⟨rfl, h.symm⟩⟩
            obtain ⟨same, -⟩ | ⟨-, done⟩ := h
            · cases same
            · exact done.symm
          have copied : (.copied from_dir to_dir, true) ∈ (perform o (.ok (some ⟨.ssh, settings⟩)) .cp r).2 :=
            trace ▸ List.mem_append_left _ here
          cases change : o.outcome (.executable to_dir) 0 with
          | output =>
            refine ⟨fun _ _ f t found _ => ?_, fun _ _ => ?_⟩
            · obtain ⟨rfl, rfl⟩ := only found
              refine ⟨rfl, fun text h => ?_⟩
              rw [change] at h
              cases h
            · exact ⟨_, from_dir, to_dir, rfl, paths, copied,
                fun _ => (answered (congrArg Outcome.done change)).2 rfl⟩
          | error text done =>
            have success : (perform o (.ok (some ⟨.ssh, settings⟩)) .cp r).1.failure = none := by
              rw [returns, change]
              rfl
            constructor
            · intro claim _ f t found _
              obtain ⟨rfl, rfl⟩ := only found
              obtain ⟨_, f', t', same, found', -, executable⟩ := claim success
              cases same
              obtain ⟨rfl, rfl⟩ := only (paths.symm.trans found')
              have done := (answered (congrArg Outcome.done change)).1 (executable isX)
              refine ⟨rfl, fun text' h => ?_⟩
              rw [change] at h
              cases h
              cases done
            · intro honest _
              refine ⟨_, from_dir, to_dir, rfl, paths, copied, fun _ => ?_⟩
              refine (answered (congrArg Outcome.done change)).2 ?_
              cases done with
              | true => rfl
              | false => exact absurd change ((honest isX from_dir to_dir rfl output).2 text)
          | raised message done =>
            refine ⟨fun _ _ f t found _ => ?_, fun _ success => ?_⟩
            · obtain ⟨rfl, rfl⟩ := only found
              refine ⟨rfl, fun text h => ?_⟩
              rw [change] at h
              cases h
            · have ok := returns.1 success
              rw [change] at ok
              cases ok
        · have run := next.trans (congrFun (if_neg isX) _)
          rw [still run]
          exact ⟨fun _ h => absurd h isX, fun _ => isX⟩

/-- With `openssh` a request to copy is a success, unless the calls get too deep. -/
lemma cp_openssh : CopiesFile o (.ok (some ⟨.openssh, settings⟩)) r ↔
    Com.Honest ⟨.openssh, settings⟩ o r .cp := by
  show _ ↔ (o.depth ≠ 0 → ∃ from_dir to_dir, OpenSsh.paths settings (Py.isIn "file://" r.src_url)
    (o.path r.src_url) (o.path r.dst_url) = .ok (from_dir, to_dir) ∧ _)
  cases paths : OpenSsh.paths settings (Py.isIn "file://" r.src_url) (o.path r.src_url)
    (o.path r.dst_url) with
  | error err =>
    cases depth : o.depth with
    | zero =>
      have run : Com.copy o ⟨.openssh, settings⟩ r.src_url r.dst_url r.exe_mode [] =
          (.error OpenSsh.recursionError, []) := by
        show OpenSsh.copy o settings _ _ _ _ o.depth [] = _
        rw [depth]
        rfl
      refine ⟨fun _ h => absurd rfl h, fun _ success => ?_⟩
      cases (cp_of_run run).2.1 success
    | succ n =>
      have run : Com.copy o ⟨.openssh, settings⟩ r.src_url r.dst_url r.exe_mode [] = (.ok (), []) := by
        show OpenSsh.copy o settings _ _ _ _ o.depth [] = _
        rw [depth]
        exact OpenSsh.copy_error paths
      refine ⟨fun claim => ?_, fun honest => ?_⟩
      · obtain ⟨_, f, t, same, found, -⟩ := claim ((cp_of_run run).2.2 rfl)
        cases same
        cases paths.symm.trans found
      · obtain ⟨f, t, found, -⟩ := honest (Nat.succ_ne_zero n)
        cases found
  | ok pair =>
    obtain ⟨from_dir, to_dir⟩ := pair
    obtain ⟨result, new, ran, only, copied, settles, mode⟩ := OpenSsh.copy_run (o := o) (s := []) paths
      r.exe_mode o.depth
    have run : Com.copy o ⟨.openssh, settings⟩ r.src_url r.dst_url r.exe_mode [] = (result, new) := ran
    obtain ⟨trace, returns⟩ := cp_of_run run
    have zero : tries [] (.copied from_dir to_dir) = 0 := rfl
    have zero' : tries [] (.executable to_dir) = 0 := rfl
    rw [zero] at copied settles mode
    rw [zero'] at mode
    constructor
    · intro claim some
      refine ⟨from_dir, to_dir, rfl, fun settled => ?_⟩
      obtain ⟨_, f, t, same, found, mem, executable⟩ := claim (returns.2 (settles.2 settled))
      cases same
      cases paths.symm.trans found
      rw [trace] at mem executable
      refine ⟨copied.1 mem, fun isX => ?_⟩
      obtain ⟨put, -, m, depth, output, done⟩ := mode.1 (executable isX)
      rw [depth]
      exact ⟨put, output, done⟩
    · intro honest success
      have settled := settles.1 (returns.1 success)
      cases depth : o.depth with
      | zero =>
        rw [depth] at settled
        cases settled
      | succ n =>
        obtain ⟨f, t, found, done⟩ := honest (depth ▸ Nat.succ_ne_zero n)
        cases found
        obtain ⟨done, executable⟩ := done settled
        refine ⟨_, from_dir, to_dir, rfl, paths, trace ▸ copied.2 done, fun isX => ?_⟩
        obtain ⟨put, output, done⟩ := executable isX
        rw [depth] at done
        exact trace ▸ mode.2 ⟨put, isX, n, depth, output, done⟩

end Cp

/-- An answer is true exactly when the communicator that is found, if any, is honest about the request: the
local one is, the one of `ssh` where it has nothing to do with a lock or an execution mode that it loses, and
the one of `openssh` where the work is done. -/
theorem truthful_iff (o : Machines) (found : Found) (op : Operation) (r : Request) :
    Truthful o found r op ↔ Honest o found op r := by
  by_cases somebody : ∃ com, found = .ok (some com)
  · obtain ⟨⟨kind, settings⟩, rfl⟩ := somebody
    have one : Honest o (.ok (some ⟨kind, settings⟩)) op r ↔ Com.Honest ⟨kind, settings⟩ o r op := by
      refine ⟨fun honest => honest _ rfl, fun honest com same => ?_⟩
      cases same
      exact honest
    rw [one]
    cases op with
    | mkdir =>
      cases kind with
      | «local» =>
        refine ⟨fun _ => trivial, fun _ => mkdir_raising ?_⟩
        exact fun h => by cases h
      | ssh =>
        refine ⟨fun _ => trivial, fun _ => mkdir_raising ?_⟩
        exact fun h => by cases h
      | openssh => exact mkdir_openssh rfl
    | rmdir =>
      cases kind with
      | «local» => exact ⟨fun _ => trivial, fun _ => rmdir_local⟩
      | ssh => exact rmdir_ssh
      | openssh => exact rmdir_openssh
    | cp =>
      cases kind with
      | «local» => exact ⟨fun _ => trivial, fun _ => cp_local⟩
      | ssh => exact cp_ssh
      | openssh => exact cp_openssh
  · have nobody : ∀ com, found ≠ .ok (some com) := fun com same => somebody ⟨com, same⟩
    refine ⟨fun _ com same => absurd same (nobody com), fun _ => ?_⟩
    obtain ⟨fails, nothing⟩ := perform_none (o := o) (r := r) nobody op
    cases op with
    | mkdir => exact fun success => absurd success fails
    | rmdir => exact ⟨fun success => absurd success fails, fun com _ same => absurd same (nobody com)⟩
    | cp => exact fun success => absurd success fails

/-- A resource that cannot be reached with `openssh`: its directory is reported to be made. -/
theorem not_truthful : ¬ ∀ (o : Machines) (found : Found) (op : Operation) (r : Request),
    Truthful o found r op := by
  intro all
  let o : Machines := {
    outcome := fun _ _ => .raised "connect to host meteo port 22: Connection refused" false
    locked := fun _ => false
    path := fun _ => some "~/jobs"
    depth := 900 }
  obtain ⟨dir, -, done⟩ := (mkdir_openssh rfl).1
    (all o (.ok (some ⟨.openssh, { work_directory := "/home/u", frontend := "meteo" }⟩)) .mkdir
      { jid := "7", tid := "-", exe_mode := "-", src_url := "gsiftp://meteo/~/jobs", dst_url := "-" })
    (Nat.succ_ne_zero 899)
  cases done

end GridWay.Drm4g.Transfer
