import GridWay.Lib.Dict
import GridWay.Lib.Machine
import Mathlib.Data.List.Nodup
import Mathlib.Logic.Function.Basic

/-!
# The attributes of a job template

A job template of the library has a pointer for each attribute, and a counter for each vector
(`gw_drmaa_jt.c`, `gw_drmaa.c`). One function finds the pointer of a name for scalars and vectors alike,
and the accesses read it as what they expect. What an access to memory that the language does not
define would do is left open: the result is `none` then.

* `JobTemplate.serve`: the four accesses.
* `Attributes.Sound`: a call answers and changes what an observer of the calls expects.
* `Attributes.Allowed`: the calls that do so, in terms of what was set before.
* `Attributes.sound_iff`: the runs whose calls are all sound.
-/

namespace GridWay.Drmaa

/-- The fields of `drmaa_job_template_s`. -/
inductive Field where
  | executable | arguments | environment | input_files | output_files | restart_files
  | stdin_jt | stdout_jt | stderr_jt | rank | requirements
  | reschedule_on_failure | number_of_retries | job_name | job_wd | js_state
  | deadline_time | priority | type | np
  | block_email | hlimit | slimit | category | join_files | native | start | transfer
  | wct_hlimit | wct_slimit | v_email
deriving DecidableEq, Repr

/-- The field has a counter. -/
def Field.vector : Field → Bool
  | .arguments | .environment | .input_files | .output_files | .restart_files | .v_email => true
  | _ => false

/-- The names that `drmaa_gw_jt_get_ptr` compares, in its order. -/
def names : Dict String Field :=
  [("drmaa_error_path", .stderr_jt), ("drmaa_input_path", .stdin_jt), ("drmaa_job_name", .job_name),
    ("drmaa_js_state", .js_state), ("drmaa_output_path", .stdout_jt),
    ("drmaa_remote_command", .executable), ("drmaa_v_argv", .arguments),
    ("drmaa_v_env", .environment), ("drmaa_wd", .job_wd), ("INPUT_FILES", .input_files),
    ("OUTPUT_FILES", .output_files), ("RESTART_FILES", .restart_files),
    ("RESCHEDULE_ON_FAILURE", .reschedule_on_failure), ("NUMBER_OF_RETRIES", .number_of_retries),
    ("RANK", .rank), ("REQUIREMENTS", .requirements), ("drmaa_deadline_time", .deadline_time),
    ("PRIORITY", .priority), ("TYPE", .type), ("NP", .np), ("drmaa_block_email", .block_email),
    ("drmaa_duration_hlimit", .hlimit), ("drmaa_duration_slimit", .slimit),
    ("drmaa_job_category", .category), ("drmaa_join_files", .join_files),
    ("drmaa_native_specification", .native), ("drmaa_start_time", .start),
    ("drmaa_transfer_files", .transfer), ("drmaa_v_email", .v_email),
    ("drmaa_wct_hlimit", .wct_hlimit), ("drmaa_wct_slimit", .wct_slimit)]

/-- `drmaa_gw_jt_get_ptr`. -/
def get_ptr (name : String) : Option Field := names.get name

/-- What a pointer of the template points to. -/
inductive Content where
  | null
  | str (s : String)
  | strs (ss : List String)
deriving DecidableEq, Repr

/-- `drmaa_job_template_t`. -/
structure JobTemplate where
  content : Field → Content
  num : Field → Nat

/-- The error codes of the accesses. -/
inductive Errno where
  | success
  | invalidArgument
  | noActiveSession
  | noMemory
deriving DecidableEq, Repr

/-- The value of an attribute. -/
inductive Value where
  | scalar (s : String)
  | vector (ss : List String)
deriving DecidableEq, Repr

/-- What a call returns: an error code, a value, or a buffer that no NUL ends. -/
inductive Reply where
  | code (rc : Errno)
  | value (v : Value)
  | unterminated (s : String)
deriving DecidableEq, Repr

/-- A call on the template, with NULL for a missing argument. The flag `memory` says whether the
allocation whose result is looked at succeeds. -/
inductive Access where
  | set (name value : Option String) (memory : Bool)
  | setVector (name : Option String) (values : Option (List String)) (memory : Bool)
  | get (name : Option String) (value_len : Nat)
  | getVector (name : Option String) (memory : Bool)
deriving DecidableEq, Repr

/-- A call, and whether a session is active. -/
structure Access.Call where
  active : Bool
  access : Access
deriving DecidableEq, Repr

namespace JobTemplate

/-- What `drmaa_gw_jt_init` sets, in the working directory `wd`. -/
def defaults (wd : String) : Dict Field String :=
  [(.reschedule_on_failure, "no"), (.number_of_retries, "3"), (.job_name, "job_template"),
    (.job_wd, wd), (.js_state, "drmaa_active"), (.deadline_time, "00"), (.type, "single"),
    (.np, "1")]

/-- `drmaa_gw_jt_init`. -/
def init (wd : String) : JobTemplate where
  content f :=
    match (defaults wd).get f with
    | some s => .str s
    | none => .null
  num _ := 0

/-- Another content of a field. -/
def store (jt : JobTemplate) (f : Field) (c : Content) : JobTemplate :=
  { jt with content := Function.update jt.content f c }

/-- Another content of a vector, with its length. -/
def storeVector (jt : JobTemplate) (f : Field) (c : Content) (n : Nat) : JobTemplate :=
  { content := Function.update jt.content f c, num := Function.update jt.num f n }

/-- `drmaa_gw_jt_set_val`. The field may be a vector. -/
def set_val (jt : JobTemplate) (name value : String) (memory : Bool) : JobTemplate × Errno :=
  match get_ptr name with
  | none => (jt, .success)
  | some f => if memory then (jt.store f (.str value), .success) else (jt.store f .null, .noMemory)

/-- The first `num` strings of a vector are there. -/
def readable (c : Content) (num : Nat) : Bool :=
  match c with
  | .null => true
  | .str _ => num == 0
  | .strs ss => num ≤ ss.length

/-- `drmaa_gw_jt_set_vval`. -/
def set_vval (jt : JobTemplate) (name : String) (values : List String) (memory : Bool) :
    Option (JobTemplate × Errno) :=
  match get_ptr name with
  | none => some (jt, .success)
  | some f =>
    if f.vector = false then some (jt, .success)
    -- the strings of the old vector are freed up to its counter
    else if readable (jt.content f) (jt.num f) = false then none
    else if values = [] then some (jt.storeVector f .null 0, .success)
    else if memory then some (jt.storeVector f (.strs values) values.length, .success)
    else some (jt.storeVector f .null 0, .noMemory)

/-- `drmaa_get_attribute` after its checks. -/
def get_val (jt : JobTemplate) (name : String) (value_len : Nat) : Option Reply :=
  match get_ptr name with
  | none => some (.code .invalidArgument)
  | some f =>
    match jt.content f with
    -- `strncpy` from NULL, or from the pointers of a vector
    | .null => none
    | .strs _ => none
    | .str s =>
      if s.length < value_len then some (.value (.scalar s))
      else some (.unterminated (String.ofList (s.toList.take value_len)))

/-- `drmaa_get_vector_attribute` after its checks. -/
def get_vval (jt : JobTemplate) (name : String) : Option Reply :=
  match get_ptr name with
  | none => some (.code .invalidArgument)
  | some f =>
    if jt.content f = .null ∨ f.vector = false then some (.code .invalidArgument)
    else
      match jt.content f with
      | .strs ss =>
        if jt.num f ≤ ss.length then some (.value (.vector (ss.take (jt.num f)))) else none
      | _ => if jt.num f = 0 then some (.value (.vector [])) else none

/-- The four calls. -/
def serve (jt : JobTemplate) (c : Access.Call) : Option (JobTemplate × Reply) :=
  if c.active = false then some (jt, .code .noActiveSession)
  else
    match c.access with
    | .set (some name) (some value) memory =>
      let (jt, rc) := jt.set_val name value memory
      some (jt, .code rc)
    | .setVector (some name) (some values) memory => do
      let (jt, rc) ← jt.set_vval name values memory
      return (jt, .code rc)
    | .get (some name) value_len =>
      if value_len = 0 then some (jt, .code .invalidArgument)
      else (jt.get_val name value_len).map fun r => (jt, r)
    | .getVector (some name) memory =>
      if memory then (jt.get_vval name).map fun r => (jt, r) else some (jt, .code .noMemory)
    | _ => some (jt, .code .invalidArgument)

end JobTemplate

namespace Attributes

/-- What was last set, by name. -/
abbrev Store := String → Option Value

/-- The attributes that a new template has. -/
def initial (wd : String) : Store := fun name =>
  (get_ptr name).bind fun f => ((JobTemplate.defaults wd).get f).map .scalar

/-- The value that a call sets. -/
def Access.sets : Access → Option (String × Value)
  | .set (some name) (some value) _ => some (name, .scalar value)
  | .setVector (some name) (some values) _ => some (name, .vector values)
  | _ => none

/-- The observer: a set that succeeds stores its value. -/
def note (a : Store) (c : Access.Call) (r : Reply) : Store :=
  match Access.sets c.access with
  | some (name, v) => if r = .code .success then Function.update a name (some v) else a
  | none => a

/-- The template and its observer; no template after an access that the language does not define. -/
abbrev State := Option JobTemplate × Store

/-- One call. -/
def step (s : State) (c : Access.Call) : State :=
  match s.1.bind fun jt => jt.serve c with
  | some (jt, r) => (some jt, note s.2 c r)
  | none => (none, s.2)

/-- The content of a field and its counter are what was set: an empty vector has no array. -/
def Stores (jt : JobTemplate) (f : Field) : Option Value → Prop
  | none => jt.content f = .null ∧ (f.vector = true → jt.num f = 0)
  | some (.scalar s) => f.vector = false ∧ jt.content f = .str s
  | some (.vector []) => f.vector = true ∧ jt.content f = .null ∧ jt.num f = 0
  | some (.vector ss) => f.vector = true ∧ jt.content f = .strs ss ∧ jt.num f = ss.length

/-- The template holds what was set, and every counter is the length of its vector. -/
structure Agrees (jt : JobTemplate) (a : Store) : Prop where
  known : ∀ name f, get_ptr name = some f → Stores jt f (a name)
  unknown : ∀ name, get_ptr name = none → a name = none

/-- A refusal. -/
def Refused (r : Reply) : Prop := ∃ rc, r = .code rc ∧ rc ≠ .success

/-- The name has the other kind. -/
def Mismatch (name : String) (vector : Bool) : Prop :=
  ∃ f, get_ptr name = some f ∧ f.vector ≠ vector

/-- What a call has to answer: a get the last value that was set, or an error when there is none; a call
on an attribute of the other kind an error. -/
def Answers (a : Store) (r : Reply) : Access → Prop
  | .get (some name) value_len => value_len ≠ 0 →
    match a name with
    | some (.scalar s) => r = .value (.scalar s)
    | _ => Refused r
  | .getVector (some name) _ =>
    match a name with
    | some (.vector ss) => r = .value (.vector ss)
    | _ => Refused r
  | .set (some name) (some _) _ => Mismatch name false → Refused r
  | .setVector (some name) (some _) _ => Mismatch name true → Refused r
  | _ => Refused r

/-- A call is sound: it does nothing undefined, it answers what it has to, and the template holds what
was set afterwards. -/
def Sound (s : State) (c : Access.Call) : Prop :=
  ∃ jt jt' r, s.1 = some jt ∧ jt.serve c = some (jt', r) ∧ Agrees jt' (note s.2 c r) ∧
    if c.active then Answers s.2 r c.access else Refused r

/-- The calls that are sound, in terms of what was set before. -/
def Allowed (s : State) (c : Access.Call) : Prop :=
  c.active = true →
    match c.access with
    | .set (some name) (some _) memory => ∃ f, get_ptr name = some f ∧
      if memory then f.vector = false else s.2 name = none ∨ s.2 name = some (.vector [])
    | .setVector (some name) (some values) memory =>
      (∃ f, get_ptr name = some f ∧ f.vector = true) ∧
        (memory = true ∨ values = [] ∨ s.2 name = none ∨ s.2 name = some (.vector []))
    | .get (some name) value_len => value_len ≠ 0 →
      get_ptr name = none ∨ ∃ v, s.2 name = some (.scalar v) ∧ v.length < value_len
    | .getVector (some name) memory =>
      (∃ f, get_ptr name = some f ∧ f.vector = true) →
        s.2 name ≠ some (.vector []) ∧ (memory = true ∨ s.2 name = none)
    | _ => True

variable {jt jt' : JobTemplate} {a : Store} {name : String} {f : Field} {v : Option Value}

/-- Two names do not have one field. -/
lemma get_ptr_inj {name' : String} (named : get_ptr name = some f) (named' : get_ptr name' = some f) :
    name = name' := by
  have fields : (names.map Prod.snd).Nodup := by decide
  have eq := List.inj_on_of_nodup_map fields (Dict.mem_of_get named) (Dict.mem_of_get named') rfl
  exact congrArg Prod.fst eq

/-- The strings of a stored vector can be freed. -/
lemma Stores.readable (stores : Stores jt f v) (vector : f.vector = true) :
    JobTemplate.readable (jt.content f) (jt.num f) = true := by
  match v with
  | none =>
    rw [stores.1]
    rfl
  | some (.scalar s) =>
    rw [stores.1] at vector
    cases vector
  | some (.vector []) =>
    rw [stores.2.1]
    rfl
  | some (.vector (s :: ss)) =>
    rw [stores.2.1, stores.2.2]
    exact decide_eq_true (Nat.le_refl _)

/-- What was set as a vector belongs to a vector. -/
lemma Agrees.vector {ss : List String} (agrees : Agrees jt a) (last : a name = some (.vector ss)) :
    ∃ f, get_ptr name = some f ∧ f.vector = true := by
  cases named : get_ptr name with
  | none =>
    rw [agrees.unknown name named] at last
    cases last
  | some f =>
    have stores := agrees.known name f named
    rw [last] at stores
    refine ⟨f, rfl, ?_⟩
    cases ss with
    | nil => exact stores.1
    | cons s ss => exact stores.1

lemma stores_congr (content : jt'.content f = jt.content f) (num : jt'.num f = jt.num f)
    (stores : Stores jt f v) : Stores jt' f v := by
  unfold Stores at stores ⊢
  rw [content, num]
  exact stores

/-- The template changes in the field of one name. -/
lemma Agrees.update (agrees : Agrees jt a) (named : get_ptr name = some f) (stores : Stores jt' f v)
    (content : ∀ g ≠ f, jt'.content g = jt.content g) (num : ∀ g ≠ f, jt'.num g = jt.num g) :
    Agrees jt' (Function.update a name v) where
  known name' g named' := by
    by_cases same : name' = name
    · subst same
      rw [named] at named'
      cases named'
      rw [Function.update_self]
      exact stores
    · have other : g ≠ f := by
        rintro rfl
        exact same (get_ptr_inj named' named)
      rw [Function.update_of_ne same]
      exact stores_congr (content g other) (num g other) (agrees.known name' g named')
  unknown name' none_of := by
    have other : name' ≠ name := by
      rintro rfl
      rw [named] at none_of
      cases none_of
    rw [Function.update_of_ne other]
    exact agrees.unknown name' none_of

/-- The content of the field of one name is lost; this goes well when it had none. -/
lemma agrees_lost (agrees : Agrees jt a) (named : get_ptr name = some f)
    (null : jt'.content f = .null) (zero : f.vector = true → jt.num f = 0 → jt'.num f = 0)
    (content : ∀ g ≠ f, jt'.content g = jt.content g) (num : ∀ g ≠ f, jt'.num g = jt.num g) :
    Agrees jt' a ↔ a name = none ∨ a name = some (.vector []) := by
  constructor
  · intro agrees'
    have stores := agrees'.known name f named
    cases last : a name with
    | none => exact .inl rfl
    | some value =>
      rw [last] at stores
      cases value with
      | scalar s =>
        rw [Stores, null] at stores
        cases stores.2
      | vector ss =>
        cases ss with
        | nil => exact .inr rfl
        | cons s ss =>
          rw [Stores, null] at stores
          · cases stores.2.1
          · exact fun h => (by cases h)
  · intro nothing
    have before := agrees.known name f named
    have stores : Stores jt' f (a name) := by
      obtain last | last := nothing
      · rw [last] at before ⊢
        exact ⟨null, fun vector => zero vector (before.2 vector)⟩
      · rw [last] at before ⊢
        exact ⟨before.1, null, zero before.1 before.2.2⟩
    have same := agrees.update named stores content num
    rwa [Function.update_eq_self] at same

/-- A call that changes nothing and stores nothing is sound when its answer is right. -/
lemma sound_same (agrees : Agrees jt a) {c : Access.Call} {r : Reply}
    (served : jt.serve c = some (jt, r)) (noted : note a c r = a) :
    Sound (some jt, a) c ↔ if c.active then Answers a r c.access else Refused r := by
  constructor
  · rintro ⟨jt₁, jt₂, r₂, eq, served₂, -, answers⟩
    cases eq
    rw [served] at served₂
    cases served₂
    exact answers
  · intro answers
    refine ⟨jt, jt, r, rfl, served, ?_, answers⟩
    show Agrees jt (note a c r)
    rw [noted]
    exact agrees

/-- A call whose outcome is known. -/
lemma sound_iff_of_serve {c : Access.Call} {r : Reply} (active : c.active = true)
    (served : jt.serve c = some (jt', r)) :
    Sound (some jt, a) c ↔ Agrees jt' (note a c r) ∧ Answers a r c.access := by
  constructor
  · rintro ⟨jt₁, jt₂, r₂, eq, served₂, agrees, answers⟩
    cases eq
    rw [served] at served₂
    cases served₂
    rw [if_pos active] at answers
    exact ⟨agrees, answers⟩
  · rintro ⟨agrees, answers⟩
    refine ⟨jt, jt', r, rfl, served, agrees, ?_⟩
    rw [if_pos active]
    exact answers

lemma refused_code {rc : Errno} (error : rc ≠ .success) : Refused (.code rc) := ⟨rc, rfl, error⟩

lemma not_refused_success : ¬Refused (.code .success) := by
  rintro ⟨rc, eq, error⟩
  cases eq
  exact error rfl

/-- Setting a scalar. -/
lemma sound_set (agrees : Agrees jt a) (value : String) (memory : Bool) :
    Sound (some jt, a) ⟨true, .set (some name) (some value) memory⟩ ↔
      Allowed (some jt, a) ⟨true, .set (some name) (some value) memory⟩ := by
  cases named : get_ptr name with
  | none =>
    have served : jt.serve ⟨true, .set (some name) (some value) memory⟩ =
        some (jt, .code .success) := by
      simp only [JobTemplate.serve, JobTemplate.set_val, named]
      rfl
    rw [sound_iff_of_serve rfl served]
    constructor
    · rintro ⟨agrees', -⟩
      have lost : Function.update a name (some (Value.scalar value)) name = none :=
        agrees'.unknown name named
      rw [Function.update_self] at lost
      cases lost
    · intro allowed
      obtain ⟨f, named', -⟩ := allowed rfl
      rw [named] at named'
      cases named'
  | some f =>
    cases memory with
    | true =>
      have served : jt.serve ⟨true, .set (some name) (some value) true⟩ =
          some (jt.store f (.str value), .code .success) := by
        simp only [JobTemplate.serve, JobTemplate.set_val, named]
        rfl
      rw [sound_iff_of_serve rfl served]
      constructor
      · rintro ⟨-, answers⟩ -
        refine ⟨f, named, ?_⟩
        by_contra vector
        exact not_refused_success (answers ⟨f, named, vector⟩)
      · intro allowed
        obtain ⟨f', named', scalar⟩ := allowed rfl
        rw [named] at named'
        cases named'
        constructor
        · apply agrees.update named
          · exact ⟨scalar, Function.update_self ..⟩
          · intro g other
            exact Function.update_of_ne other ..
          · intro g other
            rfl
        · rintro ⟨g, named', vector⟩
          rw [named] at named'
          cases named'
          exact absurd scalar vector
    | false =>
      have served : jt.serve ⟨true, .set (some name) (some value) false⟩ =
          some (jt.store f .null, .code .noMemory) := by
        simp only [JobTemplate.serve, JobTemplate.set_val, named]
        rfl
      have lost : Agrees (jt.store f .null) a ↔ _ := agrees_lost agrees named
        (Function.update_self ..) (fun _ zero => zero) (fun g other => Function.update_of_ne other ..)
        (fun g other => rfl)
      rw [sound_iff_of_serve rfl served]
      constructor
      · rintro ⟨agrees', -⟩ -
        exact ⟨f, named, lost.1 agrees'⟩
      · intro allowed
        obtain ⟨f', -, nothing⟩ := allowed rfl
        exact ⟨lost.2 nothing, fun _ => refused_code (fun h => (by cases h))⟩

/-- Setting a vector. -/
lemma sound_setVector (agrees : Agrees jt a) (values : List String) (memory : Bool) :
    Sound (some jt, a) ⟨true, .setVector (some name) (some values) memory⟩ ↔
      Allowed (some jt, a) ⟨true, .setVector (some name) (some values) memory⟩ := by
  cases named : get_ptr name with
  | none =>
    have served : jt.serve ⟨true, .setVector (some name) (some values) memory⟩ =
        some (jt, .code .success) := by
      simp only [JobTemplate.serve, JobTemplate.set_vval, named]
      rfl
    rw [sound_iff_of_serve rfl served]
    constructor
    · rintro ⟨agrees', -⟩
      have lost : Function.update a name (some (Value.vector values)) name = none :=
        agrees'.unknown name named
      rw [Function.update_self] at lost
      cases lost
    · intro allowed
      obtain ⟨⟨f, named', -⟩, -⟩ := allowed rfl
      rw [named] at named'
      cases named'
  | some f =>
    cases kind : f.vector with
    | false =>
      have served : jt.serve ⟨true, .setVector (some name) (some values) memory⟩ =
          some (jt, .code .success) := by
        simp only [JobTemplate.serve, JobTemplate.set_vval, named, kind]
        rfl
      rw [sound_iff_of_serve rfl served]
      constructor
      · rintro ⟨-, answers⟩
        exact absurd (answers ⟨f, named, by rw [kind]; exact Bool.false_ne_true⟩) not_refused_success
      · intro allowed
        obtain ⟨⟨f', named', vector⟩, -⟩ := allowed rfl
        rw [named] at named'
        cases named'
        rw [kind] at vector
        cases vector
    | true =>
      have matched {P : Prop} (mismatch : Mismatch name true) : P := by
        obtain ⟨g, named', other⟩ := mismatch
        rw [named] at named'
        cases named'
        exact absurd kind other
      have set_vval : jt.set_vval name values memory =
          if values = [] then some (jt.storeVector f .null 0, .success)
          else if memory then some (jt.storeVector f (.strs values) values.length, .success)
          else some (jt.storeVector f .null 0, .noMemory) := by
        rw [JobTemplate.set_vval, named]
        dsimp only
        rw [kind, if_neg (by decide), (agrees.known name f named).readable kind, if_neg (by decide)]
      have content (c : Content) (n : Nat) : ∀ g ≠ f, (jt.storeVector f c n).content g = jt.content g :=
        fun g other => Function.update_of_ne other ..
      have num (c : Content) (n : Nat) : ∀ g ≠ f, (jt.storeVector f c n).num g = jt.num g :=
        fun g other => Function.update_of_ne other ..
      by_cases empty : values = []
      · subst empty
        have served : jt.serve ⟨true, .setVector (some name) (some []) memory⟩ =
            some (jt.storeVector f .null 0, .code .success) := by
          rw [JobTemplate.serve, if_neg Bool.false_ne_true.symm]
          dsimp only
          rw [set_vval, if_pos rfl]
          rfl
        rw [sound_iff_of_serve rfl served]
        constructor
        · rintro - -
          exact ⟨⟨f, named, kind⟩, .inr (.inl rfl)⟩
        · rintro -
          refine ⟨agrees.update named ?_ (content _ _) (num _ _), matched⟩
          exact ⟨kind, Function.update_self .., Function.update_self ..⟩
      · cases memory with
        | true =>
          have served : jt.serve ⟨true, .setVector (some name) (some values) true⟩ =
              some (jt.storeVector f (.strs values) values.length, .code .success) := by
            rw [JobTemplate.serve, if_neg Bool.false_ne_true.symm]
            dsimp only
            rw [set_vval, if_neg empty, if_pos rfl]
            rfl
          rw [sound_iff_of_serve rfl served]
          constructor
          · rintro - -
            exact ⟨⟨f, named, kind⟩, .inl rfl⟩
          · rintro -
            refine ⟨agrees.update named ?_ (content _ _) (num _ _), matched⟩
            cases values with
            | nil => exact absurd rfl empty
            | cons v vs => exact ⟨kind, Function.update_self .., Function.update_self ..⟩
        | false =>
          have served : jt.serve ⟨true, .setVector (some name) (some values) false⟩ =
              some (jt.storeVector f .null 0, .code .noMemory) := by
            rw [JobTemplate.serve, if_neg Bool.false_ne_true.symm]
            dsimp only
            rw [set_vval, if_neg empty, if_neg (by decide)]
            rfl
          have lost : Agrees (jt.storeVector f .null 0) a ↔ _ := agrees_lost agrees named
            (Function.update_self ..) (fun _ _ => Function.update_self ..) (content _ _) (num _ _)
          rw [sound_iff_of_serve rfl served]
          constructor
          · rintro ⟨agrees', -⟩ -
            exact ⟨⟨f, named, kind⟩, .inr (.inr (lost.1 agrees'))⟩
          · intro allowed
            obtain ⟨-, memory | none_given | nothing⟩ := allowed rfl
            · cases memory
            · exact absurd none_given empty
            · exact ⟨lost.2 nothing, fun _ => refused_code (fun h => (by cases h))⟩

/-- Getting a scalar. -/
lemma sound_get (agrees : Agrees jt a) (value_len : Nat) :
    Sound (some jt, a) ⟨true, .get (some name) value_len⟩ ↔
      Allowed (some jt, a) ⟨true, .get (some name) value_len⟩ := by
  by_cases zero : value_len = 0
  · have served : jt.serve ⟨true, .get (some name) value_len⟩ =
        some (jt, .code .invalidArgument) := by
      rw [JobTemplate.serve, if_neg Bool.false_ne_true.symm]
      exact if_pos zero
    rw [sound_same agrees served rfl]
    exact ⟨fun _ _ positive => absurd zero positive, fun _ positive => absurd zero positive⟩
  have serve : jt.serve ⟨true, .get (some name) value_len⟩ =
      (jt.get_val name value_len).map fun r => (jt, r) := by
    rw [JobTemplate.serve, if_neg Bool.false_ne_true.symm]
    exact if_neg zero
  cases named : get_ptr name with
  | none =>
    have served : jt.serve ⟨true, .get (some name) value_len⟩ =
        some (jt, .code .invalidArgument) := by
      rw [serve, JobTemplate.get_val, named]
      rfl
    rw [sound_same agrees served rfl]
    constructor
    · rintro - - -
      exact .inl named
    · rintro - -
      show match a name with
        | some (.scalar s) => _
        | _ => _
      rw [agrees.unknown name named]
      exact refused_code (fun h => (by cases h))
  | some f =>
    have stores := agrees.known name f named
    have undefined (crash : jt.get_val name value_len = none)
        (other : ∀ s, a name ≠ some (.scalar s)) :
        Sound (some jt, a) ⟨true, .get (some name) value_len⟩ ↔
          Allowed (some jt, a) ⟨true, .get (some name) value_len⟩ := by
      constructor
      · rintro ⟨jt₁, jt₂, r, eq, served, -⟩
        cases eq
        rw [serve, crash] at served
        cases served
      · intro allowed
        obtain unknown | ⟨s, last, -⟩ := allowed rfl zero
        · rw [named] at unknown
          cases unknown
        · exact absurd last (other s)
    match last : a name with
    | none =>
      rw [last] at stores
      apply undefined
      · rw [JobTemplate.get_val, named]
        dsimp only
        rw [stores.1]
      · intro s eq
        rw [last] at eq
        cases eq
    | some (.vector []) =>
      rw [last] at stores
      apply undefined
      · rw [JobTemplate.get_val, named]
        dsimp only
        rw [stores.2.1]
      · intro s eq
        rw [last] at eq
        cases eq
    | some (.vector (s :: ss)) =>
      rw [last] at stores
      apply undefined
      · rw [JobTemplate.get_val, named]
        dsimp only
        rw [stores.2.1]
      · intro s eq
        rw [last] at eq
        cases eq
    | some (.scalar s) =>
      rw [last] at stores
      have get_val : jt.get_val name value_len =
          if s.length < value_len then some (.value (.scalar s))
          else some (.unterminated (String.ofList (s.toList.take value_len))) := by
        rw [JobTemplate.get_val, named]
        dsimp only
        rw [stores.2]
      have right {r : Reply} (served : jt.serve ⟨true, .get (some name) value_len⟩ = some (jt, r)) :
          Sound (some jt, a) ⟨true, .get (some name) value_len⟩ ↔ r = .value (.scalar s) := by
        rw [sound_same agrees served rfl]
        show (value_len ≠ 0 → match a name with
          | some (.scalar s) => r = .value (.scalar s)
          | _ => Refused r) ↔ _
        rw [last]
        exact ⟨fun h => h zero, fun h _ => h⟩
      by_cases fits : s.length < value_len
      · rw [right (by rw [serve, get_val, if_pos fits]; rfl)]
        exact ⟨fun _ _ _ => .inr ⟨s, last, fits⟩, fun _ => rfl⟩
      · rw [right (by rw [serve, get_val, if_neg fits]; rfl)]
        constructor
        · intro eq
          cases eq
        · intro allowed
          obtain unknown | ⟨s', last', fits'⟩ := allowed rfl zero
          · rw [named] at unknown
            cases unknown
          · have eq : some (Value.scalar s) = some (.scalar s') := last.symm.trans last'
            cases eq
            exact absurd fits' fits

/-- Getting a vector. -/
lemma sound_getVector (agrees : Agrees jt a) (memory : Bool) :
    Sound (some jt, a) ⟨true, .getVector (some name) memory⟩ ↔
      Allowed (some jt, a) ⟨true, .getVector (some name) memory⟩ := by
  have right {r : Reply} (served : jt.serve ⟨true, .getVector (some name) memory⟩ = some (jt, r)) :
      Sound (some jt, a) ⟨true, .getVector (some name) memory⟩ ↔
        match a name with
        | some (.vector ss) => r = .value (.vector ss)
        | _ => Refused r := by
    rw [sound_same agrees served rfl]
    exact Iff.rfl
  have invalid : Refused (.code .invalidArgument) := refused_code fun h => (by cases h)
  cases memory with
  | false =>
    rw [right (r := .code .noMemory) rfl]
    match last : a name with
    | none => exact ⟨fun _ _ _ => ⟨fun h => (by cases last.symm.trans h), .inr last⟩,
        fun _ => refused_code fun h => (by cases h)⟩
    | some (.scalar s) =>
      refine ⟨fun _ _ vector => ?_, fun _ => refused_code fun h => (by cases h)⟩
      obtain ⟨f, named, kind⟩ := vector
      have stores := agrees.known name f named
      rw [last] at stores
      rw [stores.1] at kind
      cases kind
    | some (.vector ss) =>
      constructor
      · intro eq
        cases eq
      · intro allowed
        obtain ⟨full, memory | nothing⟩ := allowed rfl (agrees.vector last)
        · cases memory
        · cases last.symm.trans nothing
  | true =>
    have serve : jt.serve ⟨true, .getVector (some name) true⟩ =
        (jt.get_vval name).map fun r => (jt, r) := rfl
    match last : a name with
    | some (.vector []) =>
      obtain ⟨f, named, kind⟩ := agrees.vector last
      have stores := agrees.known name f named
      rw [last] at stores
      have served : jt.serve ⟨true, .getVector (some name) true⟩ =
          some (jt, .code .invalidArgument) := by
        rw [serve, JobTemplate.get_vval, named]
        dsimp only
        rw [if_pos (.inl stores.2.1)]
        rfl
      rw [right served, last]
      constructor
      · intro eq
        cases eq
      · intro allowed
        exact absurd last (allowed rfl ⟨f, named, kind⟩).1
    | some (.vector (s :: ss)) =>
      obtain ⟨f, named, kind⟩ := agrees.vector last
      have stores := agrees.known name f named
      rw [last] at stores
      have full : ¬(jt.content f = .null ∨ f.vector = false) := by
        rw [stores.2.1, kind]
        rintro (null | scalar)
        · cases null
        · cases scalar
      have served : jt.serve ⟨true, .getVector (some name) true⟩ =
          some (jt, .value (.vector (s :: ss))) := by
        rw [serve, JobTemplate.get_vval, named]
        dsimp only
        rw [if_neg full, stores.2.1, stores.2.2]
        dsimp only
        rw [if_pos (Nat.le_refl _), List.take_length]
        rfl
      rw [right served, last]
      exact ⟨fun _ _ _ => ⟨fun h => (by cases last.symm.trans h), .inl rfl⟩, fun _ => rfl⟩
    | none =>
      have served : jt.serve ⟨true, .getVector (some name) true⟩ =
          some (jt, .code .invalidArgument) := by
        rw [serve, JobTemplate.get_vval]
        cases named : get_ptr name with
        | none => rfl
        | some f =>
          have stores := agrees.known name f named
          rw [last] at stores
          dsimp only
          rw [if_pos (.inl stores.1)]
          rfl
      rw [right served, last]
      exact ⟨fun _ _ _ => ⟨fun h => (by cases last.symm.trans h), .inl rfl⟩, fun _ => invalid⟩
    | some (.scalar s) =>
      have plain : ∀ f, get_ptr name = some f → f.vector = false := by
        intro f named
        have stores := agrees.known name f named
        rw [last] at stores
        exact stores.1
      have served : jt.serve ⟨true, .getVector (some name) true⟩ =
          some (jt, .code .invalidArgument) := by
        rw [serve, JobTemplate.get_vval]
        cases named : get_ptr name with
        | none => rfl
        | some f =>
          dsimp only
          rw [if_pos (.inr (plain f named))]
          rfl
      rw [right served, last]
      refine ⟨fun _ _ vector => ?_, fun _ => invalid⟩
      obtain ⟨f, named, kind⟩ := vector
      rw [plain f named] at kind
      cases kind

/-- A call is sound exactly when it is allowed. -/
lemma sound_iff_allowed (agrees : Agrees jt a) (c : Access.Call) :
    Sound (some jt, a) c ↔ Allowed (some jt, a) c := by
  obtain ⟨active, access⟩ := c
  cases active with
  | false =>
    rw [sound_same (r := .code .noActiveSession) agrees rfl]
    · exact ⟨fun _ h => (by cases h), fun _ => refused_code fun h => (by cases h)⟩
    · unfold note
      cases Access.sets access with
      | none => rfl
      | some stored => rfl
  | true =>
    have invalid {access : Access}
        (served : jt.serve ⟨true, access⟩ = some (jt, .code .invalidArgument))
        (sets : Access.sets access = none) (answers : Answers a (.code .invalidArgument) access ↔
          Refused (.code .invalidArgument)) (allowed : Allowed (some jt, a) ⟨true, access⟩) :
        Sound (some jt, a) ⟨true, access⟩ ↔ Allowed (some jt, a) ⟨true, access⟩ := by
      rw [sound_same agrees served (by unfold note; rw [sets])]
      exact ⟨fun _ => allowed, fun _ => answers.2 (refused_code fun h => (by cases h))⟩
    match access with
    | .set (some name) (some value) memory => exact sound_set agrees value memory
    | .setVector (some name) (some values) memory => exact sound_setVector agrees values memory
    | .get (some name) value_len => exact sound_get agrees value_len
    | .getVector (some name) memory => exact sound_getVector agrees memory
    | .set none _ _ => exact invalid rfl rfl Iff.rfl fun _ => trivial
    | .set (some name) none _ => exact invalid rfl rfl Iff.rfl fun _ => trivial
    | .setVector none _ _ => exact invalid rfl rfl Iff.rfl fun _ => trivial
    | .setVector (some name) none _ => exact invalid rfl rfl Iff.rfl fun _ => trivial
    | .get none _ => exact invalid rfl rfl Iff.rfl fun _ => trivial
    | .getVector none _ => exact invalid rfl rfl Iff.rfl fun _ => trivial

/-- The template agrees with its observer. -/
def Inv (s : State) : Prop := ∃ jt, s.1 = some jt ∧ Agrees jt s.2

lemma step_inv {s : State} {c : Access.Call} (sound : Sound s c) : Inv (step s c) := by
  obtain ⟨jt, jt', r, there, served, agrees, -⟩ := sound
  have next : step s c = (some jt', note s.2 c r) := by
    rw [step, there]
    show (match jt.serve c with
      | some (jt, r) => (some jt, note s.2 c r)
      | none => (none, s.2)) = _
    rw [served]
  rw [next]
  exact ⟨jt', rfl, agrees⟩

lemma init_agrees (wd : String) : Agrees (JobTemplate.init wd) (initial wd) where
  known name f named := by
    rw [initial, named]
    show Stores (JobTemplate.init wd) f (((JobTemplate.defaults wd).get f).map .scalar)
    cases f <;> first | exact ⟨rfl, fun _ => rfl⟩ | exact ⟨rfl, rfl⟩
  unknown name none_of := by
    rw [initial, none_of]
    rfl

/-- The attribute store is sound in a run exactly when every call of the run is allowed. -/
theorem sound_iff (wd : String) (calls : List Access.Call) :
    Machine.Guarded step Sound (some (JobTemplate.init wd), initial wd) calls ↔
      Machine.Guarded step Allowed (some (JobTemplate.init wd), initial wd) calls := by
  apply Machine.guarded_iff Inv
  · intro s c inv sound
    exact step_inv sound
  · intro s c inv
    obtain ⟨template, a⟩ := s
    obtain ⟨jt, rfl, agrees⟩ := inv
    exact sound_iff_allowed agrees c
  · exact ⟨_, rfl, init_agrees wd⟩

/-- The store of a new template. -/
def fresh : State := (some (JobTemplate.init "/home/u"), initial "/home/u")

/-- A set of an unknown name reports a success, a vector set of a scalar likewise, a scalar set of a vector
puts a string where the array was, a get of an attribute that was not set reads from NULL, and an empty
vector that was set is not found. -/
theorem access_unsound :
    ¬Machine.Guarded step Sound fresh [⟨true, .set (some "QUEUE") (some "long") true⟩] ∧
    ¬Machine.Guarded step Sound fresh [⟨true, .setVector (some "RANK") (some ["CPU_MHZ"]) true⟩] ∧
    ¬Machine.Guarded step Sound fresh [⟨true, .set (some "drmaa_v_argv") (some "-l") true⟩] ∧
    ¬Machine.Guarded step Sound fresh [⟨true, .get (some "RANK") 1024⟩] ∧
    ¬Machine.Guarded step Sound fresh [⟨true, .setVector (some "drmaa_v_env") (some []) true⟩,
      ⟨true, .getVector (some "drmaa_v_env") true⟩] := by
  have allowed {c : Access.Call} {cs : List Access.Call}
      (sound : Machine.Guarded step Sound fresh (c :: cs)) : Allowed fresh c :=
    (sound_iff_allowed (init_agrees "/home/u") c).1 sound.1
  refine ⟨?_, ?_, ?_, ?_, ?_⟩
  · intro sound
    obtain ⟨f, named, -⟩ := allowed sound rfl
    exact absurd named (by decide +revert)
  · intro sound
    obtain ⟨⟨f, named, vector⟩, -⟩ := allowed sound rfl
    have field : f = .rank := by
      have here : get_ptr "RANK" = some .rank := by decide
      exact Option.some.inj (named.symm.trans here)
    rw [field] at vector
    cases vector
  · intro sound
    obtain ⟨f, named, scalar⟩ := allowed sound rfl
    have field : f = .arguments := by
      have here : get_ptr "drmaa_v_argv" = some .arguments := by decide
      exact Option.some.inj (named.symm.trans here)
    rw [field] at scalar
    cases scalar
  · intro sound
    obtain unknown | ⟨v, last, -⟩ := allowed sound rfl (by decide)
    · exact absurd unknown (by decide)
    · have nothing : fresh.2 "RANK" = none := by decide
      cases nothing.symm.trans last
  · rintro ⟨first, second, -⟩
    obtain ⟨jt, there, agrees⟩ := step_inv first
    have last : (step fresh ⟨true, .setVector (some "drmaa_v_env") (some []) true⟩).2 "drmaa_v_env" =
        some (.vector []) := by decide
    have eq : step fresh ⟨true, .setVector (some "drmaa_v_env") (some []) true⟩ = (some jt, _) :=
      Prod.ext there rfl
    rw [eq] at second
    have allowed := (sound_iff_allowed agrees _).1 second rfl ⟨.environment, by decide, rfl⟩
    exact allowed.1 last

end Attributes

end GridWay.Drmaa
