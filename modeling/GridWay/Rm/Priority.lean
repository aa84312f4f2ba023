import GridWay.Lib.Dict
import GridWay.Rm.Action
import Mathlib.Data.List.Induction

/-!
# Fixed priorities

`sched.conf` gives fixed priorities to users and to groups of users, and to hosts and the information
drivers that find them (`gw_sch_conf.c`). The Request Manager grants a submission the priority of its
user when the client asks for none, and a host that is found gets its own.

* `PriorityConf.load`: the priorities that a file gives.
* `load_priority`: the priority of a user and of a host, in terms of the lines of the file.
* `granted_priority`: the priorities of the submissions that are accepted.
-/

namespace GridWay

/-- The fixed priorities in the configuration (`gw_sch_conf_t`). -/
structure PriorityConf where
  ufixedDefault : Int := 0
  ufixed : Dict String Int := []
  gfixed : Dict String Int := []
  rfixedDefault : Int := 1
  ifixed : Dict String Int := []
  hfixed : Dict String Int := []
deriving DecidableEq, Repr

/-- The variables of `sched.conf` that give fixed priorities. -/
inductive PriorityVar where
  | fpUser | fpGroup | rpHost | rpIm
deriving DecidableEq, Repr

/-- The greatest priority, of a job or of a host. -/
def PriorityVar.max : PriorityVar → Int
  | fpUser | fpGroup => 20
  | rpHost | rpIm => 99

/-- A line of `sched.conf`: a variable, a name and a value. -/
abbrev PriorityLine := PriorityVar × String × Int

namespace PriorityConf

/-- A priority within its bounds. -/
def clip (v : PriorityVar) (priority : Int) : Int :=
  if priority < 0 then 0 else if priority > v.max then v.max else priority

/-- A value is stored in the entry of its name, or in a new one at the end. -/
def store (name : String) (value : Int) : Dict String Int → Dict String Int
  | [] => [(name, value)]
  | e :: d => if name = e.1 then (e.1, value) :: d else e :: store name value d

/-- `gw_sch_set_user_fixed`. -/
def setUserFixed (conf : PriorityConf) (user : String) (priority : Int) : PriorityConf :=
  let priority := clip .fpUser priority
  if user = "DEFAULT" then { conf with ufixedDefault := priority }
  else { conf with ufixed := store user priority conf.ufixed }

/-- `gw_sch_set_group_fixed`. -/
def setGroupFixed (conf : PriorityConf) (group : String) (priority : Int) : PriorityConf :=
  { conf with gfixed := store group (clip .fpGroup priority) conf.gfixed }

/-- `gw_sch_set_im_fixed`. -/
def setImFixed (conf : PriorityConf) (im : String) (priority : Int) : PriorityConf :=
  let priority := clip .rpIm priority
  if im = "DEFAULT" then { conf with rfixedDefault := priority }
  else { conf with ifixed := store im priority conf.ifixed }

/-- `gw_sch_set_host_fixed`. -/
def setHostFixed (conf : PriorityConf) (host : String) (priority : Int) : PriorityConf :=
  { conf with hfixed := store host (clip .rpHost priority) conf.hfixed }

/-- `gw_sch_set_svar`. -/
def setSvar (conf : PriorityConf) : PriorityLine → PriorityConf
  | (.fpUser, str, val) => conf.setUserFixed str val
  | (.fpGroup, str, val) => conf.setGroupFixed str val
  | (.rpHost, str, val) => conf.setHostFixed str val
  | (.rpIm, str, val) => conf.setImFixed str val

/-- The priorities after `gw_sch_conf_init` and the lines that are read. -/
def load (file : List PriorityLine) : PriorityConf := file.foldl setSvar {}

/-- `gw_sch_get_user_priority`. -/
def getUserPriority (conf : PriorityConf) (user group : String) : Int :=
  match conf.ufixed.get user with
  | some value => value
  | none => (conf.gfixed.get group).getD conf.ufixedDefault

/-- `gw_sch_get_host_priority`. -/
def getHostPriority (conf : PriorityConf) (host im : String) : Int :=
  match conf.hfixed.get host with
  | some value => value
  | none => (conf.ifixed.get im).getD conf.rfixedDefault

/-- The priority in the last line of a file for a variable and a name. -/
def given (v : PriorityVar) (name : String) (file : List PriorityLine) : Option Int :=
  (file.reverse.find? fun a => a.1 = v ∧ a.2.1 = name).map fun a => clip v a.2.2

/-- A table and its default have what the lines of a file for a variable gave last. -/
structure Table (v : PriorityVar) (start : Int) (file : List PriorityLine) (d : Dict String Int)
    (default : Int) : Prop where
  entry : ∀ name ≠ "DEFAULT", d.get name = given v name file
  noEntry : d.get "DEFAULT" = none
  eq : default = (given v "DEFAULT" file).getD start

/-- The tables have what the lines of a file gave last. -/
structure Loaded (conf : PriorityConf) (file : List PriorityLine) : Prop where
  users : Table .fpUser 0 file conf.ufixed conf.ufixedDefault
  group : ∀ name, conf.gfixed.get name = given .fpGroup name file
  ims : Table .rpIm 1 file conf.ifixed conf.rfixedDefault
  host : ∀ name, conf.hfixed.get name = given .rpHost name file

section Load

variable {conf : PriorityConf} {file : List PriorityLine} {v w : PriorityVar} {name str : String}
  {val p : Int}

lemma get_store {d : Dict String Int} :
    (store str val d).get name = if str = name then some val else d.get name := by
  induction d with
  | nil => rfl
  | cons e d ih =>
    obtain ⟨m, x⟩ := e
    rw [store]
    dsimp only
    by_cases here : str = m
    · subst here
      rw [if_pos rfl, Dict.get, Dict.get]
      split <;> rfl
    · rw [if_neg here, Dict.get, Dict.get, ih]
      by_cases there : m = name
      · rw [if_pos there, if_pos there, if_neg fun eq => here (eq.trans there.symm)]
      · rw [if_neg there, if_neg there]

/-- The last line is the first that counts. -/
lemma given_concat : given v name (file ++ [(w, str, val)]) =
    if w = v ∧ str = name then some (clip v val) else given v name file := by
  rw [given, List.reverse_append, List.reverse_singleton, List.singleton_append, List.find?_cons]
  by_cases here : w = v ∧ str = name
  · rw [if_pos here]
    simp only [here, and_self, decide_true, Option.map_some]
  · rw [if_neg here]
    simp only [here, decide_false]
    rfl

lemma given_bounds (last : p ∈ given v name file) : 0 ≤ p ∧ p ≤ v.max := by
  obtain ⟨a, -, rfl⟩ := Option.map_eq_some_iff.1 last
  have max : 0 ≤ v.max := by cases v <;> decide
  unfold clip
  split
  · exact ⟨Int.le_refl 0, max⟩
  · split <;> omega

lemma given_other (other : w ≠ v) :
    given v name (file ++ [(w, str, val)]) = given v name file := by
  rw [given_concat, if_neg fun here => other here.1]

lemma given_same : given v name (file ++ [(v, str, val)]) =
    if str = name then some (clip v val) else given v name file := by
  rw [given_concat]
  simp only [true_and]

section Table

variable {start default : Int} {d : Dict String Int}

lemma Table.other (table : Table v start file d default) (other : w ≠ v) :
    Table v start (file ++ [(w, str, val)]) d default := by
  constructor
  case entry =>
    intro name named
    rw [given_other other]
    exact table.entry name named
  case noEntry => exact table.noEntry
  case eq =>
    rw [given_other other]
    exact table.eq

/-- A line for the default. -/
lemma Table.setDefault (table : Table v start file d default) :
    Table v start (file ++ [(v, "DEFAULT", val)]) d (clip v val) := by
  constructor
  case entry =>
    intro name named
    rw [given_same, if_neg (Ne.symm named)]
    exact table.entry name named
  case noEntry => exact table.noEntry
  case eq => rw [given_same, if_pos rfl, Option.getD_some]

/-- A line for another name. -/
lemma Table.setEntry (table : Table v start file d default) (named : str ≠ "DEFAULT") :
    Table v start (file ++ [(v, str, val)]) (store str (clip v val) d) default := by
  constructor
  case entry =>
    intro name named
    rw [get_store, given_same, table.entry name named]
  case noEntry =>
    rw [get_store, if_neg named]
    exact table.noEntry
  case eq =>
    rw [given_same, if_neg named]
    exact table.eq

end Table

/-- A line is stored in one of the tables, or is a default. -/
lemma Loaded.line (loaded : Loaded conf file) : Loaded (conf.setSvar (w, str, val))
    (file ++ [(w, str, val)]) := by
  have group (other : w ≠ .fpGroup) (name : String) :
      conf.gfixed.get name = given .fpGroup name (file ++ [(w, str, val)]) :=
    (loaded.group name).trans (given_other other).symm
  have host (other : w ≠ .rpHost) (name : String) :
      conf.hfixed.get name = given .rpHost name (file ++ [(w, str, val)]) :=
    (loaded.host name).trans (given_other other).symm
  cases w with
  | fpUser =>
    simp only [setSvar, setUserFixed]
    split
    case isTrue default =>
      subst default
      exact ⟨loaded.users.setDefault, group (by decide), loaded.ims.other (by decide),
        host (by decide)⟩
    case isFalse named =>
      exact ⟨loaded.users.setEntry named, group (by decide), loaded.ims.other (by decide),
        host (by decide)⟩
  | fpGroup =>
    refine ⟨loaded.users.other (by decide), fun name => ?_, loaded.ims.other (by decide),
      host (by decide)⟩
    rw [setSvar, setGroupFixed, get_store, given_same, loaded.group]
  | rpHost =>
    refine ⟨loaded.users.other (by decide), group (by decide), loaded.ims.other (by decide),
      fun name => ?_⟩
    rw [setSvar, setHostFixed, get_store, given_same, loaded.host]
  | rpIm =>
    simp only [setSvar, setImFixed]
    split
    case isTrue default =>
      subst default
      exact ⟨loaded.users.other (by decide), group (by decide), loaded.ims.setDefault,
        host (by decide)⟩
    case isFalse named =>
      exact ⟨loaded.users.other (by decide), group (by decide), loaded.ims.setEntry named,
        host (by decide)⟩

lemma loaded (file : List PriorityLine) : Loaded (load file) file := by
  induction file using List.reverseRecOn with
  | nil =>
    exact ⟨⟨fun _ _ => rfl, rfl, rfl⟩, fun _ => rfl, ⟨fun _ _ => rfl, rfl, rfl⟩, fun _ => rfl⟩
  | append_singleton file line ih =>
    rw [load, List.foldl_append]
    exact ih.line

/-- A priority of a user is one that the file gives, or the one without a file. -/
lemma getUserPriority_bounds (file : List PriorityLine) (user group : String) :
    0 ≤ (load file).getUserPriority user group ∧ (load file).getUserPriority user group ≤ 20 := by
  have tables := loaded file
  rw [getUserPriority]
  cases own : (load file).ufixed.get user with
  | some value =>
    by_cases named : user = "DEFAULT"
    · rw [named, tables.users.noEntry] at own
      cases own
    · exact given_bounds ((tables.users.entry user named).symm.trans own)
  | none =>
    dsimp only
    cases shared : (load file).gfixed.get group with
    | some value => exact given_bounds ((tables.group group).symm.trans shared)
    | none =>
      rw [Option.getD_none, tables.users.eq]
      cases last : given .fpUser "DEFAULT" file with
      | none => decide
      | some value => exact given_bounds last

end Load

end PriorityConf

open PriorityConf in
/-- The last line for a user decides, then the last one for its group, then the last default. For a
host it is the last line for the host, then the one for its driver, then the default. -/
theorem load_priority (file : List PriorityLine) :
    (∀ user group, (load file).getUserPriority user group =
      (if user = "DEFAULT" then none else given .fpUser user file).getD
        ((given .fpGroup group file).getD ((given .fpUser "DEFAULT" file).getD 0))) ∧
    ∀ host im, (load file).getHostPriority host im =
      (given .rpHost host file).getD
        ((given .rpIm im file).getD ((given .rpIm "DEFAULT" file).getD 1)) := by
  have tables := loaded file
  constructor
  · intro user group
    have own : (load file).ufixed.get user =
        if user = "DEFAULT" then none else given .fpUser user file := by
      split
      case isTrue named => rw [named, tables.users.noEntry]
      case isFalse named => exact tables.users.entry user named
    rw [getUserPriority, own, tables.group, tables.users.eq]
    cases (if user = "DEFAULT" then none else given .fpUser user file) with
    | some value => rfl
    | none => rfl
  · intro host im
    rw [getHostPriority, tables.host, tables.ims.eq]
    cases given .rpHost host file with
    | some value => rfl
    | none =>
      rw [Option.getD_none]
      dsimp only
      -- a driver with the name of the default has no entry, and its line is the default
      by_cases named : im = "DEFAULT"
      · rw [named, tables.ims.noEntry, Option.getD_none]
        cases given .rpIm "DEFAULT" file with
        | some value => rfl
        | none => rfl
      · rw [tables.ims.entry im named]

open PriorityConf in
/-- A submission that is accepted has a priority of a job. It is urgent only if the user is the
administrator, or asks for no priority and is urgent in `sched.conf`. -/
theorem granted_priority {gwadmin owner group : String} {file : List PriorityLine}
    {fixedPriority p : Int}
    (granted : Rm.checkPriority ⟨gwadmin, (load file).getUserPriority⟩ owner group fixedPriority =
      some p) :
    0 ≤ p ∧ p ≤ 20 ∧ (p = 20 → Rm.isGwadmin ⟨gwadmin, (load file).getUserPriority⟩ owner = false →
      fixedPriority = -2147483648 ∧ (load file).getUserPriority owner group = 20) := by
  rw [Rm.checkPriority] at granted
  split at granted
  case isTrue unset =>
    obtain rfl := Option.some.inj granted
    have bounds := getUserPriority_bounds file owner group
    exact ⟨bounds.1, bounds.2, fun urgent _ => ⟨unset, urgent⟩⟩
  case isFalse =>
    split at granted
    case isTrue urgent =>
      split at granted
      case isTrue admin =>
        obtain rfl := Option.some.inj granted
        refine ⟨by omega, by omega, fun _ other => ?_⟩
        rw [admin] at other
        cases other
      case isFalse => cases granted
    case isFalse ordinary =>
      split at granted
      case isTrue => cases granted
      case isFalse within =>
        obtain rfl := Option.some.inj granted
        exact ⟨by omega, by omega, fun urgent => absurd urgent ordinary⟩

open PriorityConf in
theorem granted_priority_group : 0 ≤ (20 : Int) ∧ (20 : Int) ≤ 20 ∧
    ((20 : Int) = 20 → Rm.isGwadmin ⟨"gwadmin", (load [(.fpGroup, "staff", 50)]).getUserPriority⟩
      "ann" = false → (-2147483648 : Int) = -2147483648 ∧
        (load [(.fpGroup, "staff", 50)]).getUserPriority "ann" "staff" = 20) := by
  have granted : Rm.checkPriority
      ⟨"gwadmin", (load [(.fpGroup, "staff", 50)]).getUserPriority⟩ "ann" "staff" (-2147483648) =
        some 20 := rfl
  exact granted_priority granted

end GridWay
