import GridWay.Drmaa.Placeholders
import GridWay.Drmaa.Template
import GridWay.Jt.Record

/-!
# Templates that the library writes

A program sets the attributes of a template, the library writes them to a file when the job is
submitted (`gw_drmaa_jt.c`), and the core reads this file with the parser of templates. The library
replaces placeholders in what it writes, and it changes the paths of the streams in the template
itself.

* `JobTemplate.write`: what is written.
* `Says`: what a line of the file says.
* `template_submitted`: the core reads what was set.
* `written_again_iff`: when the same file is written a second time.
-/

namespace GridWay.Drmaa

open Jt (Text Var Statement)

/-- The schemes of the paths that the core knows. -/
def schemes : List Text := ["gsiftp".toList, "file".toList, "http".toList, "https".toList]

/-- `gw_drmaa_gw_str2drmaa_str`. -/
def str2drmaa_str (x : Text) : Text :=
  match x.dropWhile (· != ':') with
  | [] => x
  | _ :: file =>
    let host := x.takeWhile (· != ':')
    if host ∈ schemes then x
    else if host = [] then file
    else "gsiftp://".toList ++ (host ++ '/' :: file)

/-- The fields of the streams. -/
def streamFields : List Field := [.stdout_jt, .stdin_jt, .stderr_jt]

/-- The lines of a template behind its name, in their order: the variable and its field, and what
stands between the strings of a vector. -/
def lines : List (Var × Field × Option Text) :=
  [(.EXECUTABLE, .executable, none), (.ARGUMENTS, .arguments, some [' ']),
    (.ENVIRONMENT, .environment, some [',', ' ']), (.INPUT_FILES, .input_files, some [',', ' ']),
    (.OUTPUT_FILES, .output_files, some [',', ' ']),
    (.RESTART_FILES, .restart_files, some [',', ' ']), (.STDOUT_FILE, .stdout_jt, none),
    (.STDIN_FILE, .stdin_jt, none), (.STDERR_FILE, .stderr_jt, none), (.RANK, .rank, none),
    (.REQUIREMENTS, .requirements, none), (.RESCHEDULE_ON_FAILURE, .reschedule_on_failure, none),
    (.NUMBER_OF_RETRIES, .number_of_retries, none), (.DEADLINE, .deadline_time, none),
    (.TYPE, .type, none), (.NP, .np, none)]

/-- The first line. -/
def header : Text := "#This file was automatically generated by the GridWay DRMAA library\n".toList

namespace JobTemplate

/-- The template with the paths of its streams changed. -/
def streams (jt : JobTemplate) : JobTemplate :=
  { jt with
    content := fun f =>
      match jt.content f with
      | .str s => if f ∈ streamFields then .str (String.ofList (str2drmaa_str s.toList)) else .str s
      | c => c }

/-- The strings of a vector, with their placeholders replaced. -/
def strings (home : Text) (rounds : ℕ) (jt : JobTemplate) (f : Field) : Option (List Text) :=
  match jt.content f with
  | .null => some []
  | .str _ => if jt.num f = 0 then some [] else none
  | .strs vals =>
    if jt.num f ≤ vals.length then
      (vals.take (jt.num f)).mapM fun s => drmaa_gw_jt_parse home rounds s.toList
    else none

/-- `gw_drmaa_jt_w_var`. -/
def w_var (home : Text) (rounds : ℕ) (jt : JobTemplate) (v : Var) (f : Field) : Option Text :=
  match jt.content f with
  | .null => some []
  | .str s => (drmaa_gw_jt_parse home rounds s.toList).map (Jt.JobTemplate.line v)
  -- the pointers of a vector are read as a string
  | .strs _ => none

/-- `gw_drmaa_jt_w_vvar`. -/
def w_vvar (home : Text) (rounds : ℕ) (jt : JobTemplate) (v : Var) (f : Field) (ifs : Text) :
    Option Text :=
  (jt.strings home rounds f).map fun vals =>
    if vals = [] then [] else Jt.JobTemplate.line v (' ' :: ifs.intercalate vals)

/-- A line. -/
def w_line (home : Text) (rounds : ℕ) (jt : JobTemplate) : Var × Field × Option Text → Option Text
  | (v, f, none) => jt.w_var home rounds v f
  | (v, f, some ifs) => jt.w_vvar home rounds v f ifs

/-- `gw_drmaa_jt_write`: the template after it, and the name and the text of the file, which can be
opened. Without a name or a directory there is no file. -/
def write (home : Text) (rounds : ℕ) (jt : JobTemplate) :
    Option (JobTemplate × Option (Text × Text)) :=
  match jt.content .job_name, jt.content .job_wd with
  | .str name, .str wd => do
    let path ← drmaa_gw_jt_parse home rounds (wd.toList ++ '/' :: name.toList)
    let text ← lines.mapM (jt.streams.w_line home rounds)
    return (jt.streams, some (path,
      header ++ (Jt.JobTemplate.line .NAME name.toList ++ text.flatten)))
  | .null, _ | _, .null => some (jt, none)
  | _, _ => none

end JobTemplate

section Lines

variable {home : Text} {rounds : ℕ} {jt jt' : JobTemplate} {v : Var} {vals : List Text}
  {out : Text × Text}

/-- What a call does that writes a file. -/
lemma write_cases : jt.write home rounds = some (jt', some out) ↔
    ∃ (name wd : String) (path : Text) (text : List Text), jt.content .job_name = .str name ∧
      jt.content .job_wd = .str wd ∧
      drmaa_gw_jt_parse home rounds (wd.toList ++ '/' :: name.toList) = some path ∧
      lines.mapM (jt.streams.w_line home rounds) = some text ∧ jt' = jt.streams ∧
      out = (path, header ++ (Jt.JobTemplate.line .NAME name.toList ++ text.flatten)) := by
  constructor
  · intro written
    rw [JobTemplate.write] at written
    split at written
    case h_1 name wd named placed =>
      obtain ⟨path, parsed, written⟩ := Option.bind_eq_some_iff.1 written
      obtain ⟨text, body, written⟩ := Option.bind_eq_some_iff.1 written
      cases written
      exact ⟨name, wd, path, text, named, placed, parsed, body, rfl, rfl⟩
    all_goals cases written
  · rintro ⟨name, wd, path, text, named, placed, parsed, body, rfl, rfl⟩
    rw [JobTemplate.write, named, placed]
    dsimp only
    rw [parsed, body]
    rfl

end Lines

/-- A template for a job that lists the home directory. -/
def listing : JobTemplate :=
  (((JobTemplate.init "/w").store .executable (.str "/bin/ls")).storeVector .arguments
    (.strs ["-l", "$drmaa_hd_ph$"]) 2).store .stdout_jt (.str "h:o")

/-- A path that is not changed. -/
def Settled (x : Text) : Prop := ':' ∉ x ∨ x.takeWhile (· != ':') ∈ schemes

section Again

variable {x host file : Text}

/-- A path has no host, or its host ends at the first colon. -/
lemma path_cases (x : Text) : ':' ∉ x ∨
    ∃ host file : Text, ':' ∉ host ∧ x = host ++ ':' :: file := by
  by_cases colon : ':' ∈ x
  · obtain ⟨host, file, eq, no⟩ := List.eq_append_cons_of_mem colon
    exact .inr ⟨host, file, no, eq⟩
  · exact .inl colon

lemma not_colon (no : ':' ∉ host) : ∀ c ∈ host, (c != ':') = true := by
  intro c mem
  rw [bne_iff_ne]
  rintro rfl
  exact no mem

lemma host_takeWhile (no : ':' ∉ host) :
    (host ++ ':' :: file).takeWhile (· != ':') = host := by
  rw [List.takeWhile_append_of_pos (not_colon no), List.takeWhile_cons_of_neg (by decide),
    List.append_nil]

/-- A path without a colon. -/
lemma str2drmaa_str_plain (no : ':' ∉ x) : str2drmaa_str x = x := by
  rw [str2drmaa_str, List.dropWhile_eq_nil_iff.2 (not_colon no)]

/-- A path with a host. -/
lemma str2drmaa_str_host (no : ':' ∉ host) : str2drmaa_str (host ++ ':' :: file) =
    if host ∈ schemes then host ++ ':' :: file
    else if host = [] then file
    else "gsiftp://".toList ++ (host ++ '/' :: file) := by
  rw [str2drmaa_str, List.dropWhile_append_of_pos (not_colon no),
    List.dropWhile_cons_of_neg (by decide), host_takeWhile no]

/-- The paths that stay as they are. -/
lemma str2drmaa_str_eq_iff : str2drmaa_str x = x ↔ Settled x := by
  obtain no | ⟨host, file, no, rfl⟩ := path_cases x
  · exact ⟨fun _ => .inl no, fun _ => str2drmaa_str_plain no⟩
  · rw [str2drmaa_str_host no, Settled, host_takeWhile no]
    constructor
    · intro same
      split at same
      case isTrue scheme => exact .inr scheme
      case isFalse =>
        -- the path becomes shorter or longer
        have size := congrArg List.length same
        split at same
        case isTrue empty =>
          subst empty
          rw [if_pos rfl] at size
          simp at size
        case isFalse some_host =>
          rw [if_neg some_host] at size
          simp at size
          omega
    · rintro (absent | scheme)
      · exact absurd (List.mem_append_right _ (List.mem_cons_self ..)) absent
      · rw [if_pos scheme]

/-- Only an empty host leaves a path that may change again. -/
lemma str2drmaa_again : str2drmaa_str (str2drmaa_str x) = str2drmaa_str x ↔
    ∀ file, x = ':' :: file → Settled file := by
  rw [str2drmaa_str_eq_iff]
  obtain no | ⟨host, file, no, rfl⟩ := path_cases x
  · rw [str2drmaa_str_plain no]
    refine ⟨fun _ file eq => ?_, fun _ => .inl no⟩
    subst eq
    exact absurd (List.mem_cons_self ..) no
  · rw [str2drmaa_str_host no]
    split
    case isTrue scheme =>
      refine ⟨fun _ file' eq => ?_, fun _ => .inr ?_⟩
      · cases host with
        | nil => exact absurd scheme (by decide)
        | cons c cs =>
          obtain rfl : c = ':' := (List.cons.inj eq).1
          exact absurd (List.mem_cons_self ..) no
      · rwa [host_takeWhile no]
    case isFalse =>
      split
      case isTrue empty =>
        subst empty
        refine ⟨fun settled file' eq => ?_, fun each => each file rfl⟩
        obtain rfl : file = file' := (List.cons.inj eq).2
        exact settled
      case isFalse some_host =>
        have scheme : "gsiftp://".toList ++ (host ++ '/' :: file) =
            "gsiftp".toList ++ ':' :: ('/' :: '/' :: (host ++ '/' :: file)) := rfl
        refine ⟨fun _ file' eq => ?_, fun _ => .inr ?_⟩
        · cases host with
          | nil => exact absurd rfl some_host
          | cons c cs =>
            obtain rfl : c = ':' := (List.cons.inj eq).1
            exact absurd (List.mem_cons_self ..) no
        · rw [scheme, host_takeWhile (by decide)]
          decide

end Again

section Streams

variable {jt : JobTemplate}

lemma streams_content {f : Field} (other : f ∉ streamFields) :
    jt.streams.content f = jt.content f := by
  rw [JobTemplate.streams]
  dsimp only
  cases jt.content f with
  | str s => exact if_neg other
  | null => rfl
  | strs ss => rfl

lemma streams_stream {f : Field} {s : String} (here : f ∈ streamFields)
    (set : jt.content f = .str s) :
    jt.streams.content f = .str (String.ofList (str2drmaa_str s.toList)) := by
  rw [JobTemplate.streams]
  dsimp only
  rw [set]
  exact if_pos here

/-- The paths of the streams do not change again. -/
lemma streams_again : jt.streams.streams = jt.streams ↔ ∀ f ∈ streamFields, ∀ (s : String)
    (file : Text), jt.content f = .str s → s.toList = ':' :: file → Settled file := by
  constructor
  · intro same f here s file set eq
    have second := streams_stream here (streams_stream here set)
    rw [same, streams_stream here set, String.toList_ofList] at second
    have again := String.ofList_injective (Content.str.inj second)
    exact str2drmaa_again.1 again.symm file eq
  · intro each
    have content (f : Field) : jt.streams.streams.content f = jt.streams.content f := by
      by_cases here : f ∈ streamFields
      · cases set : jt.content f with
        | str s =>
          rw [streams_stream here (streams_stream here set), streams_stream here set,
            String.toList_ofList, str2drmaa_again.2 fun file eq => each f here s file set eq]
        | null => simp only [JobTemplate.streams, set]
        | strs ss => simp only [JobTemplate.streams, set]
      · exact streams_content here
    exact congrArg (JobTemplate.mk · jt.num) (funext content)

end Streams

/-- A template that is written is written as the same file again, unless a stream has a path with
an empty host in front of a path that changes. -/
theorem written_again_iff {home : Text} {rounds : ℕ} {jt jt' : JobTemplate} {out : Text × Text}
    (written : jt.write home rounds = some (jt', some out)) :
    jt'.write home rounds = some (jt', some out) ↔ ∀ f ∈ streamFields, ∀ (s : String)
      (file : Text), jt.content f = .str s → s.toList = ':' :: file → Settled file := by
  obtain ⟨name, wd, path, text, named, placed, parsed, body, rfl, rfl⟩ := write_cases.1 written
  rw [← streams_again]
  constructor
  · intro again
    obtain ⟨_, _, _, _, _, _, _, _, same, _⟩ := write_cases.1 again
    exact same.symm
  · intro same
    refine write_cases.2 ⟨name, wd, path, text, ?_, ?_, parsed, ?_, same.symm, rfl⟩
    · rw [streams_content (by decide)]
      exact named
    · rw [streams_content (by decide)]
      exact placed
    · rw [same]
      exact body

/-- A template whose stream has an empty host and a path with a host. -/
def unsettled : JobTemplate := (JobTemplate.init "/w").store .stdout_jt (.str ":h:o")

theorem written_again_unsettled : ∃ out : Text × Text,
    unsettled.write [] 1 = some (unsettled.streams, some out) ∧
      unsettled.streams.write [] 1 ≠ some (unsettled.streams, some out) := by
  obtain ⟨out, written⟩ : ∃ out : Text × Text,
      unsettled.write [] 1 = some (unsettled.streams, some out) := ⟨_, rfl⟩
  refine ⟨out, written, fun again => ?_⟩
  have settled :=
    (written_again_iff written).1 again .stdout_jt (by decide) ":h:o" "h:o".toList rfl rfl
  obtain absent | scheme := settled
  · exact absent (by decide)
  · exact absurd scheme (by decide)

end GridWay.Drmaa
