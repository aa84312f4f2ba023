import GridWay.Jt.Values

/-!
# The lists of a template

The scanner of `gw_template_parser.l` on the files of a job and on its environment.

* `goes_list`: the names of files.
* `goes_vars`: the variables of the environment.
-/

namespace GridWay.Jt

open GridWay.Lex GridWay.Lex.Pattern Pattern
open Rsl2 (atoi32)

section Names

variable {lim : Limits} {GW_LOCATION : Text} {st : State} {b x y rest : Text} {c : Char}
variable {a sep val : Text} {find : Find} {names : List (Text × Option Text)}
  {vars : List (Text × Text)}

lemma isStart_plain (start : isStart c = true) :
    isNameChar c = true ∧ isBlank c = false ∧ c ≠ '#' ∧ c ≠ '\n' ∧ c ≠ ',' := by
  obtain ⟨name, comment⟩ := Bool.and_eq_true_iff.1 start
  obtain ⟨name, tab⟩ := Bool.and_eq_true_iff.1 name
  have other (d : Char) (no : isNameChar d = false) : c ≠ d := by
    rintro rfl
    rw [name] at no
    cases no
  refine ⟨name, ?_, bne_iff_ne.1 comment, other _ rfl, other _ rfl⟩
  rw [isBlank, beq_eq_false_iff_ne.2 (other ' ' rfl), beq_eq_false_iff_ne.2 (bne_iff_ne.1 tab)]
  rfl

/-- A separator begins with itself or with a space. -/
lemma Separator.head (separator : Separator c sep) : ∃ d cs, sep = d :: cs ∧ (d = c ∨ d = ' ') := by
  cases separator with
  | near blank => exact ⟨c, _, rfl, .inl rfl⟩
  | apart blank blank' => exact ⟨' ', _, rfl, .inr rfl⟩

lemma Separator.found (separator : Separator c sep) (other : isBlank c = false)
    (apart : Apart isBlank rest) :
    (Pattern.separator c).find (sep ++ rest) = some (sep, rest) := by
  cases separator with
  | @near b blank =>
    exact separator_find other no_blanks blank apart
  | @apart b b' blank blank' =>
    have spaces : Blanks (' ' :: b) := List.forall_mem_cons.2 ⟨rfl, blank⟩
    have found : (Pattern.separator c).find (' ' :: b ++ c :: (b' ++ rest)) =
        some (' ' :: b ++ ([c] ++ b'), rest) :=
      separator_find other spaces blank' apart
    simpa using found

lemma Separator.hidden (separator : Separator c sep) (other : isBlank c = false) (comment : c ≠ '#')
    (newline : c ≠ '\n') : lineEnd.find (sep ++ rest) = none := by
  cases separator with
  | @near b blank => exact hidden_start other comment newline
  | @apart b b' blank blank' =>
    have spaces : Blanks (' ' :: b) := List.forall_mem_cons.2 ⟨rfl, blank⟩
    have hidden : lineEnd.find (' ' :: b ++ c :: (b' ++ rest)) = none :=
      lineEnd_hidden spaces other comment newline
    simpa using hidden

lemma Separator.apart_name (separator : Separator c sep) (other : isNameChar c = false) :
    Apart isNameChar (sep ++ rest) := by
  obtain ⟨d, cs, rfl, first⟩ := separator.head
  refine apart_cons ?_
  obtain rfl | rfl := first
  · exact other
  · rfl

lemma apart_append (some_char : x ≠ []) {p : Char → Bool}
    (apart : Apart p x) : Apart p (x ++ rest) := by
  cases x with
  | nil => exact absurd rfl some_char
  | cons d x => exact apart_cons (apart d rfl)

/-- A pattern that takes nothing at the first character. -/
lemma many_zero {p : Char → Bool} (apart : Apart p x) {z : Text × Text}
    (found : (many p).find x = some z) {n : ℕ} : z.1.length ≤ n := by
  rw [many_empty apart] at found
  cases found
  exact Nat.zero_le n

lemma name_hidden (name : IsName a) (rest : Text) :
    lineEnd.find (a ++ rest) = none ∧ (separator ',').find (a ++ rest) = none ∧
      Apart isBlank (a ++ rest) ∧ a ++ rest ≠ [] := by
  obtain ⟨c, cs, rfl, start⟩ := name.start
  obtain ⟨-, blank, comment, newline, comma⟩ := isStart_plain start
  refine ⟨hidden_start blank comment newline, ?_, apart_cons blank, List.cons_ne_nil _ _⟩
  exact separator_hidden no_blanks blank comma

lemma goes_file {st' : State} (name : IsName a) (apart : Apart isNameChar rest)
    (acted : act_file lim a st = .ok st') :
    Goes lim GW_LOCATION (.val .files) st (a ++ rest) (.val .files) st' rest := by
  obtain ⟨ends, comma, blank, some_char⟩ := name_hidden name rest
  have split : rules (.val .files) =
      [(lineEnd, Rule.line_end .files), (separator ',', Rule.comma), (blanks, Rule.gap)] ++
      (many isNameChar, Rule.file) :: [] := rfl
  have found : longest (rules (.val .files)) (a ++ rest) = some (.file, a, rest) := by
    refine longest_of split (many_find name.all apart) ?_ (List.forall_mem_nil _)
    intro q mem z found
    simp only [List.mem_cons, List.not_mem_nil, or_false] at mem
    obtain rfl | rfl | rfl := mem
    · rw [ends] at found
      cases found
    · rw [comma] at found
      cases found
    · have empty : blanks.find (a ++ rest) = some ([], a ++ rest) := many_empty blank
      rw [empty] at found
      cases found
      obtain ⟨c, cs, rfl, -⟩ := name.start
      exact Nat.succ_pos _
  exact goes_rule some_char found acted

lemma goes_gap (blank : Blanks b) (name : IsName a) :
    Goes lim GW_LOCATION (.val .files) st (' ' :: (b ++ (a ++ rest))) (.val .files)
      { st with file := st.file + 1 } (a ++ rest) := by
  obtain ⟨c, cs, rfl, start⟩ := name.start
  obtain ⟨-, other, comment, newline, comma⟩ := isStart_plain start
  have spaces : Blanks (' ' :: b) := List.forall_mem_cons.2 ⟨rfl, blank⟩
  have split : rules (.val .files) =
      [(lineEnd, Rule.line_end .files), (separator ',', Rule.comma)] ++
      (blanks, Rule.gap) :: [(many isNameChar, Rule.file)] := rfl
  have here : blanks.find (' ' :: b ++ (c :: cs ++ rest)) = some (' ' :: b, c :: cs ++ rest) :=
    blanks_find spaces (apart_cons other)
  have late : ∀ q ∈ [(many isNameChar, Rule.file)], ∀ z ∈ q.1.find (' ' :: b ++ (c :: cs ++ rest)),
      z.1.length ≤ (' ' :: b).length :=
    List.forall_mem_singleton.2 fun z found => many_zero (apart_cons rfl) found
  exact goes_rule (List.cons_ne_nil _ _) (longest_past split (List.forall_mem_cons.2
    ⟨lineEnd_hidden spaces other comment newline,
      List.forall_mem_singleton.2 (separator_hidden spaces other comma)⟩) here late) rfl

lemma goes_comma (separator : Separator ',' sep) (apart : Apart isBlank rest) :
    Goes lim GW_LOCATION (.val .files) st (sep ++ rest) (.val .files)
      { st with file := 0 } rest := by
  have split : rules (.val .files) = [(lineEnd, Rule.line_end .files)] ++
      (Pattern.separator ',', Rule.comma) ::
        [(blanks, Rule.gap), (many isNameChar, Rule.file)] := rfl
  have late : ∀ q ∈ [(blanks, Rule.gap), (many isNameChar, .file)], ∀ z ∈ q.1.find (sep ++ rest),
      z.1.length ≤ sep.length := by
    refine List.forall_mem_cons.2 ⟨fun z found => ?_, List.forall_mem_singleton.2 fun z found =>
      many_zero (separator.apart_name rfl) found⟩
    cases separator with
    | @near b blank => exact many_zero (apart_cons rfl) found
    -- The blanks in front of a comma are a gap as well, which is shorter.
    | @apart b b' blank blank' =>
      have eq : ' ' :: (b ++ ',' :: b') ++ rest = ' ' :: b ++ ',' :: (b' ++ rest) := by simp
      rw [eq] at found
      have short : z.1.length ≤ (' ' :: b).length := (many_avoids rfl).short found
      simp only [List.length_cons, List.length_append] at short ⊢
      omega
  refine goes_rule ?_ (longest_past split
    (List.forall_mem_singleton.2 (separator.hidden rfl (by decide) (by decide)))
    (separator.found rfl apart) late) rfl
  obtain ⟨d, cs, rfl, -⟩ := separator.head
  exact List.cons_ne_nil _ _

lemma inside_of {n : ℕ} (room : ∀ m ∈ lim.files, n < m) : inside n lim.files := by
  cases files : lim.files with
  | none => trivial
  | some m => exact room m files

/-- The first name of a file. -/
lemma act_file_first_ok (room : ∀ m ∈ lim.files, st.jt.numFiles st.find + 1 < m) :
    act_file_first lim a st =
    .ok { st with jt := Template.addFile lim st.find st.jt (a, none) } := by
  have free {n : ℕ} (room : ∀ m ∈ lim.files, n + 1 < m) : lim.files ≠ some (n + 1) := fun full =>
    Nat.lt_irrefl _ (room _ full)
  have here {n : ℕ} (room : ∀ m ∈ lim.files, n + 1 < m) :
      ¬(n + 1 = 0 ∨ ¬inside (n + 1 - 1) lim.files) := by
    rintro (zero | outside)
    · cases zero
    · exact outside (inside_of fun m files => Nat.lt_of_succ_lt (room m files))
  unfold act_file_first Template.addFile
  cases find : st.find with
  | input =>
    rw [find] at room
    dsimp only
    rw [if_neg (free (n := st.jt.num_input_files) room), writePair,
      if_neg (here (n := st.jt.num_input_files) room)]
    rfl
  | output =>
    rw [find] at room
    dsimp only
    rw [if_neg (free (n := st.jt.num_output_files) room), writePair,
      if_neg (here (n := st.jt.num_output_files) room)]
    rfl
  | restart =>
    rw [find] at room
    dsimp only
    rw [if_neg (free (n := st.jt.num_restart_files) room),
      if_neg fun outside => here (n := st.jt.num_restart_files) room (.inr outside)]
    rfl

/-- The second name of a file. -/
lemma act_file_second_ok {jt : Template} {b : Text} (pair : st.find ≠ .restart)
    (added : st.jt = Template.addFile lim st.find jt (a, none))
    (room : ∀ m ∈ lim.files, jt.numFiles st.find < m) :
    act_file_second lim b st =
      .ok { st with jt := Template.addFile lim st.find jt (a, some b) } := by
  have here {n : ℕ} (room : ∀ m ∈ lim.files, n < m) :
      ¬(n + 1 = 0 ∨ ¬inside (n + 1 - 1) lim.files) := by
    rintro (zero | outside)
    · cases zero
    · exact outside (inside_of room)
  unfold act_file_second
  rw [added]
  cases find : st.find with
  | input =>
    rw [find] at room
    dsimp only [Template.addFile]
    rw [writePair, if_neg (here (n := jt.num_input_files) room)]
    dsimp only
    rw [Nat.add_sub_cancel, Function.update_idem, Function.update_self]
    rfl
  | output =>
    rw [find] at room
    dsimp only [Template.addFile]
    rw [writePair, if_neg (here (n := jt.num_output_files) room)]
    dsimp only
    rw [Nat.add_sub_cancel, Function.update_idem, Function.update_self]
    rfl
  | restart => exact absurd find pair

/-- The names of a file are read. -/
lemma goes_names {f : Text × Option Text} (names : FileNames f x) (first : st.file = 0)
    (single : st.find = .restart → f.2 = none)
    (room : ∀ m ∈ lim.files, st.jt.numFiles st.find + 1 < m)
    (apart : Apart isNameChar rest) :
    ∃ st', Goes lim GW_LOCATION (.val .files) st (x ++ rest) (.val .files) st' rest ∧
      st'.jt = Template.addFile lim st.find st.jt f ∧ st'.find = st.find := by
  have acted : act_file lim f.1 st =
      .ok { st with jt := Template.addFile lim st.find st.jt (f.1, none) } := by
    rw [act_file, first]
    exact act_file_first_ok room
  cases names with
  | one name => exact ⟨_, goes_file name apart acted, rfl, rfl⟩
  | @two a b gap name blank name' =>
    have pair : st.find ≠ .restart := fun restart => by cases single restart
    have gone : Goes lim GW_LOCATION (.val .files) st (a ++ ' ' :: (gap ++ (b ++ rest)))
        (.val .files) _ _ :=
      goes_file name (apart_cons rfl) acted
    have second : act_file lim b { st with
        jt := Template.addFile lim st.find st.jt (a, none), file := st.file + 1 } =
        .ok { st with
          jt := Template.addFile lim st.find st.jt (a, some b)
          file := st.file + 1 } := by
      rw [act_file, first]
      exact act_file_second_ok pair rfl fun m files => Nat.lt_of_succ_lt (room m files)
    have eq : a ++ ' ' :: (gap ++ b) ++ rest = a ++ ' ' :: (gap ++ (b ++ rest)) := by simp
    rw [eq]
    exact ⟨_, gone.trans ((goes_gap blank name').trans (goes_file name' apart second)), rfl, rfl⟩

lemma FileNames.apart {f : Text × Option Text}
    (names : FileNames f x) : Apart isBlank (x ++ rest) := by
  cases names with
  | one name => exact (name_hidden name rest).2.2.1
  | two name blank name' =>
    rw [List.append_assoc]
    exact (name_hidden name _).2.2.1

lemma FileList.apart {fs : List (Text × Option Text)}
    (list : FileList fs x) : Apart isBlank (x ++ rest) := by
  cases list with
  | last names => exact names.apart
  | more names separator more =>
    rw [List.append_assoc]
    exact names.apart

lemma numFiles_addFile {jt : Template} (f : Text × Option Text) :
    (Template.addFile lim find jt f).numFiles find = jt.numFiles find + 1 := by
  cases find <;> rfl

/-- The names of files are read, one after the other. -/
lemma goes_list (list : FileList names x) (first : st.file = 0)
    (single : st.find = .restart → ∀ f ∈ names, f.2 = none)
    (room : ∀ m ∈ lim.files, st.jt.numFiles st.find + names.length < m)
    (apart : Apart isNameChar rest) :
    ∃ st', Goes lim GW_LOCATION (.val .files) st (x ++ rest) (.val .files) st' rest ∧
      st'.jt = names.foldl (Template.addFile lim st.find) st.jt := by
  -- On the list, with any state: `room` is for the files that are still to come.
  induction list generalizing st with
  | last names =>
    obtain ⟨st', gone, jt, -⟩ :=
      goes_names names first (fun restart => single restart _ List.mem_cons_self) room apart
    exact ⟨st', gone, jt⟩
  | @more f fs x sep y names separator list ih =>
    have one : ∀ m ∈ lim.files, st.jt.numFiles st.find + 1 < m := by
      intro m files
      have := room m files
      rw [List.length_cons] at this
      omega
    have outside : Apart isNameChar (sep ++ (y ++ rest)) := separator.apart_name rfl
    obtain ⟨st', gone, jt, find⟩ :=
      goes_names names first (fun restart => single restart _ List.mem_cons_self) one outside
    have more : ∀ m ∈ lim.files, st'.jt.numFiles st'.find + fs.length < m := by
      intro m files
      have := room m files
      rw [List.length_cons] at this
      rw [jt, find, numFiles_addFile]
      omega
    have others (restart : st'.find = .restart) : ∀ g ∈ fs, g.2 = none := fun g mem =>
      single (find ▸ restart) g (List.mem_cons_of_mem _ mem)
    obtain ⟨st'', last, jt'⟩ := @ih { st' with file := 0 } rfl others more
    have eq : x ++ (sep ++ y) ++ rest = x ++ (sep ++ (y ++ rest)) := by simp
    rw [eq]
    refine ⟨st'', gone.trans ((goes_comma separator list.apart).trans last), ?_⟩
    rw [jt', jt, find]
    rfl

end Names

section Environment

variable {lim : Limits} {GW_LOCATION : Text} {st : State} {x e rest : Text} {c : Char}
variable {a val sep : Text} {vars : List (Text × Text)}

lemma envChar_name (char : isEnvChar c = true) : isNameChar c = true ∧ c ≠ '=' := by
  have other (d : Char) (no : isEnvChar d = false) : c ≠ d := by
    rintro rfl
    rw [char] at no
    cases no
  refine ⟨?_, other _ rfl⟩
  rw [isNameChar, beq_eq_false_iff_ne.2 (other ',' rfl), beq_eq_false_iff_ne.2 (other ' ' rfl),
    beq_eq_false_iff_ne.2 (other '\n' rfl)]
  rfl

/-- Another rule that matches one character. -/
lemma one_short {p : Char → Bool} {z : Text × Text}
    (found : (one p).find x = some z) : z.1.length ≤ 1 := by
  cases x with
  | nil => cases found
  | cons c x =>
    obtain ⟨-, eq⟩ := Option.ite_none_right_eq_some.1 found
    cases eq
    exact Nat.le_refl 1

lemma goes_var {st' : State} (name : IsVar a) (apart : Apart isEnvChar rest)
    (acted : act_env lim false a st = .ok st') :
    Goes lim GW_LOCATION (.val .env) st (a ++ rest) (.val .env) st' rest := by
  obtain ⟨c, cs, rfl, start⟩ := name.start
  obtain ⟨-, blank, comment, newline, -⟩ := isStart_plain start
  have equals := (envChar_name (name.all c List.mem_cons_self)).2
  have split : rules (.val .env) =
      [(lineEnd, Rule.line_end .env), (separator '=', Rule.env_assign)] ++
      (many isEnvChar, Rule.env_name) :: [(one (· != '\n'), Rule.env_other)] := rfl
  have hidden : (separator '=').find (c :: cs ++ rest) = none :=
    separator_hidden no_blanks blank equals
  have late : ∀ q ∈ [(one (· != '\n'), Rule.env_other)], ∀ z ∈ q.1.find (c :: cs ++ rest),
      z.1.length ≤ (c :: cs).length :=
    List.forall_mem_singleton.2 fun z found => Nat.le_trans (one_short found) (Nat.le_add_left 1 _)
  exact goes_rule (List.cons_ne_nil _ _) (longest_past split (List.forall_mem_cons.2
    ⟨hidden_start blank comment newline, List.forall_mem_singleton.2 hidden⟩)
    (many_find name.all apart) late) acted

lemma Separator.pos (separator : Separator c sep) : 1 ≤ sep.length := by
  obtain ⟨d, cs, rfl, -⟩ := separator.head
  exact Nat.le_add_left 1 _

lemma Separator.ne_nil (separator : Separator c sep) : sep ++ rest ≠ [] := by
  obtain ⟨d, cs, rfl, -⟩ := separator.head
  exact List.cons_ne_nil _ _

lemma goes_equals (separator : Separator '=' sep) (apart : Apart isBlank rest) :
    Goes lim GW_LOCATION (.val .env) st (sep ++ rest) .val_env_val st rest := by
  have split : rules (.val .env) = [(lineEnd, Rule.line_end .env)] ++
      (Pattern.separator '=', Rule.env_assign) ::
      [(many isEnvChar, Rule.env_name), (one (· != '\n'), Rule.env_other)] := rfl
  have outside : Apart isEnvChar (sep ++ rest) := by
    obtain ⟨d, cs, rfl, first⟩ := separator.head
    refine apart_cons ?_
    obtain rfl | rfl := first <;> rfl
  have late : ∀ q ∈ [(many isEnvChar, Rule.env_name), (one (· != '\n'), .env_other)],
      ∀ z ∈ q.1.find (sep ++ rest), z.1.length ≤ sep.length :=
    List.forall_mem_cons.2 ⟨fun z found => many_zero outside found,
      List.forall_mem_singleton.2 fun z found => Nat.le_trans (one_short found) separator.pos⟩
  exact goes_rule separator.ne_nil (longest_past split
    (List.forall_mem_singleton.2 (separator.hidden rfl (by decide) (by decide)))
    (separator.found rfl apart) late) rfl

/-- The value of a variable is read, in quotes or without. -/
lemma goes_value {st' : State} (value : EnvValue val x)
    (apart : ∃ d cs, rest = d :: cs ∧ isNameChar d = false)
    (acted : act_env lim true val st = .ok st') :
    Goes lim GW_LOCATION .val_env_val st (x ++ rest) .val_env_val st' rest := by
  obtain ⟨d, cs, rfl, outside⟩ := apart
  cases value with
  | quoted quotable =>
    have split : rules .val_env_val = [] ++
        (Pattern.quoted, Rule.env_quoted) :: [(many isNameChar, Rule.env_value),
          (separator ',', Rule.env_comma), (lineEnd, Rule.env_end),
          (one (· != '\n'), Rule.env_val_other)] := rfl
    have eq : '"' :: (val ++ ['"']) ++ d :: cs = '"' :: (val ++ '"' :: d :: cs) := by simp
    have found : longest (rules .val_env_val) ('"' :: (val ++ ['"']) ++ d :: cs) =
        some (.env_quoted, '"' :: (val ++ ['"']), d :: cs) := by
      refine longest_past split (List.forall_mem_nil _) (eq ▸ quoted_find quotable.inside) ?_
      refine List.forall_mem_cons.2 ⟨fun z found => (many_avoids outside).short found,
        List.forall_mem_cons.2 ⟨fun z found => ?_, List.forall_mem_cons.2 ⟨fun z found => ?_,
          List.forall_mem_singleton.2 fun z found =>
            Nat.le_trans (one_short found) (Nat.le_add_left 1 _)⟩⟩⟩
      · have hidden : (separator ',').find ([] ++ '"' :: (val ++ ['"'] ++ d :: cs)) = none :=
          separator_hidden (fun _ mem => absurd mem List.not_mem_nil) rfl (by decide)
        rw [List.nil_append] at hidden
        rw [List.cons_append, hidden] at found
        cases found
      · rw [List.cons_append, hidden_start rfl (by decide) (by decide)] at found
        cases found
    refine goes_rule (List.cons_ne_nil _ _) found ?_
    show act_env lim true (unquoted _) st = _
    rw [unquoted_eq quotable]
    exact acted
  | plain name bare =>
    obtain ⟨ends, comma, blank, some_char⟩ := name_hidden name (d :: cs)
    have split : rules .val_env_val = [(Pattern.quoted, Rule.env_quoted)] ++
        (many isNameChar, Rule.env_value) :: [(separator ',', Rule.env_comma),
          (lineEnd, Rule.env_end), (one (· != '\n'), Rule.env_val_other)] := rfl
    have quote : Pattern.quoted.find (x ++ d :: cs) = none := by
      obtain ⟨c, t, rfl, -⟩ := name.start
      exact quoted_hidden fun same => bare (congrArg some same)
    have long : 1 ≤ x.length := by
      obtain ⟨c, t, rfl, -⟩ := name.start
      exact Nat.le_add_left 1 _
    refine goes_rule some_char (longest_past split (List.forall_mem_singleton.2 quote)
      (many_find name.all (apart_cons outside)) ?_) acted
    refine List.forall_mem_cons.2 ⟨fun z found => ?_, List.forall_mem_cons.2 ⟨fun z found => ?_,
      List.forall_mem_singleton.2 fun z found => Nat.le_trans (one_short found) long⟩⟩
    · rw [comma] at found
      cases found
    · rw [ends] at found
      cases found

lemma goes_env_comma (separator : Separator ',' sep) (apart : Apart isBlank rest) :
    Goes lim GW_LOCATION .val_env_val st (sep ++ rest) (.val .env) st rest := by
  have split : rules .val_env_val =
      [(Pattern.quoted, Rule.env_quoted), (many isNameChar, Rule.env_value)] ++
      (Pattern.separator ',', Rule.env_comma) ::
        [(lineEnd, Rule.env_end), (one (· != '\n'), Rule.env_val_other)] := rfl
  have late : ∀ q ∈ [(lineEnd, Rule.env_end), (one (· != '\n'), .env_val_other)],
      ∀ z ∈ q.1.find (sep ++ rest), z.1.length ≤ sep.length := by
    refine List.forall_mem_cons.2 ⟨fun z found => ?_,
      List.forall_mem_singleton.2 fun z found => Nat.le_trans (one_short found) separator.pos⟩
    rw [separator.hidden rfl (by decide) (by decide)] at found
    cases found
  refine goes_rule separator.ne_nil (longest_of split (separator.found rfl apart) ?_ late) rfl
  refine List.forall_mem_cons.2 ⟨fun z found => ?_, List.forall_mem_singleton.2 fun z found => ?_⟩
  · obtain ⟨d, cs, rfl, first⟩ := separator.head
    have other : d ≠ '"' := by
      obtain rfl | rfl := first <;> decide
    rw [List.cons_append, quoted_hidden other] at found
    cases found
  · exact Nat.lt_of_le_of_lt (many_zero (n := 0) (separator.apart_name rfl) found) separator.pos

lemma goes_env_end (ends : LineEnd e) (apart : Apart isNameChar e) :
    Goes lim GW_LOCATION .val_env_val st (e ++ rest) .initial st rest := by
  have split : rules .val_env_val =
      [(Pattern.quoted, Rule.env_quoted), (many isNameChar, Rule.env_value),
        (separator ',', Rule.env_comma)] ++
        (lineEnd, Rule.env_end) :: [(one (· != '\n'), Rule.env_val_other)] := rfl
  have long := ends.pos
  have late : ∀ q ∈ [(one (· != '\n'), Rule.env_val_other)], ∀ z ∈ q.1.find (e ++ rest),
      z.1.length ≤ e.length :=
    List.forall_mem_singleton.2 fun z found => Nat.le_trans (one_short found) long
  have some_char : e ≠ [] := by
    rintro rfl
    cases long
  have outside : Apart isNameChar (e ++ rest) := apart_append some_char apart
  refine goes_rule (end_ne_nil ends) (longest_of split (lineEnd_find ends) ?_ late) rfl
  refine List.forall_mem_cons.2 ⟨fun z found => ?_, List.forall_mem_cons.2 ⟨fun z found => ?_,
    List.forall_mem_singleton.2 fun z found => ?_⟩⟩
  · have hidden : Pattern.quoted.find (e ++ rest) = none := by
      cases e with
      | nil => exact absurd rfl some_char
      | cons d e =>
        refine quoted_hidden ?_
        rintro rfl
        have := apart '"' rfl
        cases this
    rw [hidden] at found
    cases found
  · exact Nat.lt_of_le_of_lt (many_zero (n := 0) outside found) long
  · rw [ends.separator_hidden ⟨by decide, by decide⟩] at found
    cases found

/-- A name and its value make a variable. -/
lemma act_env_ok (a val : Text) (room : ∀ m ∈ lim.files, st.jt.num_env < m) : ∃ st',
    act_env lim false a st = .ok st' ∧
    act_env lim true val st' = .ok { st with jt := Template.addVar lim st.jt (a, val) } := by
  have here : ¬(st.jt.num_env + 1 = 0 ∨ ¬inside (st.jt.num_env + 1 - 1) lim.files) := by
    rintro (zero | outside)
    · cases zero
    · exact outside (inside_of room)
  refine ⟨{ st with jt := { st.jt with
    num_env := st.jt.num_env + 1,
    environment := Function.update st.jt.environment st.jt.num_env
      (strncpy lim a, (st.jt.environment st.jt.num_env).2) } }, ?_, ?_⟩
  · unfold act_env
    dsimp only
    rw [if_neg Bool.false_ne_true, writePair, if_neg here]
    rfl
  · unfold act_env
    dsimp only
    rw [if_pos rfl, writePair, if_neg here]
    dsimp only
    rw [Nat.add_sub_cancel, Function.update_idem, Function.update_self]
    rfl

/-- A variable of the environment is read. -/
lemma goes_pair (name : IsVar a) (separator : Separator '=' sep) (value : EnvValue val x)
    (apart : ∃ d cs, rest = d :: cs ∧ isNameChar d = false)
    (room : ∀ m ∈ lim.files, st.jt.num_env < m) :
    ∃ st', Goes lim GW_LOCATION (.val .env) st (a ++ (sep ++ (x ++ rest))) .val_env_val st' rest ∧
      st'.jt = Template.addVar lim st.jt (a, val) := by
  obtain ⟨st', first, second⟩ := act_env_ok a val room
  have outside : Apart isEnvChar (sep ++ (x ++ rest)) := by
    obtain ⟨d, cs, rfl, first⟩ := separator.head
    refine apart_cons ?_
    obtain rfl | rfl := first <;> rfl
  have blank : Apart isBlank (x ++ rest) := by
    cases value with
    | quoted => exact apart_cons rfl
    | plain name => exact (name_hidden name rest).2.2.1
  exact ⟨_, (goes_var name outside first).trans ((goes_equals separator blank).trans
    (goes_value value apart second)), rfl⟩

lemma EnvList.apart (list : EnvList vars x) : Apart isBlank (x ++ rest) := by
  cases list with
  | last name =>
    obtain ⟨c, cs, rfl, start⟩ := name.start
    exact apart_cons (isStart_plain start).2.1
  | more name =>
    obtain ⟨c, cs, rfl, start⟩ := name.start
    exact apart_cons (isStart_plain start).2.1

/-- The variables of the environment are read, one after the other. -/
lemma goes_vars (list : EnvList vars x) (apart : ∃ d cs, rest = d :: cs ∧ isNameChar d = false)
    (room : ∀ m ∈ lim.files, st.jt.num_env + vars.length ≤ m) :
    ∃ st', Goes lim GW_LOCATION (.val .env) st (x ++ rest) .val_env_val st' rest ∧
      st'.jt = vars.foldl (Template.addVar lim) st.jt := by
  induction list generalizing st with
  | @last a val x sep name separator value =>
    obtain ⟨st', gone, jt⟩ := goes_pair name separator value apart room
    refine ⟨st', ?_, jt⟩
    rw [List.append_assoc, List.append_assoc]
    exact gone
  | @more a val x sep sep' y vars name separator value separator' list ih =>
    have one : ∀ m ∈ lim.files, st.jt.num_env < m := by
      intro m files
      have := room m files
      rw [List.length_cons] at this
      omega
    have next : ∃ d cs, sep' ++ (y ++ rest) = d :: cs ∧ isNameChar d = false := by
      obtain ⟨d, cs, rfl, first⟩ := separator'.head
      refine ⟨d, _, rfl, ?_⟩
      obtain rfl | rfl := first <;> rfl
    obtain ⟨st', gone, jt⟩ := goes_pair name separator value next one
    have more : ∀ m ∈ lim.files, st'.jt.num_env + vars.length ≤ m := by
      intro m files
      have := room m files
      rw [List.length_cons] at this
      rw [jt, Template.addVar]
      dsimp only
      omega
    obtain ⟨st'', last, jt'⟩ := ih more
    have eq : a ++ (sep ++ (x ++ (sep' ++ y))) ++ rest =
        a ++ (sep ++ (x ++ (sep' ++ (y ++ rest)))) := by simp
    rw [eq]
    refine ⟨st'', gone.trans ((goes_env_comma separator' list.apart).trans last), ?_⟩
    rw [jt', jt]
    rfl

end Environment

end GridWay.Jt
