import GridWay.Drm4g.Framing

/-!
# When the drivers frame their messages

* `Driver.carries_iff`: when the response of an operation is one line with the id of the request.
* `Driver.framed_iff`: a driver frames its messages exactly under `Driver.Sound`.
* `Driver.never_ends`: two drivers read for ever when no line tells them to finalize.
-/

namespace GridWay.Drm4g.Driver

variable {d : Driver} {op id id' rest message line : String} {method : Operation}
  {args : List String} {o : Outcome}

/-- A word of a line. -/
def Word (w : String) : Prop := ∀ c ∈ w.toList, Py.isSpace c = false

lemma Word.no_blank {w : String} (word : Word w) : ' ' ∉ w.toList := by
  intro mem
  cases word ' ' mem

lemma Word.no_break {w : String} (word : Word w) : '\n' ∉ w.toList := by
  intro mem
  cases word '\n' mem

lemma Word.dash : Word "-" := by
  intro c mem
  cases List.mem_singleton.1 mem
  rfl

/-- The words after the operation are read back from a message. -/
lemma named_iff (word : Word id) (word' : Word id') :
    (∃ more, op ++ " " ++ id' ++ " " ++ rest = op ++ " " ++ id ++ " " ++ more) ↔ id = id' := by
  constructor
  · rintro ⟨more, eq⟩
    have chars := congrArg String.toList eq
    simp only [String.toList_append, List.append_assoc] at chars
    have ids := List.append_cancel_left (List.append_cancel_left chars)
    have first := Cut.atFirst_append word.no_blank more.toList
    have first' := Cut.atFirst_append word'.no_blank rest.toList
    rw [show " ".toList = [' '] from rfl, List.singleton_append, List.singleton_append] at ids
    rw [ids, first] at first'
    exact String.toList_inj.1 (congrArg Prod.fst (Option.some.inj first'))
  · rintro rfl
    exact ⟨rest, rfl⟩

/-- A message that names an operation and an id. -/
lemma carries_named (named : '\n' ∉ op.toList) (word : Word id) (word' : Word id') :
    Carries op id (op ++ " " ++ id' ++ " " ++ rest) ↔ '\n' ∉ rest.toList ∧ id = id' := by
  rw [Carries, named_iff word word']
  have space : '\n' ∉ " ".toList := by decide
  simp only [String.toList_append, List.mem_append, named, space, word'.no_break, false_or]

/-- The id that a response shows. -/
def shownId (d : Driver) (op : String) (args : List String) (o : Outcome) : String :=
  if d.echoes op o then args[1]! else "-"

/-- A response names the operation and the id that it shows, and breaks its line where the text that it
shows does. -/
def Tells (d : Driver) (op : String) (args : List String) (o : Outcome) (message : String) : Prop :=
  ∃ rest, message = op ++ " " ++ d.shownId op args o ++ " " ++ rest ∧
    ('\n' ∈ rest.toList ↔ '\n' ∈ (shown op o).toList)

/-- A response that shows no text. -/
lemma Tells.silent (rest : String) (eq : message = op ++ " " ++ d.shownId op args o ++ " " ++ rest)
    (clean : '\n' ∉ rest.toList) (nothing : shown op o = "") : Tells d op args o message := by
  refine ⟨rest, eq, ?_⟩
  rw [nothing]
  exact iff_of_false clean (by simp)

/-- A response that shows a text after other words. -/
lemma Tells.text (before : String)
    (eq : message = op ++ " " ++ d.shownId op args o ++ " " ++ (before ++ shown op o))
    (clean : '\n' ∉ before.toList) : Tells d op args o message := by
  refine ⟨before ++ shown op o, eq, ?_⟩
  rw [String.toList_append, List.mem_append, or_iff_right clean]

/-- The host of a contact is a part of a word. -/
lemma host_clean {w : String} (word : Word w) :
    '\n' ∉ ((Py.splitLast '/' w).elim w Prod.fst).toList := by
  cases cut : Py.splitLast '/' w with
  | none => exact word.no_break
  | some parts =>
    obtain ⟨⟨before, after⟩, at_last, rfl⟩ := Option.map_eq_some_iff.1 cut
    intro mem
    apply word.no_break
    rw [Cut.eq_of_atLast at_last]
    rw [Option.elim_some, String.toList_ofList] at mem
    exact List.mem_append_left _ mem

/-- The operations of the job driver. -/
lemma em_tells (mem : (op, method) ∈ methods .em) (length : args.length = 4)
    (words : ∀ w ∈ args, Word w) : Tells .em op args o (method args o) := by
  match args, length with
  | [a, JID, HOST_JM, e], _ =>
    simp only [methods, List.mem_cons, Prod.mk.injEq, List.not_mem_nil, or_false] at mem
    obtain ⟨rfl, rfl⟩ | ⟨rfl, rfl⟩ | ⟨rfl, rfl⟩ | ⟨rfl, rfl⟩ | ⟨rfl, rfl⟩ | ⟨rfl, rfl⟩ := mem
    · apply Tells.silent "SUCCESS -" rfl (by decide)
      cases o <;> rfl
    · have host := host_clean (words HOST_JM (by simp))
      cases o with
      | ok contact =>
        apply Tells.text ("SUCCESS " ++ (Py.splitLast '/' HOST_JM).elim HOST_JM Prod.fst ++ ":")
        · show _ = "SUBMIT" ++ " " ++ JID ++ " " ++ (_ ++ contact)
          simp only [GwEmMad.do_SUBMIT, Except.map, Outcome.result, String.append_assoc]
          rfl
        · simpa using host
      | error err => exact Tells.text "FAILURE " rfl (by decide)
    · cases o with
      | ok status => exact Tells.text "SUCCESS " rfl (by decide)
      | error err => exact Tells.text "FAILURE " rfl (by decide)
    · cases o with
      | ok status => exact Tells.text "SUCCESS " rfl (by decide)
      | error err => exact Tells.text "FAILURE " rfl (by decide)
    · cases o with
      | ok _ => exact Tells.silent "SUCCESS -" rfl (by decide) rfl
      | error err => exact Tells.text "FAILURE " rfl (by decide)
    · apply Tells.silent "SUCCESS -" rfl (by decide)
      cases o <;> rfl

/-- The operations of the transfer driver on directories. -/
lemma dir_tells (echoed : ∀ o, echoes .tm op o = true)
    (texts : ∀ o, shown op o = match o with | .ok _ => "" | .error err => err)
    (eq : message = op ++ " " ++ args[1]! ++ " - " ++ o.plain.result) :
    Tells .tm op args o message := by
  rw [eq]
  cases o with
  | ok _ =>
    apply Tells.silent "- SUCCESS -" _ (by decide) (texts _)
    rw [shownId, echoed, if_pos rfl, ← String.toList_inj]
    simp only [Outcome.plain, Outcome.result, String.toList_append, List.append_assoc]
    rfl
  | error err =>
    apply Tells.text "- FAILURE " _ (by decide)
    rw [shownId, echoed, if_pos rfl, texts, ← String.toList_inj]
    simp only [Outcome.plain, Outcome.result, String.toList_append, List.append_assoc]
    rfl

/-- The operations of the transfer driver. -/
lemma tm_tells (mem : (op, method) ∈ methods .tm) (length : args.length = 6)
    (words : ∀ w ∈ args, Word w) : Tells .tm op args o (method args o) := by
  match args, length with
  | [a, JID, TID, e, f, g], _ =>
    simp only [methods, List.mem_cons, Prod.mk.injEq, List.not_mem_nil, or_false] at mem
    obtain ⟨rfl, rfl⟩ | ⟨rfl, rfl⟩ | ⟨rfl, rfl⟩ | ⟨rfl, rfl⟩ | ⟨rfl, rfl⟩ | ⟨rfl, rfl⟩ |
      ⟨rfl, rfl⟩ := mem
    · apply Tells.silent "- SUCCESS -" rfl (by decide)
      cases o <;> rfl
    · apply Tells.silent "- SUCCESS -" _ (by decide)
      · cases o <;> rfl
      · cases o <;> simp [GwTmMad.do_START, shownId, echoes, String.append_assoc]
    · apply Tells.silent "- SUCCESS -" _ (by decide)
      · cases o <;> rfl
      · cases o <;> simp [GwTmMad.do_END, shownId, echoes, String.append_assoc]
    · exact dir_tells (fun o => by cases o <;> rfl) (fun o => by cases o <;> rfl) rfl
    · exact dir_tells (fun o => by cases o <;> rfl) (fun o => by cases o <;> rfl) rfl
    · have tid : '\n' ∉ TID.toList := Word.no_break (words TID (by simp))
      cases o with
      | ok _ =>
        apply Tells.silent (TID ++ " SUCCESS -") _ _ rfl
        · simp [GwTmMad.do_CP, shownId, echoes, Outcome.plain, Outcome.result, String.append_assoc]
        · simpa using tid
      | error err =>
        apply Tells.text (TID ++ " FAILURE ")
        · rw [← String.toList_inj]
          simp only [GwTmMad.do_CP, Outcome.plain, Outcome.result, String.toList_append,
            List.append_assoc]
          rfl
        · simpa using tid
    · apply Tells.silent "- SUCCESS -" _ (by decide)
      · cases o <;> rfl
      · cases o <;> simp [GwTmMad.do_FINALIZE, shownId, echoes, String.append_assoc]

/-- The operations of the information driver. -/
lemma im_tells (mem : (op, method) ∈ methods .im) (length : args.length = 4) :
    Tells .im op args o (method args o) := by
  match args, length with
  | [a, HID, HOST, e], _ =>
    simp only [methods, List.mem_cons, Prod.mk.injEq, List.not_mem_nil, or_false] at mem
    obtain ⟨rfl, rfl⟩ | ⟨rfl, rfl⟩ | ⟨rfl, rfl⟩ | ⟨rfl, rfl⟩ := mem
    · apply Tells.silent "SUCCESS -" rfl (by decide)
      cases o <;> rfl
    · cases o with
      | ok hosts =>
        refine Tells.text "SUCCESS " ?_ (by decide)
        have echoed : echoes .im "DISCOVER" (.ok hosts) = true := rfl
        have id : shownId .im "DISCOVER" [a, HID, HOST, e] (.ok hosts) = HID := if_pos echoed
        have told : shown "DISCOVER" (.ok hosts) = hosts := rfl
        have message : GwImMad.do_DISCOVER [a, HID, HOST, e] (.ok hosts) =
          "DISCOVER " ++ HID ++ " SUCCESS " ++ hosts := rfl
        rw [id, told, message, ← String.toList_inj]
        simp only [String.toList_append, List.append_assoc]
        rfl
      | error err => exact Tells.text "FAILURE " rfl (by decide)
    · cases o with
      | ok info => exact Tells.text "SUCCESS " rfl (by decide)
      | error err => exact Tells.text "FAILURE " rfl (by decide)
    · apply Tells.silent "SUCCESS -" rfl (by decide)
      cases o <;> rfl

/-- A request names an operation and has its number of words. -/
lemma request_eq_some (request : d.request line = some (op, method, args)) :
    (op, method) ∈ d.methods ∧ args.length = d.fields ∧ args = Py.words line := by
  rw [Driver.request] at request
  cases words : Py.words line with
  | nil =>
    rw [words] at request
    cases request
  | cons word more =>
    rw [words] at request
    dsimp only at request
    by_cases length : (word :: more).length = d.fields
    · rw [if_pos length] at request
      obtain ⟨found, named, same⟩ := Option.map_eq_some_iff.1 request
      cases same
      exact ⟨Dict.mem_of_get named, length, rfl⟩
    · rw [if_neg length] at request
      cases request

lemma request_word (request : d.request line = some (op, method, args)) : Word args[1]! := by
  obtain ⟨-, length, words⟩ := request_eq_some request
  have many : 1 < args.length := by
    rw [length]
    cases d <;> decide
  rw [getElem!_pos args 1 many]
  apply Py.word_clean (s := line)
  rw [← words]
  exact List.getElem_mem many

/-- The response of an operation is one line with the id of the request if it shows the id and no text
with a line break. -/
theorem carries_iff (request : d.request line = some (op, method, args)) (o : Outcome) :
    Carries op args[1]! (method args o) ↔
      '\n' ∉ (shown op o).toList ∧ (d.echoes op o = false → args[1]! = "-") := by
  obtain ⟨mem, length, words⟩ := request_eq_some request
  have clean : ∀ w ∈ args, Word w := by
    intro w inside
    rw [words] at inside
    exact Py.word_clean inside
  have named : '\n' ∉ op.toList := by
    have all : ∀ p ∈ d.methods, '\n' ∉ p.1.toList := by cases d <;> decide
    exact all _ mem
  have tells : Tells d op args o (method args o) := by
    cases d with
    | em => exact em_tells mem length clean
    | tm => exact tm_tells mem length clean
    | im => exact im_tells mem length
  obtain ⟨rest, message, break_iff⟩ := tells
  have word := request_word request
  have word' : Word (d.shownId op args o) := by
    rw [shownId]
    by_cases echoed : d.echoes op o
    · rw [if_pos echoed]
      exact word
    · rw [if_neg echoed]
      exact Word.dash
  rw [message, carries_named named word word', break_iff, shownId]
  apply and_congr_right
  intro _
  cases d.echoes op o <;> simp

/-- A line has an answer if it is not blank. -/
lemma answered_iff : (d.serve line).answered = true ↔ Py.words line ≠ [] := by
  rw [serve]
  cases words : Py.words line with
  | nil => cases d <;> simp [Serve.answered]
  | cons word more =>
    refine iff_of_true ?_ (List.cons_ne_nil _ _)
    dsimp only
    cases d.request line with
    | none => rfl
    | some r =>
      dsimp only
      split
      · rfl
      · split <;> rfl

/-- The loop ends at a request to finalize, and at a blank line in the transfer driver. -/
lemma ends_iff :
    (d.serve line).ends = true ↔ d.serve line = .close ∨ d = .tm ∧ Py.words line = [] := by
  rw [serve]
  cases words : Py.words line with
  | nil => cases d <;> simp [Serve.ends]
  | cons word more =>
    dsimp only
    cases d.request line with
    | none => simp [Serve.ends]
    | some r =>
      dsimp only
      split
      · simp [Serve.ends]
      · split <;> simp [Serve.ends]

section Runs

variable {lines : List String} {outcome : Nat → Outcome} {evs : List (Loop.Event String)}
  {s : Loop.State String} {i : Nat}

lemma reply_request (request : d.request line = some (op, method, args)) (i : Nat) :
    d.reply outcome i line = method args (outcome i) := by
  rw [Driver.reply, request]

/-- The account of the loop, in terms of the driver. -/
lemma once (account : Loop.Sound (d.loop outcome) lines s) (here : lines[i]? = some line)
    (lt : i < s.next) : (Loop.answers s i).length + s.pending.count i =
      if (d.serve line).answered then 1 else 0 :=
  account.once i line here lt

/-- A line that has an answer was answered as it should be, when it was read and waits no longer. -/
lemma answers_eq (account : Loop.Sound (d.loop outcome) lines s) (here : lines[i]? = some line)
    (answered : (d.serve line).answered = true) (lt : i < s.next) (empty : s.pending = []) :
    Loop.answers s i = [d.reply outcome i line] := by
  have one := once account here lt
  rw [empty, List.count_nil, Nat.add_zero, if_pos answered] at one
  obtain ⟨message, single⟩ := List.length_eq_one_iff.1 one
  have mem : message ∈ Loop.answers s i := by
    rw [single]
    exact List.mem_singleton_self message
  obtain ⟨-, line', here', rfl⟩ := account.messages i message (Loop.mem_answers.1 mem)
  cases Option.some.inj (here.symm.trans here')
  exact single

namespace Framed

/-- Every line has an answer. -/
lemma told (framed : d.Framed lines s) (here : lines[i]? = some line) :
    Loop.answers s i ≠ [] := by
  cases request : d.request line with
  | none => exact framed.others i line here request
  | some r =>
    obtain ⟨message, single, -⟩ := framed.responses i line here r.1 r.2.1 r.2.2 request
    rw [single]
    exact List.cons_ne_nil _ _

/-- Every line was read. -/
lemma was_read (framed : d.Framed lines s) (account : Loop.Sound (d.loop outcome) lines s)
    (here : lines[i]? = some line) : i < s.next := by
  by_contra later
  exact framed.told here (account.answers_eq_nil (Nat.not_lt.1 later))

/-- Every line is one that has an answer, and none waits for it. -/
lemma served (framed : d.Framed lines s) (account : Loop.Sound (d.loop outcome) lines s)
    (here : lines[i]? = some line) :
    (d.serve line).answered = true ∧ s.pending.count i = 0 := by
  have one := once account here (framed.was_read account here)
  have some_answer := List.length_pos_iff.2 (framed.told here)
  by_cases answered : (d.serve line).answered = true
  · rw [if_pos answered] at one
    exact ⟨answered, by omega⟩
  · rw [if_neg answered] at one
    omega

/-- Nothing waits. -/
lemma empty (framed : d.Framed lines s) (account : Loop.Sound (d.loop outcome) lines s) :
    s.pending = [] := by
  rw [List.eq_nil_iff_forall_not_mem]
  intro i waits
  obtain ⟨-, line, here⟩ := account.waiting i waits
  have waiting := List.count_pos_iff.2 waits
  have none_waits := (framed.served account here).2
  omega

/-- The response to a request shows no line break, and no other id than the request's. -/
lemma carried (framed : d.Framed lines s) (account : Loop.Sound (d.loop outcome) lines s)
    (here : lines[i]? = some line) (request : d.request line = some (op, method, args)) :
    '\n' ∉ (shown op (outcome i)).toList ∧ (d.echoes op (outcome i) = false → args[1]! = "-") := by
  obtain ⟨message, single, carries⟩ := framed.responses i line here op method args request
  have answered := (framed.served account here).1
  rw [answers_eq account here answered (framed.was_read account here) (framed.empty account),
    reply_request request] at single
  rw [← carries_iff request, List.singleton_inj.1 single]
  exact carries

/-- A request to finalize is the last line. -/
lemma last (framed : d.Framed lines s) (account : Loop.Sound (d.loop outcome) lines s)
    (here : lines[i]? = some line) (close : d.serve line = .close) : i + 1 = lines.length := by
  have inside := (List.getElem?_eq_some_iff.1 here).1
  have ends : (d.serve line).ends = true := ends_iff.2 (.inl close)
  obtain ⟨-, stops⟩ := account.goesOn i line here ends (framed.was_read account here)
  by_contra more
  have next : i + 1 < lines.length := by omega
  have beyond := framed.was_read account (List.getElem?_eq_getElem next)
  omega

end Framed

/-- A driver that frames its messages has the input, the outcomes and the order of steps for it. -/
lemma sound_of_framed (complete : Loop.Complete (d.loop outcome) lines evs)
    (framed : d.Framed lines (Machine.run ((d.loop outcome).step lines) {} evs)) :
    d.Sound lines outcome evs := by
  have account : Loop.Sound (d.loop outcome) lines _ := Loop.Sound.run evs
  exact {
    words := by
      intro line mem
      obtain ⟨i, here⟩ := List.getElem?_of_mem mem
      exact answered_iff.1 (framed.served account here).1
    last := fun i line here close => framed.last account here close
    finalize := by
      intro other
      obtain atEnd | ⟨i, line, here, ends⟩ := (Loop.ended_iff complete.beyond).1 framed.ended
      · cases d with
        | tm => exact absurd rfl other
        | em | im => cases atEnd
      · obtain close | ⟨tm, -⟩ := ends_iff.1 ends
        · exact ⟨line, List.mem_of_getElem? here, close⟩
        · exact absurd tm other
    texts := fun i line here op method args request => (framed.carried account here request).1
    ids := fun i line here op method args request => (framed.carried account here request).2
    drained := (Loop.drained_iff rfl).2 fun _ => framed.empty account }

/-- A driver frames its messages when its input, the outcomes and the order of steps are sound. -/
lemma framed_of_sound (complete : Loop.Complete (d.loop outcome) lines evs)
    (sound : d.Sound lines outcome evs) :
    d.Framed lines (Machine.run ((d.loop outcome).step lines) {} evs) := by
  have account : Loop.Sound (d.loop outcome) lines _ := Loop.Sound.run evs
  have closed : (Machine.run ((d.loop outcome).step lines) {} evs).ended = true := by
    rw [Loop.ended_iff complete.beyond]
    by_cases tm : d = .tm
    · subst tm
      exact .inl rfl
    · obtain ⟨line, mem, close⟩ := sound.finalize tm
      obtain ⟨i, here⟩ := List.getElem?_of_mem mem
      exact .inr ⟨i, line, here, ends_iff.2 (.inl close)⟩
  have empty := (Loop.drained_iff rfl).1 sound.drained closed
  have all : (Machine.run ((d.loop outcome).step lines) {} evs).next = lines.length := by
    apply Loop.next_eq complete.beyond
    intro i line here ends
    obtain close | ⟨-, blank⟩ := ends_iff.1 ends
    · exact sound.last i line here close
    · exact absurd blank (sound.words line (List.mem_of_getElem? here))
  have reply (i : Nat) (line : String) (here : lines[i]? = some line) := by
    refine answers_eq account here ?_ ?_ empty
    · exact answered_iff.2 (sound.words line (List.mem_of_getElem? here))
    · rw [all]
      exact (List.getElem?_eq_some_iff.1 here).1
  exact {
    ended := closed
    responses := by
      intro i line here op method args request
      refine ⟨_, reply i line here, ?_⟩
      rw [reply_request request, carries_iff request]
      exact ⟨sound.texts i line here op method args request,
        sound.ids i line here op method args request⟩
    others := by
      intro i line here _
      rw [reply i line here]
      exact List.cons_ne_nil _ _ }

/-- A driver frames its messages exactly under `Sound`. -/
theorem framed_iff (d : Driver) (lines : List String) (outcome : Nat → Outcome)
    (evs : List (Loop.Event String)) (complete : Loop.Complete (d.loop outcome) lines evs) :
    d.Framed lines (Machine.run ((d.loop outcome).step lines) {} evs) ↔
      d.Sound lines outcome evs :=
  ⟨sound_of_framed complete, framed_of_sound complete⟩

/-- The job driver and the information driver read for ever when no line tells them to finalize. -/
theorem never_ends (other : d ≠ .tm) (goesOn : ∀ line ∈ lines, d.serve line ≠ .close) :
    (Machine.run ((d.loop outcome).step lines) {} evs).ended = false := by
  by_contra closed
  rw [Bool.not_eq_false] at closed
  have account : Loop.Sound (d.loop outcome) lines _ := Loop.Sound.run evs
  obtain ⟨atEnd, -⟩ | ⟨i, line, here, ends, -⟩ := account.ended closed
  · cases d with
    | tm => exact other rfl
    | em | im => cases atEnd
  · obtain close | ⟨tm, -⟩ := ends_iff.1 ends
    · exact goesOn line (List.mem_of_getElem? here) close
    · exact other tm

/-- The input of a driver that polls a job and is told to finalize. -/
def pollInput : List String := ["POLL 5 - -", "FINALIZE - - -"]

theorem framed_poll :
    Loop.Complete (loop .em fun _ => .ok "ACTIVE") pollInput [.read, .work 0, .read, .read] ∧
      Framed .em pollInput (Machine.run ((loop .em fun _ => .ok "ACTIVE").step pollInput) {}
        [.read, .work 0, .read, .read]) := by
  have complete : Loop.Complete (loop .em fun _ => .ok "ACTIVE") pollInput
      [.read, .work 0, .read, .read] := ⟨by decide, by decide⟩
  refine ⟨complete, (framed_iff .em pollInput _ _ complete).2 ?_⟩
  have poll : request .em "POLL 5 - -" =
      some ("POLL", GwEmMad.do_POLL, ["POLL", "5", "-", "-"]) := by rfl
  have finalize : request .em "FINALIZE - - -" =
      some ("FINALIZE", GwEmMad.do_FINALIZE, ["FINALIZE", "-", "-", "-"]) := by rfl
  exact {
    words := by decide
    last := by
      intro i line here close
      match i, here with
      | 0, rfl => exact absurd close (by decide)
      | 1, rfl => rfl
    finalize := fun _ => ⟨"FINALIZE - - -", by decide⟩
    texts := by
      intro i line here op method args request
      rw [shown]
      split <;> decide
    ids := by
      intro i line here op method args request mute
      match i, here with
      | 0, rfl =>
        rw [poll] at request
        cases request
        cases mute
      | 1, rfl =>
        rw [finalize] at request
        cases request
        rfl
    drained := by
      refine ⟨?_, trivial, ?_, ?_, trivial⟩
      all_goals (intro; decide) }

/-- An information driver that is asked about a host and told to finalize. -/
def monitorInput : List String := ["MONITOR 3 host -", "FINALIZE - - -"]

/-- At the end of its input the job driver reads on; the transfer driver ends at a blank line and
loses the request after it; an information driver whose operation fails with a text of two lines
answers with two lines. -/
theorem messages_not_framed :
    (Loop.Complete (loop .em fun _ => .ok "-") [] [.read] ∧
      ¬Framed .em [] (Machine.run ((loop .em fun _ => .ok "-").step []) {} [.read])) ∧
    (Loop.Complete (loop .tm fun _ => .ok "-") ["", "START 1 - - - -"] [.read, .read, .read] ∧
      ¬Framed .tm ["", "START 1 - - - -"]
        (Machine.run ((loop .tm fun _ => .ok "-").step ["", "START 1 - - - -"]) {}
          [.read, .read, .read])) ∧
    Loop.Complete (loop .im fun _ => .error "no host\nno site") monitorInput
      [.read, .read, .read] ∧
      ¬Framed .im monitorInput
        (Machine.run ((loop .im fun _ => .error "no host\nno site").step monitorInput) {}
          [.read, .read, .read]) := by
  refine ⟨⟨⟨by decide, by decide⟩, ?_⟩,
    ⟨⟨by decide, by decide⟩, ?_⟩, ⟨⟨by decide, by decide⟩, ?_⟩⟩
  · intro framed
    have ended := framed.ended
    revert ended
    decide
  · intro framed
    have start : request .tm "START 1 - - - -" =
        some ("START", GwTmMad.do_START, ["START", "1", "-", "-", "-", "-"]) := by rfl
    obtain ⟨message, single, -⟩ := framed.responses 1 _ rfl _ _ _ start
    revert single
    have lost : Loop.answers (Machine.run ((loop .tm fun _ => .ok "-").step
        ["", "START 1 - - - -"]) {} [.read, .read, .read]) 1 = [] := by decide
    rw [lost]
    exact nofun
  · intro framed
    have request : request .im "MONITOR 3 host -" =
        some ("MONITOR", GwImMad.do_MONITOR, ["MONITOR", "3", "host", "-"]) := by rfl
    obtain ⟨message, single, oneLine, -⟩ := framed.responses 0 _ rfl _ _ _ request
    have told : Loop.answers (Machine.run ((loop .im fun _ => .error "no host\nno site").step
        monitorInput) {} [.read, .read, .read]) 0 =
        ["MONITOR 3 FAILURE no host\nno site"] := by decide
    cases told.symm.trans single
    revert oneLine
    decide

end Runs

end GridWay.Drm4g.Driver
