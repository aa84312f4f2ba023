import GridWay.Lib.Dict
import GridWay.Lib.Loop
import GridWay.Lib.Py

/-!
# The requests and responses of the drivers

`processLine` and the operations of `em_mad.py`, `tm_mad.py` and `im_mad.py`: a line is cut into words;
when it has the right number of words and names an operation, the operation is called, by the main
thread or by a thread of the pool, and answers with one message on the standard output. What an
operation gives or raises is up to the outside.

* `Driver.loop`: the loop of a driver.
* `Driver.Framed`: each request has one response, which is one line with the request's operation and
  id, each other line has an answer, and the loop has ended.
-/

namespace GridWay

namespace Py

/-- `str.upper` of a character, where the result has letters that names of operations have. -/
def upperChar (c : Char) : List Char :=
  if c.toNat < 128 then [c.toUpper]
  else
    match c.toNat with
    | 0xdf => ['S', 'S']
    | 0x131 => ['I']
    | 0x17f => ['S']
    | 0xfb00 => ['F', 'F']
    | 0xfb01 => ['F', 'I']
    | 0xfb02 => ['F', 'L']
    | 0xfb03 => ['F', 'F', 'I']
    | 0xfb04 => ['F', 'F', 'L']
    | 0xfb05 => ['S', 'T']
    | 0xfb06 => ['S', 'T']
    | _ => [c]

/-- `s.upper()`, up to characters that are in no name of an operation. -/
def upper (s : String) : String := String.ofList (s.toList.flatMap upperChar)

end Py

namespace Drm4g

/-- What an operation gives, or the text of the exception that it raises. -/
abbrev Outcome := Except String String

namespace Outcome

/-- The end of a response. -/
def result : Outcome → String
  | .ok info => "SUCCESS " ++ info
  | .error err => "FAILURE " ++ err

/-- A success is told without more. -/
def plain : Outcome → Outcome
  | .ok _ => .ok "-"
  | .error err => .error err

end Outcome

/-- An operation answers from the words of its request and from what happens. -/
abbrev Operation := List String → Outcome → String

namespace GwEmMad

def do_INIT : Operation := fun _ _ => "INIT - SUCCESS -"

/-- The contact of the job is the host and the id that the job got there. -/
def do_SUBMIT : Operation := fun args o =>
  match args with
  | [_, JID, HOST_JM, _] =>
    let HOST := (Py.splitLast '/' HOST_JM).elim HOST_JM Prod.fst
    "SUBMIT " ++ JID ++ " " ++ Outcome.result (o.map fun id => HOST ++ ":" ++ id)
  | _ => ""

def do_FINALIZE : Operation := fun _ _ => "FINALIZE - SUCCESS -"

def do_POLL : Operation := fun args o =>
  match args with
  | [_, JID, _, _] => "POLL " ++ JID ++ " " ++ o.result
  | _ => ""

def do_RECOVER : Operation := fun args o =>
  match args with
  | [_, JID, _, _] => "RECOVER " ++ JID ++ " " ++ o.result
  | _ => ""

def do_CANCEL : Operation := fun args o =>
  match args with
  | [_, JID, _, _] => "CANCEL " ++ JID ++ " " ++ o.plain.result
  | _ => ""

end GwEmMad

namespace GwTmMad

def do_INIT : Operation := fun _ _ => "INIT - - SUCCESS -"

def do_START : Operation := fun args _ => "START " ++ args[1]! ++ " - SUCCESS -"

def do_END : Operation := fun args _ => "END " ++ args[1]! ++ " - SUCCESS -"

def do_FINALIZE : Operation := fun args _ => "FINALIZE " ++ args[1]! ++ " - SUCCESS -"

def do_MKDIR : Operation := fun args o =>
  match args with
  | [_, JID, _, _, _, _] => "MKDIR " ++ JID ++ " - " ++ o.plain.result
  | _ => ""

def do_RMDIR : Operation := fun args o =>
  match args with
  | [_, JID, _, _, _, _] => "RMDIR " ++ JID ++ " - " ++ o.plain.result
  | _ => ""

def do_CP : Operation := fun args o =>
  match args with
  | [_, JID, TID, _, _, _] => "CP " ++ JID ++ " " ++ TID ++ " " ++ o.plain.result
  | _ => ""

end GwTmMad

namespace GwImMad

def do_INIT : Operation := fun _ _ => "INIT - SUCCESS -"

/-- A failure is told without the id of the request. -/
def do_DISCOVER : Operation := fun args o =>
  match args with
  | [_, HID, _, _] =>
    match o with
    | .ok hosts => "DISCOVER " ++ HID ++ " SUCCESS " ++ hosts
    | .error err => "DISCOVER - FAILURE " ++ err
  | _ => ""

def do_MONITOR : Operation := fun args o =>
  match args with
  | [_, HID, _, _] => "MONITOR " ++ HID ++ " " ++ o.result
  | _ => ""

def do_FINALIZE : Operation := fun _ _ => "FINALIZE - SUCCESS -"

end GwImMad

/-- The drivers. -/
inductive Driver where
  | em | tm | im
deriving DecidableEq, Repr

namespace Driver

/-- The operations of a driver. -/
def methods : Driver → Dict String Operation
  | .em =>
    [("INIT", GwEmMad.do_INIT), ("SUBMIT", GwEmMad.do_SUBMIT), ("POLL", GwEmMad.do_POLL),
      ("RECOVER", GwEmMad.do_RECOVER), ("CANCEL", GwEmMad.do_CANCEL),
      ("FINALIZE", GwEmMad.do_FINALIZE)]
  | .tm =>
    [("INIT", GwTmMad.do_INIT), ("START", GwTmMad.do_START), ("END", GwTmMad.do_END),
      ("MKDIR", GwTmMad.do_MKDIR), ("RMDIR", GwTmMad.do_RMDIR), ("CP", GwTmMad.do_CP),
      ("FINALIZE", GwTmMad.do_FINALIZE)]
  | .im =>
    [("INIT", GwImMad.do_INIT), ("DISCOVER", GwImMad.do_DISCOVER), ("MONITOR", GwImMad.do_MONITOR),
      ("FINALIZE", GwImMad.do_FINALIZE)]

/-- The number of words of a request. -/
def fields : Driver → Nat
  | .em | .im => 4
  | .tm => 6

/-- The operations that the main thread does itself. -/
def direct : Driver → List String
  | .em => ["FINALIZE", "INIT", "SUBMIT", "RECOVER"]
  | .tm => ["FINALIZE", "INIT"]
  | .im => ["INIT", "DISCOVER", "MONITOR", "FINALIZE"]

/-- The operation and the words of a request. -/
def request (d : Driver) (line : String) : Option (String × Operation × List String) :=
  match Py.words line with
  | [] => none
  | word :: args =>
    let OPERATION := Py.upper word
    if (word :: args).length = d.fields then
      (d.methods.get OPERATION).map fun method => (OPERATION, method, word :: args)
    else none

/-- How a line is served. The first word of a blank line is looked up by the transfer driver, which
ends with an exception; the other drivers look at the number of words before. -/
def serve (d : Driver) (line : String) : Serve :=
  match Py.words line with
  | [] => if d = .tm then .fall else .skip
  | _ :: _ =>
    match d.request line with
    | some (OPERATION, _, _) =>
      if OPERATION = "FINALIZE" then .close
      else if OPERATION ∈ d.direct then .answer
      else .pool
    | none => .answer

/-- The message that answers a line. -/
def reply (d : Driver) (outcome : Nat → Outcome) (i : Nat) (line : String) : String :=
  match d.request line with
  | some (_, method, args) => method args (outcome i)
  | none => "WRONG COMMAND"

/-- The loop of a driver. At the end of the input a blank line is read for ever. -/
def loop (d : Driver) (outcome : Nat → Outcome) : Loop String String where
  serve := d.serve
  reply := d.reply outcome
  atEnd := decide (d.serve "" = .fall)

/-- A message is one line and names an operation and an id. -/
def Carries (op id message : String) : Prop :=
  '\n' ∉ message.toList ∧ ∃ rest, message = op ++ " " ++ id ++ " " ++ rest

/-- Each request has one response, which is one line with the request's operation and id, each other
line has an answer, and the loop has ended. -/
structure Framed (d : Driver) (lines : List String) (s : Loop.State String) : Prop where
  ended : s.ended = true
  responses : ∀ i line, lines[i]? = some line → ∀ op method args,
    d.request line = some (op, method, args) →
      ∃ message, Loop.answers s i = [message] ∧ Carries op args[1]! message
  others : ∀ i line, lines[i]? = some line → d.request line = none → Loop.answers s i ≠ []

/-- The text of an outcome that the response of an operation shows. -/
def shown (op : String) : Outcome → String
  | .ok info => if op ∈ ["SUBMIT", "POLL", "RECOVER", "DISCOVER", "MONITOR"] then info else ""
  | .error err => if op ∈ ["INIT", "FINALIZE", "START", "END"] then "" else err

/-- The response of an operation shows the id of the request. -/
def echoes (d : Driver) (op : String) (o : Outcome) : Bool :=
  match op, o with
  | "INIT", _ => false
  | "FINALIZE", _ => decide (d = .tm)
  | "DISCOVER", .error _ => false
  | _, _ => true

/-- The input, what the operations give and the order of the steps under which a driver frames its
messages. -/
structure Sound (d : Driver) (lines : List String) (outcome : Nat → Outcome)
    (evs : List (Loop.Event String)) : Prop where
  /-- No line is blank. -/
  words : ∀ line ∈ lines, Py.words line ≠ []
  /-- A request to finalize is the last line. -/
  last : ∀ (i : Nat) line, lines[i]? = some line → d.serve line = .close → i + 1 = lines.length
  /-- There is such a request, unless the driver ends at the end of the input. -/
  finalize : d ≠ .tm → ∃ line ∈ lines, d.serve line = .close
  /-- No text that a response shows has a line break. -/
  texts : ∀ (i : Nat) line, lines[i]? = some line → ∀ op method args,
    d.request line = some (op, method, args) → '\n' ∉ (shown op (outcome i)).toList
  /-- A request whose response does not show its id has no id. -/
  ids : ∀ (i : Nat) line, lines[i]? = some line → ∀ op method args,
    d.request line = some (op, method, args) → d.echoes op (outcome i) = false → args[1]! = "-"
  /-- The pool is empty when the loop ends. -/
  drained : Machine.Guarded ((d.loop outcome).step lines) ((d.loop outcome).drained lines) {} evs

end Driver

end Drm4g

end GridWay
