import SipBench.Listener.Basic
import SipBench.Message.Body

/-!
# What a script describes

The messages, faults and stack objects of a test script, as the script describes them.  They are
built only when the step that holds them runs, and building one may fail.

* `MessageSpec.build` : the item that a description of a message stands for
* `FaultSpec.build` : the fault that a description stands for
-/

namespace SipBench

/-! ### Messages -/

/-- The start line of a message that is built from its parts. -/
inductive StartSpec where
  | request (method uri : String)
  | response (status : Value) (reason : String)
  | plain

/-- A message that is built from its parts: the headers as they stand, the body that a value stands
for, and then further headers under their canonical names. -/
structure MessageParts where
  start : StartSpec
  headers : List Header := []
  body : Value := .bytes []
  added : List (String × String) := []
  source : Value := .none

/-- A message as a script describes it. -/
inductive MessageSpec where
  /-- A raw message that is parsed. -/
  | raw (message : RawMessage) (source : Value)
  | parts (parts : MessageParts)
  /-- A message that an earlier step has saved. -/
  | saved (name : String)
  /-- No message at all. -/
  | value (v : Value)

/-- The message that is built from parts. -/
def MessageParts.build (p : MessageParts) : Except Fault Message := do
  let body ← Message.octetsOf p.body
  let start := match p.start with
    | .request method uri => .request method uri
    | .response status reason => Message.statusLine status reason
    | .plain => .plain
  let bare : Message := ⟨start, p.headers, body, p.source⟩
  return p.added.foldl (fun m h => m.withHeader h.1 h.2) bare

/-- The item that a description of a message stands for. -/
def MessageSpec.build (saved : List (String × Message)) : MessageSpec → Except Fault Item
  | .raw message source =>
    match Message.parse message source with
    | .ok m => .ok (.message m)
    | .error e => .error (.parse e)
  | .parts p => p.build.map .message
  | .saved name =>
    match saved.lookup name with
    | some m => .ok (.message m)
    | none => .error (.raised .missingKey (.text name))
  | .value v => .ok (.other v)

/-! ### Faults -/

/-- A fault as a script describes it: its kind and arguments, the fault behind it and, for the
timeout of an await, the fault of the last evaluation. -/
inductive FaultSpec where
  | mk (name : String) (args : List Value) (cause last : Option FaultSpec)

namespace FaultSpec

/-- The number that a field of a timeout is. -/
def secondsOf (v : Value) : Except Fault Number :=
  match v with
  | .number n => if n.toDouble?.isSome then .ok n else .error .tooLarge
  | .text _ => .error (.raised .badValue (.text "Unknown format code 'f' for object of type 'str'"))
  | v => .error (.wrongType s!"unsupported format string passed to {v.typeName}.__format__")

/-- The numbers of system faults that have a kind of their own. -/
def systemNumbers : List (Int × String) := [
  (1, "PermissionError"), (2, "FileNotFoundError"), (3, "ProcessLookupError"),
  (4, "InterruptedError"), (10, "ChildProcessError"), (11, "BlockingIOError"),
  (13, "PermissionError"), (17, "FileExistsError"), (20, "NotADirectoryError"),
  (21, "IsADirectoryError"), (32, "BrokenPipeError"), (103, "ConnectionAbortedError"),
  (104, "ConnectionResetError"), (108, "BrokenPipeError"), (110, "TimeoutError"),
  (111, "ConnectionRefusedError"), (114, "BlockingIOError"), (115, "BlockingIOError")]

/-- Whether a kind of fault is one of the system, whose arguments are a number, a text and files. -/
def isSystemKind (kind : FaultKind) : Bool :=
  kind == .system || systemNumbers.any fun entry => kind == .named entry.2

/-- The kind of a system fault that gives its number, which must be a whole one. -/
def systemKind (kind : FaultKind) (number : Value) : FaultKind :=
  match kind, number with
  | .system, .number (.real _) => kind
  | .system, number =>
    match systemNumbers.find? fun entry => number.same (.int entry.1) with
    | some (_, name) => .named name
    | none => kind
  | _, _ => kind

/-- The files that a system fault is about, as its wording shows them. -/
def filesText : List Value → String
  | [] | .none :: _ => ""
  | [file] | [file, _] => ": " ++ file.quoted
  | file :: _ :: other :: _ =>
    ": " ++ file.quoted ++ if other.isNone then "" else " -> " ++ other.quoted

/-- A fault with a kind and arguments; if they cannot be shown, there is no such fault. -/
def withArguments (kind : FaultKind) (args : List Value) : Except Fault Fault :=
  if h : Value.areWritable args = true then .ok (.raised kind ⟨args, h⟩) else .error .tooManyDigits

/-- The wording of a system fault. -/
def systemText (number text : Value) (files : List Value) : String :=
  s!"[Errno {number.shown}] {text.shown}" ++ filesText files

/-- The fault with a kind and arguments, where `last` is the fault of the last evaluation. -/
def ofKind (kind : FaultKind) (args : List Value) (last : Option Fault) : Except Fault Fault :=
  match kind, args with
  | .awaitTimeout, [what, limit, elapsed, attempts] => do
    let _ ← what.write
    let limit ← secondsOf limit
    let elapsed ← secondsOf elapsed
    let _ ← attempts.write
    return .timeout what limit elapsed attempts last
  | .awaitTimeout, _ => .error (.wrongType "a timeout takes four arguments")
  | kind, number :: text :: files =>
    if isSystemKind kind && files.length ≤ 3 && Value.areWritable args then
      .ok (.raised (systemKind kind number) (.text (systemText number text files)))
    else withArguments kind args
  | kind, args => withArguments kind args

/-- The fault that a description stands for. -/
def build : FaultSpec → Except Fault Fault
  | mk name args cause last => do
    let last ← match last with
      | none => pure none
      | some spec => some <$> build spec
    let fault ← ofKind (.ofName name) args last
    match cause with
    | none => return fault
    | some spec => return .because fault (← build spec)

end FaultSpec

/-! ### Stack objects -/

/-- The request of a stack transaction as a script describes it. -/
structure StackSpec where
  label : Value
  request : Option MessageSpec := none

/-- The stack transaction that a description stands for. -/
def StackSpec.build (saved : List (String × Message)) (s : StackSpec) :
    Except Fault StackTransaction := do
  match s.request with
  | none => return { label := s.label }
  | some spec => return { label := s.label, request := some (← spec.build saved) }

end SipBench
