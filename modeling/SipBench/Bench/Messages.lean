import SipBench.Bench.Basic

/-!
# Steps on messages

* `MessageStep.run` : a step on messages and status codes
* `Question.run` : a question about received messages
-/

namespace SipBench

/-- What is known about a status code. -/
def StatusReport.of (code : Value) : StatusReport where
  phrase := reasonPhrase code
  name := (StatusCode.find? code).map (·.name)
  kind := match code with
    | .number n => some (n.statusClass, n.isProvisional, n.isFinal)
    | _ => none

namespace MessageStep

/-- A failure to parse as a fault. -/
def parsed {α : Type} (result : Except ParseError α) : Except Fault α := result.mapError .parse

/-- An item as text. -/
def itemText : Item → String
  | .message m => m.text
  | .other v => v.shown

/-- Whether two items are equal. -/
def sameItem : Item → Item → Bool
  | .message a, .message b => a.same b
  | .other a, .other b => a.same b
  | _, _ => false

/-- The record of an item, which must have a summary. -/
def record (item : Item) (sequence : Int) (raw : Value) : Except Fault EventRecord := do
  match item with
  | .other v => throw (.missingAttribute v.typeName "cseq")
  | .message m =>
    let r : EventRecord := ⟨m, sequence, raw⟩
    let _ ← r.summary
    return r

/-- The answer to a step on messages. -/
def run : MessageStep → Act Reply
  | make m => return .message (← Act.message m "headers")
  | withHeader m name value => do
    return .message ((← Act.message m "with_header").withHeader name value)
  | withBody m body => do
    return .message ((← Act.message m "with_body").withBody (← Message.octetsOf body))
  | reparse m => do
    return .message (← parsed (Message.parse (.text (itemText (← Act.item m))) .none))
  | equal a b => return .truth (sameItem (← Act.item a) (← Act.item b))
  | headers m name => return .headers ((← Act.message m "get_headers").headersNamed name)
  | canonicalNames names => return .texts (names.map canonicalName)
  | cseq value => return .cseq (← parsed (CSeq.parse value))
  | event m sequence raw => do return .record (← record (← Act.item m) sequence raw)
  | reason code => return .status (.of code)
  | statusTable => return .statusTable StatusCode.registry
  | methods => return .texts Message.methodNames

/-- The answer to a step on messages, a message being saved under a name if one is given. -/
def runSaving (step : MessageStep) (save : Option String) : Act Reply := do
  let reply ← step.run
  match save, reply with
  | some name, .message m => modify fun b => { b with messages := assign b.messages name m }
  | _, _ => pure ()
  return reply

end MessageStep

namespace Question

/-- Which list of a listener a question is about. -/
def about : Question → Received
  | containsMethod _ | lacksMethod _ => .requests
  | _ => .responses

/-- The answer to a question about some items. -/
def answer (items : List Item) : Question → Except Fault Reply
  | containsStatus q => (SipBench.containsStatus items q.code q.method q.number).map .truth
  | lacksStatus q => (SipBench.lacksStatus items q.code q.method q.number).map .truth
  | containsMethod q => (SipBench.containsMethod items q.method q.number).map .truth
  | lacksMethod q => (SipBench.lacksMethod items q.method q.number).map .truth
  | countStatus code => (SipBench.countStatus items code).map fun n => .count n

/-- The items that a question is about. -/
def items (question : Question) : Source → Act (List Item)
  | .messages specs => specs.mapM Act.item
  | .listener id => return ((← Act.listener id).received question.about).map .message
  | .snapshot id => return (← Act.named (·.snapshots) id).map .message

/-- The answer to a question. -/
def run (question : Question) (source : Source) : Act Reply := do
  question.answer (← question.items source)

end Question

end SipBench
