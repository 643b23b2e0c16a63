import SipBench.Bench.Messages
import SipBench.Listener.Run

/-!
# Steps on listeners and transaction handles

* `ListenerStep.run` : a step on a listener
* `TransactionStep.run` : a step on a transaction handle
-/

namespace SipBench

namespace ListenerStep

/-- The outcome of a delivery: listener and handle are kept even if the delivery has failed. -/
def deliver (id : String) (list : Received) (m : MessageSpec) (raw : Value)
    (handleId : Option String) : Act Reply := do
  let item ← Act.item m
  let l ← Act.listener id
  let handle ← handleId.mapM Act.handle
  let d := l.receive { list, item, raw, handle }
  Act.putListener id d.listener
  if let (some handleId, some handle) := (handleId, d.handle) then Act.putHandle handleId handle
  Act.log d.log
  return .record (← d.result)

/-- Replaces a listener and logs what comes with the change. -/
def change (id : String) (f : Listener → Except Fault (Listener × List LogEntry)) : Act Reply := do
  let (l, log) ← f (← Act.listener id)
  Act.putListener id l
  Act.log log
  return .nothing

/-- The answer to a step on the listener with a name. -/
def run (id : String) : ListenerStep → Act Reply
  | create className name => do
    match Role.ofClassName? className with
    | none => throw (.raised .missingKey (.text className))
    | some role =>
      let l := Listener.new role name
      Act.putListener id l
      return .text l.text
  | response m raw handle => deliver id .responses m raw handle
  | request m raw handle => deliver id .requests m raw handle
  | look => return .listener (← Act.listener id)
  | snapshot which snapshotId => do
    let messages := (← Act.listener id).received which
    modify fun b => { b with snapshots := assign b.snapshots snapshotId messages }
    return .count messages.length
  | noteFailure message => change id fun l => .ok (l.noteFailure message)
  | noteSuccess => change id fun l => .ok (l.noteSuccess, [])
  | dispose => change id fun l => .ok l.dispose
  | markAnswered => change id fun l => l.markAnswered.map (·, [])
  | eventError message => change id (·.addEventError message)
  | setDialog dialog => change id (·.setDialog dialog)

end ListenerStep

namespace TransactionStep

/-- The answer to a step on the handle with a name. -/
def run (id : String) : TransactionStep → Act Reply
  | openHandle tag stack owner byOwner => do
    let owner ← owner.mapM Act.listener
    let saved := (← get).messages
    let stack ← stack.mapM (·.build saved)
    let handle ← Transaction.open? tag stack (owner.map (·.name))
    if let (some l, true) := (owner, byOwner) then
      Act.log [Transaction.openedEntry l.name handle.side]
    Act.putHandle id handle
    return .text handle.text
  | event m sequence => do
    let m ← Act.message m "cseq"
    let record : EventRecord := { message := m, sequence }
    Act.putHandle id ((← Act.handle id).addEvent record)
    Act.log [Transaction.eventEntry (← record.summary)]
    return .nothing
  | look => do
    let handle ← Act.handle id
    -- an event that has no summary cannot be shown
    let _ ← (handle.events.mapM (·.summary) : Except Fault (List String))
    return .transaction handle
  | request => return .item (← (← Act.handle id).request)

end TransactionStep

end SipBench
