import SipBench.Await.Goal
import SipBench.Await.Target
import SipBench.Bench.Spec
import SipBench.Config.Load
import SipBench.Log.Template

/-!
# Steps of a test script

What a test script can do, as data.  Steps name listeners, transaction handles, snapshots and saved
messages; the two recursive kinds are a scheduled step and an await whose condition runs steps.
-/

namespace SipBench

/-- A step on messages alone. -/
inductive MessageStep where
  | make (m : MessageSpec)
  | withHeader (m : MessageSpec) (name value : String)
  | withBody (m : MessageSpec) (body : Value)
  /-- Writes a message and parses the text. -/
  | reparse (m : MessageSpec)
  | equal (a b : MessageSpec)
  | headers (m : MessageSpec) (name : String)
  | canonicalNames (names : List String)
  | cseq (value : String)
  | event (m : MessageSpec) (sequence : Int) (raw : Value)
  | reason (code : Value)
  | statusTable
  | methods

/-- A question about received messages. -/
inductive Question where
  | containsStatus (query : ResponseQuery)
  | lacksStatus (query : ResponseQuery)
  | containsMethod (query : RequestQuery)
  | lacksMethod (query : RequestQuery)
  | countStatus (code : Value)

/-- Where the messages for a question come from. -/
inductive Source where
  | messages (ms : List MessageSpec)
  | listener (id : String)
  | snapshot (id : String)

/-- A step on a listener. -/
inductive ListenerStep where
  | create (className name : String)
  | response (m : MessageSpec) (raw : Value) (handle : Option String)
  | request (m : MessageSpec) (raw : Value) (handle : Option String)
  | look
  | snapshot (which : Received) (snapshotId : String)
  | noteFailure (message : String)
  | noteSuccess
  | dispose
  | markAnswered
  | eventError (message : String)
  | setDialog (dialog : Value)

/-- A step on a transaction handle. -/
inductive TransactionStep where
  /-- Opens a handle over a stack object with a tag, for a listener if one is given; a listener that
  opens the handle itself logs it. -/
  | openHandle (tag : Option Side) (stack : Option StackSpec) (owner : Option String)
      (byOwner : Bool)
  | event (m : MessageSpec) (sequence : Int)
  | look
  | request

/-- A step on the configuration, the files and the environment. -/
inductive SettingStep where
  | pollingGet
  | pollingSet (interval timeout : Value)
  | pollingReset
  | pollingApply (path : Option String)
  | load (path : Option String)
  | write (path : String) (content : List UInt8)
  | makeDirectory (path : String)
  | setVariable (name value : String)
  | commandLine (words : List String)

/-- A step on the log. -/
inductive LogStep where
  | format (template : String) (redact : Bool) (entry : RawEntry)
  | audit (event : String) (details : List (String × Value))
  | messageEvent (direction summary raw : String)
  | configure (level : Value) (file : Option String) (redact : Bool)
  | configureFrom (path : Option String)
  | log (entry : RawEntry)
  | operationLogger (operation : String)
  | setOperationLevel (operation level : String)
  | addHandler
  | handlers
  | readLog (path : String)
  | console

/-- How an await is polled and described; what is not given is taken from the defaults and from the
condition. -/
structure AwaitOptions where
  interval : Value := .none
  timeout : Value := .none
  description : Value := .none

mutual

/-- A step of a test script. -/
inductive Step where
  | message (step : MessageStep) (save : Option String)
  | ask (question : Question) (source : Source)
  | listener (id : String) (step : ListenerStep)
  | showSnapshot (id : String)
  | transaction (id : String) (step : TransactionStep)
  | setting (step : SettingStep)
  | log (step : LogStep)
  | diagnose (fault : FaultSpec)
  /-- The fault of an await that has timed out, as it is reported. -/
  | showTimeout (fault : FaultSpec)
  | checkListener (check : ListenerCheck) (target : Option String) (label : Value)
  | checkMessage (check : MessageCheck) (target : MessageSpec) (label : Value)
  | awaitGoal (goal : Goal) (target : Option String) (options : AwaitOptions)
  | awaitDisposal (stack : Option StackActor) (options : AwaitOptions)
  | await (actor : Actor) (options : AwaitOptions)
  | awaitValue (actor : Actor) (expected : Option Value) (matcher : Option Matcher)
      (options : AwaitOptions)
  | schedule (time : Value) (step : Step)
  /-- A call with arguments that it does not take. -/
  | misuse (fault : Fault)

/-- What a scripted call does. -/
inductive Action where
  | give (v : Value)
  | throw (fault : FaultSpec)
  | run (step : Step)

/-- One call: the time it takes and what it does. -/
inductive Call where
  | mk (takes : Option Value) (action : Action)

/-- A condition or a source of values that plays a script, one call after the other, the last one
again and again. -/
inductive Actor where
  | mk (name : String) (script : List Call)

/-- A stack whose disposal plays a script. -/
inductive StackActor where
  | mk (typeName : String) (script : List Call)

end

instance : Inhabited Step := ⟨.misuse .nestedTooDeep⟩

end SipBench
