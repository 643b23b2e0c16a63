import SipBench.Value

/-!
# Causes of faults

What the parts of the library have to say when something does not hold or is used wrongly, as data
and in words.

* `CheckFailure` : what a check has found
* `TransactionError` : how a transaction handle was misused
* `Misuse` : arguments that no call accepts
* `PollingError` : a polling pair that no await accepts
* `Arguments` : what a test program gives to a fault that it raises
-/

namespace SipBench

/-- What a check has found. -/
inductive CheckFailure where
  /-- The thing to be checked is missing. -/
  | nothing (what : String)
  /-- The last operation failed. -/
  | operationFailed (why : String)
  /-- The last operation succeeded where a failure was wanted. -/
  | operationSucceeded
  /-- A response was wanted; tells which status codes were received. -/
  | responseMissing (wanted listener : String) (received : List String)
  /-- A response was not wanted. -/
  | responseReceived (unwanted listener : String)
  /-- A request was wanted; tells which methods were received. -/
  | requestMissing (wanted listener : String) (received : List String)
  /-- A request was not wanted. -/
  | requestReceived (unwanted listener : String)
  | headerMissing (name : String)
  | headerPresent (name : String)
  /-- No header of the name holds a text. -/
  | headerLacks (name text : String)
  /-- Some header of the name holds a text. -/
  | headerHolds (name text : String)
  | bodyMissing
  | bodyPresent (length : Int)
  | bodyLacks (text : String)
  | bodyHolds (text : String)
  | callUnanswered (name : String)
  | callAnswered (name : String)
  | subscriptionErrors (errors : List String)

namespace CheckFailure

/-- What was received, or that nothing was. -/
def receivedText (received : List String) : String :=
  if received.isEmpty then "none" else ", ".intercalate received

/-- The wording of a finding. -/
def message : CheckFailure → String
  | nothing what => s!"{what} is None"
  | operationFailed why => s!"last operation failed: {why}"
  | operationSucceeded => "last operation succeeded, expected a failure"
  | responseMissing wanted listener received =>
    s!"response {wanted} not received by {listener} (received: {receivedText received})"
  | responseReceived unwanted listener => s!"unexpected response {unwanted} received by {listener}"
  | requestMissing wanted listener received =>
    s!"request {wanted} not received by {listener} (received: {receivedText received})"
  | requestReceived unwanted listener => s!"unexpected request {unwanted} received by {listener}"
  | headerMissing name => s!"header {name} not present"
  | headerPresent name => s!"header {name} present"
  | headerLacks name text => s!"no {name} header contains {Text.quote text}"
  | headerHolds name text => s!"a {name} header contains {Text.quote text}"
  | bodyMissing => "message has no body"
  | bodyPresent length => s!"message has a body of {length} bytes"
  | bodyLacks text => s!"body does not contain {Text.quote text}"
  | bodyHolds text => s!"body contains {Text.quote text}"
  | callUnanswered name => s!"call {name} not answered"
  | callAnswered name => s!"call {name} was answered"
  | subscriptionErrors errors => "subscription errors: " ++ "; ".intercalate errors

end CheckFailure

/-- How a transaction handle was misused. -/
inductive TransactionError where
  /-- It was built from something that is not tagged as a client or server transaction. -/
  | untagged (typeName : String)
  /-- It wraps nothing. -/
  | empty (refName : String)
  /-- The stack transaction has no request. -/
  | noRequest (refName : String)

/-- The wording of a misuse. -/
def TransactionError.message : TransactionError → String
  | untagged typeName =>
    s!"SipTransaction requires a LocalTransaction or RemoteTransaction, got {typeName}"
  | empty refName => s!"{refName} wraps no stack transaction"
  | noRequest refName => s!"{refName} has no originating request"

/-- Arguments that no call accepts. -/
inductive Misuse where
  /-- Only one of method and sequence number was given. -/
  | halfQualified
  /-- An await needs an expected value or a matcher, and only one of them. -/
  | ambiguousTarget
  /-- There is no such operation logger. -/
  | unknownOperation (name : String) (known : List String)
  /-- There is no such log level. -/
  | unknownLevel (name known : String)
  /-- A body was to be made from numbers that are not octets. -/
  | notOctets
  /-- A body was to be made of less than no octets. -/
  | negativeCount
  /-- A place for an argument of a log entry is written in no known way. -/
  | badPlaceholder (char : Char) (position : Nat)
  /-- A place for an argument of a log entry ends too early. -/
  | incompletePlaceholder
  /-- Some other unusable argument. -/
  | other (text : String)

/-- The wording of unusable arguments. -/
def Misuse.message : Misuse → String
  | halfQualified => "method and sequence_number must be given together"
  | ambiguousTarget => "await_value needs exactly one of 'expected' or 'matcher'"
  | unknownOperation name known =>
    s!"Unknown operation: {name}. Expected one of: " ++ ", ".intercalate known
  | unknownLevel name known => s!"Invalid log level: {name}. Must be one of: {known}"
  | notOctets => "bytes must be in range(0, 256)"
  | negativeCount => "negative count"
  | badPlaceholder char position =>
    let shown := if 31 < char.toNat && char.toNat < 127 then char else '?'
    s!"unsupported format character '{shown}' (0x" ++
      String.ofList (Nat.toDigits 16 char.toNat) ++ s!") at index {position}"
  | incompletePlaceholder => "incomplete format"
  | other text => text

/-- Why a polling pair given to one await cannot be used. -/
inductive PollingError where
  | interval (given : Number)
  | timeout (given : Number)

/-- The wording of an unusable polling pair. -/
def PollingError.message : PollingError → String
  | interval given => s!"poll_interval must be a finite number > 0, got {given.text}"
  | timeout given => s!"timeout must be a finite number >= 0, got {given.text}"

/-- What a test program gives to a fault that it raises.  All of it can be shown, so that the fault
has a wording. -/
structure Arguments where
  values : List Value
  areWritable : Value.areWritable values = true

/-- A text as the only argument. -/
def Arguments.text (s : String) : Arguments := ⟨[.text s], rfl⟩

end SipBench
