import SipBench.Check
import SipBench.Proofs.Writing

/-!
# What a failed check tells

A check that has failed tells what was asked for and, if a response was missing, which status codes
were received instead.  Whole numbers with too many digits cannot be shown, so the failure can be
told exactly if there are none among the values that it shows.

* `ListenerCheck.CanTell` : the condition for a check
* `ListenerCheck.writes_missingResponse` and its siblings : it is the right one
-/

namespace SipBench

/-! ### Questions -/

/-- All that the wording of the question shows can be shown. -/
def ResponseQuery.IsWritable (q : ResponseQuery) : Prop :=
  q.code.isWritable = true ∧
    (q.method.isNone = false → q.number.isWritable = true ∧ q.method.isWritable = true)

/-- All that the wording of the question shows can be shown. -/
def RequestQuery.IsWritable (q : RequestQuery) : Prop :=
  q.method.isWritable = true ∧ (q.number.isNone = false → q.number.isWritable = true)

theorem ResponseQuery.writes_text (q : ResponseQuery) : Writes q.IsWritable q.text := by
  refine (Writes.write q.code).bind fun code => ?_
  cases hmethod : q.method.isNone with
  | true => exact (Writes.ok _).of_iff (iff_of_true ⟨⟩ nofun)
  | false =>
    exact ((Writes.write q.number).bind fun _ => (Writes.write q.method).map _).of_iff
      ⟨fun h _ => h, fun h => h rfl⟩

theorem RequestQuery.writes_text (q : RequestQuery) : Writes q.IsWritable q.text := by
  refine (Writes.write q.method).bind fun method => ?_
  cases hnumber : q.number.isNone with
  | true => exact (Writes.ok _).of_iff (iff_of_true ⟨⟩ nofun)
  | false => exact ((Writes.write q.number).map _).of_iff ⟨fun h _ => h, fun h => h rfl⟩

/-! ### Checks -/

namespace ListenerCheck

/-- The status codes of all responses of the listener can be shown. -/
def HasWritableCodes (l : Listener) : Prop :=
  ∀ m ∈ l.receivedResponses, ∀ code, m.status? = some code → code.isWritable = true

/-- What a check tells of a listener when it fails can be shown. -/
def CanTell (l : Listener) : ListenerCheck → Prop
  | responseReceived q => q.IsWritable ∧ HasWritableCodes l
  | responseNotReceived q => q.IsWritable
  | requestReceived q | requestNotReceived q => q.IsWritable
  | _ => True

theorem writes_receivedCodes (l : Listener) : Writes (HasWritableCodes l) (receivedCodes l) := by
  refine (Writes.mapM _).of_iff ?_
  simp only [HasWritableCodes, List.mem_filterMap, forall_exists_index, and_imp]
  exact ⟨fun h m hm code hcode => h code m hm hcode, fun h code m hm hcode => h m hm code hcode⟩

theorem writes_missingResponse (l : Listener) (q : ResponseQuery) :
    Writes ((responseReceived q).CanTell l) (missingResponse l q) :=
  q.writes_text.bind fun _ => (writes_receivedCodes l).map _

theorem writes_unwantedResponse (l : Listener) (q : ResponseQuery) :
    Writes ((responseNotReceived q).CanTell l) (unwantedResponse l q) :=
  q.writes_text.map _

theorem writes_missingRequest (l : Listener) (q : RequestQuery) :
    Writes ((requestReceived q).CanTell l) (missingRequest l q) :=
  q.writes_text.map _

theorem writes_unwantedRequest (l : Listener) (q : RequestQuery) :
    Writes ((requestNotReceived q).CanTell l) (unwantedRequest l q) :=
  q.writes_text.map _

end ListenerCheck

end SipBench
