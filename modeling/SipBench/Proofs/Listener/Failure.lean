import SipBench.Proofs.Listener.Receive

/-!
# Failed deliveries

A delivery that is refused at the door leaves no trace on the listener or on the handle.  There are
two ways to fail later, both of them open to responses alone, and when the response is stored
already.  A status code with too many digits cannot be logged; and a call looks at the status code,
and one that is no number cannot be compared.

* `Listener.message?_eq_none_of_error` : a delivery fails only because it is of the wrong kind
* `Listener.failed_delivery` : a failed delivery leaves no trace
* `Listener.call_keeps_failed_delivery` : a status code that a call cannot compare
-/

namespace SipBench

namespace Listener

variable {l : Listener} {a : Arrival} {fault : Fault}

/-- The listener can look at what is delivered: the status code can be shown, and it is a number if
the listener is a call. -/
def CanLookAt (l : Listener) (a : Arrival) : Prop :=
  ∀ m, a.message? = some m →
    m.HasWritableStatus ∧ ((∀ answered, l.role ≠ .call answered) ∨ m.HasNumericStatus)

/-- If the listener can look at it, a delivery fails only because it is of the wrong kind. -/
theorem message?_eq_none_of_error (hlook : l.CanLookAt a)
    (h : (l.receive a).result = .error fault) : a.message? = none := by
  cases hm : a.message? with
  | none => rfl
  | some m =>
    obtain ⟨hwrite, hcall⟩ := hlook m hm
    rw [result_receive hm hcall hwrite] at h
    cases h

/-- **A failed delivery leaves no trace.**  Whatever the state of a listener of any kind, a delivery
that fails changes nothing of it, neither its lists, its numbering and its error message nor what a
call, a subscription or the receiving side of a REFER keeps beside them, and nothing of the handle
that the delivery names.  Status codes can be shown, and those given to a call are numbers. -/
theorem failed_delivery (hlook : l.CanLookAt a) (h : (l.receive a).result = .error fault) :
    (l.receive a).listener = l ∧ (l.receive a).handle = a.handle := by
  have hm := message?_eq_none_of_error hlook h
  obtain ⟨hlistener, -⟩ := receive_of_none hm l
  exact ⟨hlistener, handle_receive_of_none hm l⟩

/-- A handle on a transaction that this side has opened. -/
def openHandle : Transaction := { side := .client, stack := ⟨.text "stack", none⟩ }

/-- A NOTIFY request without any headers. -/
def bareNotify : Message := { start := .request "NOTIFY" "sip:alice@example.com" }

/-- A subscription that has got a NOTIFY request, and its errors, is given the request once more,
but as a response. -/
theorem failed_delivery_subscription :
    let l := (new (.subscription []) "").run
      [.deliver { list := .requests, item := .message bareNotify, handle := some openHandle }]
    let a : Arrival :=
      { list := .responses, item := .message bareNotify, handle := some openHandle }
    let fault := Fault.wrongType "process_response expects a SipResponse, got SipRequest"
    l.CanLookAt a ∧ (l.receive a).result = .error fault ∧
    (l.receive a).listener = l ∧ (l.receive a).handle = some openHandle := by
  intro l a fault
  have hlook : l.CanLookAt a := nofun
  have hfail : (l.receive a).result = .error fault := rfl
  exact ⟨hlook, hfail, failed_delivery hlook hfail⟩

/-- A response whose status code is a text. -/
def textStatus : Arrival :=
  { list := .responses, item := .message { start := .response (.text "200") "OK" }
    handle := some openHandle }

/-- A call stores a response, on the handle too, before it finds that it cannot compare the status
code. -/
theorem call_keeps_failed_delivery :
    let l := new (.call false) ""
    (∃ text, (l.receive textStatus).result = .error (.wrongType text)) ∧
    (l.receivedResponses.length = 0 ∧ l.nextSequence = 1) ∧
    (l.receive textStatus).listener.receivedResponses.length = 1 ∧
    (l.receive textStatus).listener.nextSequence = 2 ∧
    (l.receive textStatus).handle.map (·.events.length) = some 1 :=
  ⟨⟨_, rfl⟩, ⟨rfl, rfl⟩, rfl, rfl, rfl⟩

end Listener

end SipBench
