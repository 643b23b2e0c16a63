import SipBench.Check
import SipBench.Proofs.Listener.Receive

/-!
# What the correlation questions ask

On messages of the right kind, a correlation question is answered by looking at the messages one by
one, and the answer is that of a test of single messages.

* `ResponseQuery.accepts`, `RequestQuery.accepts` : the tests
* `containsStatus_eq`, `containsMethod_eq` : the questions in terms of them
-/

namespace SipBench

/-! ### The tests -/

/-- Whether a message is a response with the status code and, in the qualified form, the CSeq. -/
def ResponseQuery.accepts (q : ResponseQuery) (m : Message) : Bool :=
  m.status?.any (·.same q.code) && (q.method.isNone || m.hasCSeq q.method q.number)

/-- Whether a message is a request with the method or, in the qualified form, has the CSeq. -/
def RequestQuery.accepts (q : RequestQuery) (m : Message) : Bool :=
  if q.number.isNone then m.method?.any fun own => (Value.text own).same q.method
  else m.hasCSeq q.method q.number

/-! ### The questions -/

/-- Where a test fails on no message, it is made of all of them. -/
theorem anyItem_messages {test : Item → Except Fault Bool} {p : Message → Bool}
    {messages : List Message} (h : ∀ m ∈ messages, test (.message m) = .ok (p m)) :
    anyItem test (messages.map .message) = .ok (messages.any p) := by
  induction messages with
  | nil => rfl
  | cons m messages ih =>
    have ih := ih fun m' hm' => h m' (List.mem_cons_of_mem _ hm')
    rw [List.map_cons, anyItem, h m List.mem_cons_self, List.any_cons]
    cases p m with
    | true => rfl
    | false => exact ih

theorem matchesStatus_message (q : ResponseQuery) {m : Message} (h : m.isResponse = true) :
    (Item.message m).matchesStatus q.code q.method q.number = .ok (q.accepts m) := by
  obtain ⟨status, hstatus⟩ := Message.status?_eq_some h
  simp only [Item.matchesStatus, Item.ask, ResponseQuery.accepts, hstatus, Option.any_some]
  cases hcode : status.same q.code with
  | false => simp [bind, Except.bind, pure, Except.pure, hcode]
  | true =>
    cases hmethod : q.method.isNone with
    | true => simp [bind, Except.bind, pure, Except.pure, hcode]
    | false => simp [bind, Except.bind, hcode]

theorem matchesMethod_message (q : RequestQuery) {m : Message} (h : m.isRequest = true) :
    (Item.message m).matchesMethod q.method q.number = .ok (q.accepts m) := by
  obtain ⟨method, hmethod⟩ := Message.method?_eq_some h
  simp only [Item.matchesMethod, Item.ask, RequestQuery.accepts, hmethod, Option.any_some]
  split <;> rfl

theorem containsStatus_eq {q : ResponseQuery} (hq : q.method.isNone = q.number.isNone)
    {messages : List Message} (h : ∀ m ∈ messages, m.isResponse = true) :
    containsStatus (messages.map .message) q.code q.method q.number =
      .ok (messages.any q.accepts) := by
  rw [containsStatus, hq, bne_self_eq_false]
  exact anyItem_messages fun m hm => matchesStatus_message q (h m hm)

theorem containsMethod_eq (q : RequestQuery) {messages : List Message}
    (h : ∀ m ∈ messages, m.isRequest = true) :
    containsMethod (messages.map .message) q.method q.number = .ok (messages.any q.accepts) :=
  anyItem_messages fun m hm => matchesMethod_message q (h m hm)

end SipBench
