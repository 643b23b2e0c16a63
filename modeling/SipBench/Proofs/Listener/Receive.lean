import SipBench.Listener.Run
import SipBench.Proofs.Writing

/-!
# One delivery

What a delivery does to a listener, once and for all: nothing if it is of the wrong kind, and
otherwise one more record under the next number, whatever a call or a subscription then makes of it
and even if the status code of the record has too many digits to be logged.

* `Arrival.message?_eq_some_iff` : what is accepted
* `Role.noting` : what a stored message makes of a role
* `Listener.receive_of_none`, `Listener.receive_eq` : the listener after a delivery
* `Listener.handle_receive_of_none`, `Listener.handle_receive_of_some` : the handle after it
* `Listener.result_receive` : the answer to an accepted delivery
-/

namespace SipBench

/-! ### Kinds of messages -/

theorem Message.isRequest_of_isResponse {m : Message} (h : m.isResponse = true) :
    m.isRequest = false := by
  obtain ⟨start, headers, body, source⟩ := m
  cases start with
  | response => rfl
  | _ => cases h

theorem Message.isResponse_of_isRequest {m : Message} (h : m.isRequest = true) :
    m.isResponse = false := by
  obtain ⟨start, headers, body, source⟩ := m
  cases start with
  | request => rfl
  | _ => cases h

theorem Message.status?_eq_some {m : Message} (h : m.isResponse = true) :
    ∃ status, m.status? = some status := by
  obtain ⟨start, headers, body, source⟩ := m
  cases start with
  | response status => exact ⟨status, rfl⟩
  | _ => cases h

theorem Message.method?_eq_some {m : Message} (h : m.isRequest = true) :
    ∃ method, m.method? = some method := by
  obtain ⟨start, headers, body, source⟩ := m
  cases start with
  | request method => exact ⟨method, rfl⟩
  | _ => cases h

theorem Message.status?_of_isRequest {m : Message} (h : m.isRequest = true) : m.status? = none := by
  obtain ⟨start, headers, body, source⟩ := m
  cases start with
  | request => rfl
  | _ => cases h

/-- The status code, if there is one, is a number. -/
def Message.HasNumericStatus (m : Message) : Prop :=
  ∀ status, m.status? = some status → ∃ n, status = .number n

/-- The status code, if there is one, can be shown. -/
def Message.HasWritableStatus (m : Message) : Prop :=
  ∀ status, m.status? = some status → status.isWritable = true

theorem Message.hasWritableStatus_of_isRequest {m : Message} (h : m.isRequest = true) :
    m.HasWritableStatus := by
  intro status hstatus
  rw [status?_of_isRequest h] at hstatus
  cases hstatus

theorem EventRecord.writes_summary {r : EventRecord}
    (h : r.message.isResponse = true ∨ r.message.isRequest = true) :
    Writes r.message.HasWritableStatus r.summary := by
  obtain ⟨⟨start, headers, body, source⟩, sequence, raw⟩ := r
  cases start with
  | request => exact (Writes.ok _).of_iff (iff_of_true ⟨⟩ (by rintro _ ⟨⟩))
  | response status =>
    exact ((Writes.write status).map _).of_iff
      ⟨by rintro hstatus _ ⟨⟩; exact hstatus, fun hstatus => hstatus status rfl⟩
  | plain => simp [Message.isResponse, Message.isRequest] at h

namespace Arrival

/-- What is accepted is a message of the kind that its list holds. -/
theorem message?_eq_some_iff {a : Arrival} {m : Message} :
    a.message? = some m ↔ a.item = .message m ∧
      match a.list with
      | .responses => m.isResponse = true
      | .requests => m.isRequest = true := by
  obtain ⟨list, item, raw, handle⟩ := a
  cases list <;> cases item <;>
    simp only [message?, Option.ite_none_right_eq_some, Option.some.injEq, Item.message.injEq,
      reduceCtorEq, false_and]
  · exact ⟨fun ⟨h, e⟩ => ⟨e, e ▸ h⟩, fun ⟨e, h⟩ => ⟨e ▸ h, e⟩⟩
  · exact ⟨fun ⟨h, e⟩ => ⟨e, e ▸ h⟩, fun ⟨e, h⟩ => ⟨e ▸ h, e⟩⟩

theorem isRequest_eq_not_isResponse {a : Arrival} {m : Message} (h : a.message? = some m) :
    m.isRequest = !m.isResponse := by
  obtain ⟨-, hkind⟩ := message?_eq_some_iff.1 h
  split at hkind
  · rw [hkind, Message.isRequest_of_isResponse hkind, Bool.not_true]
  · rw [hkind, Message.isResponse_of_isRequest hkind, Bool.not_false]

end Arrival

namespace Role

/-- The role after a message has been stored under a number: a call is answered by a success to an
INVITE, and a subscription gets the errors of the message. -/
def noting (m : Message) (sequence : Int) : Role → Role
  | call answered => .call (answered || m.status?.any fun status =>
      (Listener.answers m status).toOption.getD false)
  | subscription errors => .subscription (errors ++ Listener.notifyErrors m sequence)
  | role => role

@[simp] theorem fresh_noting (role : Role) (m : Message) (sequence : Int) :
    (role.noting m sequence).fresh = role.fresh := by
  cases role <;> rfl

end Role

namespace Listener

/-! ### Storing a record -/

theorem listener_stored (after : Listener) (handle : Option Transaction) (record : EventRecord) :
    (stored after handle record).listener = after := by
  unfold stored
  split <;> rfl

theorem result_stored (after : Listener) (handle : Option Transaction) (record : EventRecord) :
    (stored after handle record).result = record.summary >>= fun _ => pure record := by
  unfold stored
  cases record.summary <;> rfl

section

variable {record : EventRecord}
  (h : record.message.isResponse = true ∨ record.message.isRequest = true)
include h

theorem result_stored_of_writable (hwrite : record.message.HasWritableStatus) (after : Listener)
    (handle : Option Transaction) : (stored after handle record).result = .ok record := by
  obtain ⟨text, htext⟩ := (EventRecord.writes_summary h).tells hwrite
  rw [result_stored, htext]
  rfl

theorem result_stored_of_not_writable (hwrite : ¬ record.message.HasWritableStatus)
    (after : Listener) (handle : Option Transaction) :
    (stored after handle record).result = .error .tooManyDigits := by
  rw [result_stored, (EventRecord.writes_summary h).refuses hwrite]
  rfl

end

/-! ### The listener after a delivery -/

theorem notifyErrors_of_isResponse {m : Message} (h : m.isResponse = true) (sequence : Int) :
    notifyErrors m sequence = [] := by
  obtain ⟨start, headers, body, source⟩ := m
  cases start with
  | response => rfl
  | _ => cases h

/-- A call that looks at a stored response changes nothing of the listener but its role. -/
theorem listener_noteAnswer {d : Delivery} {m : Message} {record : EventRecord}
    (h : m.isResponse = true) (hresult : d.result = .ok record) (sequence : Int) :
    (noteAnswer d m).listener =
      { d.listener with role := d.listener.role.noting m sequence } := by
  obtain ⟨⟨name, role, responses, requests, next, errorMessage⟩, handle, result, log⟩ := d
  obtain ⟨status, hstatus⟩ := Message.status?_eq_some h
  obtain rfl : result = .ok record := hresult
  cases role with
  | call answered =>
    simp only [noteAnswer, hstatus, Role.noting, Option.any_some]
    cases answers m status with
    | error fault => simp [Except.toOption]
    | ok answersCall => rfl
  | subscription errors =>
    simp only [noteAnswer, Role.noting, notifyErrors_of_isResponse h, List.append_nil]
  | _ => rfl

theorem noteAnswer_of_error {d : Delivery} {fault : Fault} (h : d.result = .error fault)
    (m : Message) : noteAnswer d m = d := by
  unfold noteAnswer
  split
  · simp_all
  · rfl

theorem toOption_getD_eq_true {answer : Except Fault Bool} :
    answer.toOption.getD false = true ↔ answer = .ok true := by
  cases answer <;> simp [Except.toOption]

theorem isWritable_of_answers {m : Message} {status : Value} (h : answers m status = .ok true) :
    status.isWritable = true := by
  cases status with
  | number n =>
    simp only [answers, Except.ok.injEq, Bool.and_eq_true, Number.liesIn] at h
    obtain ⟨⟨hlow, hhigh⟩, -⟩ := h
    exact Number.isWritable_of_less hlow hhigh (by decide) rfl
  | _ => cases h

theorem noting_of_not_writable {m : Message} (h : m.isResponse = true)
    (hwrite : ¬ m.HasWritableStatus) (sequence : Int) (role : Role) :
    role.noting m sequence = role := by
  cases role with
  | call answered =>
    obtain ⟨status, hstatus⟩ := Message.status?_eq_some h
    -- what answers a call lies between 200 and 300, and such a number is short enough
    have hnot : ¬ answers m status = .ok true := by
      intro hanswers
      refine hwrite fun status' hstatus' => ?_
      obtain rfl : status = status' := Option.some.inj (hstatus.symm.trans hstatus')
      exact isWritable_of_answers hanswers
    have hfalse : (answers m status).toOption.getD false = false := by
      rwa [Bool.eq_false_iff, Ne, toOption_getD_eq_true]
    rw [Role.noting, hstatus, Option.any_some, hfalse, Bool.or_false]
  | subscription errors =>
    simp only [Role.noting, notifyErrors_of_isResponse h, List.append_nil]
  | _ => rfl

/-- A subscription that looks at a stored request changes nothing of the listener but its role. -/
theorem listener_noteEventErrors {d : Delivery} {m : Message} {record : EventRecord}
    (h : m.isRequest = true) (hresult : d.result = .ok record) :
    (noteEventErrors d m).listener =
      { d.listener with role := d.listener.role.noting m record.sequence } := by
  obtain ⟨⟨name, role, responses, requests, next, errorMessage⟩, handle, result, log⟩ := d
  obtain rfl : result = .ok record := hresult
  cases role with
  | call answered =>
    simp only [noteEventErrors, Role.noting, Message.status?_of_isRequest h, Option.any_none,
      Bool.or_false]
  | _ => rfl

/-- A delivery of the wrong kind is refused and leaves the listener alone. -/
theorem receive_of_none {a : Arrival} (h : a.message? = none) (l : Listener) :
    (l.receive a).listener = l ∧ ∃ text, (l.receive a).result = .error (.wrongType text) := by
  obtain ⟨list, item, raw, handle⟩ := a
  cases list <;> cases item <;> simp only [Arrival.message?, ite_eq_right_iff, reduceCtorEq,
    imp_false, Bool.not_eq_true] at h
  · simp [receive, receiveResponse, h]
  · simp [receive, receiveResponse]
  · simp [receive, receiveRequest, h]
  · simp [receive, receiveRequest]

/-- An accepted delivery is stored under the next number, and the role takes note of it. -/
theorem receive_eq {a : Arrival} {m : Message} (h : a.message? = some m) (l : Listener) :
    (l.receive a).listener = { l.append (l.nextRecord m a.raw) a.list with
      role := l.role.noting m l.nextSequence } := by
  obtain ⟨list, item, raw, handle⟩ := a
  obtain ⟨rfl, hkind⟩ := Arrival.message?_eq_some_iff.1 h
  cases list with
  | responses =>
    simp only at hkind
    simp only [receive, receiveResponse, hkind, ↓reduceIte]
    -- the record is stored first; the look at the message that follows keeps all but the role
    by_cases hwrite : m.HasWritableStatus
    · rw [listener_noteAnswer hkind (result_stored_of_writable (.inl hkind) hwrite _ handle)
        l.nextSequence, listener_stored]
      rfl
    · rw [noteAnswer_of_error (result_stored_of_not_writable (.inl hkind) hwrite _ handle),
        listener_stored, noting_of_not_writable hkind hwrite]
      rfl
  | requests =>
    simp only at hkind
    simp only [receive, receiveRequest, hkind, ↓reduceIte]
    have hwrite := Message.hasWritableStatus_of_isRequest hkind
    rw [listener_noteEventErrors hkind (result_stored_of_writable (.inr hkind) hwrite _ handle),
      listener_stored]
    rfl

theorem receive_of_some {a : Arrival} {m : Message} (h : a.message? = some m) (l : Listener) :
    ∃ role, role.fresh = l.role.fresh ∧
      (l.receive a).listener = { l.append (l.nextRecord m a.raw) a.list with role } :=
  ⟨_, Role.fresh_noting .., receive_eq h l⟩

/-! ### The handle after a delivery -/

theorem handle_stored (after : Listener) (handle : Option Transaction) (record : EventRecord) :
    (stored after handle record).handle = handle.map (·.addEvent record) := by
  unfold stored
  split <;> rfl

theorem handle_noteAnswer (d : Delivery) (m : Message) : (noteAnswer d m).handle = d.handle := by
  unfold noteAnswer
  split
  · split <;> rfl
  · rfl

theorem handle_noteEventErrors (d : Delivery) (m : Message) :
    (noteEventErrors d m).handle = d.handle := by
  unfold noteEventErrors
  split <;> rfl

theorem handle_receive_of_none {a : Arrival} (h : a.message? = none) (l : Listener) :
    (l.receive a).handle = a.handle := by
  obtain ⟨list, item, raw, handle⟩ := a
  cases list <;> cases item <;> simp only [Arrival.message?, ite_eq_right_iff, reduceCtorEq,
    imp_false, Bool.not_eq_true] at h
  · simp [receive, receiveResponse, h]
  · simp [receive, receiveResponse]
  · simp [receive, receiveRequest, h]
  · simp [receive, receiveRequest]

/-- The handle gets the very record that the listener stores. -/
theorem handle_receive_of_some {a : Arrival} {m : Message} (h : a.message? = some m)
    (l : Listener) :
    (l.receive a).handle = a.handle.map (·.addEvent (l.nextRecord m a.raw)) := by
  obtain ⟨list, item, raw, handle⟩ := a
  obtain ⟨rfl, hkind⟩ := Arrival.message?_eq_some_iff.1 h
  cases list with
  | responses =>
    simp only at hkind
    simp only [receive, receiveResponse, hkind, ↓reduceIte]
    rw [handle_noteAnswer, handle_stored]
  | requests =>
    simp only at hkind
    simp only [receive, receiveRequest, hkind, ↓reduceIte]
    rw [handle_noteEventErrors, handle_stored]

/-- Two deliveries that leave a listener alike and are answered alike. -/
def Delivery.Alike (d d' : Delivery) : Prop := d.listener = d'.listener ∧ d.result = d'.result

theorem alike_stored (after : Listener) (handle handle' : Option Transaction)
    (record : EventRecord) : (stored after handle record).Alike (stored after handle' record) := by
  unfold stored
  split <;> exact ⟨rfl, rfl⟩

theorem Delivery.Alike.noteAnswer {d d' : Delivery} (h : d.Alike d') (m : Message) :
    (noteAnswer d m).Alike (noteAnswer d' m) := by
  obtain ⟨listener, handle, result, log⟩ := d
  obtain ⟨listener', handle', result', log'⟩ := d'
  obtain ⟨rfl, rfl⟩ := h
  simp only [Listener.noteAnswer]
  split
  · split <;> exact ⟨rfl, rfl⟩
  · exact ⟨rfl, rfl⟩

theorem Delivery.Alike.noteEventErrors {d d' : Delivery} (h : d.Alike d') (m : Message) :
    (noteEventErrors d m).Alike (noteEventErrors d' m) := by
  obtain ⟨listener, handle, result, log⟩ := d
  obtain ⟨listener', handle', result', log'⟩ := d'
  obtain ⟨rfl, rfl⟩ := h
  simp only [Listener.noteEventErrors]
  split <;> exact ⟨rfl, rfl⟩

/-- What a delivery does to a listener, and its answer, do not depend on the handle. -/
theorem receive_alike (l : Listener) (a : Arrival) (handle : Option Transaction) :
    (l.receive { a with handle }).Alike (l.receive a) := by
  obtain ⟨list, item, raw, handle'⟩ := a
  cases item with
  | other v => cases list <;> exact ⟨rfl, rfl⟩
  | message m =>
    cases list with
    | responses =>
      simp only [receive, receiveResponse]
      split
      · exact (alike_stored ..).noteAnswer m
      · exact ⟨rfl, rfl⟩
    | requests =>
      simp only [receive, receiveRequest]
      split
      · exact (alike_stored ..).noteEventErrors m
      · exact ⟨rfl, rfl⟩

/-! ### The answer to a delivery -/

theorem result_noteEventErrors (d : Delivery) (m : Message) :
    (noteEventErrors d m).result = d.result := by
  unfold noteEventErrors
  split <;> rfl

theorem result_noteAnswer {d : Delivery} {m : Message}
    (h : (∀ b, d.listener.role ≠ .call b) ∨ m.HasNumericStatus) :
    (noteAnswer d m).result = d.result := by
  unfold noteAnswer
  split
  · rename_i answered status record hrole hstatus _
    rcases h with h | h
    · exact absurd hrole (h answered)
    · obtain ⟨n, rfl⟩ := h status hstatus
      rfl
  · rfl

/-- An accepted delivery is answered with its record, unless its status code has too many digits or
a call cannot compare it. -/
theorem result_receive {a : Arrival} {m : Message} (h : a.message? = some m) {l : Listener}
    (hcall : (∀ b, l.role ≠ .call b) ∨ m.HasNumericStatus) (hwrite : m.HasWritableStatus) :
    (l.receive a).result = .ok (l.nextRecord m a.raw) := by
  obtain ⟨list, item, raw, handle⟩ := a
  obtain ⟨rfl, hkind⟩ := Arrival.message?_eq_some_iff.1 h
  cases list with
  | responses =>
    simp only at hkind
    simp only [receive, receiveResponse, hkind, ↓reduceIte]
    rw [result_noteAnswer, result_stored_of_writable (.inl hkind) hwrite]
    rwa [listener_stored]
  | requests =>
    simp only at hkind
    simp only [receive, receiveRequest, hkind, ↓reduceIte]
    rw [result_noteEventErrors, result_stored_of_writable (.inr hkind) hwrite]

/-! ### Answered calls -/

/-- A call is answered by the delivery of a success to an INVITE and by no other delivery. -/
theorem role_receive {l : Listener} {answered : Bool} (h : l.role = .call answered)
    (a : Arrival) : ∃ after, (l.receive a).listener.role = .call after ∧
      (after = true ↔ answered = true ∨ a.list = .responses ∧
        ∃ m status, a.message? = some m ∧ m.status? = some status ∧
          answers m status = .ok true) := by
  cases hm : a.message? with
  | none => exact ⟨answered, by rw [(receive_of_none hm l).1, h], by simp⟩
  | some m =>
    refine ⟨_, by rw [receive_eq hm, h, Role.noting], ?_⟩
    have hkind := (Arrival.message?_eq_some_iff.1 hm).2
    have hlist {status : Value} (hstatus : m.status? = some status) : a.list = .responses := by
      cases hlist : a.list with
      | responses => rfl
      | requests =>
        rw [hlist] at hkind
        rw [Message.status?_of_isRequest hkind] at hstatus
        cases hstatus
    simp only [Bool.or_eq_true, Option.any_eq_true, toOption_getD_eq_true, Option.some.injEq]
    exact or_congr_right ⟨fun ⟨status, hstatus, hanswers⟩ =>
      ⟨hlist hstatus, m, status, rfl, hstatus, hanswers⟩,
      fun ⟨_, _, status, rfl, hanswers⟩ => ⟨status, hanswers⟩⟩

end Listener

end SipBench
