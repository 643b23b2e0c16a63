import SipBench.Check
import SipBench.Proofs.Listener.EventErrors

/-!
# Life after a disposal

A listener that has been disposed of cannot be told from a new one of its kind and its name,
whatever was done with it before, but for its numbers: those go on where they were, so that all of
them are larger by the number of deliveries that were accepted before.

* `EventRecord.renumber`, `EventError.renumber` : records and errors under larger numbers
* `Listener.Follows` : what two listeners have to do with each other that differ in their numbers
* `Listener.Follows.perform` : every operation keeps it
* `Listener.run_after_dispose` : what can be seen after a disposal
-/

namespace SipBench

/-! ### Larger numbers -/

/-- The record under a number that is larger by `k`. -/
def EventRecord.renumber (k : ℕ) (r : EventRecord) : EventRecord :=
  { r with sequence := r.sequence + k }

namespace EventError

/-- The error with the number of a request that is larger by `k`; what the test has noted has no
number. -/
def renumber (k : ℕ) : EventError → EventError
  | noted text => .noted text
  | missingHeader sequence name => .missingHeader (sequence + k) name

theorem ofMessage_add (m : Message) (sequence : Int) (k : ℕ) :
    ofMessage m (sequence + k) = (ofMessage m sequence).map (renumber k) := by
  unfold ofMessage
  split
  · rw [List.map_map]
    rfl
  · rfl

end EventError

namespace Listener

/-- What can be seen if all numbers are larger by `k`. -/
def Snapshot.renumber (k : ℕ) (s : Snapshot) : Snapshot :=
  { s with events := s.events.map (·.renumber k) }

theorem Operation.eventErrors_add (op : Operation) (number : Int) (k : ℕ) :
    op.eventErrors (number + k) = (op.eventErrors number).map (·.renumber k) := by
  cases op with
  | deliver a =>
    cases h : a.message? with
    | none => simp [eventErrors, h]
    | some m => simp [eventErrors, h, EventError.ofMessage_add]
  | _ => rfl

/-! ### Two listeners that differ in their numbers -/

/-- A listener that differs from another one in nothing but its numbers, which are larger by `k`;
`errors` are those of the other one, if it is a subscription. -/
structure Follows (k : ℕ) (errors : List EventError) (later l : Listener) : Prop where
  name : later.name = l.name
  role : l.role = l.role.withErrors errors
  role_later : later.role = l.role.withErrors (errors.map (·.renumber k))
  responses : later.responses = l.responses.map (·.renumber k)
  requests : later.requests = l.requests.map (·.renumber k)
  nextSequence : later.nextSequence = l.nextSequence + k
  errorMessage : later.errorMessage = l.errorMessage

variable {k : ℕ} {errors : List EventError} {later l : Listener}

theorem Follows.deliver (h : later.Follows k errors l) {a : Arrival} {m : Message}
    (hm : a.message? = some m) :
    (later.receive a).listener.Follows k (errors ++ EventError.ofMessage m l.nextSequence)
      (l.receive a).listener := by
  have hrecord : later.nextRecord m a.raw = (l.nextRecord m a.raw).renumber k := by
    simp [nextRecord, EventRecord.renumber, h.nextSequence]
  rw [receive_eq hm, receive_eq hm, hrecord]
  constructor
  · cases a.list <;> exact h.name
  · show l.role.noting m l.nextSequence = _
    conv_lhs => rw [h.role, Role.noting_withErrors _ _ _ _ l.nextSequence]
  · show later.role.noting m later.nextSequence = _
    rw [h.role_later, Role.noting_withErrors _ _ _ _ l.nextSequence, h.nextSequence,
      Int.natCast_add, EventError.ofMessage_add, ← List.map_append]
  · cases a.list <;> simp [append, h.responses]
  · cases a.list <;> simp [append, h.requests]
  · cases a.list <;> simp [append, h.nextSequence, Nat.add_right_comm]
  · cases a.list <;> exact h.errorMessage

theorem Follows.dispose (h : later.Follows k errors l) :
    later.dispose.1.Follows k [] l.dispose.1 := by
  constructor
  · exact h.name
  · show l.role.fresh = l.role.fresh.withErrors []
    cases l.role <;> rfl
  · show later.role.fresh = l.role.fresh.withErrors []
    rw [h.role_later]
    cases l.role <;> rfl
  · rfl
  · rfl
  · exact h.nextSequence
  · rfl

/-- What an operation that stores nothing does to a role keeps what is known of its errors. -/
theorem Operation.onRole_withErrors {op : Operation} (h : op.stored? = none) (role : Role)
    (errors : List EventError) (number : Int) :
    op.onRole (role.withErrors errors) =
      (op.onRole role).withErrors (errors ++ op.eventErrors number) := by
  cases op with
  | deliver a =>
    have ha : a.message? = none := by simpa [Operation.stored?] using h
    simp [eventErrors, ha, onRole]
  | addEventError text => cases role <;> simp [eventErrors, onRole, Role.withErrors, EventError.text]
  | _ => cases role <;> simp [eventErrors, onRole, Role.withErrors]

theorem Follows.other (h : later.Follows k errors l) {op : Operation} (hs : op.stored? = none)
    (hd : op.isDispose = false) :
    (later.perform op).2.Follows k (errors ++ op.eventErrors l.nextSequence)
      (l.perform op).2 := by
  rw [perform_of_stored?_eq_none hs hd, perform_of_stored?_eq_none hs hd]
  constructor
  · exact h.name
  · show op.onRole l.role = _
    conv_lhs => rw [h.role, Operation.onRole_withErrors hs _ _ l.nextSequence]
  · show op.onRole later.role = _
    rw [h.role_later, Operation.onRole_withErrors hs _ _ later.nextSequence, h.nextSequence,
      Int.natCast_add, Operation.eventErrors_add, ← List.map_append]
  · exact h.responses
  · exact h.requests
  · exact h.nextSequence
  · show op.onErrorMessage later.errorMessage = _
    rw [h.errorMessage]

/-- What an operation adds to the errors of a log does not depend on the listener. -/
theorem errorLog_append_singleton (ops : List Operation) (op : Operation) :
    errorLog (ops ++ [op]) = if op.isDispose then [] else
      errorLog ops ++ op.eventErrors ((accepted ops).length + 1) := by
  cases hd : op.isDispose with
  | false => rw [errorLog_append hd, if_neg Bool.false_ne_true]
  | true =>
    obtain rfl := Operation.eq_dispose_of_isDispose hd
    rw [errorLog_append_dispose, if_pos rfl]

/-- **Every operation keeps the difference of two listeners.** -/
theorem Follows.perform (h : later.Follows k errors l) (op : Operation) :
    (later.perform op).2.Follows k
      (if op.isDispose then [] else errors ++ op.eventErrors l.nextSequence) (l.perform op).2 := by
  cases hs : op.stored? with
  | some d =>
    cases op with
    | deliver a =>
      obtain ⟨m, hm, -⟩ := Option.map_eq_some_iff.1 hs
      simp only [Operation.isDispose, Bool.false_eq_true, ↓reduceIte, Operation.eventErrors, hm,
        Option.map_some, Option.getD_some]
      exact h.deliver hm
    | _ => cases hs
  | none =>
    cases hd : op.isDispose with
    | false => exact h.other hs hd
    | true =>
      obtain rfl := Operation.eq_dispose_of_isDispose hd
      exact h.dispose

theorem follows_new (role : Role) (name : String) (before : List Operation) :
    ((new role name).run (before ++ [.dispose])).Follows (accepted before).length []
      (new role name) := by
  rw [run_append, run_singleton]
  have hholds := holds_run role name before
  have hfresh : ((new role name).run before).role.fresh = role.fresh := by
    rw [fresh_run]
    cases role <;> rfl
  constructor
  · exact name_run _ before
  · show role.fresh = role.fresh.withErrors []
    cases role <;> rfl
  · show ((new role name).run before).role.fresh = role.fresh.withErrors []
    rw [hfresh]
    cases role <;> rfl
  · rfl
  · rfl
  · show ((new role name).run before).nextSequence = 1 + _
    rw [hholds.nextSequence, Nat.add_comm]
  · rfl

/-- After a disposal a listener follows a new one, whatever is done with both. -/
theorem follows_run (role : Role) (name : String) (before after : List Operation) :
    ((new role name).run (before ++ [.dispose] ++ after)).Follows (accepted before).length
      (errorLog after) ((new role name).run after) := by
  induction after using List.reverseRecOn with
  | nil =>
    rw [List.append_nil]
    exact follows_new role name before
  | append_singleton after op ih =>
    rw [← List.append_assoc, run_append _ _ [op], run_append _ after, run_singleton,
      run_singleton, errorLog_append_singleton]
    have hnext := (holds_run role name after).nextSequence
    have h := ih.perform op
    rwa [hnext] at h

/-! ### What can be seen -/

theorem Follows.events (h : later.Follows k errors l) :
    later.events = l.events.map (·.renumber k) := by
  rw [Listener.events, Listener.events, h.responses, h.requests, ← List.map_append]
  refine (List.map_mergeSort fun a _ b _ => ?_).symm
  simp [EventRecord.renumber]

theorem Follows.receivedResponses (h : later.Follows k errors l) :
    later.receivedResponses = l.receivedResponses := by
  rw [Listener.receivedResponses, Listener.receivedResponses, h.responses, List.map_map]
  rfl

theorem Follows.receivedRequests (h : later.Follows k errors l) :
    later.receivedRequests = l.receivedRequests := by
  rw [Listener.receivedRequests, Listener.receivedRequests, h.requests, List.map_map]
  rfl

theorem Follows.snapshot (h : later.Follows k errors l) :
    later.snapshot = l.snapshot.renumber k := by
  simp only [Listener.snapshot, Snapshot.renumber, h.events, lastResponse?, lastRequest?,
    h.receivedResponses, h.receivedRequests]

theorem Follows.answered (h : later.Follows k errors l) : later.answered = l.answered := by
  rw [Listener.answered, Listener.answered, h.role_later]
  cases l.role <;> rfl

theorem Follows.dialog (h : later.Follows k errors l) : later.dialog = l.dialog := by
  rw [Listener.dialog, Listener.dialog, h.role_later]
  cases l.role <;> rfl

/-- The errors that a listener shows if its role, provided that it has errors, has these. -/
def errorsOf (role : Role) (errors : List EventError) : Except Fault (List String) :=
  match role with
  | .subscription _ => .ok (errors.map (·.text))
  | role => .error (.missingAttribute role.className "event_errors")

theorem eventErrors_eq {role : Role} (h : l.role = role.withErrors errors) :
    l.eventErrors = errorsOf role errors := by
  rw [eventErrors, h]
  cases role <;> rfl

theorem errorsOf_of_fresh {role role' : Role} (h : role.fresh = role'.fresh)
    (errors : List EventError) : errorsOf role errors = errorsOf role' errors := by
  cases role <;> cases role' <;> first | rfl | cases h

/-- The result of the check that there are no errors. -/
def errorsReport (label : Option String) (errors : Except Fault (List String)) :
    Except Fault Unit :=
  Check.report label (errors.map fun texts =>
    if texts.isEmpty then none else some (.subscriptionErrors texts))

theorem run_noSubscriptionErrors (l : Listener) (label : Option String) :
    ListenerCheck.noSubscriptionErrors.run (some l) label = errorsReport label l.eventErrors := by
  simp only [ListenerCheck.run, ListenerCheck.finding, errorsReport]
  cases l.eventErrors <;> rfl

/-- A check of anything but the errors of a subscription does not tell the two listeners apart. -/
theorem Follows.run_check (h : later.Follows k errors l) {check : ListenerCheck}
    (hcheck : check ≠ .noSubscriptionErrors) (label : Option String) :
    check.run (some later) label = check.run (some l) label := by
  have hfinding : ListenerCheck.finding later check = ListenerCheck.finding l check := by
    cases check with
    | noSubscriptionErrors => exact absurd rfl hcheck
    | lastOperationSuccess | lastOperationFail =>
      simp only [ListenerCheck.finding, h.errorMessage]
    | responseReceived | responseNotReceived =>
      simp only [ListenerCheck.finding, ResponseQuery.answer, ListenerCheck.missingResponse,
        ListenerCheck.unwantedResponse, ListenerCheck.receivedCodes, h.receivedResponses, h.name]
    | requestReceived | requestNotReceived =>
      simp only [ListenerCheck.finding, RequestQuery.answer, ListenerCheck.missingRequest,
        ListenerCheck.unwantedRequest, ListenerCheck.receivedMethods, h.receivedRequests, h.name]
    | answered | notAnswered => simp only [ListenerCheck.finding, h.answered, h.name]
  simp only [ListenerCheck.run, hfinding]

/-- **A disposal is a fresh start, but for the numbers.**  Take a listener of any kind that is
disposed of after any operations, and a new one of the same kind and name, and do the same with both
from then on, further disposals among it.  All that a test can see of the first is what it sees of
the second: snapshots, merged events and last messages, the error message, whether a call was
answered, the errors of a subscription, the dialog, and the result of every check, with its wording.
Only the numbers of the records, and those in the errors that were found in NOTIFY requests, are
larger, by the number of deliveries that were accepted before the disposal. -/
theorem run_after_dispose (role : Role) (name : String) (before after : List Operation) :
    let later := (new role name).run (before ++ [.dispose] ++ after)
    let fresh := (new role name).run after
    let k := (accepted before).length
    let errors := errorLog after
    later.snapshot = fresh.snapshot.renumber k ∧
    later.text = fresh.text ∧
    later.errorMessage = fresh.errorMessage ∧
    later.answered = fresh.answered ∧
    later.dialog = fresh.dialog ∧
    (fresh.eventErrors = errorsOf role errors ∧
      later.eventErrors = errorsOf role (errors.map (·.renumber k))) ∧
    (∀ (check : ListenerCheck) label, check ≠ .noSubscriptionErrors →
      check.run (some later) label = check.run (some fresh) label) ∧
    ∀ label, ListenerCheck.noSubscriptionErrors.run (some fresh) label =
        errorsReport label (errorsOf role errors) ∧
      ListenerCheck.noSubscriptionErrors.run (some later) label =
        errorsReport label (errorsOf role (errors.map (·.renumber k))) := by
  intro later fresh k errors
  have h : later.Follows k errors fresh := follows_run role name before after
  have hrole : fresh.role.fresh = role.fresh := by
    rw [fresh_run]
    cases role <;> rfl
  have herrors : fresh.eventErrors = errorsOf role errors := by
    rw [eventErrors_eq h.role, errorsOf_of_fresh hrole]
  have herrors_later : later.eventErrors = errorsOf role (errors.map (·.renumber k)) := by
    rw [eventErrors_eq h.role_later, errorsOf_of_fresh hrole]
  refine ⟨h.snapshot, ?_, h.errorMessage, h.answered, h.dialog, ⟨herrors, herrors_later⟩,
    fun check label hcheck => h.run_check hcheck label, fun label => ⟨?_, ?_⟩⟩
  · simp only [Listener.text, h.role_later, h.name, h.responses, h.requests, List.length_map,
      Role.className_withErrors]
  · rw [run_noSubscriptionErrors, herrors]
  · rw [run_noSubscriptionErrors, herrors_later]

end Listener

end SipBench
