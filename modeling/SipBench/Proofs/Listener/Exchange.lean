import SipBench.Listener.Exchange
import SipBench.Proofs.Listener.Log

/-!
# The log of a transaction handle

Listeners and handles are changed together by a delivery and apart by everything else.  What is in
the log of a handle follows from the operations alone: the records that it was given directly, and
one record for each accepted delivery that named it, under the number that the listener gave it.

* `Exchange.operations` : what was done to one listener
* `Exchange.observed` : the log of a handle, from the operations alone
* `Exchange.listeners_run` : a listener among others is a listener by itself
* `Exchange.handle_log` : the log of a handle is what was observed
-/

namespace SipBench

namespace Exchange

variable {L H : Type} [DecidableEq L] [DecidableEq H]

/-! ### What was done -/

/-- What an operation does to the listener `i`. -/
def Operation.on? (i : L) : Operation L H → Option Listener.Operation
  | .deliver j a _ => if j = i then some (.deliver a) else none
  | .operate j op => if j = i then some op else none
  | .addEvent .. => none

/-- What some operations do to the listener `i`. -/
def operations (i : L) (ops : List (Operation L H)) : List Listener.Operation :=
  ops.filterMap (·.on? i)

/-- The record that an operation gives to the handle `h` after the operations `before`: the one that
it brings, or that of an accepted delivery under the next number of its listener. -/
def Operation.given? (h : H) (before : List (Operation L H)) : Operation L H → Option EventRecord
  | .deliver i a k =>
    if k = h then a.message?.map fun m =>
      ⟨m, (Listener.accepted (operations i before)).length + 1, a.raw⟩
    else none
  | .operate .. => none
  | .addEvent k r => if k = h then some r else none

/-- The records that some operations give to the handle `h`, after the operations `before`. -/
def observedAfter (h : H) (before : List (Operation L H)) :
    List (Operation L H) → List EventRecord
  | [] => []
  | op :: ops => (op.given? h before).toList ++ observedAfter h (before ++ [op]) ops

/-- The records that the handle `h` was given, in order. -/
def observed (h : H) (ops : List (Operation L H)) : List EventRecord := observedAfter h [] ops

theorem observedAfter_append (h : H) (before ops more : List (Operation L H)) :
    observedAfter h before (ops ++ more) =
      observedAfter h before ops ++ observedAfter h (before ++ ops) more := by
  induction ops generalizing before with
  | nil => simp [observedAfter]
  | cons op ops ih => simp [observedAfter, ih]

theorem observed_append_singleton (h : H) (ops : List (Operation L H)) (op : Operation L H) :
    observed h (ops ++ [op]) = observed h ops ++ (op.given? h ops).toList := by
  simp [observed, observedAfter_append, observedAfter]

omit [DecidableEq H] in
theorem operations_append_singleton (i : L) (ops : List (Operation L H)) (op : Operation L H) :
    operations i (ops ++ [op]) = operations i ops ++ (op.on? i).toList := by
  rw [operations, List.filterMap_append, operations]
  cases h : op.on? i <;> simp [h]

/-! ### The listeners -/

@[simp] theorem run_append (e : Exchange L H) (ops more : List (Operation L H)) :
    e.run (ops ++ more) = (e.run ops).run more := List.foldl_append ..

theorem run_singleton (e : Exchange L H) (op : Operation L H) : e.run [op] = (e.perform op).2 := rfl

theorem perform_listeners (e : Exchange L H) (op : Operation L H) (i : L) :
    (e.perform op).2.listeners i = (e.listeners i).run (op.on? i).toList := by
  cases op with
  | addEvent k r => rfl
  | operate j op =>
    by_cases hj : j = i
    · subst hj
      simp [perform, Operation.on?, Listener.run_singleton]
    · simp [perform, Operation.on?, hj, putListener, Ne.symm hj, Listener.run]
  | deliver j a k =>
    by_cases hj : j = i
    · subst hj
      simp [perform, Operation.on?, Listener.run_singleton, Listener.perform,
        (Listener.receive_alike _ a _).1]
    · simp [perform, Operation.on?, hj, putListener, Ne.symm hj, Listener.run]

theorem listeners_run (e : Exchange L H) (ops : List (Operation L H)) (i : L) :
    (e.run ops).listeners i = (e.listeners i).run (operations i ops) := by
  induction ops using List.reverseRecOn with
  | nil => rfl
  | append_singleton ops op ih =>
    rw [run_append, run_singleton, perform_listeners, ih, operations_append_singleton,
      Listener.run_append]

section

variable (role : L → Role) (name : L → String) (handles : H → Transaction)

theorem listeners_hold (ops : List (Operation L H)) (i : L) :
    (((new role name handles).run ops).listeners i).Holds (operations i ops) := by
  rw [listeners_run]
  exact Listener.holds_run (role i) (name i) _

/-! ### The handles -/

/-- An operation gives a handle one more record or none, and changes nothing else of it. -/
theorem perform_handles {e : Exchange L H} {ops : List (Operation L H)}
    (he : ∀ i, (e.listeners i).Holds (operations i ops)) (op : Operation L H) (h : H) :
    (e.perform op).2.handles h =
      { e.handles h with events := (e.handles h).events ++ (op.given? h ops).toList } := by
  cases op with
  | operate i op => simp [perform, Operation.given?]
  | addEvent k r =>
    by_cases hk : k = h
    · subst hk
      simp [perform, Operation.given?, Transaction.addEvent]
    · simp [perform, Operation.given?, hk, putHandle, Ne.symm hk]
  | deliver i a k =>
    by_cases hk : k = h
    · subst hk
      cases hm : a.message? with
      | none =>
        have hhandle := Listener.handle_receive_of_none
          (a := { a with handle := some (e.handles k) }) hm (e.listeners i)
        simp [perform, Operation.given?, hm, hhandle]
      | some m =>
        have hhandle := Listener.handle_receive_of_some
          (a := { a with handle := some (e.handles k) }) hm (e.listeners i)
        simp [perform, Operation.given?, hm, hhandle, Transaction.addEvent, Listener.nextRecord,
          (he i).nextSequence]
    · simp [perform, Operation.given?, hk, putHandle, Ne.symm hk]

theorem handles_run (ops : List (Operation L H)) (h : H) :
    ((new role name handles).run ops).handles h = { handles h with events := observed h ops } := by
  induction ops using List.reverseRecOn with
  | nil => rfl
  | append_singleton ops op ih =>
    rw [run_append, run_singleton, perform_handles (listeners_hold role name handles ops), ih,
      observed_append_singleton]

end

/-! ### Handles of one listener -/

/-- If an operation gives a record to the handle `h`, it comes from the listener `i`. -/
def Operation.ComesFrom (i : L) (h : H) : Operation L H → Prop
  | .deliver j a k => k = h → a.message?.isSome = true → j = i
  | .operate .. => True
  | .addEvent k _ => k ≠ h

theorem on?_of_given? {i : L} {h : H} {ops : List (Operation L H)} {op : Operation L H}
    {r : EventRecord} (hfrom : op.ComesFrom i h) (hgiven : op.given? h ops = some r) :
    ∃ a, op.on? i = some (.deliver a) ∧
      ((Listener.Operation.deliver a).stored?.map fun d =>
        Listener.numbered (d, (Listener.accepted (operations i ops)).length + 1)) = some r := by
  cases op with
  | operate j op => cases hgiven
  | addEvent k r =>
    rw [Operation.given?, if_neg hfrom] at hgiven
    cases hgiven
  | deliver j a k =>
    simp only [Operation.given?, Option.ite_none_right_eq_some, Option.map_eq_some_iff] at hgiven
    obtain ⟨hk, m, hm, rfl⟩ := hgiven
    obtain rfl := hfrom hk (by simp [hm])
    exact ⟨a, if_pos rfl, by simp [Listener.Operation.stored?, hm, Listener.numbered]⟩

theorem observed_sublist {i : L} {h : H} {ops : List (Operation L H)}
    (hfrom : ∀ op ∈ ops, op.ComesFrom i h) :
    (observed h ops).Sublist (Listener.accepted (operations i ops)) := by
  induction ops using List.reverseRecOn with
  | nil => exact List.Sublist.slnil
  | append_singleton ops op ih =>
    obtain ⟨hops, hop⟩ := List.forall_mem_append.1 hfrom
    rw [observed_append_singleton, operations_append_singleton]
    cases hgiven : op.given? h ops with
    | none =>
      rw [Option.toList_none, List.append_nil]
      exact (ih hops).trans (Listener.accepted_isPrefix _ _).sublist
    | some r =>
      obtain ⟨a, hon, hstored⟩ := on?_of_given? (List.forall_mem_singleton.1 hop) hgiven
      simp only [hon, Option.toList_some, Listener.accepted_append_singleton, hstored]
      exact (ih hops).append (List.Sublist.refl _)

/-! ### Deliveries -/

section

variable {role : L → Role} {name : L → String} {handles : H → Transaction}

/-- An accepted delivery stores one record, at the end of the log of the listener and of the
handle. -/
theorem perform_deliver {a : Arrival} {m : Message} (hm : a.message? = some m)
    (ops : List (Operation L H)) (i : L) (h : H) :
    let e := (new role name handles).run ops
    let record : EventRecord := ⟨m, (Listener.accepted (operations i ops)).length + 1, a.raw⟩
    let after := (e.perform (.deliver i a h)).2
    (after.listeners i).events = (e.listeners i).events ++ [record] ∧
    (after.handles h).events = (e.handles h).events ++ [record] := by
  intro e record after
  have hholds := listeners_hold role name handles ops
  have hstored : (Listener.Operation.deliver a).stored? = some (m, a.raw) := by
    simp [Listener.Operation.stored?, hm]
  constructor
  · have hafter := (hholds i).perform (.deliver a)
    have heq : after.listeners i = ((e.listeners i).perform (.deliver a)).2 := by
      simp [after, perform_listeners, Operation.on?, Listener.run_singleton]
    rw [heq, hafter.events, (hholds i).events, Listener.log_append rfl, hstored]
    rfl
  · rw [perform_handles hholds]
    simp [Operation.given?, hm, record, e]

end

/-- **The log of a handle** holds the records that were observed on it, in order, and nothing else:
those given to it directly and those of the accepted deliveries that named it.  Its side, the
transaction of the stack and the request stay as they were when it was opened.  An accepted delivery
that names it gives it the very record that the listener stores, and answers with it if the status
code is none or a number that can be shown.  No operation takes a record away, the disposal of a
listener least of all.  If all its records come from one listener, their numbers increase, and until
that listener is disposed of for the first time they are some of its events in the same order. -/
theorem handle_log (role : L → Role) (name : L → String) (handles : H → Transaction)
    (ops : List (Operation L H)) (h : H) :
    let e := (new role name handles).run ops
    (e.handles h).events = observed h ops ∧
    ((e.handles h).side = (handles h).side ∧ (e.handles h).client? = (handles h).client? ∧
      (e.handles h).server? = (handles h).server? ∧
      (e.handles h).request = (handles h).request) ∧
    (∀ i a m, a.message? = some m →
      let record : EventRecord := ⟨m, (Listener.accepted (operations i ops)).length + 1, a.raw⟩
      let after := e.perform (.deliver i a h)
      (after.2.listeners i).events = (e.listeners i).events ++ [record] ∧
      (after.2.handles h).events = (e.handles h).events ++ [record] ∧
      (m.HasNumericStatus → m.HasWritableStatus → after.1 = .delivered (.ok record))) ∧
    (∀ more, (e.handles h).events <+: ((e.run more).handles h).events) ∧
    (∀ i, (e.perform (.operate i .dispose)).2.handles h = e.handles h) ∧
    ∀ i, (∀ op ∈ ops, op.ComesFrom i h) →
      (e.handles h).events.Pairwise (fun r r' => r.sequence < r'.sequence) ∧
      ((∀ op ∈ operations i ops, op.isDispose = false) →
        (e.handles h).events.Sublist (e.listeners i).events) := by
  intro e
  have hhandle : e.handles h = { handles h with events := observed h ops } :=
    handles_run role name handles ops h
  have hevents : (e.handles h).events = observed h ops := by rw [hhandle]
  have hholds := listeners_hold role name handles ops
  refine ⟨hevents, by rw [hhandle]; exact ⟨rfl, rfl, rfl, rfl⟩, fun i a m hm => ?_, fun more => ?_,
    fun i => ?_, fun i hfrom => ⟨?_, fun hdispose => ?_⟩⟩
  · obtain ⟨hlistener, hgiven⟩ := perform_deliver hm ops i h
    refine ⟨hlistener, hgiven, fun hstatus hwrite => ?_⟩
    have hresult := Listener.result_receive (a := { a with handle := some (e.handles h) }) hm
      (l := e.listeners i) (.inr hstatus) hwrite
    rw [Listener.nextRecord, (hholds i).nextSequence] at hresult
    exact congrArg Listener.Answer.delivered hresult
  · rw [hevents, ← run_append, handles_run, observed, observed, observedAfter_append]
    exact List.prefix_append _ _
  · have hsame := perform_handles hholds (.operate i .dispose) h
    rwa [Operation.given?, Option.toList_none, List.append_nil] at hsame
  · rw [hevents]
    exact (Listener.sequence_accepted_strictly_increasing _).sublist (observed_sublist hfrom)
  · rw [hevents, (hholds i).events, Listener.log_eq_accepted hdispose]
    exact observed_sublist hfrom

end Exchange

end SipBench
