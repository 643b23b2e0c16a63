import SipBench.Proofs.Listener.Renewal

/-!
# Subscriptions and their log

A subscription keeps the errors of its events beside its lists.  They are those that the test has
noted and those that can be read off the received NOTIFY requests, merged in the order in which they
came up; a request is stored whatever it lacks.

* `Message.Carries` : a header under a name as it stands
* `EventRecord.missingHeaders` : what a record of a NOTIFY request lacks
* `Listener.filterMap_noted_errorLog`, `Listener.filter_found_errorLog` : the two kinds of errors
* `Listener.event_errors_run` : the errors of a subscription after a run
-/

namespace SipBench

/-- One of the headers has this very name. -/
def Message.Carries (m : Message) (name : String) : Prop := ∃ h ∈ m.headers, h.name = name

instance (m : Message) (name : String) : Decidable (m.Carries name) :=
  inferInstanceAs (Decidable (∃ h ∈ m.headers, h.name = name))

/-- The errors that can be read off a record: one for each of the required headers that a NOTIFY
request does not carry, in the order in which they are required. -/
def EventRecord.missingHeaders (r : EventRecord) : List EventError :=
  if r.message.method? = some "NOTIFY" then
    (["Event", "Subscription-State"].filter fun name => ¬ r.message.Carries name).map
      (.missingHeader r.sequence)
  else []

namespace EventError

/-- The text of an error that the test has noted. -/
def noted? : EventError → Option String
  | noted text => some text
  | missingHeader .. => none

/-- Whether an error was found in a request. -/
def isFound : EventError → Bool
  | noted _ => false
  | missingHeader .. => true

/-- The name of a required header is canonical, so that a header is found under it as it stands. -/
theorem isNone_header?_iff {m : Message} {name : String}
    (h : name ∈ Listener.requiredNotifyHeaders) :
    (m.header? name).isNone = true ↔ ¬ m.Carries name := by
  have hcanonical : ∀ name ∈ Listener.requiredNotifyHeaders, canonicalName name = name := by decide
  rw [Message.header?, Message.headersNamed, hcanonical name h, Message.Carries]
  simp

theorem ofMessage_eq (r : EventRecord) : ofMessage r.message r.sequence = r.missingHeaders := by
  unfold ofMessage EventRecord.missingHeaders
  simp only [beq_iff_eq]
  split_ifs
  · refine congrArg _ (List.filter_congr fun name hname => ?_)
    rw [Bool.eq_iff_iff, isNone_header?_iff hname, decide_eq_true_iff]
  · rfl

theorem missingHeader_of_mem {r : EventRecord} {e : EventError} (h : e ∈ r.missingHeaders) :
    ∃ name, e = .missingHeader r.sequence name := by
  unfold EventRecord.missingHeaders at h
  split_ifs at h
  · obtain ⟨name, -, rfl⟩ := List.mem_map.1 h
    exact ⟨name, rfl⟩
  · cases h

theorem filterMap_noted_missingHeaders (r : EventRecord) :
    r.missingHeaders.filterMap noted? = [] := by
  refine List.filterMap_eq_nil_iff.2 fun e he => ?_
  obtain ⟨name, rfl⟩ := missingHeader_of_mem he
  rfl

theorem filter_found_missingHeaders (r : EventRecord) :
    r.missingHeaders.filter isFound = r.missingHeaders := by
  refine List.filter_eq_self.2 fun e he => ?_
  obtain ⟨name, rfl⟩ := missingHeader_of_mem he
  rfl

end EventError

namespace Listener

/-- The text that an operation notes as an error. -/
def Operation.noted? : Operation → Option String
  | .addEventError text => some text
  | _ => none

/-- The record that an operation stores if the next number is the given one. -/
def Operation.record? (number : ℕ) (op : Operation) : Option EventRecord :=
  op.stored?.map fun d => numbered (d, number)

/-! ### The two kinds of errors -/

/-- An operation adds what it notes, or what is missing in the record that it stores. -/
theorem eventErrors_eq_append (op : Operation) (number : ℕ) :
    op.eventErrors number =
      op.noted?.toList.map .noted ++
        (op.record? number).toList.flatMap EventRecord.missingHeaders := by
  cases op with
  | deliver a =>
    cases hm : a.message? with
    | none =>
      simp [Operation.eventErrors, Operation.noted?, Operation.record?, Operation.stored?, hm]
    | some m =>
      have hmissing : EventError.ofMessage m number =
          (numbered ((m, a.raw), number)).missingHeaders :=
        EventError.ofMessage_eq (numbered ((m, a.raw), number))
      simpa [Operation.eventErrors, Operation.noted?, Operation.record?, Operation.stored?, hm]
        using hmissing
  | _ => rfl

theorem filterMap_noted_eventErrors (op : Operation) (number : ℕ) :
    (op.eventErrors number).filterMap EventError.noted? = op.noted?.toList := by
  rw [eventErrors_eq_append]
  cases op.noted? <;> cases op.record? number <;>
    simp [EventError.filterMap_noted_missingHeaders, EventError.noted?]

theorem filter_found_eventErrors (op : Operation) (number : ℕ) :
    (op.eventErrors number).filter EventError.isFound =
      (op.record? number).toList.flatMap EventRecord.missingHeaders := by
  rw [eventErrors_eq_append]
  cases op.noted? <;> cases op.record? number <;>
    simp [EventError.filter_found_missingHeaders, EventError.isFound]

theorem filterMap_noted_errorLog (ops : List Operation) :
    (errorLog ops).filterMap EventError.noted? =
      (sinceDispose ops).filterMap Operation.noted? := by
  induction ops using operations_induction with
  | nil => rfl
  | dispose ops =>
    rw [errorLog_append_dispose, sinceDispose_append_dispose]
    rfl
  | other ops op hd ih =>
    have hop := filterMap_noted_eventErrors op ((accepted ops).length + 1)
    rw [errorLog_append hd, sinceDispose_append hd, List.filterMap_append, List.filterMap_append,
      ih]
    refine congrArg _ (hop.trans ?_)
    cases h : op.noted? <;> simp [h]

/-- The errors found in requests are those that can be read off the records of the log. -/
theorem filter_found_errorLog (ops : List Operation) :
    (errorLog ops).filter EventError.isFound = (log ops).flatMap EventRecord.missingHeaders := by
  induction ops using operations_induction with
  | nil => rfl
  | dispose ops =>
    rw [errorLog_append_dispose, log_append_dispose]
    rfl
  | other ops op hd ih =>
    have hop := filter_found_eventErrors op ((accepted ops).length + 1)
    rw [errorLog_append hd, log_append hd, List.filter_append, List.flatMap_append, ih]
    exact congrArg _ hop

/-! ### A subscription after a run -/

theorem errorLog_eq_nil_iff (ops : List Operation) :
    errorLog ops = [] ↔ (∀ text, .addEventError text ∉ sinceDispose ops) ∧
      ∀ r ∈ log ops, r.missingHeaders = [] := by
  have hkinds : errorLog ops = [] ↔ (errorLog ops).filterMap EventError.noted? = [] ∧
      (errorLog ops).filter EventError.isFound = [] := by
    rw [List.filterMap_eq_nil_iff, List.filter_eq_nil_iff, List.eq_nil_iff_forall_not_mem]
    refine ⟨fun h => ⟨fun e he => absurd he (h e), fun e he => absurd he (h e)⟩, fun h e he => ?_⟩
    cases e with
    | noted text => exact absurd (h.1 _ he) nofun
    | missingHeader sequence name => exact h.2 _ he rfl
  rw [hkinds, filterMap_noted_errorLog, filter_found_errorLog, List.filterMap_eq_nil_iff,
    List.flatMap_eq_nil_iff]
  refine and_congr_left fun _ => ⟨fun h text htext => absurd (h _ htext) nofun, fun h op hop => ?_⟩
  cases op with
  | addEventError text => exact absurd hop (h text)
  | _ => rfl

theorem missingHeaders_eq_nil_iff {r : EventRecord} : r.missingHeaders = [] ↔
    (r.message.method? = some "NOTIFY" →
      r.message.Carries "Event" ∧ r.message.Carries "Subscription-State") := by
  unfold EventRecord.missingHeaders
  split_ifs with h
  · simp [h]
  · simp [h]

theorem eventErrors_run (name : String) (ops : List Operation) :
    ((new (.subscription []) name).run ops).eventErrors = .ok ((errorLog ops).map (·.text)) := by
  have hfresh := fresh_run (new (.subscription []) name) ops
  rw [eventErrors_eq (follows_run (.subscription []) name [] ops).role, errorsOf_of_fresh hfresh]
  rfl

theorem passes_noSubscriptionErrors_iff {l : Listener} {errors : List EventError}
    (h : l.eventErrors = .ok (errors.map (·.text))) {label : Option String} :
    ListenerCheck.noSubscriptionErrors.run (some l) label = .ok () ↔ errors = [] := by
  rw [run_noSubscriptionErrors, h]
  cases errors <;> simp [errorsReport, Check.report, Except.map]

/-- **The errors of a subscription are those of its log.**  After any operations on a new
subscription, disposals among them, its errors are the texts of the errors since the last disposal
in the order in which they came up.  Those that the test has noted are the texts that it has given;
those that were found in requests are, record by record and in the order of arrival, one for each of
the headers Event and Subscription-State that a NOTIFY request does not carry, with the number of
its record.  The check that there are no errors passes exactly if the test has noted none and every
NOTIFY request among the events carries both headers.  Whatever it lacks, a request that is
delivered is stored under the next number, and the delivery is answered with its record; and so is a
response whose status code can be shown. -/
theorem event_errors_run (name : String) (ops : List Operation) :
    let l := (new (.subscription []) name).run ops
    l.eventErrors = .ok ((errorLog ops).map (·.text)) ∧
    (errorLog ops).filterMap EventError.noted? =
      (sinceDispose ops).filterMap Operation.noted? ∧
    (errorLog ops).filter EventError.isFound = l.events.flatMap EventRecord.missingHeaders ∧
    (∀ label, ListenerCheck.noSubscriptionErrors.run (some l) label = .ok () ↔
      (∀ text, .addEventError text ∉ sinceDispose ops) ∧
      ∀ r ∈ l.events, r.message.method? = some "NOTIFY" →
        r.message.Carries "Event" ∧ r.message.Carries "Subscription-State") ∧
    ∀ a m, a.message? = some m →
      let record : EventRecord := ⟨m, (accepted ops).length + 1, a.raw⟩
      (m.isRequest = true ∨ m.HasWritableStatus → (l.receive a).result = .ok record) ∧
      (l.receive a).listener.events = l.events ++ [record] := by
  intro l
  have hl : l.Holds ops := holds_run (.subscription []) name ops
  have herrors : l.eventErrors = .ok ((errorLog ops).map (·.text)) := eventErrors_run name ops
  refine ⟨herrors, filterMap_noted_errorLog ops, ?_, fun label => ?_, fun a m hm =>
    ⟨fun h => ?_, ?_⟩⟩
  · rw [hl.events, filter_found_errorLog]
  · simp only [passes_noSubscriptionErrors_iff herrors, errorLog_eq_nil_iff, hl.events,
      missingHeaders_eq_nil_iff]
  · have hcall : ∀ b, l.role ≠ .call b := @not_call_run (.subscription []) (by simp) name ops
    have hwrite := h.elim Message.hasWritableStatus_of_isRequest id
    rw [result_receive hm (.inl hcall) hwrite, nextRecord, hl.nextSequence]
    rfl
  · rw [hl.events, hl.events_receive hm]

end Listener

end SipBench
