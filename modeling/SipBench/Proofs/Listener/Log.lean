import Mathlib.Data.Int.Notation
import Mathlib.Data.List.Induction
import Mathlib.Data.List.Nodup
import Mathlib.Data.List.TakeWhile
import SipBench.Proofs.Listener.Receive

/-!
# The log of a listener

A listener keeps two lists and a counter, and a disposal clears the lists but not the counter.  To
the outside this is one log: the deliveries accepted since the last disposal, in order of arrival,
each under its number among all deliveries accepted since the listener was made.

* `Listener.accepted`, `Listener.log` : the log, from the operations alone
* `Listener.Holds` : what lists and counter of a listener have to do with the log
* `Listener.holds_run` : every run keeps it
* `Listener.run_refines_log` : a snapshot shows the log, whatever was done before
-/

namespace SipBench

namespace Listener

/-! ### The log -/

/-- What an operation stores: the delivered message and the stack's object for it. -/
def Operation.stored? : Operation → Option (Message × Value)
  | .deliver a => a.message?.map (·, a.raw)
  | _ => none

/-- Whether an operation is a disposal. -/
def Operation.isDispose : Operation → Bool
  | .dispose => true
  | _ => false

/-- The record of a delivery with a number. -/
def numbered (delivery : (Message × Value) × ℕ) : EventRecord :=
  ⟨delivery.1.1, delivery.2, delivery.1.2⟩

/-- Every delivery that was accepted since the listener was made, numbered from one on. -/
def accepted (ops : List Operation) : List EventRecord :=
  ((ops.filterMap Operation.stored?).zipIdx 1).map numbered

/-- The operations up to the last disposal. -/
def upToDispose (ops : List Operation) : List Operation :=
  (ops.reverse.dropWhile (!·.isDispose)).reverse

/-- The operations since the last disposal. -/
def sinceDispose (ops : List Operation) : List Operation := ops.drop (upToDispose ops).length

/-- The deliveries that were accepted since the last disposal. -/
def log (ops : List Operation) : List EventRecord :=
  (accepted ops).drop (accepted (upToDispose ops)).length

/-- What a log shows to a test. -/
def Snapshot.ofLog (records : List EventRecord) : Snapshot :=
  let responses := (records.filter (·.message.isResponse)).map (·.message)
  let requests := (records.filter (·.message.isRequest)).map (·.message)
  ⟨records, responses, requests, responses.getLast?, requests.getLast?⟩

theorem length_accepted (ops : List Operation) :
    (accepted ops).length = (ops.filterMap Operation.stored?).length := by
  simp [accepted]

theorem sequence_accepted (ops : List Operation) :
    (accepted ops).map (·.sequence) = (List.range' 1 (accepted ops).length).map Int.ofNat := by
  rw [length_accepted, ← List.zipIdx_map_snd, accepted, List.map_map, List.map_map]
  rfl

theorem sequence_accepted_strictly_increasing (ops : List Operation) :
    (accepted ops).Pairwise fun a b => a.sequence < b.sequence := by
  have h : ((accepted ops).map (·.sequence)).Pairwise (· < ·) := by
    rw [sequence_accepted, List.pairwise_map]
    exact List.Pairwise.imp Int.ofNat_lt.2 List.pairwise_lt_range'
  exact List.pairwise_map.1 h

theorem accepted_append_singleton (ops : List Operation) (op : Operation) :
    accepted (ops ++ [op]) = accepted ops ++
      (op.stored?.map fun d => numbered (d, (accepted ops).length + 1)).toList := by
  rw [length_accepted, accepted, List.filterMap_append, List.zipIdx_append, List.map_append]
  cases h : op.stored? with
  | none => simp [accepted, h]
  | some d => simp [accepted, h, Nat.add_comm]

theorem accepted_isPrefix (ops more : List Operation) : accepted ops <+: accepted (ops ++ more) := by
  rw [accepted, accepted, List.filterMap_append, List.zipIdx_append, List.map_append]
  exact List.prefix_append _ _

theorem upToDispose_append_dispose (ops : List Operation) :
    upToDispose (ops ++ [.dispose]) = ops ++ [.dispose] := by
  simp [upToDispose, Operation.isDispose]

theorem upToDispose_append {op : Operation} (h : op.isDispose = false) (ops : List Operation) :
    upToDispose (ops ++ [op]) = upToDispose ops := by
  simp [upToDispose, h]

theorem upToDispose_isPrefix (ops : List Operation) : upToDispose ops <+: ops := by
  rw [upToDispose, ← List.reverse_suffix, List.reverse_reverse]
  exact List.dropWhile_suffix _

theorem Operation.eq_dispose_of_isDispose {op : Operation} (h : op.isDispose = true) :
    op = .dispose := by
  cases op with
  | dispose => rfl
  | _ => cases h

/-- Induction over operations from the first to the last, each of them a disposal or not. -/
@[elab_as_elim]
theorem operations_induction {motive : List Operation → Prop} (nil : motive [])
    (dispose : ∀ ops, motive ops → motive (ops ++ [.dispose]))
    (other : ∀ ops op, op.isDispose = false → motive ops → motive (ops ++ [op]))
    (ops : List Operation) : motive ops := by
  induction ops using List.reverseRecOn with
  | nil => exact nil
  | append_singleton ops op ih =>
    cases hd : op.isDispose with
    | true =>
      obtain rfl := Operation.eq_dispose_of_isDispose hd
      exact dispose ops ih
    | false => exact other ops op hd ih

@[simp] theorem sinceDispose_append_dispose (ops : List Operation) :
    sinceDispose (ops ++ [.dispose]) = [] := by
  rw [sinceDispose, upToDispose_append_dispose, List.drop_length]

theorem sinceDispose_append {op : Operation} (h : op.isDispose = false) (ops : List Operation) :
    sinceDispose (ops ++ [op]) = sinceDispose ops ++ [op] := by
  rw [sinceDispose, upToDispose_append h,
    List.drop_append_of_le_length (upToDispose_isPrefix ops).length_le, sinceDispose]

theorem length_accepted_upToDispose (ops : List Operation) :
    (accepted (upToDispose ops)).length ≤ (accepted ops).length := by
  rw [length_accepted, length_accepted]
  exact ((upToDispose_isPrefix ops).filterMap _).length_le

@[simp] theorem log_append_dispose (ops : List Operation) : log (ops ++ [.dispose]) = [] := by
  rw [log, upToDispose_append_dispose, List.drop_length]

theorem log_append {op : Operation} (h : op.isDispose = false) (ops : List Operation) :
    log (ops ++ [op]) = log ops ++
      (op.stored?.map fun d => numbered (d, (accepted ops).length + 1)).toList := by
  rw [log, upToDispose_append h, accepted_append_singleton,
    List.drop_append_of_le_length (length_accepted_upToDispose ops), log]

theorem log_eq_accepted {ops : List Operation} (h : ∀ op ∈ ops, op.isDispose = false) :
    log ops = accepted ops := by
  have hnil : ops.reverse.dropWhile (!·.isDispose) = [] :=
    List.dropWhile_eq_nil_iff.2 fun op hop => by rw [h op (List.mem_reverse.1 hop), Bool.not_false]
  rw [log, upToDispose, hnil]
  rfl

theorem log_suffix (ops : List Operation) : log ops <:+ accepted ops := List.drop_suffix _ _

/-- The numbers in the log are a gap-free interval. -/
theorem sequence_log (ops : List Operation) :
    (log ops).map (·.sequence) =
      (List.range' ((accepted (upToDispose ops)).length + 1) (log ops).length).map
        Int.ofNat := by
  rw [show log ops = (accepted ops).drop (accepted (upToDispose ops)).length from rfl,
    List.map_drop, sequence_accepted, ← List.map_drop, List.drop_range', List.length_drop,
    Nat.mul_one, Nat.add_comm]

theorem sequence_log_strictly_increasing (ops : List Operation) :
    (log ops).Pairwise fun a b => a.sequence < b.sequence :=
  (sequence_accepted_strictly_increasing ops).sublist (log_suffix ops).sublist

/-- A record of the log is that of a request or that of a response, and not of both. -/
theorem isRequest_of_mem_log {ops : List Operation} {r : EventRecord} (h : r ∈ log ops) :
    r.message.isRequest = !r.message.isResponse := by
  obtain ⟨d, hd, rfl⟩ := List.mem_map.1 ((log_suffix ops).subset h)
  obtain ⟨op, -, hop⟩ := List.mem_filterMap.1 (List.fst_mem_of_mem_zipIdx hd)
  cases op with
  | deliver a =>
    obtain ⟨m, hm, hmd⟩ := Option.map_eq_some_iff.1 hop
    rw [numbered, ← hmd]
    exact Arrival.isRequest_eq_not_isResponse hm
  | _ => cases hop

theorem eq_of_sequence_eq {ops : List Operation} {a b : EventRecord} (ha : a ∈ log ops)
    (hb : b ∈ log ops) (h : a.sequence = b.sequence) : a = b := by
  have hnodup : ((log ops).map (·.sequence)).Nodup :=
    List.pairwise_map.2 ((sequence_log_strictly_increasing ops).imp Int.ne_of_lt)
  exact List.inj_on_of_nodup_map hnodup ha hb h

/-- Sorting the responses and the requests of a log together by their numbers gives the log. -/
theorem mergeSort_log (ops : List Operation) :
    ((log ops).filter (·.message.isResponse) ++
      (log ops).filter (·.message.isRequest)).mergeSort (fun a b => a.sequence ≤ b.sequence) =
        log ops := by
  have hfilter : (log ops).filter (·.message.isRequest) =
      (log ops).filter (!·.message.isResponse) :=
    List.filter_congr fun r hr => isRequest_of_mem_log hr
  rw [hfilter]
  have hperm :=
    (List.mergeSort_perm _ fun a b : EventRecord => decide (a.sequence ≤ b.sequence)).trans
      (List.filter_append_perm (·.message.isResponse) (log ops))
  have hmerged := @List.pairwise_mergeSort EventRecord (fun a b => decide (a.sequence ≤ b.sequence))
    (fun a b c hab hbc => decide_eq_true (Int.le_trans (of_decide_eq_true hab)
      (of_decide_eq_true hbc)))
    (fun a b => by simpa using Int.le_total a.sequence b.sequence)
    ((log ops).filter (·.message.isResponse) ++ (log ops).filter (!·.message.isResponse))
  -- both lists are sorted and hold the same records, no two of them under one number
  refine List.Perm.eq_of_pairwise (fun a b ha hb hab hba => ?_) (hmerged.imp of_decide_eq_true)
    ((sequence_log_strictly_increasing ops).imp Int.le_of_lt) hperm
  exact eq_of_sequence_eq (hperm.mem_iff.1 ha) hb (Int.le_antisymm hab hba)

/-! ### The listener keeps the log -/

/-- The role after an operation that stores nothing and is no disposal. -/
def Operation.onRole : Operation → Role → Role
  | .markAnswered, .call _ => .call true
  | .addEventError text, .subscription errors => .subscription (errors ++ [text])
  | .setDialog dialog, .referSender _ => .referSender dialog
  | _, role => role

/-- The error message after an operation that stores nothing and is no disposal. -/
def Operation.onErrorMessage : Operation → String → String
  | .noteSuccess, _ => ""
  | .noteFailure message, _ => if message.isEmpty then "operation failed" else message
  | _, errorMessage => errorMessage

@[simp] theorem Operation.fresh_onRole (op : Operation) (role : Role) :
    (op.onRole role).fresh = role.fresh := by
  cases op <;> cases role <;> rfl

/-- An operation that stores nothing and is no disposal only touches the role and the error. -/
theorem perform_of_stored?_eq_none {op : Operation} (h : op.stored? = none)
    (hd : op.isDispose = false) (l : Listener) :
    (l.perform op).2 = { l with
      role := op.onRole l.role, errorMessage := op.onErrorMessage l.errorMessage } := by
  cases op with
  | deliver a =>
    have ha : a.message? = none := by simpa [Operation.stored?] using h
    exact (receive_of_none ha l).1
  | dispose => cases hd
  | noteSuccess | noteFailure | look => rfl
  | markAnswered | addEventError | setDialog =>
    obtain ⟨name, role, responses, requests, next, errorMessage⟩ := l
    cases role <;> rfl

/-- What an operation can do to a listener: store a delivery, drop everything, or neither. -/
theorem perform_cases (l : Listener) (op : Operation) :
    (∃ a m role, op = .deliver a ∧ a.message? = some m ∧ role.fresh = l.role.fresh ∧
      (l.perform op).2 = { l.append (l.nextRecord m a.raw) a.list with role }) ∨
    (op = .dispose ∧ (l.perform op).2 = l.dispose.1) ∨
    (op.stored? = none ∧ op.isDispose = false ∧ ∃ role errorMessage, role.fresh = l.role.fresh ∧
      (l.perform op).2 = { l with role, errorMessage }) := by
  cases hs : op.stored? with
  | some d =>
    cases op with
    | deliver a =>
      obtain ⟨m, hm, -⟩ := Option.map_eq_some_iff.1 hs
      obtain ⟨role, hrole, hl⟩ := receive_of_some hm l
      exact .inl ⟨a, m, role, rfl, hm, hrole, hl⟩
    | _ => cases hs
  | none =>
    cases hd : op.isDispose with
    | true =>
      obtain rfl := Operation.eq_dispose_of_isDispose hd
      exact .inr (.inl ⟨rfl, rfl⟩)
    | false =>
      exact .inr (.inr ⟨rfl, rfl, _, _, op.fresh_onRole l.role, perform_of_stored?_eq_none hs hd l⟩)

/-- The lists and the counter of a listener after some operations. -/
structure Holds (l : Listener) (ops : List Operation) : Prop where
  responses : l.responses = (log ops).filter (·.message.isResponse)
  requests : l.requests = (log ops).filter (·.message.isRequest)
  nextSequence : l.nextSequence = (accepted ops).length + 1

/-- Whatever the operation, a listener that holds the log holds it afterwards. -/
theorem Holds.perform {l : Listener} {ops : List Operation} (h : l.Holds ops) (op : Operation) :
    (l.perform op).2.Holds (ops ++ [op]) := by
  obtain ⟨a, m, role, rfl, hm, -, hl⟩ | ⟨rfl, hl⟩ | ⟨hs, hd, role, errorMessage, -, hl⟩ :=
    perform_cases l op
  -- an accepted delivery: the record goes to the end of the log and of one of the lists
  · have hstored : (Operation.deliver a).stored? = some (m, a.raw) := by
      simp [Operation.stored?, hm]
    have hrecord : numbered ((m, a.raw), (accepted ops).length + 1) = l.nextRecord m a.raw := by
      rw [nextRecord, h.nextSequence, numbered]
    have hlog : log (ops ++ [.deliver a]) = log ops ++ [l.nextRecord m a.raw] := by
      rw [log_append rfl, hstored, Option.map_some, Option.toList_some, hrecord]
    have hlen : (accepted (ops ++ [.deliver a])).length = (accepted ops).length + 1 := by
      rw [accepted_append_singleton, hstored, Option.map_some, Option.toList_some,
        List.length_append, List.length_singleton]
    have hkind := (Arrival.message?_eq_some_iff.1 hm).2
    rw [hl]
    cases hlist : a.list with
    | responses =>
      simp only [hlist] at hkind
      have hreq := Message.isRequest_of_isResponse hkind
      constructor
      · simp [append, hlog, h.responses, nextRecord, hkind]
      · simp [append, hlog, h.requests, nextRecord, hreq]
      · simp [append, hlen, h.nextSequence]
    | requests =>
      simp only [hlist] at hkind
      have hres := Message.isResponse_of_isRequest hkind
      constructor
      · simp [append, hlog, h.responses, nextRecord, hres]
      · simp [append, hlog, h.requests, nextRecord, hkind]
      · simp [append, hlen, h.nextSequence]
  -- a disposal: lists and log are empty, the counter stays
  · rw [hl]
    constructor
    · simp [dispose]
    · simp [dispose]
    · simp [dispose, h.nextSequence, accepted_append_singleton, Operation.stored?]
  -- anything else: neither the lists nor the log change
  · rw [hl]
    constructor
    · simp [h.responses, log_append hd, hs]
    · simp [h.requests, log_append hd, hs]
    · simp [h.nextSequence, accepted_append_singleton, hs]

@[simp] theorem run_append (l : Listener) (ops more : List Operation) :
    l.run (ops ++ more) = (l.run ops).run more := List.foldl_append ..

theorem run_singleton (l : Listener) (op : Operation) : l.run [op] = (l.perform op).2 := rfl

theorem Holds.run {l : Listener} {ops : List Operation} (h : l.Holds ops) (more : List Operation) :
    (l.run more).Holds (ops ++ more) := by
  induction more using List.reverseRecOn with
  | nil => rwa [List.append_nil]
  | append_singleton more op ih =>
    rw [run_append, run_singleton, ← List.append_assoc]
    exact ih.perform op

theorem holds_run (role : Role) (name : String) (ops : List Operation) :
    ((new role name).run ops).Holds ops :=
  @Holds.run (new role name) [] ⟨rfl, rfl, rfl⟩ ops

theorem fresh_run (l : Listener) (ops : List Operation) :
    (l.run ops).role.fresh = l.role.fresh := by
  induction ops using List.reverseRecOn with
  | nil => rfl
  | append_singleton ops op ih =>
    rw [run_append, run_singleton, ← ih]
    obtain ⟨a, m, role, -, -, hrole, hl⟩ | ⟨-, hl⟩ | ⟨-, -, role, errorMessage, hrole, hl⟩ :=
      perform_cases (l.run ops) op
    · rw [hl, hrole]
    · rw [hl, dispose]
      cases (l.run ops).role <;> rfl
    · rw [hl, hrole]

theorem name_run (l : Listener) (ops : List Operation) : (l.run ops).name = l.name := by
  induction ops using List.reverseRecOn with
  | nil => rfl
  | append_singleton ops op ih =>
    rw [run_append, run_singleton, ← ih]
    obtain ⟨a, m, role, -, -, -, hl⟩ | ⟨-, hl⟩ | ⟨-, -, role, errorMessage, -, hl⟩ :=
      perform_cases (l.run ops) op
    · rw [hl]
      cases a.list <;> rfl
    · rw [hl, dispose]
    · rw [hl]

/-! ### What a test sees -/

theorem Holds.events {l : Listener} {ops : List Operation} (h : l.Holds ops) :
    l.events = log ops := by
  rw [Listener.events, h.responses, h.requests, mergeSort_log]

theorem Holds.events_receive {l : Listener} {ops : List Operation} (h : l.Holds ops) {a : Arrival}
    {m : Message} (hm : a.message? = some m) :
    (l.receive a).listener.events = log ops ++ [⟨m, (accepted ops).length + 1, a.raw⟩] := by
  have hstored : (Operation.deliver a).stored? = some (m, a.raw) := by
    simp [Operation.stored?, hm]
  have hevents := (h.perform (.deliver a)).events
  rwa [log_append rfl, hstored] at hevents

theorem Holds.snapshot {l : Listener} {ops : List Operation} (h : l.Holds ops) :
    l.snapshot = .ofLog (log ops) := by
  simp only [Listener.snapshot, Snapshot.ofLog, h.events, receivedResponses, receivedRequests,
    lastResponse?, lastRequest?, h.responses, h.requests]

theorem Holds.isResponse_of_mem {l : Listener} {ops : List Operation} (h : l.Holds ops) :
    ∀ m ∈ l.receivedResponses, m.isResponse = true := by
  rw [receivedResponses, h.responses]
  rintro m hm
  obtain ⟨r, hr, rfl⟩ := List.mem_map.1 hm
  exact (List.mem_filter.1 hr).2

theorem Holds.isRequest_of_mem {l : Listener} {ops : List Operation} (h : l.Holds ops) :
    ∀ m ∈ l.receivedRequests, m.isRequest = true := by
  rw [receivedRequests, h.requests]
  rintro m hm
  obtain ⟨r, hr, rfl⟩ := List.mem_map.1 hm
  exact (List.mem_filter.1 hr).2

theorem log_isPrefix {more : List Operation} (h : ∀ op ∈ more, op.isDispose = false)
    (ops : List Operation) : log ops <+: log (ops ++ more) := by
  induction more using List.reverseRecOn with
  | nil => simp
  | append_singleton more op ih =>
    rw [← List.append_assoc, log_append (h op (by simp))]
    exact (ih fun op' hop' => h op' (List.mem_append_left _ hop')).trans (List.prefix_append _ _)

theorem not_call_run {role : Role} (h : ∀ b, role ≠ .call b) (name : String)
    (ops : List Operation) : ∀ b, ((new role name).run ops).role ≠ .call b := by
  intro b hb
  have hfresh := fresh_run (new role name) ops
  rw [hb] at hfresh
  cases role with
  | call b => exact h b rfl
  | _ => cases hfresh

/-- **A listener is its log.**  After any operations on a new listener of any kind, a snapshot shows
the log and nothing else; the numbers of all accepted deliveries count from one on, so that those in
the log are an interval and none is used twice; the next accepted delivery gets the next number and
is answered with its record (unless a status code has too many digits to be logged, or a call is
given one that is no number); a delivery of the wrong kind is refused and changes nothing; and
without a disposal what was seen stays at the beginning of what is seen later. -/
theorem run_refines_log (role : Role) (name : String) (ops : List Operation) :
    let l := (new role name).run ops
    l.snapshot = .ofLog (log ops) ∧
    (accepted ops).map (·.sequence) = (List.range' 1 (accepted ops).length).map Int.ofNat ∧
    (log ops).map (·.sequence) =
      (List.range' ((accepted (upToDispose ops)).length + 1) (log ops).length).map Int.ofNat ∧
    (∀ a m, a.message? = some m →
      let record : EventRecord := ⟨m, (accepted ops).length + 1, a.raw⟩
      (l.receive a).listener.events = log ops ++ [record] ∧
      ((∀ b, role ≠ .call b) ∨ m.HasNumericStatus → m.HasWritableStatus →
        (l.receive a).result = .ok record)) ∧
    (∀ a, a.message? = none →
      (l.receive a).listener = l ∧ ∃ text, (l.receive a).result = .error (.wrongType text)) ∧
    ∀ more, (∀ op ∈ more, op.isDispose = false) →
      l.events <+: (l.run more).events ∧
      l.receivedResponses <+: (l.run more).receivedResponses ∧
      l.receivedRequests <+: (l.run more).receivedRequests := by
  have hl := holds_run role name ops
  refine ⟨hl.snapshot, sequence_accepted ops, sequence_log ops, fun a m hm =>
    ⟨?_, fun hcall hwrite => ?_⟩, fun a ha => receive_of_none ha _, fun more hmore => ?_⟩
  · have hstored : (Operation.deliver a).stored? = some (m, a.raw) := by
      simp [Operation.stored?, hm]
    have h := (hl.perform (.deliver a)).events
    rwa [log_append rfl, hstored] at h
  · rw [result_receive hm (hcall.imp_left fun h => not_call_run h name ops) hwrite, nextRecord,
      hl.nextSequence]
    rfl
  · have hmore' := holds_run role name (ops ++ more)
    rw [run_append] at hmore'
    have hgrows := log_isPrefix hmore ops
    refine ⟨?_, ?_, ?_⟩
    · rw [hl.events, hmore'.events]
      exact hgrows
    · rw [receivedResponses, receivedResponses, hl.responses, hmore'.responses]
      exact (hgrows.filter _).map _
    · rw [receivedRequests, receivedRequests, hl.requests, hmore'.requests]
      exact (hgrows.filter _).map _

end Listener

end SipBench
