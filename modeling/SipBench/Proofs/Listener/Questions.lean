import SipBench.Proofs.Correlation
import SipBench.Proofs.Listener.Log
import SipBench.Proofs.Message.CSeq

/-!
# Questions to a listener

What the correlation questions answer after a run of a listener follows from the messages that were
delivered to it since the last disposal, and from nothing but the first lines and the headers of
these: neither their order nor how often one was delivered makes a difference, except when responses
are counted.

* `Message.HasStatus`, `Message.CSeqIs` : what is asked of a single message
* `Listener.deliveredResponses`, `Listener.deliveredRequests` : the messages that are asked
* `Listener.correlation_run` : the answers after a run
-/

namespace SipBench

namespace Message

/-- A response with the status code. -/
def HasStatus (m : Message) (code : Value) : Prop :=
  ∃ status, m.status? = some status ∧ status.same code = true

/-- The first CSeq header is well formed and has exactly this number and this method. -/
def CSeqIs (m : Message) (method : String) (number : Int) : Prop :=
  ∃ value, m.headerValue? "CSeq" = some value ∧ CSeq.parse value = .ok ⟨number, method⟩

/-- What the questions ask for: the first line and the headers. -/
def head (m : Message) : StartLine × List Header := (m.start, m.headers)

theorem hasStatus_iff {m : Message} {code : Value} :
    m.HasStatus code ↔ m.status?.any (·.same code) = true := by
  simp [HasStatus, Option.any_eq_true]

instance (m : Message) (code : Value) : Decidable (m.HasStatus code) :=
  decidable_of_iff' _ hasStatus_iff

theorem hasStatus_of_head {m m' : Message} (h : m.head = m'.head) (code : Value) :
    decide (m.HasStatus code) = decide (m'.HasStatus code) := by
  obtain ⟨hstart, -⟩ := Prod.mk.inj h
  rw [decide_eq_decide, HasStatus, HasStatus, status?, status?, hstart]

end Message

/-! ### What is asked of a single message -/

theorem Number.same_whole (i j : Int) : (Number.whole i).same (.whole j) = true ↔ i = j := by
  rw [same, compare?_whole, beq_iff_eq, Option.some.injEq, Int.compare_eq_eq]

theorem hasCSeq_iff {m : Message} {method : String} {number : Int} :
    m.hasCSeq (.text method) (.int number) = true ↔ m.CSeqIs method number := by
  rw [Message.hasCSeq, Message.CSeqIs, ← Message.cseq?_eq_some_iff]
  cases m.cseq? with
  | none => simp
  | some c =>
    obtain ⟨n, own⟩ := c
    simp [Value.same, Number.same_whole, and_comm]

theorem accepts_status_iff {m : Message} {code : Value} :
    ResponseQuery.accepts { code } m = true ↔ m.HasStatus code := by
  simp [ResponseQuery.accepts, Message.hasStatus_iff, Value.isNone]

theorem accepts_status_cseq_iff {m : Message} {code : Value} {method : String} {number : Int} :
    ResponseQuery.accepts ⟨code, .text method, .int number⟩ m = true ↔
      m.HasStatus code ∧ m.CSeqIs method number := by
  simp [ResponseQuery.accepts, Message.hasStatus_iff, Value.isNone, hasCSeq_iff]

theorem accepts_method_iff {m : Message} {method : String} :
    RequestQuery.accepts { method := .text method } m = true ↔ m.method? = some method := by
  simp [RequestQuery.accepts, Value.isNone, Value.same, Option.any_eq_true]

theorem accepts_cseq_iff {m : Message} {method : String} {number : Int} :
    RequestQuery.accepts ⟨.text method, .int number⟩ m = true ↔ m.CSeqIs method number := by
  simp [RequestQuery.accepts, Value.isNone, hasCSeq_iff]

theorem ResponseQuery.accepts_of_head (q : ResponseQuery) {m m' : Message} (h : m.head = m'.head) :
    q.accepts m = q.accepts m' := by
  obtain ⟨start, headers, body, source⟩ := m
  obtain ⟨start', headers', body', source'⟩ := m'
  obtain ⟨rfl, rfl⟩ := Prod.mk.inj h
  rfl

theorem RequestQuery.accepts_of_head (q : RequestQuery) {m m' : Message} (h : m.head = m'.head) :
    q.accepts m = q.accepts m' := by
  obtain ⟨start, headers, body, source⟩ := m
  obtain ⟨start', headers', body', source'⟩ := m'
  obtain ⟨rfl, rfl⟩ := Prod.mk.inj h
  rfl

/-! ### Counting -/

theorem mapM_messages {α : Type} {test : Item → Except Fault α} {f : Message → α}
    {messages : List Message} (h : ∀ m ∈ messages, test (.message m) = .ok (f m)) :
    (messages.map Item.message).mapM test = .ok (messages.map f) := by
  induction messages with
  | nil => rfl
  | cons m messages ih =>
    obtain ⟨hm, hmessages⟩ := List.forall_mem_cons.1 h
    rw [List.map_cons, List.mapM_cons, hm, ih hmessages]
    rfl

theorem countStatus_eq (code : Value) {messages : List Message}
    (h : ∀ m ∈ messages, m.isResponse = true) :
    countStatus (messages.map .message) code =
      .ok (messages.countP fun m => decide (m.HasStatus code)) := by
  have htests := mapM_messages fun m hm => matchesStatus_message { code } (h m hm)
  simp only at htests
  rw [countStatus, htests]
  have hcount : (messages.map (ResponseQuery.accepts { code })).count true =
      messages.countP fun m => decide (m.HasStatus code) := by
    rw [List.count, List.countP_map]
    refine List.countP_congr fun m _ => ?_
    rw [Function.comp_apply, beq_iff_eq, accepts_status_iff, decide_eq_true_iff]
  exact congrArg Except.ok hcount

/-! ### Messages with the same heads -/

/-- The same first lines with the same headers, in whatever order and however often. -/
def SameHeads (ms ms' : List Message) : Prop :=
  ∀ x, x ∈ ms.map Message.head ↔ x ∈ ms'.map Message.head

theorem SameHeads.symm {ms ms' : List Message} (h : SameHeads ms ms') : SameHeads ms' ms :=
  fun x => (h x).symm

section

variable {p : Message → Bool} (hp : ∀ m m', m.head = m'.head → p m = p m') {ms ms' : List Message}

include hp

theorem SameHeads.exists (h : SameHeads ms ms') (hms : ∃ m ∈ ms, p m = true) :
    ∃ m ∈ ms', p m = true := by
  obtain ⟨m, hm, hpm⟩ := hms
  obtain ⟨m', hm', hhead⟩ := List.mem_map.1 ((h m.head).1 (List.mem_map_of_mem hm))
  exact ⟨m', hm', (hp m' m hhead).trans hpm⟩

/-- Whether a test of heads holds of some message depends on which heads there are. -/
theorem SameHeads.any_eq (h : SameHeads ms ms') : ms.any p = ms'.any p := by
  rw [Bool.eq_iff_iff, List.any_eq_true, List.any_eq_true]
  exact ⟨h.exists hp, h.symm.exists hp⟩

theorem countP_of_perm (h : (ms.map Message.head).Perm (ms'.map Message.head)) :
    ms.countP p = ms'.countP p := by
  have hhead : ∀ ms : List Message, ms.countP p =
      (ms.map Message.head).countP fun x => p ⟨x.1, x.2, [], .none⟩ := by
    intro ms
    rw [List.countP_map]
    exact List.countP_congr fun m _ => by rw [hp m ⟨m.head.1, m.head.2, [], .none⟩ rfl]; rfl
  rw [hhead, hhead, h.countP_eq]

end

namespace Listener

/-! ### Answers -/

/-- The responses that were delivered since the last disposal. -/
def deliveredResponses (ops : List Operation) : List Message :=
  ((log ops).map (·.message)).filter Message.isResponse

/-- The requests that were delivered since the last disposal. -/
def deliveredRequests (ops : List Operation) : List Message :=
  ((log ops).map (·.message)).filter Message.isRequest

variable {l : Listener} {ops : List Operation}

theorem Holds.receivedResponses_eq (h : l.Holds ops) :
    l.receivedResponses = deliveredResponses ops := by
  rw [receivedResponses, h.responses, deliveredResponses, List.filter_map]
  rfl

theorem Holds.receivedRequests_eq (h : l.Holds ops) :
    l.receivedRequests = deliveredRequests ops := by
  rw [receivedRequests, h.requests, deliveredRequests, List.filter_map]
  rfl

/-- A question and its opposite are answered, the question with yes exactly if one of the messages
has the property. -/
def Decides (ms : List Message) (p : Message → Prop) (yes no : Except Fault Bool) : Prop :=
  ∃ found, yes = .ok found ∧ no = .ok (!found) ∧ (found = true ↔ ∃ m ∈ ms, p m)

theorem decides_any {ms : List Message} {p : Message → Prop} {test : Message → Bool}
    (h : ∀ m, test m = true ↔ p m) {yes : Except Fault Bool} (hyes : yes = .ok (ms.any test)) :
    Decides ms p yes (yes.map (!·)) := by
  refine ⟨ms.any test, hyes, by rw [hyes]; rfl, ?_⟩
  rw [List.any_eq_true]
  exact exists_congr fun m => and_congr_right fun _ => h m

theorem Holds.answer_response (h : l.Holds ops) (q : ResponseQuery) :
    q.answer l = if q.method.isNone = q.number.isNone
      then .ok ((deliveredResponses ops).any q.accepts) else .error (.misuse .halfQualified) := by
  rw [ResponseQuery.answer, ← h.receivedResponses_eq]
  split_ifs with hq
  · exact containsStatus_eq hq h.isResponse_of_mem
  · rw [containsStatus, if_pos (bne_iff_ne.2 hq)]

theorem Holds.countStatus_eq (h : l.Holds ops) (code : Value) :
    countStatus (l.receivedResponses.map .message) code =
      .ok ((deliveredResponses ops).countP fun m => decide (m.HasStatus code)) := by
  rw [SipBench.countStatus_eq code h.isResponse_of_mem, h.receivedResponses_eq]

theorem Holds.answer_request (h : l.Holds ops) (q : RequestQuery) :
    q.answer l = .ok ((deliveredRequests ops).any q.accepts) := by
  rw [RequestQuery.answer, containsMethod_eq q h.isRequest_of_mem, h.receivedRequests_eq]

theorem report_eq_ok_iff (told : Except Fault CheckFailure) {answer : Except Fault Bool}
    {label : Option String} :
    Check.report label (do
      if ← answer then return none
      return some (← told)) = .ok () ↔ answer = .ok true := by
  cases answer with
  | error fault => simp [bind, Except.bind, Check.report]
  | ok found =>
    cases found <;> cases told <;>
      simp [bind, Except.bind, pure, Except.pure, Check.report]

theorem passes_response_iff {q : ResponseQuery} {label : Option String} :
    (ListenerCheck.responseReceived q).run (some l) label = .ok () ↔ q.answer l = .ok true :=
  report_eq_ok_iff _

theorem passes_request_iff {q : RequestQuery} {label : Option String} :
    (ListenerCheck.requestReceived q).run (some l) label = .ok () ↔ q.answer l = .ok true :=
  report_eq_ok_iff _

/-! ### More operations -/

section

variable {more : List Operation} (hmore : ∀ op ∈ more, op.isDispose = false)

include hmore

theorem Holds.answer_response_mono (h : l.Holds ops) {q : ResponseQuery}
    (hq : q.answer l = .ok true) : q.answer (l.run more) = .ok true := by
  rw [h.answer_response] at hq
  rw [(h.run more).answer_response]
  split_ifs at hq ⊢
  have hgrown : deliveredResponses ops <+: deliveredResponses (ops ++ more) :=
    ((log_isPrefix hmore ops).map _).filter _
  rw [Except.ok.injEq, List.any_eq_true] at hq ⊢
  exact hq.imp fun m hm => ⟨hgrown.subset hm.1, hm.2⟩

theorem Holds.answer_request_mono (h : l.Holds ops) {q : RequestQuery}
    (hq : q.answer l = .ok true) : q.answer (l.run more) = .ok true := by
  rw [h.answer_request, Except.ok.injEq, List.any_eq_true] at hq
  rw [(h.run more).answer_request, Except.ok.injEq, List.any_eq_true]
  have hgrown : deliveredRequests ops <+: deliveredRequests (ops ++ more) :=
    ((log_isPrefix hmore ops).map _).filter _
  exact hq.imp fun m hm => ⟨hgrown.subset hm.1, hm.2⟩

end

/-- **The answers to the correlation questions.**  After any operations on a new listener of any
kind, a question about responses or requests is answered with yes exactly if one message that was
delivered since the last disposal has all that is asked for, and the opposite question is answered
with the opposite; the number of responses with a status code is that of their deliveries.  The
answers depend on the heads of these messages only, not on their order or, but for the number, on
how often one was delivered; and a check that has passed once passes until the next disposal. -/
theorem correlation_run (role : Role) (name : String) (ops : List Operation) :
    let l := (new role name).run ops
    let responses := l.receivedResponses.map Item.message
    let requests := l.receivedRequests.map Item.message
    (∀ code, Decides (deliveredResponses ops) (·.HasStatus code)
      (containsStatus responses code .none .none) (lacksStatus responses code .none .none)) ∧
    (∀ code method number, Decides (deliveredResponses ops)
      (fun m => m.HasStatus code ∧ m.CSeqIs method number)
      (containsStatus responses code (.text method) (.int number))
      (lacksStatus responses code (.text method) (.int number))) ∧
    (∀ method, Decides (deliveredRequests ops) (·.method? = some method)
      (containsMethod requests (.text method) .none) (lacksMethod requests (.text method) .none)) ∧
    (∀ method number, Decides (deliveredRequests ops) (·.CSeqIs method number)
      (containsMethod requests (.text method) (.int number))
      (lacksMethod requests (.text method) (.int number))) ∧
    (∀ code, ∃ count, countStatus responses code = .ok count ∧
      count = (deliveredResponses ops).countP (fun m => decide (m.HasStatus code)) ∧
      (0 < count ↔ containsStatus responses code .none .none = .ok true)) ∧
    (∀ role' name' ops', let l' := (new role' name').run ops'
      (SameHeads (deliveredResponses ops) (deliveredResponses ops') →
        ∀ q : ResponseQuery, q.answer l = q.answer l') ∧
      (SameHeads (deliveredRequests ops) (deliveredRequests ops') →
        ∀ q : RequestQuery, q.answer l = q.answer l') ∧
      (((deliveredResponses ops).map Message.head).Perm
          ((deliveredResponses ops').map Message.head) →
        ∀ code, countStatus responses code =
          countStatus (l'.receivedResponses.map Item.message) code)) ∧
    ∀ more, (∀ op ∈ more, op.isDispose = false) → ∀ label,
      (∀ q, (ListenerCheck.responseReceived q).run (some l) label = .ok () →
        (ListenerCheck.responseReceived q).run (some (l.run more)) label = .ok ()) ∧
      (∀ q, (ListenerCheck.requestReceived q).run (some l) label = .ok () →
        (ListenerCheck.requestReceived q).run (some (l.run more)) label = .ok ()) := by
  intro l responses requests
  have hl : l.Holds ops := holds_run role name ops
  refine ⟨fun code => ?_, fun code method number => ?_, fun method => ?_, fun method number => ?_,
    fun code => ?_, fun role' name' ops' => ?_, fun more hmore label => ?_⟩
  · exact decides_any (fun _ => accepts_status_iff) (hl.answer_response { code })
  · exact decides_any (fun _ => accepts_status_cseq_iff)
      (hl.answer_response ⟨code, .text method, .int number⟩)
  · exact decides_any (fun _ => accepts_method_iff) (hl.answer_request { method := .text method })
  · exact decides_any (fun _ => accepts_cseq_iff) (hl.answer_request ⟨.text method, .int number⟩)
  · have hcount := hl.countStatus_eq code
    have hanswer := hl.answer_response { code }
    rw [if_pos rfl] at hanswer
    have hcontains : containsStatus responses code .none .none =
        .ok ((deliveredResponses ops).any (ResponseQuery.accepts { code })) := hanswer
    refine ⟨_, hcount, rfl, ?_⟩
    rw [hcontains, Except.ok.injEq, List.countP_pos_iff, List.any_eq_true]
    exact exists_congr fun m => and_congr_right fun _ => by
      rw [decide_eq_true_iff, accepts_status_iff]
  · have hl' := holds_run role' name' ops'
    refine ⟨fun h q => ?_, fun h q => ?_, fun h code => ?_⟩
    · rw [hl.answer_response, hl'.answer_response, h.any_eq fun _ _ => q.accepts_of_head]
    · rw [hl.answer_request, hl'.answer_request, h.any_eq fun _ _ => q.accepts_of_head]
    · rw [hl.countStatus_eq, hl'.countStatus_eq,
        countP_of_perm (fun m m' hhead => Message.hasStatus_of_head hhead code) h]
  · refine ⟨fun q h => ?_, fun q h => ?_⟩
    · exact passes_response_iff.2 (hl.answer_response_mono hmore (passes_response_iff.1 h))
    · exact passes_request_iff.2 (hl.answer_request_mono hmore (passes_request_iff.1 h))

end Listener

end SipBench
