import SipBench.Proofs.Listener.Questions

/-!
# Answered calls

A call keeps a flag beside its lists that says whether it was answered.  The flag is no news: since
the last disposal, either the test has said that this side has answered, or a success to an INVITE
is among the responses that the call has received.

* `Message.AnswersInvite` : a success to an INVITE
* `Listener.WasAnswered` : what the flag stands for, from the operations alone
* `Listener.role_perform` : every operation keeps the flag in step with the operations
* `Listener.answered_run` : the flag of a call after a run
-/

namespace SipBench

/-! ### Responses that answer a call -/

namespace Message

/-- A response with a status code that is a number from 200 to below 300. -/
def IsSuccess (m : Message) : Prop :=
  ∃ n : Number, m.status? = some (.number n) ∧ Number.whole 200 ≤ n ∧ n < .whole 300

/-- A success whose first CSeq header is well formed and has exactly the method INVITE. -/
def AnswersInvite (m : Message) : Prop := m.IsSuccess ∧ ∃ number, m.CSeqIs "INVITE" number

theorem method_cseq?_iff {m : Message} {method : String} :
    m.cseq?.map (·.method) = some method ↔ ∃ number, m.CSeqIs method number := by
  simp only [Option.map_eq_some_iff, CSeqIs, ← cseq?_eq_some_iff]
  constructor
  · rintro ⟨⟨number, own⟩, hcseq, rfl⟩
    exact ⟨number, hcseq⟩
  · rintro ⟨number, hcseq⟩
    exact ⟨_, hcseq, rfl⟩

theorem AnswersInvite.isResponse {m : Message} (h : m.AnswersInvite) : m.isResponse = true := by
  obtain ⟨start, headers, body, source⟩ := m
  obtain ⟨⟨n, hstatus, -⟩, -⟩ := h
  cases start with
  | response => rfl
  | _ => cases hstatus

/-- What a call looks for in a response that it has stored. -/
theorem answers_iff {m : Message} :
    (∃ status, m.status? = some status ∧ Listener.answers m status = .ok true) ↔
      m.AnswersInvite := by
  rw [AnswersInvite, ← method_cseq?_iff, IsSuccess]
  constructor
  · rintro ⟨status, hstatus, hanswers⟩
    cases status with
    | number n =>
      simp only [Listener.answers, Except.ok.injEq, Bool.and_eq_true, Number.liesIn, beq_iff_eq]
        at hanswers
      obtain ⟨⟨hlow, hhigh⟩, hmethod⟩ := hanswers
      exact ⟨⟨n, hstatus, hlow, hhigh⟩, hmethod⟩
    | _ => cases hanswers
  · rintro ⟨⟨n, hstatus, hlow, hhigh⟩, hmethod⟩
    refine ⟨_, hstatus, ?_⟩
    simp only [Listener.answers, Except.ok.injEq, Bool.and_eq_true, Number.liesIn, beq_iff_eq]
    exact ⟨⟨hlow, hhigh⟩, hmethod⟩

end Message

namespace Listener

/-! ### What the flag stands for -/

/-- The response that an operation stores. -/
def Operation.response? (op : Operation) : Option Message :=
  (op.stored?.map (·.1)).filter Message.isResponse

/-- An operation that answers a call: the test says that this side has answered, or a success to an
INVITE is stored. -/
def Operation.Answers (op : Operation) : Prop :=
  op = .markAnswered ∨ ∃ m, op.response? = some m ∧ m.AnswersInvite

/-- Since the last disposal, the test has said that this side has answered, or a success to an
INVITE was stored. -/
def WasAnswered (ops : List Operation) : Prop :=
  .markAnswered ∈ sinceDispose ops ∨ ∃ m ∈ deliveredResponses ops, m.AnswersInvite

theorem response?_deliver {a : Arrival} {m : Message} (h : a.message? = some m) :
    (Operation.deliver a).response? = if m.isResponse then some m else none := by
  rw [Operation.response?, Operation.stored?, h]
  rfl

theorem deliveredResponses_append {op : Operation} (h : op.isDispose = false)
    (ops : List Operation) :
    deliveredResponses (ops ++ [op]) = deliveredResponses ops ++ op.response?.toList := by
  rw [deliveredResponses, log_append h, List.map_append, List.filter_append, ← deliveredResponses,
    Operation.response?]
  congr 1
  cases op.stored? with
  | none => rfl
  | some d => by_cases hd : d.1.isResponse = true <;> simp [numbered, hd, Option.filter]

theorem answers_deliver {a : Arrival} {m : Message} (h : a.message? = some m) :
    (Operation.deliver a).Answers ↔ m.AnswersInvite := by
  simp only [Operation.Answers, response?_deliver h, reduceCtorEq, false_or,
    Option.ite_none_right_eq_some, Option.some.injEq]
  constructor
  · rintro ⟨_, ⟨-, rfl⟩, hanswers⟩
    exact hanswers
  · exact fun hanswers => ⟨m, ⟨hanswers.isResponse, rfl⟩, hanswers⟩

theorem not_wasAnswered_dispose (ops : List Operation) : ¬ WasAnswered (ops ++ [.dispose]) := by
  simp [WasAnswered, deliveredResponses]

/-- Any other operation answers a call by itself or leaves things as they are. -/
theorem wasAnswered_append {op : Operation} (h : op.isDispose = false) (ops : List Operation) :
    WasAnswered (ops ++ [op]) ↔ WasAnswered ops ∨ op.Answers := by
  have hmark : Operation.markAnswered ∈ sinceDispose (ops ++ [op]) ↔
      .markAnswered ∈ sinceDispose ops ∨ op = .markAnswered := by
    rw [sinceDispose_append h, List.mem_append, List.mem_singleton, eq_comm]
  have hresponse : (∃ m ∈ deliveredResponses (ops ++ [op]), m.AnswersInvite) ↔
      (∃ m ∈ deliveredResponses ops, m.AnswersInvite) ∨
        ∃ m, op.response? = some m ∧ m.AnswersInvite := by
    simp only [deliveredResponses_append h, List.mem_append, Option.mem_toList,
      or_and_right, exists_or]
  rw [WasAnswered, WasAnswered, Operation.Answers, hmark, hresponse, or_or_or_comm]

/-- What has answered a call stays until the next disposal. -/
theorem WasAnswered.append {ops more : List Operation} (h : WasAnswered ops)
    (hmore : ∀ op ∈ more, op.isDispose = false) : WasAnswered (ops ++ more) := by
  induction more using List.reverseRecOn with
  | nil => rwa [List.append_nil]
  | append_singleton more op ih =>
    obtain ⟨hbefore, hop⟩ := List.forall_mem_append.1 hmore
    rw [← List.append_assoc, wasAnswered_append (hop op (List.mem_singleton_self op))]
    exact .inl (ih hbefore)

/-! ### The flag -/

theorem noting_call (answered : Bool) (m : Message) (sequence : Int) :
    ∃ after, (Role.call answered).noting m sequence = .call after ∧
      (after = true ↔ answered = true ∨ m.AnswersInvite) := by
  refine ⟨_, rfl, ?_⟩
  rw [Bool.or_eq_true, Option.any_eq_true, ← Message.answers_iff]
  simp only [toOption_getD_eq_true]

/-- An operation sets the flag of a call if it answers the call, a disposal takes it back, and any
other operation leaves it. -/
theorem role_perform {l : Listener} {answered : Bool} (h : l.role = .call answered)
    (op : Operation) : ∃ after, (l.perform op).2.role = .call after ∧
      (after = true ↔ op.isDispose = false ∧ (answered = true ∨ op.Answers)) := by
  cases hs : op.stored? with
  | some d =>
    cases op with
    | deliver a =>
      obtain ⟨m, hm, -⟩ := Option.map_eq_some_iff.1 hs
      obtain ⟨after, hrole, hafter⟩ := noting_call answered m l.nextSequence
      refine ⟨after, ?_, ?_⟩
      · rw [← hrole, ← h]
        exact congrArg Listener.role (receive_eq hm l)
      · rw [hafter, answers_deliver hm]
        simp [Operation.isDispose]
    | _ => cases hs
  | none =>
    cases hd : op.isDispose with
    | true =>
      obtain rfl := Operation.eq_dispose_of_isDispose hd
      exact ⟨false, congrArg Role.fresh h, by simp⟩
    | false =>
      rw [perform_of_stored?_eq_none hs hd, h]
      have hanswers : op.Answers ↔ op = .markAnswered := by
        simp [Operation.Answers, Operation.response?, hs]
      rw [hanswers]
      cases op with
      | markAnswered => exact ⟨true, rfl, by simp⟩
      | _ => exact ⟨answered, rfl, by simp⟩

theorem answered_of_role {l : Listener} {answered : Bool} (h : l.role = .call answered) :
    l.answered = .ok answered := by
  rw [Listener.answered, h]

/-- After any operations, the flag of a call says whether the call was answered. -/
theorem role_run (name : String) (ops : List Operation) :
    ∃ answered, ((new (.call false) name).run ops).role = .call answered ∧
      (answered = true ↔ WasAnswered ops) := by
  induction ops using List.reverseRecOn with
  | nil =>
    exact ⟨false, rfl, by simp [WasAnswered, sinceDispose, deliveredResponses, log, accepted]⟩
  | append_singleton ops op ih =>
    obtain ⟨answered, hrole, hanswered⟩ := ih
    obtain ⟨after, hrole', hafter⟩ := role_perform hrole op
    rw [run_append, run_singleton]
    refine ⟨after, hrole', ?_⟩
    rw [hafter, hanswered]
    cases hd : op.isDispose with
    | true =>
      obtain rfl := Operation.eq_dispose_of_isDispose hd
      simp [not_wasAnswered_dispose]
    | false => rw [wasAnswered_append hd, eq_self, true_and]

theorem passes_answered_iff {l : Listener} {label : Option String} :
    ListenerCheck.answered.run (some l) label = .ok () ↔ l.answered = .ok true :=
  report_eq_ok_iff (.ok (.callUnanswered l.name))

/-- **A call is answered if its log says so.**  After any operations on a new call, disposals among
them, it counts as answered exactly if, since the last disposal, the test has said that this side
has answered, or a success to an INVITE is among the responses that the call has received.  So
nothing but such a response, a word of the test or a disposal changes it: no request, no response to
another method, none with another status code, none whose CSeq header is missing or malformed.  The
check that the call was answered, passed once, passes until the next disposal. -/
theorem answered_run (name : String) (ops : List Operation) :
    let l := (new (.call false) name).run ops
    (∃ answered, l.answered = .ok answered ∧
      (answered = true ↔ .markAnswered ∈ sinceDispose ops ∨
        ∃ m ∈ l.receivedResponses, m.AnswersInvite)) ∧
    (∀ op, (l.perform op).2.answered = l.answered ∨ op = .dispose ∨ op = .markAnswered ∨
      ∃ m, op.response? = some m ∧ m.AnswersInvite) ∧
    ∀ more, (∀ op ∈ more, op.isDispose = false) → ∀ label,
      ListenerCheck.answered.run (some l) label = .ok () →
        ListenerCheck.answered.run (some (l.run more)) label = .ok () := by
  intro l
  obtain ⟨answered, hrole, hanswered⟩ := role_run name ops
  refine ⟨⟨answered, answered_of_role hrole, ?_⟩, fun op => ?_, fun more hmore label hpasses => ?_⟩
  · rw [hanswered, WasAnswered, (holds_run (.call false) name ops).receivedResponses_eq]
  · obtain ⟨after, hrole', hafter⟩ := role_perform hrole op
    rw [answered_of_role hrole', answered_of_role hrole, Except.ok.injEq]
    cases hd : op.isDispose with
    | true => exact .inr (.inl (Operation.eq_dispose_of_isDispose hd))
    | false =>
      by_cases hop : op.Answers
      · exact .inr (.inr hop)
      · exact .inl (Bool.eq_iff_iff.2 (by simp [hafter, hd, hop]))
  · rw [passes_answered_iff, answered_of_role hrole, Except.ok.injEq, hanswered] at hpasses
    obtain ⟨answered', hrole', hanswered'⟩ := role_run name (ops ++ more)
    rw [run_append] at hrole'
    rw [passes_answered_iff, answered_of_role hrole', Except.ok.injEq, hanswered']
    exact hpasses.append hmore

end Listener

end SipBench
