import SipBench.Proofs.Listener.Questions
import SipBench.Proofs.Report

/-!
# Opposite checks

Most checks come in pairs: one that something is so and one that it is not.  Both ask one question,
and what an answer means for the one is the opposite of what it means for the other.  So of two
opposite checks one passes and one fails whenever the question has an answer, and neither is made
when it has none.  The one that fails has to tell what it has found, which a number with too many
digits prevents.

* `ListenerCheck.Opposes`, `MessageCheck.Opposes` : the pairs
* `ListenerCheck.question`, `MessageCheck.question` : what is asked
* `Check.OneFails`, `Check.OneStops` : one check passes, the other one fails or cannot tell
* `opposite_checks` : when this is so
-/

namespace SipBench

/-! ### Findings from answers -/

namespace Check

/-- A check has failed. -/
def Fails (result : Except Fault Unit) : Prop :=
  ∃ fault, result = .error fault ∧ fault.kind = .sipAssertion

/-- Of two checks, one has passed and the other one has failed. -/
def OneFails (yes no : Except Fault Unit) : Prop :=
  yes = .ok () ∧ Fails no ∨ Fails yes ∧ no = .ok ()

/-- A check has failed, if what it tells can be shown, and else it could not be made. -/
structure Stops (can : Prop) (result : Except Fault Unit) : Prop where
  fails (h : can) : Fails result
  refuses (h : ¬ can) : result = .error .tooManyDigits

/-- Of two checks, one has passed and the other one has not; `canYes` and `canNo` say whether what
they tell can be shown. -/
def OneStops (canYes canNo : Prop) (yes no : Except Fault Unit) : Prop :=
  yes = .ok () ∧ Stops canNo no ∨ Stops canYes yes ∧ no = .ok ()

variable {label label' : Option String} {f g : CheckFailure} {canYes canNo : Prop}
  {told told' : Except Fault CheckFailure}

theorem fails_report (label : Option String) (f : CheckFailure) :
    Fails (report label (.ok (some f))) :=
  ⟨_, rfl, rfl⟩

theorem oneFails_report (found : Bool) :
    OneFails (report label (.ok (if found then none else some f)))
      (report label' (.ok (if found then some g else none))) := by
  cases found with
  | true => exact .inl ⟨rfl, fails_report label' g⟩
  | false => exact .inr ⟨fails_report label f, rfl⟩

theorem stops_report (h : Writes canYes told) (label : Option String) :
    Stops canYes (report label (do return some (← told))) := by
  constructor
  · intro hcan
    obtain ⟨f, rfl⟩ := h.tells hcan
    exact fails_report label f
  · intro hnot
    rw [h.refuses hnot]
    rfl

/-- A check that cannot tell what it has found neither passes nor fails. -/
theorem Stops.not_oneFails {yes no : Except Fault Unit} (h : Stops canYes yes) (hnot : ¬ canYes) :
    ¬ OneFails yes no := by
  rw [h.refuses hnot]
  rintro (⟨hpasses, -⟩ | ⟨⟨f, hfault, hkind⟩, -⟩)
  · cases hpasses
  · cases hfault
    cases hkind

theorem oneStops_report (hyes : Writes canYes told) (hno : Writes canNo told') (found : Bool) :
    OneStops canYes canNo
      (report label (if found then .ok none else do return some (← told)))
      (report label' (if found then do return some (← told') else .ok none)) := by
  cases found with
  | true => exact .inl ⟨rfl, stops_report hno label'⟩
  | false => exact .inr ⟨stops_report hyes label, rfl⟩

end Check

open Check

/-! ### Checks of listeners -/

namespace ListenerCheck

/-- The pairs of a check that something is so and a check that it is not. -/
inductive Opposes : ListenerCheck → ListenerCheck → Prop
  | lastOperation : Opposes lastOperationSuccess lastOperationFail
  | response (q : ResponseQuery) : Opposes (responseReceived q) (responseNotReceived q)
  | request (q : RequestQuery) : Opposes (requestReceived q) (requestNotReceived q)
  | answered : Opposes answered notAnswered

/-- The question that a check asks. -/
def question (l : Listener) : ListenerCheck → Except Fault Bool
  | lastOperationSuccess | lastOperationFail => .ok l.errorMessage.isEmpty
  | responseReceived q | responseNotReceived q => q.answer l
  | requestReceived q | requestNotReceived q => q.answer l
  | answered | notAnswered => l.answered
  | noSubscriptionErrors => l.eventErrors.map (·.isEmpty)

/-- The question of a check can be asked of listeners of some kind: only a call was answered or not,
and the parts of a CSeq are asked for together. -/
def Fits (role : Role) : ListenerCheck → Prop
  | responseReceived q | responseNotReceived q => q.method.isNone = q.number.isNone
  | answered | notAnswered => ∃ answered, role = .call answered
  | _ => True

variable {yes no : ListenerCheck}

/-- Two opposite checks ask one question and want opposite answers. -/
theorem Opposes.finding_eq (h : yes.Opposes no) (l : Listener) : ∃ told told',
    Writes (yes.CanTell l) told ∧ Writes (no.CanTell l) told' ∧
    finding l yes = (do if ← yes.question l then .ok none else return some (← told)) ∧
    finding l no = (do if ← yes.question l then return some (← told') else .ok none) := by
  cases h with
  | lastOperation =>
    refine ⟨_, _, .ok (.operationFailed l.errorMessage), .ok .operationSucceeded, ?_, ?_⟩
    all_goals
      simp only [finding, question]
      cases l.errorMessage.isEmpty <;> rfl
  | response q =>
    exact ⟨_, _, writes_missingResponse l q, writes_unwantedResponse l q, rfl, rfl⟩
  | request q => exact ⟨_, _, writes_missingRequest l q, writes_unwantedRequest l q, rfl, rfl⟩
  | answered => exact ⟨_, _, .ok (.callUnanswered l.name), .ok (.callAnswered l.name), rfl, rfl⟩

theorem exists_answer (h : yes.Opposes no) {role : Role} (hfits : yes.Fits role) (name : String)
    (ops : List Listener.Operation) :
    ∃ found, yes.question ((Listener.new role name).run ops) = .ok found := by
  have hholds := Listener.holds_run role name ops
  cases h with
  | lastOperation => exact ⟨_, rfl⟩
  | response q =>
    have hqualified : q.method.isNone = q.number.isNone := hfits
    have hanswer := hholds.answer_response q
    rw [if_pos hqualified] at hanswer
    exact ⟨_, hanswer⟩
  | request q => exact ⟨_, hholds.answer_request q⟩
  | answered =>
    obtain ⟨before, rfl⟩ := hfits
    have hfresh : ((Listener.new (.call before) name).run ops).role.fresh = .call false :=
      Listener.fresh_run _ ops
    dsimp only [question, Listener.answered]
    cases hrole : ((Listener.new (.call before) name).run ops).role with
    | call after => exact ⟨after, rfl⟩
    | _ => rw [hrole] at hfresh; cases hfresh

/-- **Of two opposite checks, one passes and one does not.** -/
theorem Opposes.oneStops (h : yes.Opposes no) {role : Role} (hfits : yes.Fits role)
    (name : String) (ops : List Listener.Operation) (label label' : Option String) :
    let l := (Listener.new role name).run ops
    OneStops (yes.CanTell l) (no.CanTell l) (yes.run (some l) label) (no.run (some l) label') := by
  intro l
  obtain ⟨told, told', htold, htold', hyes, hno⟩ := h.finding_eq l
  obtain ⟨found, hfound⟩ := exists_answer h hfits name ops
  dsimp only [run]
  rw [hyes, hno, hfound]
  exact oneStops_report htold htold' found

theorem stops_of_answer {l : Listener} {q : ResponseQuery} (h : q.answer l = .ok false)
    (label : Option String) :
    Stops ((responseReceived q).CanTell l) ((responseReceived q).run (some l) label) := by
  dsimp only [run, finding]
  rw [h]
  exact stops_report (writes_missingResponse l q) label

/-- A question about a response that asks for half a CSeq stops both checks. -/
theorem run_halfQualified (l : Listener) {q : ResponseQuery}
    (hq : q.method.isNone ≠ q.number.isNone) (label : Option String) :
    (responseReceived q).run (some l) label = .error (.misuse .halfQualified) ∧
      (responseNotReceived q).run (some l) label = .error (.misuse .halfQualified) := by
  have hanswer : q.answer l = .error (.misuse .halfQualified) := by
    rw [ResponseQuery.answer, containsStatus, if_pos (bne_iff_ne.2 hq)]
  obtain ⟨told, told', -, -, hyes, hno⟩ := (Opposes.response q).finding_eq l
  rw [question, hanswer] at hyes hno
  dsimp only [run]
  rw [hyes, hno]
  exact ⟨rfl, rfl⟩

end ListenerCheck

/-! ### Checks of messages -/

namespace MessageCheck

/-- The pairs of a check that something is so and a check that it is not. -/
inductive Opposes : MessageCheck → MessageCheck → Prop
  | header (name : String) : Opposes (headerPresent name) (headerNotPresent name)
  | headerText (name text : String) :
    Opposes (headerContains name text) (headerNotContains name text)
  | body : Opposes bodyPresent bodyNotPresent
  | bodyText (text : String) : Opposes (bodyContains text) (bodyNotContains text)

/-- The question that a check asks. -/
def question (m : Message) : MessageCheck → Bool
  | headerPresent name | headerNotPresent name => !(m.headersNamed name).isEmpty
  | headerContains name text | headerNotContains name text => headerHolds m name text
  | bodyPresent | bodyNotPresent => 0 < m.contentLength
  | bodyContains text | bodyNotContains text => 0 < m.contentLength && bodyHolds m text

variable {yes no : MessageCheck}

/-- Two opposite checks ask one question and want opposite answers. -/
theorem Opposes.finding_eq (h : yes.Opposes no) (m : Message) : ∃ f g,
    finding m yes = (if yes.question m then none else some f) ∧
      finding m no = (if yes.question m then some g else none) := by
  cases h with
  | header name =>
    refine ⟨.headerMissing name, .headerPresent name, ?_, ?_⟩
    all_goals
      by_cases hnone : (m.headersNamed name).isEmpty = true <;> simp [finding, question, hnone]
  | headerText name text => exact ⟨_, _, rfl, rfl⟩
  | body =>
    refine ⟨.bodyMissing, .bodyPresent m.contentLength, ?_, ?_⟩
    all_goals
      by_cases hlength : m.contentLength ≤ 0 <;> simp [finding, question, hlength]
  | bodyText text =>
    refine ⟨if m.contentLength ≤ 0 then .bodyMissing else .bodyLacks text, .bodyHolds text, ?_, rfl⟩
    by_cases hlength : 0 < m.contentLength
    · simp [finding, question, hlength, Int.not_le.2 hlength]
    · simp [finding, question, hlength, Int.not_lt.1 hlength]

/-- **Of two opposite checks of a message, one fails.** -/
theorem Opposes.oneFails (h : yes.Opposes no) (m : Message) (label label' : Option String) :
    OneFails (yes.run (.message m) label) (no.run (.message m) label') := by
  obtain ⟨f, g, hyes, hno⟩ := h.finding_eq m
  dsimp only [run]
  rw [hyes, hno]
  exact oneFails_report (yes.question m)

theorem Opposes.passes_iff (h : yes.Opposes no) (m : Message) (label : Option String) :
    yes.run (.message m) label = .ok () ↔ yes.question m = true := by
  obtain ⟨f, g, hyes, -⟩ := h.finding_eq m
  dsimp only [run]
  rw [hyes]
  cases yes.question m with
  | true => exact iff_of_true rfl rfl
  | false => exact iff_of_false nofun nofun

theorem headerPresent_of_headerContains {m : Message} {name text : String} {label : Option String}
    (h : (headerContains name text).run (.message m) label = .ok ()) (label' : Option String) :
    (headerPresent name).run (.message m) label' = .ok () := by
  rw [(Opposes.headerText name text).passes_iff, question, headerHolds, List.any_eq_true] at h
  obtain ⟨header, hmem, -⟩ := h
  rw [(Opposes.header name).passes_iff, question, Bool.not_eq_true', List.isEmpty_eq_false_iff]
  exact List.ne_nil_of_mem hmem

theorem bodyPresent_of_bodyContains {m : Message} {text : String} {label : Option String}
    (h : (bodyContains text).run (.message m) label = .ok ()) (label' : Option String) :
    bodyPresent.run (.message m) label' = .ok () := by
  rw [(Opposes.bodyText text).passes_iff, question, Bool.and_eq_true] at h
  exact (Opposes.body.passes_iff m label').2 h.1

end MessageCheck

/-- **Opposite checks are complements.**  Of two opposite checks of a listener after any operations,
exactly one passes, whatever the labels, and the other one fails; that a call was answered or not is
asked of calls.  Only a number with too many digits, among those that the other one would have to
tell, stops it as a bad value instead.  The exceptions are a missing listener, where both fail, and
a question about a response with half a CSeq, which stops both as a bad value.  Of two opposite
checks of a message exactly one fails, and both fail if there is no message.  A header or a body
with some text in it is there. -/
theorem opposite_checks (label label' : Option String) :
    (∀ (role : Role) (name : String) (ops : List Listener.Operation) (yes no : ListenerCheck),
      yes.Opposes no → yes.Fits role →
        let l := (Listener.new role name).run ops
        OneStops (yes.CanTell l) (no.CanTell l)
          (yes.run (some l) label) (no.run (some l) label')) ∧
    Fault.tooManyDigits.kind = .badValue ∧
    (∀ (l : Listener) (q : ResponseQuery), q.method.isNone ≠ q.number.isNone →
      (ListenerCheck.responseReceived q).run (some l) label = .error (.misuse .halfQualified) ∧
        (ListenerCheck.responseNotReceived q).run (some l) label' =
          .error (.misuse .halfQualified)) ∧
    (Fault.misuse .halfQualified).kind = .badValue ∧
    (∀ yes no : ListenerCheck, yes.Opposes no →
      Fails (yes.run none label) ∧ Fails (no.run none label')) ∧
    (∀ (m : Message) (yes no : MessageCheck), yes.Opposes no →
      OneFails (yes.run (.message m) label) (no.run (.message m) label')) ∧
    (∀ yes no : MessageCheck, yes.Opposes no →
      Fails (yes.run (.other .none) label) ∧ Fails (no.run (.other .none) label')) ∧
    (∀ m name text, (MessageCheck.headerContains name text).run (.message m) label = .ok () →
      (MessageCheck.headerPresent name).run (.message m) label' = .ok ()) ∧
    ∀ m text, (MessageCheck.bodyContains text).run (.message m) label = .ok () →
      MessageCheck.bodyPresent.run (.message m) label' = .ok () := by
  refine ⟨fun role name ops yes no h hfits => h.oneStops hfits name ops label label', rfl,
    fun l q hq => ?_, rfl, fun yes no _ => ?_, fun m yes no h => h.oneFails m label label',
    fun yes no _ => ?_, fun m name text h => ?_, fun m text h => ?_⟩
  · exact ⟨(ListenerCheck.run_halfQualified l hq label).1,
      (ListenerCheck.run_halfQualified l hq label').2⟩
  · exact ⟨fails_report label _, fails_report label' _⟩
  · exact ⟨fails_report label _, fails_report label' _⟩
  · exact MessageCheck.headerPresent_of_headerContains h label'
  · exact MessageCheck.bodyPresent_of_bodyContains h label'

/-- A status code of 5001 digits was not received, and the check for it cannot tell. -/
theorem long_code_check :
    let l := Listener.new .plain ""
    let q : ResponseQuery := ⟨.int (10 ^ 5000), .none, .none⟩
    let yes := (ListenerCheck.responseReceived q).run (some l) none
    let no := (ListenerCheck.responseNotReceived q).run (some l) none
    no = .ok () ∧ yes = .error .tooManyDigits ∧ ¬ OneFails yes no := by
  intro l q yes no
  have hlong : ¬ (ListenerCheck.responseReceived q).CanTell l :=
    fun h => Value.not_isWritable_pow (by decide) h.1.1
  have hstops : Stops ((ListenerCheck.responseReceived q).CanTell l) yes :=
    ListenerCheck.stops_of_answer rfl none
  exact ⟨rfl, hstops.refuses hlong, hstops.not_oneFails hlong⟩

end SipBench
