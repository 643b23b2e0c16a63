import SipBench.Await.Goal
import SipBench.Proofs.Await.Instant
import SipBench.Proofs.Correlation
import SipBench.Proofs.Listener.Log
import SipBench.Proofs.Report

/-!
# Awaits for an arrival

An await for a goal on a listener, while the stack delivers messages to the listener.  A goal that
asks for a message is reached once such a message is in the store, and a message that is delivered
stays there.

* `Goal.IsIn`, `Goal.Accepts` : a goal that is reached, and the deliveries that reach it
* `Goal.isIn_deliveries` : a goal is reached by the deliveries that it accepts and by no others
* `Goal.await_arrival` : no arrival is missed, and none is made up
-/

namespace SipBench

/-- A delivery as a step of the listener. -/
def Listener.deliver (a : Arrival) (l : Listener) : Listener := (l.receive a).listener

theorem Listener.after_deliver (l : Listener) (ran : List (Appointment ℚ Arrival)) :
    Timeline.after deliver l ran = l.run (ran.map fun a => .deliver a.event) := by
  rw [Timeline.after, run, List.foldl_map]
  rfl

namespace Goal

/-- The check that the goal is a wait for. -/
def check? : Goal → Option ListenerCheck
  | responseReceived q => some (.responseReceived q)
  | requestReceived q => some (.requestReceived q)
  | answered => some .answered
  | _ => none

/-- The goal makes sense for the listener: a response is asked for with both method and number or
with neither, only a call can be answered, and what the check for it tells can be shown. -/
def Fits (l : Listener) : Goal → Prop
  | responseReceived q =>
    q.method.isNone = q.number.isNone ∧ (ListenerCheck.responseReceived q).CanTell l
  | requestReceived q => (ListenerCheck.requestReceived q).CanTell l
  | answered => ∃ answered, l.role = .call answered
  | _ => True

/-- After a delivery, what the check for the goal tells can still be shown. -/
def CanTell (a : Arrival) : Goal → Prop
  | responseReceived _ =>
    ∀ m status, a.message? = some m → m.status? = some status → status.isWritable = true
  | _ => True

/-- What the goal asks for is in the store of the listener. -/
def IsIn (l : Listener) : Goal → Prop
  | responseReceived q => ∃ m ∈ l.receivedResponses, q.accepts m = true
  | requestReceived q => ∃ m ∈ l.receivedRequests, q.accepts m = true
  | answered => l.role = .call true
  | _ => False

/-- A delivery brings what the goal asks for. -/
def Accepts (a : Arrival) : Goal → Prop
  | responseReceived q => a.list = .responses ∧ ∃ m, a.message? = some m ∧ q.accepts m = true
  | requestReceived q => a.list = .requests ∧ ∃ m, a.message? = some m ∧ q.accepts m = true
  | answered => a.list = .responses ∧ ∃ m status, a.message? = some m ∧ m.status? = some status ∧
      Listener.answers m status = .ok true
  | _ => False

variable {goal : Goal} {check : ListenerCheck} {l : Listener} {ops : List Listener.Operation}

/-! ### Goals and checks -/

theorem evaluate_eq (h : goal.check? = some check) (l : Listener) :
    goal.evaluate l = ofCheck l check := by
  cases goal <;> cases h <;> rfl

theorem finding_responseReceived {q : ResponseQuery} (hq : q.method.isNone = q.number.isNone)
    (hl : l.Holds ops) (htell : (ListenerCheck.responseReceived q).CanTell l) :
    ∃ failure, (ListenerCheck.responseReceived q).finding l =
      .ok (if l.receivedResponses.any q.accepts then none else some failure) := by
  obtain ⟨failure, hfailure⟩ := (ListenerCheck.writes_missingResponse l q).tells htell
  refine ⟨failure, ?_⟩
  simp only [ListenerCheck.finding, ResponseQuery.answer,
    containsStatus_eq hq hl.isResponse_of_mem, hfailure]
  cases l.receivedResponses.any q.accepts <;> rfl

theorem finding_requestReceived {q : RequestQuery} (hl : l.Holds ops)
    (htell : (ListenerCheck.requestReceived q).CanTell l) :
    ∃ failure, (ListenerCheck.requestReceived q).finding l =
      .ok (if l.receivedRequests.any q.accepts then none else some failure) := by
  obtain ⟨failure, hfailure⟩ := (ListenerCheck.writes_missingRequest l q).tells htell
  refine ⟨failure, ?_⟩
  simp only [ListenerCheck.finding, RequestQuery.answer, containsMethod_eq q hl.isRequest_of_mem,
    hfailure]
  cases l.receivedRequests.any q.accepts <;> rfl

theorem finding_answered {answered : Bool} (h : l.role = .call answered) :
    ListenerCheck.answered.finding l =
      .ok (if answered then none else some (.callUnanswered l.name)) := by
  simp only [ListenerCheck.finding, Listener.answered, h]
  cases answered <;> rfl

theorem finding_check (h : goal.check? = some check) (hfits : goal.Fits l) (hl : l.Holds ops) :
    (goal.IsIn l → check.finding l = .ok none) ∧
    (¬ goal.IsIn l → ∃ failure, check.finding l = .ok (some failure)) := by
  cases goal with
  | responseReceived q =>
    cases h
    obtain ⟨failure, hfinding⟩ := finding_responseReceived hfits.1 hl hfits.2
    rw [hfinding, IsIn, ← List.any_eq_true]
    split_ifs with hany <;> simp [hany]
  | requestReceived q =>
    cases h
    obtain ⟨failure, hfinding⟩ := finding_requestReceived hl hfits
    rw [hfinding, IsIn, ← List.any_eq_true]
    split_ifs with hany <;> simp [hany]
  | answered =>
    cases h
    obtain ⟨answered, hrole⟩ := hfits
    rw [finding_answered hrole, IsIn, hrole]
    cases answered <;> simp
  | _ => cases h

theorem run_check (h : goal.check? = some check) (hfits : goal.Fits l) (hl : l.Holds ops) :
    (goal.IsIn l → check.run (some l) none = .ok ()) ∧
    (¬ goal.IsIn l → ∃ failure, check.run (some l) none = .error (.check none failure)) := by
  obtain ⟨hin, hnot⟩ := finding_check h hfits hl
  refine ⟨fun hyes => ?_, fun hno => ?_⟩
  · simp only [ListenerCheck.run, hin hyes, Check.report]
  · obtain ⟨failure, hfailure⟩ := hnot hno
    exact ⟨failure, by simp only [ListenerCheck.run, hfailure, Check.report]⟩

/-! ### Goals and deliveries -/

theorem mem_received_deliver (l : Listener) (a : Arrival) (list : Received) (m : Message) :
    m ∈ (l.deliver a).received list ↔
      m ∈ l.received list ∨ a.list = list ∧ a.message? = some m := by
  rw [Listener.deliver]
  cases hm : a.message? with
  | none =>
    rw [(Listener.receive_of_none hm l).1]
    simp
  | some m' =>
    obtain ⟨role, -, hl⟩ := Listener.receive_of_some hm l
    rw [hl]
    cases a.list <;> cases list <;>
      simp [Listener.received, Listener.receivedResponses, Listener.receivedRequests,
        Listener.append, Listener.nextRecord, eq_comm]

/-- A goal is reached by the deliveries that it accepts and by no others, and stays reached. -/
theorem isIn_deliver (h : goal.check? = some check) (hfits : goal.Fits l) {a : Arrival}
    (htell : goal.CanTell a) :
    (goal.IsIn (l.deliver a) ↔ goal.IsIn l ∨ goal.Accepts a) ∧ goal.Fits (l.deliver a) := by
  cases goal with
  | responseReceived q =>
    have hmem := mem_received_deliver l a .responses
    simp only [Listener.received] at hmem
    refine ⟨?_, hfits.1, hfits.2.1, fun m hm status hstatus => ?_⟩
    · simp only [IsIn, Accepts, hmem, or_and_right, exists_or, and_assoc, exists_and_left]
    · obtain hold | ⟨-, hnew⟩ := (hmem m).1 hm
      · exact hfits.2.2 m hold status hstatus
      · exact htell m status hnew hstatus
  | requestReceived q =>
    refine ⟨?_, hfits⟩
    have hmem := mem_received_deliver l a .requests
    simp only [Listener.received] at hmem
    simp only [IsIn, Accepts, hmem, or_and_right, exists_or, and_assoc, exists_and_left]
  | answered =>
    obtain ⟨answered, hrole⟩ := hfits
    obtain ⟨after, hafter, hiff⟩ := Listener.role_receive hrole a
    refine ⟨?_, after, hafter⟩
    rw [IsIn, IsIn, Listener.deliver, hafter, hrole, Accepts]
    simpa using hiff
  | _ => cases h

/-- A goal is reached after some deliveries if it was before or one of them is accepted. -/
theorem isIn_deliveries (h : goal.check? = some check) (hfits : goal.Fits l)
    {ran : List (Appointment ℚ Arrival)} (htell : ∀ a ∈ ran, goal.CanTell a.event) :
    (goal.IsIn (Timeline.after Listener.deliver l ran) ↔
      goal.IsIn l ∨ ∃ a ∈ ran, goal.Accepts a.event) ∧
    goal.Fits (Timeline.after Listener.deliver l ran) := by
  induction ran generalizing l with
  | nil => exact ⟨by simp [Timeline.after], hfits⟩
  | cons a ran ih =>
    obtain ⟨ha, hran⟩ := List.forall_mem_cons.1 htell
    obtain ⟨hstep, hfits'⟩ := isIn_deliver h hfits ha
    obtain ⟨hrun, hfits''⟩ := ih hfits' hran
    refine ⟨?_, hfits''⟩
    rw [Timeline.after, List.foldl_cons, ← Timeline.after, hrun, hstep, List.exists_mem_cons_iff,
      or_assoc]

/-! ### Awaits -/

/-- What the goal asks for is in the store of the listener, or delivered to it by a time. -/
def ArrivedBy (goal : Goal) (l : Listener) (schedule : List (Appointment ℚ Arrival)) (time : ℚ) :
    Prop :=
  goal.IsIn l ∨ ∃ a ∈ schedule, a.time ≤ time ∧ goal.Accepts a.event

/-- The listener of a timeline on which messages were delivered. -/
theorem isIn_since (h : goal.check? = some check) (hfits : goal.Fits l) (hl : l.Holds ops)
    {start : ℚ} {schedule : List (Appointment ℚ Arrival)}
    (htell : ∀ a ∈ schedule, goal.CanTell a.event) {t : Timeline ℚ Arrival Listener}
    (ht : Timeline.Since Listener.deliver ⟨start, schedule, l⟩ t) :
    (goal.IsIn t.state ↔ goal.ArrivedBy l schedule t.now) ∧ goal.Fits t.state ∧
      ∃ ops, t.state.Holds ops := by
  obtain ⟨ran, hran, -, hstate⟩ := ht.state
  have hmem : ∀ a, a ∈ ran ↔ a ∈ schedule ∧ a.time ≤ t.now := fun a => by
    rw [hran.mem_iff, List.mem_filter, decide_eq_true_eq]
  obtain ⟨hin, hfits'⟩ := isIn_deliveries h hfits fun a ha => htell a ((hmem a).1 ha).1
  rw [hstate]
  refine ⟨?_, hfits', _, by rw [Listener.after_deliver]; exact hl.run _⟩
  simp only [hin, ArrivedBy, hmem, and_assoc]

theorem tells (h : goal.check? = some check) (hfits : goal.Fits l) (hl : l.Holds ops) (start : ℚ)
    {schedule : List (Appointment ℚ Arrival)} (htell : ∀ a ∈ schedule, goal.CanTell a.event) :
    Await.Tells Listener.deliver (fun l => goal.evaluate l) ⟨start, schedule, l⟩
      (goal.ArrivedBy l schedule) := by
  constructor
  · intro t ht harrived
    obtain ⟨hin, hfits', ops, hl'⟩ := isIn_since h hfits hl htell ht
    refine ⟨(), ?_⟩
    rw [evaluate_eq h, ofCheck, (run_check h hfits' hl').1 (hin.2 harrived)]
    rfl
  · intro t ht harrived
    obtain ⟨hin, hfits', ops, hl'⟩ := isIn_since h hfits hl htell ht
    obtain ⟨failure, hfailure⟩ := (run_check h hfits' hl').2 fun hyes => harrived (hin.1 hyes)
    rw [evaluate_eq h, ofCheck, hfailure]
    simp [Except.map, Await.NotYet, Fault.IsNotYet, Fault.kind, FaultKind.origin]

/-- **No arrival is missed, and none is made up.**  With exact times, an await for a response, a
request or an answered call on a listener in any state it can be in ends normally exactly if what it
asks for is in the store at its start or is delivered by its deadline.  Then it ends at the first of
its instants that is not before the arrival, and its check passes on the listener as it is then;
otherwise it times out at the deadline, with the failure of its check on the listener as it is then.
In both cases the deliveries that are due by the end of the await have been made, in the order of
their times, and no others.  What the goal asks for and the status codes that are there or are
delivered have no more digits than can be shown. -/
theorem await_arrival (goal : Goal) (check : ListenerCheck) (hcheck : goal.check? = some check)
    (role : Role) (name : String) (ops : List Listener.Operation)
    (hfits : goal.Fits ((Listener.new role name).run ops))
    (schedule : List (Appointment ℚ Arrival)) (start : ℚ)
    (hlater : ∀ a ∈ schedule, start < a.time) (htell : ∀ a ∈ schedule, goal.CanTell a.event)
    (p : Polling ℚ) (hp : 0 < p.interval) (hT : 0 ≤ p.timeout) (spare fuel : ℕ)
    (hfuel : ⌈p.timeout / p.interval⌉₊ < fuel) :
    let l := (Listener.new role name).run ops
    let arrivedBy := goal.ArrivedBy l schedule
    let deadline := start + p.timeout
    ∃ ending after,
      Await.run (Await.timeline Listener.deliver spare) fuel p (goal.condition (·.state))
        ⟨start, schedule, l⟩ = (ending, after) ∧
      Timeline.Since Listener.deliver ⟨start, schedule, l⟩ after ∧
      (ending = .satisfied () ↔ arrivedBy deadline) ∧
      (arrivedBy deadline → check.run (some after.state) none = .ok () ∧
        ∃ k, after.now = Await.instant start p k ∧ arrivedBy (Await.instant start p k) ∧
          ∀ j < k, ¬ arrivedBy (Await.instant start p j)) ∧
      (¬ arrivedBy deadline → after.now = deadline ∧
        ∃ attempts f, ending = .timedOut p.timeout attempts (some f) ∧
          check.run (some after.state) none = .error f) := by
  intro l arrivedBy deadline
  have hl : l.Holds ops := Listener.holds_run role name ops
  obtain ⟨k, ending, after, hrun, hends⟩ :=
    Await.run_timeline hp hT hlater (tells hcheck hfits hl start htell) spare hfuel
  obtain ⟨hin, hfits', ops', hl'⟩ := isIn_since hcheck hfits hl htell hends.since
  obtain ⟨hyes, hno⟩ := run_check hcheck hfits' hl'
  refine ⟨ending, after, hrun, hends.since, ?_⟩
  have hnow : after.now ≤ deadline := hends.now ▸ Await.instant_le_deadline start p k
  obtain ⟨harrived, v, hv, rfl⟩ | ⟨harrived, hlast, hnot, rfl⟩ := hends.ending
  -- what has arrived by the end has arrived by the deadline
  · have hdeadline : arrivedBy deadline :=
      harrived.imp_right fun ⟨a, ha, hdue, hacc⟩ => ⟨a, ha, hdue.trans hnow, hacc⟩
    refine ⟨iff_of_true rfl hdeadline, fun _ => ⟨hyes (hin.2 harrived), k, hends.now, ?_,
      hends.before⟩, fun h => absurd hdeadline h⟩
    exact hends.now ▸ harrived
  -- the end is the deadline
  · have hdeadline : ¬ arrivedBy deadline := by rwa [show deadline = after.now from hlast.symm]
    refine ⟨iff_of_false nofun hdeadline, fun h => absurd h hdeadline, fun _ => ⟨hlast, k + 1, ?_⟩⟩
    obtain ⟨failure, hfailure⟩ := hno fun h => harrived (hin.1 h)
    refine ⟨_, ?_, hfailure⟩
    rw [evaluate_eq hcheck, ofCheck, hfailure]
    rfl

/-- A success that arrives after one second. -/
def successAfterOne : Appointment ℚ Arrival :=
  ⟨1, { list := .responses, item := .message { start := .response (.int 200) "OK" } }⟩

theorem await_success_after_one :
    ∃ after, Await.run (Await.timeline Listener.deliver 0) 10 ⟨2 / 3, 3⟩
      ((responseReceived ⟨.int 200, .none, .none⟩).condition (·.state))
      ⟨0, [successAfterOne], (Listener.new .plain "phone").run []⟩ = (.satisfied (), after) := by
  obtain ⟨ending, after, hrun, -, hiff, -⟩ :=
    await_arrival (responseReceived ⟨.int 200, .none, .none⟩)
      (.responseReceived ⟨.int 200, .none, .none⟩) rfl .plain "phone" []
      ⟨rfl, ⟨rfl, nofun⟩, nofun⟩ [successAfterOne] 0 (by simp [successAfterOne])
      (List.forall_mem_singleton.2 fun _ _ hm hstatus => by cases hm; cases hstatus; rfl)
      ⟨2 / 3, 3⟩ (by norm_num) (by norm_num) 0 10
      (Nat.lt_succ_of_le (Nat.ceil_le.2 (by norm_num)))
  refine ⟨after, hrun.trans ?_⟩
  rw [hiff.2 (.inr ⟨successAfterOne, List.mem_singleton_self _, by norm_num [successAfterOne],
    rfl, _, rfl, by decide⟩)]

end Goal

end SipBench
