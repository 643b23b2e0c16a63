import SipBench.Proofs.Await.Outcome
import SipBench.Proofs.Await.Program

/-!
# Awaits within awaits

Each call of a program decides by what its own evaluations end with, counts them by itself and
writes one entry to the audit trail when it ends, after the entries of the calls that its
evaluations have made; only an interruption, or polling values that cannot be used, leaves no entry.

* `Await.Closes`, `Await.CallRecord.Closed` : how a call ends, and the entry that it writes then
* `Await.Rises` : the calls around an evaluation that nothing shields from its fault
* `Await.Program.run_closed` : how all calls of a run have ended, and what they have written
-/

namespace SipBench

namespace Polling

theorem severity_of_given {v : Value} {standard : Double} {f : Fault}
    (h : given v standard = .error f) : f.severity = .fatal := by
  unfold given at h
  split at h
  · cases h
  · split_ifs at h
    cases h; rfl
  · cases h; rfl

theorem severity_of_checked {v : Value} {standard : Double} {fits : Number → Bool}
    {refuse : Number → PollingError} {f : Fault}
    (h : resolve.checked (given v standard) fits refuse = .error f) : f.severity = .fatal := by
  unfold resolve.checked at h
  split at h
  · cases h
    exact severity_of_given ‹_›
  · split_ifs at h
    cases h; rfl

theorem severity_of_resolve {defaults : Polling Double} {interval timeout : Value} {f : Fault}
    (h : resolve defaults interval timeout = .error f) : f.severity = .fatal := by
  unfold resolve at h
  cases hi : resolve.checked (given interval defaults.interval) (Number.less (.whole 0))
      .interval with
  | error e =>
    rw [hi] at h
    cases h
    exact severity_of_checked hi
  | ok i =>
    rw [hi] at h
    cases ht : resolve.checked (given timeout defaults.timeout) (Number.atMost (.whole 0))
        .timeout with
    | error e =>
      rw [ht] at h
      cases h
      exact severity_of_checked ht
    | ok t =>
      rw [ht] at h
      cases h

end Polling

namespace Await

variable {σ : Type}

/-! ### The audit trail of a call -/

/-- The entries of the audit trail in a log. -/
def auditTrail (log : List LogEntry) : List LogEntry :=
  log.filter (·.logger == "sip_test_util.logging_audit.audit")

@[simp]
theorem auditTrail_append (log log' : List LogEntry) :
    auditTrail (log ++ log') = auditTrail log ++ auditTrail log' := List.filter_append ..

/-- What the events of an await on `what` add to the audit trail. -/
def auditEntries (what : Value) (h : List (Event Number EvaluationRecord)) : List LogEntry :=
  auditTrail (h.flatMap (Event.entries what))

theorem auditEntries_cons (what : Value) (e : Event Number EvaluationRecord)
    (h : List (Event Number EvaluationRecord)) :
    auditEntries what (e :: h) = auditTrail (e.entries what) ++ auditEntries what h := by
  simp [auditEntries]

theorem auditEntries_notYet (what : Value) (seen : EvaluationRecord) (attempt : ℕ)
    (fault : Option Fault) (h : List (Event Number EvaluationRecord)) :
    auditEntries what (Event.evaluated seen :: notYetNotes attempt fault ++ h) =
      auditTrail seen.entries ++ auditEntries what h := by
  cases fault with
  | none => exact auditEntries_cons ..
  | some f =>
    refine (auditEntries_cons ..).trans (congrArg (auditTrail seen.entries ++ ·) ?_)
    exact auditEntries_cons what (.noted (.notYet attempt f)) h

theorem auditEntries_last (what : Value) (seen : EvaluationRecord)
    {h : List (Event Number EvaluationRecord)} (hlast : evaluations h = []) :
    auditEntries what (.evaluated seen :: h) =
      (evaluations (.evaluated seen :: h)).flatMap (fun e => auditTrail e.1.entries) ++
        auditEntries what h := by
  rw [auditEntries_cons, evaluations, hlast, List.flatMap_singleton]
  rfl

/-- The note with which an await ends. -/
def Ending.note? {α : Type} (duration : Number) (count : ℕ) : Ending Number α → Option (Note Number)
  | .satisfied _ => some (.satisfied duration count)
  | .failed f => if f.severity = .interruption then none else some (.failed duration count f)
  | .timedOut .. => some (.timedOut duration count)
  | .unfinished => none

theorem Ending.note?_of_interruption {α : Type} {f : Fault} (hf : f.severity = .interruption)
    (duration : Number) (count : ℕ) : (Ending.failed (α := α) f).note? duration count = none :=
  if_pos hf

theorem Ending.note?_of_fatal {α : Type} {f : Fault} (hf : f.severity = .fatal)
    (duration : Number) (count : ℕ) :
    (Ending.failed (α := α) f).note? duration count = some (.failed duration count f) :=
  if_neg (by rw [hf]; nofun)

/-- Of what an await notes, only the note with which it ends belongs to the audit trail. -/
theorem Course.auditEntries_eq {α : Type} {judge : EvaluationRecord → Except Fault (Option α)}
    {interval start deadline : Number} {fuel attempts : ℕ}
    {h : List (Event Number EvaluationRecord)} {ending : Ending Number α}
    (hc : Course judge interval start deadline fuel attempts h ending) (what : Value) :
    ∃ duration, (∀ elapsed count last, ending = .timedOut elapsed count last → duration = elapsed) ∧
      auditEntries what h = (evaluations h).flatMap (fun e => auditTrail e.1.entries) ++
        ((ending.note? duration (attempts + (evaluations h).length)).map
          (Note.entry what)).toList := by
  induction hc with
  | stop => exact ⟨start, nofun, rfl⟩
  | holds hv t => exact ⟨t - start, nofun, auditEntries_last what _ rfl⟩
  | interrupted hf hs =>
    refine ⟨start, nofun, ?_⟩
    rw [Ending.note?_of_interruption hs]
    exact auditEntries_last what _ rfl
  | failed hf hs t =>
    refine ⟨t - start, nofun, ?_⟩
    rw [Ending.note?_of_fatal hs]
    exact auditEntries_last what _ rfl
  | @timedOut _ attempts seen _ hv now hd t =>
    refine ⟨t - start, ?_, ?_⟩
    · rintro elapsed count last ⟨⟩
      rfl
    · rw [evaluations_notYet, auditEntries_notYet,
        show evaluations [.read t, .noted _] = [] from rfl, List.flatMap_singleton]
      rfl
  | @again _ attempts seen _ hv now hd rest ending hrest ih =>
    obtain ⟨duration, hduration, htrail⟩ := ih
    refine ⟨duration, hduration, ?_⟩
    rw [evaluations_notYet, auditEntries_notYet, List.flatMap_cons, List.length_cons,
      List.append_assoc, ← Nat.add_assoc, Nat.add_right_comm]
    exact congrArg (auditTrail seen.entries ++ ·) htrail

/-! ### How a call ends -/

/-- An evaluation that is still open before the deadline, so that the call goes on polling. -/
def PollsOn (deadline : Number) (e : EvaluationRecord × Option Number) : Prop :=
  StillOpen e.1.result ∧ ∃ now, e.2 = some now ∧ ¬ deadline ≤ now

/-- How a call ends with the last one of `count` evaluations, and what it then writes to the audit
trail itself: one entry with its own description and count, or nothing if it is interrupted. -/
inductive Closes (what : Value) (limit deadline : Number) (count : ℕ) :
    EvaluationRecord × Option Number → Except Fault Unit → List LogEntry → Prop
  | satisfied {e : EvaluationRecord} {now : Option Number} {v : Value} (h : e.result = .ok v)
      (hv : ¬ v.isFalse) (duration : Number) :
    Closes what limit deadline count (e, now) (.ok ())
      [Audit.entry "AWAIT_SATISFIED" (outcomeFields "success" what duration count)]
  | failed {e : EvaluationRecord} {now : Option Number} {f : Fault} (h : e.result = .error f)
      (hf : f.severity = .fatal) (duration : Number) :
    Closes what limit deadline count (e, now) (.error f)
      [Audit.entry "AWAIT_FATAL_ERROR"
        (outcomeFields "failure" what duration count ++ diagnosisFields f.diagnosis)]
  | interrupted {e : EvaluationRecord} {now : Option Number} {f : Fault} (h : e.result = .error f)
      (hf : f.severity = .interruption) :
    Closes what limit deadline count (e, now) (.error f) []
  | timedOut {e : EvaluationRecord} {now : Number} (h : StillOpen e.result) (hd : deadline ≤ now)
      (duration : Number) :
    Closes what limit deadline count (e, some now)
      (.error (.timeout what limit duration (.int count) (fault? e.result)))
      [Audit.entry "AWAIT_TIMEOUT" (outcomeFields "failure" what duration count)]

/-- What is known of a call that is over.  If its polling values could not be used, it has done
nothing.  Otherwise the last one of its evaluations has closed it, and the entry that it wrote
itself is the last one of its audit trail, after the entries of all its evaluations; or it was given
up after `fuel` evaluations before its deadline. -/
inductive CallRecord.Closed (fuel : Polling Number → ℕ) (c : CallRecord) : Prop
  | refused {f : Fault} (hpolling : c.polling = .error f) (hf : f.severity = .fatal)
      (hanswer : c.answer = .error f) (hhistory : c.history = []) (hentries : c.entries = [])
  | ended {p : Polling Number} {start : Number} {init : List (EvaluationRecord × Option Number)}
      {last : EvaluationRecord × Option Number} {written : List LogEntry}
      (hpolling : c.polling = .ok p) (hstart : firstReading c.history = some start)
      (heval : evaluations c.history = init ++ [last])
      (hinit : ∀ e ∈ init, PollsOn (start + p.timeout) e)
      (hlast : Closes c.what p.timeout (start + p.timeout) (init.length + 1) last c.answer written)
      (htrail : auditTrail c.entries =
        (init ++ [last]).flatMap (fun e => auditTrail e.1.entries) ++ written)
  | givenUp {p : Polling Number} {start : Number} (hpolling : c.polling = .ok p)
      (hstart : firstReading c.history = some start)
      (hcount : (evaluations c.history).length = fuel p)
      (hall : ∀ e ∈ evaluations c.history, PollsOn (start + p.timeout) e)
      (hanswer : c.answer = .error .stalled)
      (htrail : auditTrail c.entries =
        (evaluations c.history).flatMap fun e => auditTrail e.1.entries)

/-- The calls of an evaluation, and those that their own evaluations have made, at any depth. -/
inductive CallRecord.MadeIn (c : CallRecord) : EvaluationRecord → Prop
  | direct {e : EvaluationRecord} (hc : c ∈ e.calls) : c.MadeIn e
  | inner {e e' : EvaluationRecord} {c' : CallRecord} {now : Option Number} (hc : c' ∈ e.calls)
      (he : (e', now) ∈ evaluations c'.history) (hinner : c.MadeIn e') : c.MadeIn e

theorem pollsOn_iff {deadline : Number} {e : EvaluationRecord × Option Number} :
    GoesOn EvaluationRecord.held deadline e ↔ PollsOn deadline e := by
  rw [GoesOn, EvaluationRecord.held, notYet_map_heldValue, PollsOn]

/-- An evaluation that leads to an ending closes the call, which then writes the note of that
ending. -/
theorem Ends.closes {p : Polling Number} {start : Number} {final : Option Number} {count : ℕ}
    {e : EvaluationRecord × Option Number} {ending : Ending Number Value}
    (h : Ends EvaluationRecord.held start (start + p.timeout) final count e ending) (what : Value)
    {duration : Number}
    (hduration : ∀ elapsed count last, ending = .timedOut elapsed count last →
      duration = elapsed) :
    Closes what p.timeout (start + p.timeout) count e
      ((ending.result what p.timeout).map fun _ => ())
      ((ending.note? duration count).map (Note.entry what)).toList := by
  cases h with
  | holds h =>
    obtain ⟨hv, hheld⟩ := map_heldValue_eq_ok.1 h
    exact .satisfied hv hheld duration
  | @fails _ _ f h hf =>
    have hresult := map_heldValue_eq_error.1 h
    cases hs : f.severity with
    | retry => exact absurd (Fault.severity_eq_retry_iff.1 hs) hf
    | interruption =>
      rw [Ending.note?_of_interruption hs]
      exact .interrupted hresult hs
    | fatal =>
      rw [Ending.note?_of_fatal hs]
      exact .failed hresult hs duration
  | @late seen _ t h hd _ =>
    obtain rfl := hduration _ _ _ rfl
    rw [Ending.result, EvaluationRecord.held, fault?_map_heldValue]
    exact .timedOut ((notYet_map_heldValue _).1 h) hd _

/-- A call is closed if one of the courses has led from its beginning to its answer. -/
theorem CallRecord.closed_of_course {fuel : Polling Number → ℕ} {c : CallRecord}
    {p : Polling Number} {start : Number} {rest : List (Event Number EvaluationRecord)}
    {ending : Ending Number Value} (hpolling : c.polling = .ok p)
    (hhistory : c.history = .read start :: .noted (.begun p) :: rest)
    (hcourse : Course EvaluationRecord.held p.interval start (start + p.timeout) (fuel p) 0 rest
      ending)
    (hanswer : c.answer = (ending.result c.what p.timeout).map fun _ => ())
    (hentries : c.entries = c.history.flatMap (Event.entries c.what)) : c.Closed fuel := by
  have hstart : firstReading c.history = some start := by rw [hhistory]; rfl
  have hevaluations : evaluations c.history = evaluations rest := by rw [hhistory]; rfl
  have htrail : auditTrail c.entries = auditEntries c.what rest := by rw [hentries, hhistory]; rfl
  obtain ⟨duration, hduration, hrest⟩ := hcourse.auditEntries_eq c.what
  rw [hrest] at htrail
  obtain ⟨rfl, hlength, hall⟩ | ⟨init, last, heval, hall, hends⟩ := hcourse.outcome
  · rw [← hevaluations] at hlength hall htrail
    exact .givenUp hpolling hstart hlength (fun e he => pollsOn_iff.1 (hall e he)) hanswer
      (htrail.trans (List.append_nil _))
  · rw [heval, Nat.zero_add, List.length_append, List.length_singleton] at htrail
    rw [Nat.zero_add] at hends
    refine .ended hpolling hstart (hevaluations.trans heval)
      (fun e he => pollsOn_iff.1 (hall e he)) ?_ htrail
    rw [hanswer]
    exact hends.closes c.what hduration

section

variable (world : World σ Number) (fuel : Polling Number → ℕ) (defaults : Polling Double)

theorem recordCall_closed {look : σ × List LogEntry → EvaluationRecord × (σ × List LogEntry)}
    (hlook : ∀ s, (look s).2.2 = s.2 ++ (look s).1.entries)
    (interval timeout what : Value) (s : σ × List LogEntry) :
    (recordCall world fuel defaults interval timeout what look s).1.Closed fuel := by
  cases hpolling : Polling.resolve defaults interval timeout with
  | error f =>
    have hcall : (recordCall world fuel defaults interval timeout what look s).1 =
        ⟨what, .error f, [], .error f, s.2.drop s.2.length⟩ := by
      simp only [recordCall, recordedCall, call, hpolling]
      rfl
    rw [hcall]
    exact .refused rfl (Polling.severity_of_resolve hpolling) rfl rfl List.drop_length
  | ok p =>
    obtain ⟨start, rest, hshape, hcourse⟩ := course_run (world.logging what) (fuel p) p
      EvaluationRecord.held look s
    have hcall : (recordCall world fuel defaults interval timeout what look s).1 =
        ⟨what, .ok p, history (world.logging what) (fuel p) p EvaluationRecord.held look s,
          ((run (world.logging what) (fuel p) p (.judged EvaluationRecord.held look) s).1.result
            what p.timeout).map fun _ => (),
          (recordCall world fuel defaults interval timeout what look s).1.entries⟩ := by
      rw [run_recording]
      simp only [recordCall, recordedCall, call, hpolling]
      rfl
    obtain ⟨hentries, -⟩ := recordCall_log world fuel defaults hlook interval timeout what s
    rw [hcall] at hentries ⊢
    exact CallRecord.closed_of_course rfl hshape hcourse rfl hentries

theorem mem_of_mem_evaluations {τ ρ : Type} {h : List (Event τ ρ)} {e : ρ × Option τ}
    (he : e ∈ evaluations h) : .evaluated e.1 ∈ h := by
  induction h with
  | nil => cases he
  | cons event h ih =>
    cases event with
    | evaluated seen =>
      obtain rfl | he := List.mem_cons.1 he
      · exact List.mem_cons_self
      · exact List.mem_cons_of_mem _ (ih he)
    | read | slept | noted => exact List.mem_cons_of_mem _ (ih he)

/-- What is true of every evaluation is true of those of a call. -/
theorem recordCall_inner {look : σ × List LogEntry → EvaluationRecord × (σ × List LogEntry)}
    {Q : EvaluationRecord → Prop} (hlook : ∀ s, Q (look s).1) (interval timeout what : Value)
    (s : σ × List LogEntry) :
    ∀ e ∈ evaluations (recordCall world fuel defaults interval timeout what look s).1.history,
      Q e.1 := by
  intro e he
  have hmem : .evaluated e.1 ∈ callHistory (world.logging what) fuel defaults interval timeout what
      EvaluationRecord.held look s := mem_of_mem_evaluations he
  cases hpolling : Polling.resolve defaults interval timeout with
  | error f =>
    rw [callHistory_of_error hpolling] at hmem
    cases hmem
  | ok p =>
    rw [callHistory_of_ok hpolling] at hmem
    exact evaluated_mem_history _ hlook _ _ _ _ _ hmem

theorem Program.recorded_closed (program : Program σ) (s : σ × List LogEntry) :
    ∀ c : CallRecord, c.MadeIn (program.recorded world fuel defaults s).1 → c.Closed fuel := by
  induction program generalizing s with
  | ends result =>
    rintro c (hc | ⟨hc, -, -⟩)
    · cases hc
    · cases hc
  | acts act next ih => exact ih (act s.1) (act s.1, s.2)
  | awaits interval timeout what condition next ihc ihn =>
    have hclosed := recordCall_closed world fuel defaults
      (condition.recorded_log world fuel defaults) interval timeout what s
    have hinner := recordCall_inner world fuel defaults
      (Q := fun e => ∀ c : CallRecord, c.MadeIn e → c.Closed fuel) ihc interval timeout what s
    -- a call is the first one, or within it, or it belongs to what follows
    rintro c (hc | ⟨hc, he, hmade⟩)
    · obtain rfl | hc := List.mem_cons.1 hc
      · exact hclosed
      · exact ihn _ _ c (.direct hc)
    · obtain rfl | hc := List.mem_cons.1 hc
      · exact hinner _ he c hmade
      · exact ihn _ _ c (.inner hc he hmade)

end

/-! ### What an inner call means for an outer one -/

section

variable {e : EvaluationRecord} {f : Fault}

theorem not_stillOpen_of_fatal (hresult : e.result = .error f) (hf : f.severity = .fatal) :
    ¬ StillOpen e.result := by
  rw [hresult]
  exact Fault.not_isNotYet hf nofun

section

variable {what : Value} {limit deadline : Number} {count : ℕ} {now : Option Number}
  {answer : Except Fault Unit} {written : List LogEntry}

theorem Closes.of_notYet (h : Closes what limit deadline count (e, now) answer written)
    (hresult : e.result = .error f) (hf : f.IsNotYet) :
    ∃ duration, answer = .error (.timeout what limit duration (.int count) (some f)) := by
  cases h with
  | satisfied h hv duration => cases hresult.symm.trans h
  | failed h hs | interrupted h hs =>
    cases hresult.symm.trans h
    exact absurd hf (Fault.not_isNotYet hs nofun)
  | timedOut h hd duration =>
    rw [hresult]
    exact ⟨duration, rfl⟩

theorem Closes.of_fatal (h : Closes what limit deadline count (e, now) answer written)
    (hresult : e.result = .error f) (hf : f.severity = .fatal) :
    answer = .error f ∧ ∃ duration, written = [Audit.entry "AWAIT_FATAL_ERROR"
      (outcomeFields "failure" what duration count ++ diagnosisFields f.diagnosis)] := by
  cases h with
  | satisfied h hv duration => cases hresult.symm.trans h
  | failed h hs duration =>
    cases hresult.symm.trans h
    exact ⟨rfl, duration, rfl⟩
  | interrupted h hs =>
    cases hresult.symm.trans h
    cases hf.symm.trans hs
  | timedOut h hd duration => exact absurd h (not_stillOpen_of_fatal hresult hf)

end

variable {fuel : Polling Number → ℕ} {c : CallRecord}

/-- An evaluation that fails with a fault that says "not yet" is followed by another one, unless the
call has been given up, or it ends the call by the timeout of that call. -/
theorem CallRecord.Closed.outlasts (hc : c.Closed fuel)
    {init later : List (EvaluationRecord × Option Number)} {now : Option Number}
    (heval : evaluations c.history = init ++ (e, now) :: later) (hresult : e.result = .error f)
    (hf : f.IsNotYet) :
    later ≠ [] ∨ c.answer = .error .stalled ∨ ∃ p duration, c.polling = .ok p ∧
      c.answer =
        .error (.timeout c.what p.timeout duration (.int (init.length + 1 : ℕ)) (some f)) := by
  cases later with
  | cons next later => exact .inl (List.cons_ne_nil _ _)
  | nil =>
    cases hc with
    | refused hpolling hf hanswer hhistory =>
      rw [hhistory] at heval
      exact absurd heval.symm (List.append_ne_nil_of_right_ne_nil _ (List.cons_ne_nil _ _))
    | @ended p start init' last written hpolling hstart heval' hinit hlast =>
      obtain ⟨rfl, hsame⟩ := List.append_inj' (heval'.symm.trans heval) rfl
      obtain rfl := List.singleton_inj.1 hsame
      obtain ⟨duration, hanswer⟩ := hlast.of_notYet hresult hf
      exact .inr (.inr ⟨p, duration, hpolling, hanswer⟩)
    | givenUp hpolling hstart hcount hall hanswer => exact .inr (.inl hanswer)

/-- The call has been ended by its evaluation `e` with a fault, and the last entry of its audit
trail tells about it. -/
def CallRecord.FailedAt (c : CallRecord) (e : EvaluationRecord) (f : Fault) : Prop :=
  c.answer = .error f ∧ ∃ init now duration, evaluations c.history = init ++ [(e, now)] ∧
    auditTrail c.entries = (init ++ [(e, now)]).flatMap (fun e => auditTrail e.1.entries) ++
      [Audit.entry "AWAIT_FATAL_ERROR"
        (outcomeFields "failure" c.what duration (init.length + 1) ++ diagnosisFields f.diagnosis)]

/-- An evaluation that fails with a fatal fault is the last one of its call. -/
theorem CallRecord.Closed.failedAt (hc : c.Closed fuel) {now : Option Number}
    (he : (e, now) ∈ evaluations c.history) (hresult : e.result = .error f)
    (hf : f.severity = .fatal) : c.FailedAt e f := by
  have hopen := not_stillOpen_of_fatal hresult hf
  cases hc with
  | refused hpolling hfatal hanswer hhistory =>
    rw [hhistory] at he
    cases he
  | ended hpolling hstart heval hinit hlast htrail =>
    rw [heval, List.mem_append, List.mem_singleton] at he
    obtain he | rfl := he
    · exact absurd (hinit _ he).1 hopen
    · obtain ⟨hanswer, duration, rfl⟩ := hlast.of_fatal hresult hf
      exact ⟨hanswer, _, _, duration, heval, htrail⟩
  | givenUp hpolling hstart hcount hall => exact absurd (hall _ he).1 hopen

/-- The calls around an evaluation, from outside in, each with its evaluation on the way: none of
the evaluations around them holds back the fault that its call fails with. -/
inductive Rises (f : Fault) :
    EvaluationRecord → List (CallRecord × EvaluationRecord) → EvaluationRecord → Prop
  | here (e : EvaluationRecord) : Rises f e [] e
  | level {outer inner e : EvaluationRecord} {c : CallRecord} {now : Option Number}
      {levels : List (CallRecord × EvaluationRecord)} (hc : c ∈ outer.calls)
      (he : (e, now) ∈ evaluations c.history)
      (hthrough : c.answer = .error f → outer.result = .error f)
      (hrest : Rises f e levels inner) : Rises f outer ((c, e) :: levels) inner

/-- A fatal fault that no evaluation holds back ends every call around it. -/
theorem Rises.failedAt {outer inner : EvaluationRecord}
    {levels : List (CallRecord × EvaluationRecord)} (h : Rises f outer levels inner)
    (hclosed : ∀ c : CallRecord, c.MadeIn outer → c.Closed fuel) (hresult : inner.result = .error f)
    (hf : f.severity = .fatal) :
    outer.result = .error f ∧ ∀ level ∈ levels, level.1.FailedAt level.2 f := by
  induction h with
  | here e => exact ⟨hresult, nofun⟩
  | level hc he hthrough hrest ih =>
    obtain ⟨hresult, hlevels⟩ := ih (fun c h => hclosed c (.inner hc he h)) hresult
    have hfailed := (hclosed _ (.direct hc)).failedAt he hresult hf
    exact ⟨hthrough hfailed.1, List.forall_mem_cons.2 ⟨hfailed, hlevels⟩⟩

end

/-- **Awaits within awaits.**  Whatever the clock shows and whatever a program does, its run has the
result of its record, and the log has got the entries of the record.  Every call in it, at any
depth, is closed: if its polling values can be used, it has written one entry to the audit trail,
with its own description and number of evaluations, after the entries of the calls that its
evaluations have made, or none, if it has been interrupted.  The timeout of an inner call does not
end the outer one, which goes on until its own timeout.  A fatal fault that no evaluation holds back
ends every call around it, on the evaluation that fails with it, and each of them writes an entry
about it. -/
theorem Program.run_closed (world : World σ Number) (fuel : Polling Number → ℕ)
    (defaults : Polling Double) (program : Program σ) (s : σ) (log : List LogEntry) :
    let r := program.recorded world fuel defaults (s, log)
    program.run world fuel defaults (s, log) = (r.1.result, r.2) ∧
      r.2.2 = log ++ r.1.entries ∧
      (∀ c : CallRecord, c.MadeIn r.1 → c.Closed fuel ∧
        ∀ init later e now what limit elapsed attempts last,
          evaluations c.history = init ++ (e, now) :: later →
          e.result = .error (.timeout what limit elapsed attempts last) →
          later ≠ [] ∨ c.answer = .error .stalled ∨ ∃ p duration, c.polling = .ok p ∧
            c.answer = .error (.timeout c.what p.timeout duration (.int (init.length + 1 : ℕ))
              (some (.timeout what limit elapsed attempts last)))) ∧
      ∀ f levels inner, Rises f r.1 levels inner → inner.result = .error f →
        f.severity = .fatal →
        r.1.result = .error f ∧ ∀ level ∈ levels, level.1.FailedAt level.2 f := by
  have hclosed := program.recorded_closed world fuel defaults (s, log)
  refine ⟨program.run_eq_recorded world fuel defaults (s, log),
    program.recorded_log world fuel defaults (s, log), fun c hc => ⟨hclosed c hc, ?_⟩,
    fun f levels inner hrises => hrises.failedAt hclosed⟩
  intro init later e now what limit elapsed attempts last heval hresult
  exact (hclosed c hc).outlasts heval hresult
    (by simp [Fault.IsNotYet, Fault.kind, FaultKind.origin])

/-- Two awaits around one that is to poll without an interval: both end with its fault, and each
writes an entry. -/
example :
    let world : World Unit Number := ⟨fun s => (.whole 0, s), fun _ s => s, fun _ s => s⟩
    let await (interval : Int) (condition : Program Unit) : Program Unit :=
      .awaits (.int interval) .none .none condition fun answer => .ends (answer.map fun _ => .none)
    let program := await 1 (await 1 (await 0 (.ends (.ok .none))))
    let r := program.run world (fun _ => 1) .standard ((), [])
    r.1 = .error (.polling (.interval (.whole 0))) ∧ (auditTrail r.2.2).length = 2 := ⟨rfl, rfl⟩

end Await

end SipBench
