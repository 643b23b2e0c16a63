import SipBench.Await.Supply
import SipBench.Proofs.Await.Keeps
import SipBench.Proofs.Await.Outcome

/-!
# Awaits on values

An await on a value keeps the accepted value beside the state, since the await on its condition only
tells that the condition has held.  The value that it gives is nevertheless that of the last call of
the supplier, and no value that was given before was accepted.  The values may be of any kind, and
so may be what it means that two of them are equal and how one of them is shown.

* `Await.Sample` : what an evaluation has seen
* `Await.recordedCall_seen` : the part of a state that only evaluations change
* `Await.Chosen` : how the evaluations settle the answer
* `Await.callValue_outcome` : the answer of a call
-/

namespace SipBench

namespace Await

variable {σ τ ν : Type}

/-! ### What an evaluation has seen -/

/-- What an evaluation has seen of its supplier and of the question about its value. -/
inductive Sample (ν : Type) where
  /-- The supplier has failed. -/
  | unsupplied (fault : Fault)
  /-- The supplier has given a value; this is what was answered about it. -/
  | supplied (value : ν) (answer : Except Fault Value)

/-- One call of a supplier and, if it gives a value, the question about it. -/
def sample (supply : σ → Except Fault ν × σ) (ask : Target.Question σ ν) (s : σ) :
    Sample ν × σ :=
  match supply s with
  | (.error fault, s) => (.unsupplied fault, s)
  | (.ok value, s) =>
    let (answer, s) := ask value s
    (.supplied value answer, s)

namespace Sample

/-- The value was accepted. -/
def Accepts : Sample ν → ν → Prop
  | supplied given (.ok answer), value => given = value ∧ answer.truthy = true
  | _, _ => False

/-- The value was not accepted. -/
def Refuses : Sample ν → ν → Prop
  | supplied given (.ok answer), value => given = value ∧ answer.truthy = false
  | _, _ => False

/-- The supplier has failed, or the question about its value has. -/
def Raises : Sample ν → Fault → Prop
  | unsupplied raised, fault | supplied _ (.error raised), fault => raised = fault
  | supplied _ (.ok _), _ => False

/-- The value was refused, and it is shown as a text. -/
def Shows (shown : ν → Except Fault String) (x : Sample ν) (text : String) : Prop :=
  ∃ value, x.Refuses value ∧ shown value = .ok text

/-- The evaluation has failed: the supplier has, the question about the value has, or the value was
refused and could not be shown. -/
def Fails (shown : ν → Except Fault String) (x : Sample ν) (fault : Fault) : Prop :=
  x.Raises fault ∨ ∃ value, x.Refuses value ∧ shown value = .error fault

/-- Nothing is accepted yet: the value was refused and is shown, or a fault says that something does
not hold yet. -/
def NotYet (shown : ν → Except Fault String) (x : Sample ν) (fault : Fault) : Prop :=
  (∃ text, x.Shows shown text ∧ fault = .notAccepted text) ∨ x.Fails shown fault ∧ fault.IsNotYet

/-- The accepted value, or the fault of the evaluation. -/
def result (shown : ν → Except Fault String) : Sample ν → Except Fault ν
  | unsupplied fault | supplied _ (.error fault) => .error fault
  | supplied value (.ok answer) =>
    if answer.truthy then .ok value else .error (.refusal (shown value))

/-- What an evaluation means for the await: that the condition holds, but not for which value. -/
def judge (shown : ν → Except Fault String) (x : Sample ν) : Except Fault (Option Value) :=
  (x.result shown).map fun _ => some .none

variable {shown : ν → Except Fault String} {x : Sample ν} {v : ν} {f : Fault}

theorem result_eq_ok_iff : x.result shown = .ok v ↔ x.Accepts v := by
  rcases x with fault | ⟨given, fault | answer⟩
  · exact iff_of_false nofun id
  · exact iff_of_false nofun id
  · simp only [result, Accepts]
    split_ifs with h <;> simp [h]

theorem refusal_eq_iff (v : ν) :
    Fault.refusal (shown v) = f ↔
      (∃ text, shown v = .ok text ∧ f = .notAccepted text) ∨ shown v = .error f := by
  cases shown v <;> simp [Fault.refusal, eq_comm]

theorem result_eq_error_iff :
    x.result shown = .error f ↔
      x.Fails shown f ∨ ∃ text, x.Shows shown text ∧ f = .notAccepted text := by
  rcases x with fault | ⟨given, fault | answer⟩
  · simp [result, Fails, Shows, Raises, Refuses]
  · simp [result, Fails, Shows, Raises, Refuses]
  · simp only [result, Fails, Shows, Raises, Refuses]
    split_ifs with h
    · simp [h]
    · simp [h, refusal_eq_iff, or_comm]

theorem NotYet.not_accepts (h : x.NotYet shown f) (v : ν) : ¬ x.Accepts v := by
  rw [← @result_eq_ok_iff ν shown]
  obtain hrefuses | ⟨hraises, -⟩ := h
  · rw [result_eq_error_iff.2 (.inr hrefuses)]
    exact nofun
  · rw [result_eq_error_iff.2 (.inl hraises)]
    exact nofun

theorem judge_eq_ok_iff {w : Value} :
    x.judge shown = .ok (some w) ↔ (∃ v, x.Accepts v) ∧ w = .none := by
  simp only [← @result_eq_ok_iff ν shown, judge]
  cases x.result shown <;> simp [Except.map, eq_comm]

theorem judge_eq_error_iff : x.judge shown = .error f ↔ x.result shown = .error f := by
  rw [judge]
  cases x.result shown <;> simp [Except.map]

/-- The fault of a value that is refused says that something does not hold yet. -/
theorem isNotYet_notAccepted (text : String) : (Fault.notAccepted text).IsNotYet := by
  simp [Fault.IsNotYet, Fault.kind, FaultKind.origin]

theorem judge_eq_error_iff_fails (hf : ¬ f.IsNotYet) :
    x.judge shown = .error f ↔ x.Fails shown f := by
  rw [judge_eq_error_iff, result_eq_error_iff, or_iff_left]
  rintro ⟨text, -, rfl⟩
  exact hf (isNotYet_notAccepted text)

theorem notYet_iff : x.NotYet shown f ↔ x.judge shown = .error f ∧ f.IsNotYet := by
  rw [judge_eq_error_iff, result_eq_error_iff, NotYet]
  constructor
  · rintro (⟨text, hshows, rfl⟩ | ⟨hfails, hf⟩)
    · exact ⟨.inr ⟨text, hshows, rfl⟩, isNotYet_notAccepted text⟩
    · exact ⟨.inl hfails, hf⟩
  · rintro ⟨hfails | hshows, hf⟩
    · exact .inr ⟨hfails, hf⟩
    · exact .inl hshows

/-- An evaluation that does not end the await has a fault that says why. -/
theorem notYet_judge_iff : Await.NotYet (x.judge shown) ↔ ∃ f, x.NotYet shown f := by
  simp only [notYet_iff]
  cases hx : x.judge shown with
  | ok held =>
    -- the condition holds whenever it does not fail
    have hheld : held ≠ none := by
      rintro rfl
      rw [judge] at hx
      cases hresult : x.result shown <;> rw [hresult] at hx <;> cases hx
    exact iff_of_false hheld nofun
  | error g => simp [Await.NotYet]

end Sample

/-! ### What is kept -/

/-- One call of a supplier and the question about its value; an accepted value is kept. -/
def keeping (shown : ν → Except Fault String) (supply : σ → Except Fault ν × σ)
    (ask : Target.Question σ ν) : List ν × σ → Sample ν × (List ν × σ) :=
  fun (kept, s) =>
    let (x, s) := sample supply ask s
    (x, kept ++ (x.result shown).toOption.toList, s)

variable {shown : ν → Except Fault String} {supply : σ → Except Fault ν × σ}
  {ask : Target.Question σ ν}

theorem ofCall_acceptNext : Condition.ofCall (acceptNext shown supply ask) =
    .judged (Sample.judge shown) (keeping shown supply ask) := by
  funext (kept, s)
  simp only [Condition.ofCall, Condition.judged, acceptNext, keeping, sample]
  rcases supply s with ⟨fault | value, s⟩
  · simp [Sample.judge, Sample.result, Except.map, Except.toOption]
  · dsimp only
    rcases ask value s with ⟨fault | answer, s⟩
    · simp [Sample.judge, Sample.result, Except.map, Except.toOption]
    · dsimp only [Sample.judge, Sample.result]
      split_ifs <;> simp [Except.map, Except.toOption, heldValue, Value.isFalse]

/-- What the evaluations of a history have seen. -/
def seen {ρ : Type} (h : List (Event τ ρ)) : List ρ := (evaluations h).map Prod.fst

theorem seen_append {ρ : Type} (h rest : List (Event τ ρ)) :
    seen (h ++ rest) = seen h ++ seen rest := by
  induction h with
  | nil => rfl
  | cons e h ih =>
    cases e with
    | evaluated x => exact congrArg (x :: ·) ih
    | _ => exact ih

section

variable {ρ α : Type} {world : World σ Number} {fuel : Polling Number → ℕ}
  {defaults : Polling Double} {interval timeout what : Value}
  {judge : ρ → Except Fault (Option α)} {look : σ → ρ × σ} {s : σ}

/-- A relation between the state and what the evaluations have seen holds after a call if only
evaluations can end it and every evaluation keeps it. -/
theorem recordedCall_seen {P : σ → List ρ → Prop} (hworld : ∀ xs, world.Keeps (P · xs))
    (hlook : ∀ s xs, P s xs → P (look s).2 (xs ++ [(look s).1])) (hs : P s []) :
    P (recordedCall world fuel defaults interval timeout what judge look s).2.1
      (seen (callHistory world fuel defaults interval timeout what judge look s)) := by
  unfold callHistory recordedCall call
  cases Polling.resolve defaults interval timeout with
  | error fault => exact hs
  | ok polling =>
    have hquiet : ∀ {s : σ} {h : List (Event Number ρ)} {e : Event Number ρ}, seen [e] = [] →
        P s (seen h) → P s (seen (h ++ [e])) := by
      intro s h e he hs
      rwa [seen_append, he, List.append_nil]
    have hkeeps : world.recording.Keeps fun r => P r.1 (seen r.2) :=
      { now := fun r hr => hquiet rfl ((hworld _).now r.1 hr)
        sleep := fun duration r hr => hquiet rfl ((hworld _).sleep duration r.1 hr)
        note := fun note r hr => hquiet rfl ((hworld _).note note r.1 hr) }
    refine recordedRun_keeps hkeeps (fun r hr => ?_) (fuel polling) polling judge hs
    have hstep := hlook r.1 (seen r.2) hr
    rw [recorded, seen_append]
    exact hstep

end

/-! ### The answer of a call -/

/-- The evaluations of an await on a value say how it ends.  At none but the last was anything
accepted, and the clock that was read after them had not reached the deadline.  The await gives a
value exactly if the last call of the supplier gave it and it was accepted; it fails with a fault
that ends awaits exactly if the last call of the supplier, the question about its value, or showing
a value that was refused did; and it fails with a fault that says that something does not hold yet
exactly if nothing was accepted at the last evaluation either and the clock that was read after it
had reached the deadline, and then with the fault that names the timeout, the time since the start,
the number of evaluations and why nothing was accepted at the last one. -/
def Chosen (shown : ν → Except Fault String) (polling : Polling Number) (what : Value)
    (h : List (Event Number (Sample ν))) (answer : Except Fault ν) : Prop :=
  ∃ start final init last now,
    firstReading h = some start ∧ lastReading h = some final ∧
    evaluations h = init ++ [(last, now)] ∧
    (∀ e ∈ init, (∃ f, e.1.NotYet shown f) ∧ (∀ v, ¬ e.1.Accepts v) ∧
      ∃ t, e.2 = some t ∧ ¬ start + polling.timeout ≤ t) ∧
    (∀ v, answer = .ok v ↔ last.Accepts v) ∧
    (∀ f, ¬ f.IsNotYet → (answer = .error f ↔ last.Fails shown f)) ∧
    ∀ f, f.IsNotYet → (answer = .error f ↔ ∃ g, last.NotYet shown g ∧
      (∃ t, now = some t ∧ start + polling.timeout ≤ t) ∧
      f = .timeout what polling.timeout (final - start) (.int (init.length + 1)) (some g))

/-- The call was given up after `fuel` evaluations: at none of them was anything accepted, and the
clock has not reached the deadline. -/
def NothingChosen (shown : ν → Except Fault String) (polling : Polling Number) (fuel : ℕ)
    (h : List (Event Number (Sample ν))) (answer : Except Fault ν) : Prop :=
  answer = .error .stalled ∧
  ∃ start, firstReading h = some start ∧ (evaluations h).length = fuel ∧
    ∀ e ∈ evaluations h, (∃ f, e.1.NotYet shown f) ∧ (∀ v, ¬ e.1.Accepts v) ∧
      ∃ t, e.2 = some t ∧ ¬ start + polling.timeout ≤ t

/-- The accepted values. -/
def accepted (shown : ν → Except Fault String) (xs : List (Sample ν)) : List ν :=
  xs.filterMap fun x => (x.result shown).toOption

/-- What a call does and sees, in this order. -/
def valueHistory (world : World σ Number) (fuel : Polling Number → ℕ) (defaults : Polling Double)
    (interval timeout what : Value) (shown : ν → Except Fault String)
    (supply : σ → Except Fault ν × σ) (ask : Target.Question σ ν) (s : σ) :
    List (Event Number (Sample ν)) :=
  callHistory (world.beside (List ν)) fuel defaults interval timeout what (Sample.judge shown)
    (keeping shown supply ask) ([], s)

theorem goesOn_judge {deadline : Number} {e : Sample ν × Option Number}
    (h : GoesOn (Sample.judge shown) deadline e) :
    (∃ f, e.1.NotYet shown f) ∧ (∀ v, ¬ e.1.Accepts v) ∧ ∃ t, e.2 = some t ∧ ¬ deadline ≤ t := by
  obtain ⟨f, hf⟩ := Sample.notYet_judge_iff.1 h.1
  exact ⟨⟨f, hf⟩, hf.not_accepts, h.2⟩

theorem accepted_eq_nil {xs : List (Sample ν)} (h : ∀ x ∈ xs, ∀ v, ¬ x.Accepts v) :
    accepted shown xs = [] := by
  refine List.filterMap_eq_nil_iff.2 fun x hx => ?_
  cases hresult : x.result shown with
  | ok v => exact absurd (Sample.result_eq_ok_iff.1 hresult) (h x hx v)
  | error f => rfl

/-- If nothing was accepted before the last evaluation, that is the one whose value is kept. -/
theorem accepted_concat {xs : List (Sample ν)} (h : ∀ x ∈ xs, ∀ v, ¬ x.Accepts v)
    (last : Sample ν) : accepted shown (xs ++ [last]) = (last.result shown).toOption.toList := by
  rw [accepted, List.filterMap_append, ← accepted, accepted_eq_nil h]
  cases hresult : last.result shown <;> simp [hresult, Except.toOption]

section

variable {last : Sample ν} {result : Except Fault Value}

theorem lastKept_of_accepts {v : ν} (h : last.Accepts v) :
    lastKept (last.result shown).toOption.toList = .ok v := by
  rw [Sample.result_eq_ok_iff.2 h]
  rfl

/-- The await tells that the condition has held; the answer is the value for which it has. -/
theorem bind_lastKept_eq_ok_iff (hresult : ∀ w, result = .ok w ↔ last.judge shown = .ok (some w))
    (v : ν) :
    (result.bind fun _ => lastKept (last.result shown).toOption.toList) = .ok v ↔
      last.Accepts v := by
  constructor
  · intro h
    cases hw : result with
    | error g =>
      rw [hw] at h
      cases h
    | ok w =>
      obtain ⟨⟨v', hv'⟩, -⟩ := Sample.judge_eq_ok_iff.1 ((hresult w).1 hw)
      rw [hw] at h
      obtain rfl : v' = v := Except.ok.inj ((lastKept_of_accepts hv').symm.trans h)
      exact hv'
  · intro h
    rw [(hresult .none).2 (Sample.judge_eq_ok_iff.2 ⟨⟨v, h⟩, rfl⟩)]
    exact lastKept_of_accepts h

theorem bind_lastKept_eq_error_iff
    (hresult : ∀ w, result = .ok w ↔ last.judge shown = .ok (some w)) (f : Fault) :
    (result.bind fun _ => lastKept (last.result shown).toOption.toList) = .error f ↔
      result = .error f := by
  cases hw : result with
  | error g => simp [Except.bind]
  | ok w =>
    obtain ⟨⟨v, hv⟩, -⟩ := Sample.judge_eq_ok_iff.1 ((hresult w).1 hw)
    refine iff_of_false (fun h => ?_) nofun
    cases (lastKept_of_accepts hv).symm.trans h

end

theorem Ends.chosen {polling : Polling Number} {what : Value} {start final : Number}
    {h : List (Event Number (Sample ν))} {ending : Ending Number Value}
    {init : List (Sample ν × Option Number)} {last : Sample ν × Option Number}
    (hends : Ends (Sample.judge shown) start (start + polling.timeout) (some final)
      (init.length + 1) last ending)
    (hstart : firstReading h = some start) (hfinal : lastReading h = some final)
    (heval : evaluations h = init ++ [last])
    (hinit : ∀ e ∈ init, GoesOn (Sample.judge shown) (start + polling.timeout) e) :
    Chosen shown polling what h
      ((ending.result what polling.timeout).bind fun _ => lastKept (accepted shown (seen h))) := by
  obtain ⟨hvalue, hfault, htimeout⟩ := hends.answers what
  have hopen := fun e he => goesOn_judge (hinit e he)
  have hkept : accepted shown (seen h) = (last.1.result shown).toOption.toList := by
    rw [seen, heval, List.map_append]
    exact accepted_concat (List.forall_mem_map.2 fun e he => (hopen e he).2.1) last.1
  rw [hkept]
  refine ⟨start, final, init, last.1, last.2, hstart, hfinal, heval, hopen,
    bind_lastKept_eq_ok_iff hvalue, fun f hf => ?_, fun f hf => ?_⟩
  · rw [bind_lastKept_eq_error_iff hvalue, hfault f hf, Sample.judge_eq_error_iff_fails hf]
  · rw [bind_lastKept_eq_error_iff hvalue, htimeout f hf, Sample.notYet_judge_iff,
      Int.natCast_succ]
    constructor
    · rintro ⟨⟨g, hg⟩, hlate, rfl⟩
      rw [(Sample.notYet_iff.1 hg).1]
      exact ⟨g, hg, hlate, rfl⟩
    · rintro ⟨g, hg, hlate, rfl⟩
      rw [(Sample.notYet_iff.1 hg).1]
      exact ⟨⟨g, hg⟩, hlate, rfl⟩

section

variable {world : World σ Number} {fuel : Polling Number → ℕ} {defaults : Polling Double}
  {interval timeout what : Value} {s : σ}

theorem kept_eq :
    (recordedCall (world.beside (List ν)) fuel defaults interval timeout what (Sample.judge shown)
        (keeping shown supply ask) ([], s)).2.1.1 =
      accepted shown
        (seen (valueHistory world fuel defaults interval timeout what shown supply ask s)) := by
  refine recordedCall_seen (P := fun (r : List ν × σ) xs => r.1 = accepted shown xs)
    (fun xs => world.beside_keeps (· = accepted shown xs)) (fun r xs hr => ?_) rfl
  rw [accepted, List.filterMap_append, ← accepted, ← hr]
  cases hresult : (sample supply ask r.2).1.result shown <;>
    simp [keeping, hresult, Except.toOption]

/-- The answer of a call is the value kept last, unless the await has failed. -/
theorem callValue_eq {world : Value → World σ Number} {kind : Target.Kind σ ν}
    {expected : Option ν} {matcher : Option (Target.Question σ ν)}
    (h : Target.question? kind expected matcher = .ok ask) :
    callValue world fuel defaults interval timeout (.ok what) kind supply expected matcher s =
      let called := recordedCall ((world what).beside (List ν)) fuel defaults interval timeout what
        (Sample.judge kind.shown) (keeping kind.shown supply ask) ([], s)
      (called.1.bind fun _ => lastKept (accepted kind.shown (seen (valueHistory (world what) fuel
        defaults interval timeout what kind.shown supply ask s))), called.2.1.2) := by
  simp only [callValue, h, ofCall_acceptNext, call_recording, ← kept_eq]
  rfl

/-- A usable polling pair leads to a choice, or to too few evaluations. -/
theorem recordedCall_chosen {polling : Polling Number}
    (hresolve : Polling.resolve defaults interval timeout = .ok polling) :
    let h := valueHistory world fuel defaults interval timeout what shown supply ask s
    let answer := (recordedCall (world.beside (List ν)) fuel defaults interval timeout what
      (Sample.judge shown) (keeping shown supply ask) ([], s)).1.bind fun _ =>
        lastKept (accepted shown (seen h))
    Chosen shown polling what h answer ∨ NothingChosen shown polling (fuel polling) h answer := by
  intro h answer
  have hresult := congrArg Prod.fst (call_recording (world.beside (List ν)) fuel defaults
    interval timeout what (Sample.judge shown) (keeping shown supply ask) ([], s))
  simp only [call, hresolve, Prod.map_fst, id_eq] at hresult
  have hhistory : h = history (world.beside (List ν)) (fuel polling) polling (Sample.judge shown)
      (keeping shown supply ask) ([], s) := callHistory_of_ok hresolve _ _ _ _ _ _
  obtain ⟨start, final, hstart, hfinal, houtcome⟩ := run_outcome (world.beside (List ν))
    (fuel polling) polling (Sample.judge shown) (keeping shown supply ask) ([], s)
  rw [← hhistory] at hstart hfinal houtcome
  simp only [answer, ← hresult]
  obtain ⟨hend, hlength, hall⟩ | ⟨init, last, heval, hall, hends⟩ := houtcome
  · refine .inr ⟨?_, start, hstart, hlength, fun e he => goesOn_judge (hall e he)⟩
    rw [hend]
    rfl
  · exact .inl (hends.chosen hstart hfinal heval hall)

/-- However calls of the supplier are counted, there are as many as evaluations. -/
theorem recordedCall_count {count : σ → ℕ} (hworld : ∀ n, world.Keeps (count · = n))
    (hsupply : ∀ s, count (supply s).2 = count s + 1)
    (hask : ∀ v s, count (ask v s).2 = count s) :
    let h := valueHistory world fuel defaults interval timeout what shown supply ask s
    count (recordedCall (world.beside (List ν)) fuel defaults interval timeout what
      (Sample.judge shown) (keeping shown supply ask) ([], s)).2.1.2 =
        count s + (evaluations h).length := by
  intro h
  have hsample (s : σ) : count (sample supply ask s).2 = count s + 1 := by
    rw [← hsupply s, sample]
    rcases supply s with ⟨fault | value, s⟩
    · rfl
    · exact hask value s
  have hlength (h : List (Event Number (Sample ν))) : (evaluations h).length = (seen h).length :=
    (List.length_map _).symm
  rw [hlength]
  refine recordedCall_seen (P := fun (r : List ν × σ) xs => count r.2 = count s + xs.length)
    (fun xs => (hworld _).beside _) (fun r xs hr => ?_) rfl
  rw [List.length_append, List.length_singleton, ← Nat.add_assoc, ← hr]
  exact hsample r.2

end

/-- **An await on a value gives the first accepted one.**  Whatever the values are, whatever the
supplier gives and whatever is answered about it, call after call, and whatever the clock shows:
with both or neither of an expected value and a matcher, or if there is no description, the supplier
is not called; with one of them and a usable polling pair, the evaluations say which value is given,
unless they were all too few; and the supplier is called once for each of them. -/
theorem callValue_outcome (world : Value → World σ Number) (fuel : Polling Number → ℕ)
    (defaults : Polling Double) (interval timeout : Value) (what : Except Fault Value)
    (kind : Target.Kind σ ν) (supply : σ → Except Fault ν × σ) (expected : Option ν)
    (matcher : Option (Target.Question σ ν)) (s : σ) :
    let called := callValue world fuel defaults interval timeout what kind supply expected matcher s
    (expected.isSome = matcher.isSome → called = (.error (.misuse .ambiguousTarget), s)) ∧
    (∀ ask, (expected = none ∧ matcher = some ask ∨
        matcher = none ∧ ∃ v, expected = some v ∧ ask = kind.equals v) →
      (∀ f, what = .error f → called = (.error f, s)) ∧
      ∀ w, what = .ok w →
        let h := valueHistory (world w) fuel defaults interval timeout w kind.shown supply ask s
        (∀ i t, Polling.given interval defaults.interval = .ok i →
          Polling.given timeout defaults.timeout = .ok t → Polling.Usable ⟨i, t⟩ →
          Chosen kind.shown ⟨i, t⟩ w h called.1 ∨
            NothingChosen kind.shown ⟨i, t⟩ (fuel ⟨i, t⟩) h called.1) ∧
        ∀ count : σ → ℕ, (∀ n, (world w).Keeps (count · = n)) →
          (∀ s, count (supply s).2 = count s + 1) → (∀ v s, count (ask v s).2 = count s) →
          count called.2 = count s + (evaluations h).length) ∧
    (Fault.misuse .ambiguousTarget).kind = .badValue ∧
    ∀ text, (Fault.notAccepted text).kind = .conditionNotMet ∧
      (Fault.notAccepted text).message = s!"last value was {text}" := by
  intro called
  refine ⟨fun hsame => ?_, fun ask hask => ?_, rfl, fun text => ⟨rfl, rfl⟩⟩
  · have hambiguous :
        Target.question? kind expected matcher = .error (.misuse .ambiguousTarget) := by
      cases expected with
      | none =>
        cases matcher with
        | none => rfl
        | some ask => cases hsame
      | some v =>
        cases matcher with
        | none => cases hsame
        | some ask => rfl
    simp only [called, callValue, hambiguous]
  · have hquestion : Target.question? kind expected matcher = .ok ask := by
      obtain ⟨rfl, rfl⟩ | ⟨rfl, v, rfl, rfl⟩ := hask <;> rfl
    refine ⟨fun f hf => ?_, fun w hw => ?_⟩
    · simp only [called, callValue, hquestion, hf]
    · subst hw
      have hcalled : called = _ := callValue_eq hquestion
      rw [hcalled]
      exact ⟨fun i t hi ht husable =>
          recordedCall_chosen (Polling.resolve_of_usable hi ht husable),
        fun count hworld hsupply hask => recordedCall_count hworld hsupply hask⟩

end Await

end SipBench
