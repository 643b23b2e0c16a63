import Mathlib.Algebra.Order.Ring.Int
import SipBench.Proofs.Await.History

/-!
# The outcome of an await

A call of an await resolves its polling pair and, if it can use it, evaluates its condition until an
evaluation says how the call ends.  What a call answers is read off its evaluations alone, each with
the reading of the clock that follows it.

* `Polling.Usable` : the pairs that an await can use
* `Await.evaluations` : the evaluations of a history
* `Await.Course.outcome` : which of them is the last one, and what it means
* `Await.call_outcome` : the answer of a call
-/

namespace SipBench

/-! ### The polling pair of a call -/

namespace Polling

/-- The interval is finite and positive, the timeout finite and not negative. -/
def Usable (p : Polling Number) : Prop :=
  p.interval.isFinite ∧ .whole 0 < p.interval ∧ p.timeout.isFinite ∧ .whole 0 ≤ p.timeout

theorem resolve_eq {defaults : Polling Double} {interval timeout : Value} {i t : Number}
    (hi : given interval defaults.interval = .ok i) (ht : given timeout defaults.timeout = .ok t) :
    resolve defaults interval timeout =
      if i.isFinite ∧ .whole 0 < i then
        if t.isFinite ∧ .whole 0 ≤ t then .ok ⟨i, t⟩ else .error (.polling (.timeout t))
      else .error (.polling (.interval i)) := by
  have hless : ∀ n : Number, (Number.less (.whole 0) n = true) = (.whole 0 < n) := fun _ => rfl
  have hatMost : ∀ n : Number, (Number.atMost (.whole 0) n = true) = (.whole 0 ≤ n) := fun _ => rfl
  simp only [resolve, resolve.checked, hi, ht, Bool.and_eq_true, hless, hatMost]
  split_ifs <;> rfl

theorem resolve_of_usable {defaults : Polling Double} {interval timeout : Value} {i t : Number}
    (hi : given interval defaults.interval = .ok i) (ht : given timeout defaults.timeout = .ok t)
    (h : Usable ⟨i, t⟩) : resolve defaults interval timeout = .ok ⟨i, t⟩ := by
  obtain ⟨hi₁, hi₂, ht₁, ht₂⟩ := h
  rw [resolve_eq hi ht, if_pos ⟨hi₁, hi₂⟩, if_pos ⟨ht₁, ht₂⟩]

theorem resolve_of_not_usable {defaults : Polling Double} {interval timeout : Value} {i t : Number}
    (hi : given interval defaults.interval = .ok i) (ht : given timeout defaults.timeout = .ok t)
    (h : ¬ Usable ⟨i, t⟩) :
    ∃ e, resolve defaults interval timeout = .error (.polling e) := by
  rw [resolve_eq hi ht]
  split_ifs with h₁ h₂
  · exact absurd ⟨h₁.1, h₁.2, h₂.1, h₂.2⟩ h
  · exact ⟨_, rfl⟩
  · exact ⟨_, rfl⟩

theorem given_of_tooLarge {i : Int} (h : (Number.whole i).toDouble?.isSome = false)
    (standard : Double) : given (.int i) standard = .error .tooLarge := by
  rw [given, if_neg (by rw [h]; decide)]

end Polling

namespace Await

variable {σ τ ρ α : Type}

/-! ### The evaluations of a history -/

/-- What the clock has shown. -/
def Event.reading? : Event τ ρ → Option τ
  | .read t => some t
  | _ => none

/-- The first reading of the clock. -/
def firstReading (h : List (Event τ ρ)) : Option τ := h.findSome? Event.reading?

/-- The last reading of the clock. -/
def lastReading (h : List (Event τ ρ)) : Option τ := firstReading h.reverse

/-- What each evaluation has seen, with the first reading of the clock that follows it. -/
def evaluations : List (Event τ ρ) → List (ρ × Option τ)
  | [] => []
  | .evaluated seen :: rest => (seen, firstReading rest) :: evaluations rest
  | _ :: rest => evaluations rest

theorem lastReading_append (h rest : List (Event τ ρ)) :
    lastReading (h ++ rest) = (lastReading rest).or (lastReading h) := by
  simp only [lastReading, firstReading, List.reverse_append, List.findSome?_append]

theorem evaluations_notYet (seen : ρ) (attempt : ℕ) (fault : Option Fault) (now : τ)
    (rest : List (Event τ ρ)) :
    evaluations (.evaluated seen :: notYetNotes attempt fault ++ .read now :: rest) =
      (seen, some now) :: evaluations rest := by
  cases fault <;> rfl

/-! ### How an evaluation ends an await -/

/-- The result of an evaluation that does not say how the await ends. -/
def NotYet : Except Fault (Option α) → Prop
  | .ok held => held = none
  | .error f => f.IsNotYet

/-- The fault of an evaluation. -/
def fault? {β : Type} : Except Fault β → Option Fault
  | .ok _ => none
  | .error f => some f

theorem notYet_of_verdict {r : Except Fault (Option α)} {last : Option Fault}
    (h : Verdict.of r = .notYet last) : NotYet r ∧ last = fault? r := by
  obtain ⟨rfl, rfl⟩ | ⟨f, rfl, hf, rfl⟩ := verdict_notYet h
  · exact ⟨rfl, rfl⟩
  · exact ⟨hf, rfl⟩

section

variable [Sub τ] [LE τ] (judge : ρ → Except Fault (Option α))

/-- An evaluation after which another one follows. -/
def GoesOn (deadline : τ) (e : ρ × Option τ) : Prop :=
  NotYet (judge e.1) ∧ ∃ now, e.2 = some now ∧ ¬ deadline ≤ now

/-- The ending that an evaluation leads to as the last one of `count`. -/
inductive Ends (start deadline : τ) (final : Option τ) (count : ℕ) :
    ρ × Option τ → Ending τ α → Prop
  | holds {seen : ρ} {now : Option τ} {value : α} (h : judge seen = .ok (some value)) :
    Ends start deadline final count (seen, now) (.satisfied value)
  | fails {seen : ρ} {now : Option τ} {f : Fault} (h : judge seen = .error f) (hf : ¬ f.IsNotYet) :
    Ends start deadline final count (seen, now) (.failed f)
  | late {seen : ρ} {now t : τ} (h : NotYet (judge seen)) (hd : deadline ≤ now)
      (hfinal : final = some t) :
    Ends start deadline final count (seen, some now)
      (.timedOut (t - start) count (fault? (judge seen)))

variable {judge} {interval start deadline : τ} {ending : Ending τ α}

theorem Ends.imp {final final' : Option τ} {count : ℕ} {e : ρ × Option τ}
    (h : Ends judge start deadline final count e ending)
    (hfinal : ∀ t, final = some t → final' = some t) :
    Ends judge start deadline final' count e ending := by
  cases h with
  | holds h => exact .holds h
  | fails h hf => exact .fails h hf
  | late h hd ht => exact .late h hd (hfinal _ ht)

variable [LT τ] [DecidableLT τ]

/-- In every course, either the evaluations have run out, or the last one has led to the ending; no
other evaluation could have done so. -/
theorem Course.outcome {fuel attempts : ℕ} {h : List (Event τ ρ)}
    (hc : Course judge interval start deadline fuel attempts h ending) :
    (ending = .unfinished ∧ (evaluations h).length = fuel ∧
      ∀ e ∈ evaluations h, GoesOn judge deadline e) ∨
    ∃ init last, evaluations h = init ++ [last] ∧ (∀ e ∈ init, GoesOn judge deadline e) ∧
      Ends judge start deadline (lastReading h) (attempts + init.length + 1) last ending := by
  induction hc with
  | stop attempts => exact .inl ⟨rfl, rfl, by simp [evaluations]⟩
  | holds hv t => exact .inr ⟨[], _, rfl, by simp, .holds hv⟩
  | interrupted hf hs =>
    exact .inr ⟨[], _, rfl, by simp, .fails hf (Fault.not_isNotYet hs nofun)⟩
  | failed hf hs t => exact .inr ⟨[], _, rfl, by simp, .fails hf (Fault.not_isNotYet hs nofun)⟩
  | @timedOut fuel attempts seen last hv now hd t =>
    obtain ⟨hn, rfl⟩ := notYet_of_verdict hv
    refine .inr ⟨[], (seen, some now), ?_, by simp, .late hn hd ?_⟩
    · rw [evaluations_notYet]
      rfl
    · rw [lastReading_append]
      rfl
  | @again fuel attempts seen last hv now hd rest ending hrest ih =>
    obtain ⟨hn, rfl⟩ := notYet_of_verdict hv
    have hgo : GoesOn judge deadline (seen, some now) := ⟨hn, now, rfl, hd⟩
    rw [evaluations_notYet, show ∀ p, evaluations (.slept p :: rest) = evaluations rest from
      fun _ => rfl]
    -- the rest of the course ends as it does; this evaluation goes in front of the others
    obtain ⟨hend, hlength, hall⟩ | ⟨init, e, heval, hall, hends⟩ := ih
    · refine .inl ⟨hend, by simp [hlength], ?_⟩
      rintro e (_ | ⟨_, he⟩)
      · exact hgo
      · exact hall e he
    · refine .inr ⟨(seen, some now) :: init, e, by rw [heval]; rfl, ?_, ?_⟩
      · rintro e (_ | ⟨_, he⟩)
        · exact hgo
        · exact hall e he
      · have hcount : attempts + 1 + init.length + 1 =
            attempts + ((seen, some now) :: init).length + 1 := by
          simp only [List.length_cons]; omega
        rw [← hcount]
        -- a last reading of the rest is a last reading of the whole
        refine hends.imp fun t ht => ?_
        rw [List.append_cons, List.append_cons, lastReading_append, ht]
        rfl

/-- The outcome of an await: the evaluations have run out, or the last one has led to the ending. -/
theorem run_outcome [Add τ] [DecidableLE τ] (world : World σ τ) (fuel : ℕ) (polling : Polling τ)
    (judge : ρ → Except Fault (Option α)) (look : σ → ρ × σ) (s : σ) :
    let h := history world fuel polling judge look s
    let ending := (run world fuel polling (.judged judge look) s).1
    ∃ start final, firstReading h = some start ∧ lastReading h = some final ∧
      ((ending = .unfinished ∧ (evaluations h).length = fuel ∧
        ∀ e ∈ evaluations h, GoesOn judge (start + polling.timeout) e) ∨
      ∃ init last, evaluations h = init ++ [last] ∧
        (∀ e ∈ init, GoesOn judge (start + polling.timeout) e) ∧
        Ends judge start (start + polling.timeout) (some final) (init.length + 1) last ending) := by
  obtain ⟨start, rest, hshape, hcourse⟩ := course_run world fuel polling judge look s
  have hlast : lastReading (.read start :: .noted (.begun polling) :: rest) =
      (lastReading rest).or (some start) :=
    lastReading_append [.read start, .noted (.begun polling)] rest
  obtain ⟨final, hfinal⟩ : ∃ final, (lastReading rest).or (some start) = some final := by
    cases lastReading rest <;> exact ⟨_, rfl⟩
  simp only [hshape]
  refine ⟨start, final, rfl, hlast.trans hfinal, ?_⟩
  obtain hrunOut | ⟨init, last, heval, hall, hends⟩ := hcourse.outcome
  · exact .inl hrunOut
  · rw [Nat.zero_add] at hends
    refine .inr ⟨init, last, heval, hall, hends.imp fun t ht => ?_⟩
    rw [← hfinal, ht]
    rfl

end

/-! ### The answer of a call -/

/-- The result of a call that does not say how the await ends. -/
def StillOpen : Except Fault Value → Prop
  | .ok v => v.isFalse
  | .error f => f.IsNotYet

theorem notYet_map_heldValue (r : Except Fault Value) :
    NotYet (r.map heldValue) ↔ StillOpen r := by
  cases r with
  | error f => rfl
  | ok v => simp [NotYet, StillOpen, Except.map, heldValue]

theorem map_heldValue_eq_ok {r : Except Fault Value} {v : Value} :
    r.map heldValue = .ok (some v) ↔ r = .ok v ∧ ¬ v.isFalse := by
  cases r with
  | error f => simp [Except.map]
  | ok w =>
    simp only [Except.map, heldValue, Except.ok.injEq]
    split_ifs with h
    · refine iff_of_false nofun ?_
      rintro ⟨rfl, hw⟩
      exact hw h
    · simp only [Option.some.injEq, iff_self_and]
      rintro rfl; exact h

theorem map_heldValue_eq_error {r : Except Fault Value} {f : Fault} :
    r.map heldValue = .error f ↔ r = .error f := by
  cases r <;> simp [Except.map]

/-- The evaluations of a call say how it ends.  All but the last are still open, and the clock that
was read after them had not reached the deadline.  The call gives a value exactly if the last one
gave it and it is not false; it fails with a fault that ends awaits exactly if the last one did; and
it fails with a fault that says that something does not hold yet exactly if the last one, too, is
still open and the clock that was read after it had reached the deadline, and then with the fault
that names the timeout, the time since the start, the number of evaluations and the fault of the
last one. -/
def Settled (polling : Polling Number) (what : Value)
    (h : List (Event Number (Except Fault Value))) (answer : Except Fault Value) : Prop :=
  ∃ start final init last now,
    firstReading h = some start ∧ lastReading h = some final ∧
    evaluations h = init ++ [(last, now)] ∧
    (∀ e ∈ init, StillOpen e.1 ∧ ∃ t, e.2 = some t ∧ ¬ start + polling.timeout ≤ t) ∧
    (∀ v, answer = .ok v ↔ last = .ok v ∧ ¬ v.isFalse) ∧
    (∀ f, ¬ f.IsNotYet → (answer = .error f ↔ last = .error f)) ∧
    ∀ f, f.IsNotYet → (answer = .error f ↔
      StillOpen last ∧ (∃ t, now = some t ∧ start + polling.timeout ≤ t) ∧
      f = .timeout what polling.timeout (final - start) (.int (init.length + 1)) (fault? last))

/-- The call was given up after `fuel` evaluations: all of them are still open, and the clock has
not reached the deadline. -/
def GivenUp (polling : Polling Number) (fuel : ℕ) (h : List (Event Number (Except Fault Value)))
    (answer : Except Fault Value) : Prop :=
  answer = .error .stalled ∧
  ∃ start, firstReading h = some start ∧ (evaluations h).length = fuel ∧
    ∀ e ∈ evaluations h, StillOpen e.1 ∧ ∃ t, e.2 = some t ∧ ¬ start + polling.timeout ≤ t

theorem goesOn_heldValue {deadline : Number} {e : Except Fault Value × Option Number} :
    GoesOn (·.map heldValue) deadline e ↔
      StillOpen e.1 ∧ ∃ t, e.2 = some t ∧ ¬ deadline ≤ t := by
  rw [GoesOn, notYet_map_heldValue]

theorem fault?_map_heldValue (r : Except Fault Value) : fault? (r.map heldValue) = fault? r := by
  cases r <;> rfl

theorem Ends.answers {judge : ρ → Except Fault (Option α)} {polling : Polling Number}
    {start final : Number} {count : ℕ} {last : ρ × Option Number} {ending : Ending Number α}
    (hends : Ends judge start (start + polling.timeout) (some final) count last ending)
    (what : Value) :
    (∀ v, ending.result what polling.timeout = .ok v ↔ judge last.1 = .ok (some v)) ∧
    (∀ f, ¬ f.IsNotYet →
      (ending.result what polling.timeout = .error f ↔ judge last.1 = .error f)) ∧
    ∀ f, f.IsNotYet → (ending.result what polling.timeout = .error f ↔
      NotYet (judge last.1) ∧ (∃ t, last.2 = some t ∧ start + polling.timeout ≤ t) ∧
      f = .timeout what polling.timeout (final - start) (.int count) (fault? (judge last.1))) := by
  cases hends with
  | holds h =>
    -- the answer is a value, so neither of the other two
    simp [Ending.result, h, NotYet, eq_comm]
  | @fails seen now fault h hn =>
    -- the answer is the fault of the last evaluation, which is none that a timeout gives
    refine ⟨fun v => ?_, fun f _ => ?_, fun f hf => ?_⟩
    · simp [Ending.result, h]
    · simp [Ending.result, h]
    · simp only [Ending.result, h, NotYet, Except.error.injEq]
      refine iff_of_false ?_ fun h => hn h.1
      rintro rfl; exact hn hf
  | @late seen now t h hd ht =>
    obtain rfl : final = t := Option.some.inj ht
    -- the answer is the timeout, which is itself a fault that says "not yet"
    refine ⟨fun v => ?_, fun f hf => ?_, fun f _ => ?_⟩
    · refine iff_of_false nofun fun hv => ?_
      rw [hv] at h
      cases h
    · refine iff_of_false ?_ fun hfault => ?_
      · rintro ⟨⟩
        exact hf (by simp [Fault.IsNotYet, Fault.kind, FaultKind.origin])
      · rw [hfault] at h
        exact hf h
    · simp only [Ending.result, Except.error.injEq]
      exact ⟨fun heq => ⟨h, ⟨now, rfl, hd⟩, heq.symm⟩, fun h => h.2.2.symm⟩

theorem Ends.settled {polling : Polling Number} {what : Value} {start final : Number}
    {h : List (Event Number (Except Fault Value))} {ending : Ending Number Value}
    {init : List (Except Fault Value × Option Number)} {last : Except Fault Value × Option Number}
    (hends : Ends (·.map heldValue) start (start + polling.timeout) (some final)
      (init.length + 1) last ending)
    (hstart : firstReading h = some start) (hfinal : lastReading h = some final)
    (heval : evaluations h = init ++ [last])
    (hinit : ∀ e ∈ init, GoesOn (·.map heldValue) (start + polling.timeout) e) :
    Settled polling what h (ending.result what polling.timeout) := by
  obtain ⟨hvalue, hfault, htimeout⟩ := hends.answers what
  refine ⟨start, final, init, last.1, last.2, hstart, hfinal, heval,
    fun e he => goesOn_heldValue.mp (hinit e he), fun v => ?_, fun f hf => ?_, fun f hf => ?_⟩
  · rw [hvalue, map_heldValue_eq_ok]
  · rw [hfault f hf, map_heldValue_eq_error]
  · rw [htimeout f hf, notYet_map_heldValue, fault?_map_heldValue, Int.natCast_succ]

/-- **What a call of an await answers.**  Whatever the clock shows and whatever the condition gives,
call after call: if the values given to the call, with the defaults in place of those not given,
are numbers within the doubles that make no usable pair, the call fails with the fault of the
configuration and has not evaluated its condition; if they make one, its evaluations settle the
answer, unless they were all too few; and if one of them is no such number, the call fails without
an evaluation, too. -/
theorem call_outcome (world : World σ Number) (fuel : Polling Number → ℕ)
    (defaults : Polling Double) (interval timeout what : Value)
    (look : σ → Except Fault Value × σ) (s : σ) :
    let h := callHistory world fuel defaults interval timeout what (·.map heldValue) look s
    let answer := (call world fuel defaults interval timeout what (.ofCall look) s).1
    (∀ i t, Polling.given interval defaults.interval = .ok i →
      Polling.given timeout defaults.timeout = .ok t →
      (¬ Polling.Usable ⟨i, t⟩ → h = [] ∧ ∃ e, answer = .error (.polling e)) ∧
      (Polling.Usable ⟨i, t⟩ →
        Settled ⟨i, t⟩ what h answer ∨ GivenUp ⟨i, t⟩ (fuel ⟨i, t⟩) h answer)) ∧
    ∀ f, Polling.resolve defaults interval timeout = .error f → h = [] ∧ answer = .error f := by
  have herror : ∀ f, Polling.resolve defaults interval timeout = .error f →
      callHistory world fuel defaults interval timeout what (·.map heldValue) look s = [] ∧
      (call world fuel defaults interval timeout what (.ofCall look) s).1 = .error f :=
    fun f hf => ⟨callHistory_of_error hf _ _ _ _ _ _, by simp only [call, hf]⟩
  refine ⟨fun i t hi ht => ⟨fun hbad => ?_, fun husable => ?_⟩, herror⟩
  · obtain ⟨e, he⟩ := Polling.resolve_of_not_usable hi ht hbad
    exact ⟨(herror _ he).1, e, (herror _ he).2⟩
  · have hresolve := Polling.resolve_of_usable hi ht husable
    rw [callHistory_of_ok hresolve]
    simp only [call, hresolve]
    obtain ⟨start, final, hstart, hfinal, h⟩ :=
      run_outcome world (fuel ⟨i, t⟩) ⟨i, t⟩ (·.map heldValue) look s
    obtain ⟨hend, hlength, hall⟩ | ⟨init, last, heval, hall, hends⟩ := h
    · exact .inr ⟨congrArg (Ending.result what t) hend, start, hstart, hlength,
        fun e he => goesOn_heldValue.mp (hall e he)⟩
    · exact .inl (hends.settled hstart hfinal heval hall)

/-- A world in which nothing happens and no time passes. -/
def still : World Unit Number := ⟨fun s => (.whole 0, s), fun _ s => s, fun _ s => s⟩

/-- What a call answers and what happens in it, if its condition holds at once. -/
def callAtOnce (interval timeout : Value) :
    Except Fault Value × List (Event Number (Except Fault Value)) :=
  let look : Unit → Except Fault Value × Unit := fun s => (.ok (.bool true), s)
  ((call still (fun _ => 1) .standard interval timeout (.text "at once") (.ofCall look) ()).1,
    callHistory still (fun _ => 1) .standard interval timeout (.text "at once")
      (·.map heldValue) look ())

theorem callAtOnce_of_error {interval timeout : Value} {f : Fault}
    (h : Polling.resolve .standard interval timeout = .error f) :
    callAtOnce interval timeout = (.error f, []) := by
  rw [callAtOnce, callHistory_of_error h]
  simp only [call, h]

/-- A whole number beyond the doubles is no number of the configuration and no reason to wait: with
a timeout far below zero or an interval far above it, the call overflows without an evaluation. -/
theorem callAtOnce_tooLarge :
    callAtOnce .none (.int (-10 ^ 400)) = (.error .tooLarge, []) ∧
    callAtOnce (.int (10 ^ 400)) .none = (.error .tooLarge, []) ∧
    Number.whole (-10 ^ 400) < .whole 0 ∧ Number.whole 0 < .whole (10 ^ 400) ∧
    Fault.tooLarge.kind = .overflow := by
  have htimeout := Polling.given_of_tooLarge (i := -10 ^ 400) (by decide +kernel)
    Polling.standard.timeout
  have hinterval := Polling.given_of_tooLarge (i := 10 ^ 400) (by decide +kernel)
    Polling.standard.interval
  refine ⟨callAtOnce_of_error ?_, callAtOnce_of_error ?_, by decide +kernel, by decide +kernel, rfl⟩
  · rw [Polling.resolve, htimeout]
    rfl
  · rw [Polling.resolve, hinterval]
    rfl

end Await

end SipBench
