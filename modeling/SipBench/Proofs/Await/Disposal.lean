import SipBench.Bench.Run
import SipBench.Proofs.Await.Keeps
import SipBench.Proofs.Await.Outcome

/-!
# The disposal of a stack

An await on the disposal of a stack calls it and, if it fails with a fault that says that something
does not hold yet, calls it again.  Any other end of the first call is the end of the await.

* `Await.poll_of_holds`, `Await.poll_of_ended`, `Await.poll_of_notYet` : what the first of the counted
  evaluations means
* `Session.awaitDisposed_once` : when a stack is disposed of once and for all
-/

namespace SipBench

namespace Await

variable {σ τ α : Type}

/-! ### Counted evaluations -/

section

variable {ρ : Type} [Sub τ] [LT τ] [LE τ] [DecidableLT τ] [DecidableLE τ] {world : World σ τ}
  {judge : ρ → Except Fault (Option α)} {look : ℕ × σ → ρ × (ℕ × σ)} {interval start deadline : τ}
  {attempts n : ℕ} {s : σ}

theorem poll_of_holds (hlook : ∀ n s, (look (n, s)).2.1 = n + 1) {value : α}
    (h : Verdict.of (judge (look (n, s)).1) = .holds value) (fuel : ℕ) :
    let ended := poll (world.beside ℕ) interval (.judged judge look) start deadline (fuel + 1)
      attempts (n, s)
    ended.1 = .satisfied value ∧ ended.2.1 = n + 1 := by
  simp only [poll, Condition.judged, h]
  exact ⟨rfl, satisfied_keeps (world.beside_keeps (· = n + 1)) start _ value (hlook n s)⟩

theorem poll_of_ended (hlook : ∀ n s, (look (n, s)).2.1 = n + 1) {f : Fault}
    (h : Verdict.of (judge (look (n, s)).1) = .ended f) (fuel : ℕ) :
    let ended := poll (world.beside ℕ) interval (.judged judge look) start deadline (fuel + 1)
      attempts (n, s)
    ended.1 = .failed f ∧ ended.2.1 = n + 1 := by
  simp only [poll, Condition.judged, h]
  refine ⟨?_, failed_keeps (world.beside_keeps (· = n + 1)) start _ f (hlook n s)⟩
  unfold Await.failed
  split <;> rfl

theorem poll_of_notYet (hlook : ∀ n s, (look (n, s)).2.1 = n + 1) {last : Option Fault}
    (h : Verdict.of (judge (look (n, s)).1) = .notYet last) (fuel : ℕ) :
    let ended := poll (world.beside ℕ) interval (.judged judge look) start deadline (fuel + 2)
      attempts (n, s)
    n + 2 ≤ ended.2.1 ∨ ∃ t, ended.1 = .timedOut t (attempts + 1) last := by
  have hcount (s : ℕ × σ) : (Condition.judged judge look s).2.1 = s.1 + 1 := hlook s.1 s.2
  have hverdict : Verdict.of (Condition.judged judge look (n, s)).1 = .notYet last := h
  intro ended
  obtain ⟨t, after, hended⟩ | ⟨next, hnext, hended⟩ :=
    poll_of_verdict (world.beside_keeps (· = n + 1)) hverdict (hcount (n, s))
  · exact .inr ⟨t, congrArg Prod.fst hended⟩
  · left
    -- the second evaluation has been made, and no later one takes it back
    have htwice := world.beside_keeps (n + 2 ≤ ·)
    rw [show ended = _ from hended]
    refine poll_round htwice ?_ fun s hs => poll_keeps htwice (fun s hs => ?_) _ hs
    · have hsecond := hcount next
      omega
    · have hlater := hcount s
      omega

end

end Await

/-- How often the scripted call of an await has been made. -/
def Outcome.calls? : Outcome → Option ℕ
  | plain _ => none
  | waited _ _ _ calls _ => calls

/-- A timeout is not the fault of its last evaluation. -/
theorem Fault.timeout_ne (what : Value) (limit elapsed : Number) (attempts : Value) (last : Fault) :
    timeout what limit elapsed attempts (some last) ≠ last := by
  intro h
  have hsize := congrArg sizeOf h
  simp at hsize
  omega

namespace Session

/-- The session after an await has begun. -/
def begun (what : Value) (polling : Polling Number) (s : Session) : Session :=
  s.withBench fun b => b.logAll [(Await.Note.begun polling).entry what]

variable (run : Runner) (typeName : String) (call : ℕ → Session → Except Fault Reply × Session)

/-- The entry in the audit trail does not change how a disposal ends. -/
theorem dispose_fst (calls : ℕ) (s : Session) :
    (dispose typeName call calls s).1 = (call calls s).1 := by
  unfold dispose
  split <;> simp_all

/-- The rounds of an await on a disposal. -/
def disposals (polling : Polling Number) (s : Session) : Await.Ending Number Unit × ℕ × Session :=
  let what := disposalText typeName
  Await.poll (world run what) polling.interval
    (.judged (·.map fun _ => some ()) (counted (dispose typeName call))) s.now
    (s.now + polling.timeout) polling.budget 0 (0, s.begun what polling)

theorem awaitDisposed_of_resolve {options : AwaitOptions} {s : Session} {polling : Polling Number}
    (h : Polling.resolve s.state.polling options.interval options.timeout = .ok polling) :
    let ended := disposals run typeName call polling s
    let outcome := (awaitDisposed run typeName call options s).1
    outcome.result =
        (ended.1.result (disposalText typeName) polling.timeout).map (fun _ => .nothing) ∧
      outcome.calls? = some ended.2.1 := by
  simp only [awaitDisposed, waitFor, Await.call, h, Await.run]
  exact ⟨rfl, rfl⟩

theorem counted_snd (look : ℕ → Session → Except Fault Reply × Session) (n : ℕ) (s : Session) :
    (counted look (n, s)).2.1 = n + 1 := rfl

section

variable {typeName call} {polling : Polling Number} {s : Session}

theorem verdict_first {result : Except Fault Reply}
    (h : (call 0 (s.begun (disposalText typeName) polling)).1 = result) :
    Await.Verdict.of ((counted (dispose typeName call)
      (0, s.begun (disposalText typeName) polling)).1.map fun _ => some ()) =
      Await.Verdict.of (result.map fun _ => some ()) := by
  rw [← h, ← dispose_fst typeName]
  rfl

theorem disposals_of_ok {reply : Reply}
    (h : (call 0 (s.begun (disposalText typeName) polling)).1 = .ok reply) :
    let ended := disposals run typeName call polling s
    ended.1 = .satisfied () ∧ ended.2.1 = 1 :=
  Await.poll_of_holds (counted_snd _) (verdict_first h) _

theorem disposals_of_fatal {f : Fault}
    (h : (call 0 (s.begun (disposalText typeName) polling)).1 = .error f) (hf : ¬ f.IsNotYet) :
    let ended := disposals run typeName call polling s
    ended.1 = .failed f ∧ ended.2.1 = 1 := by
  have hverdict : Await.Verdict.of ((Except.error f : Except Fault Reply).map fun _ => some ()) =
      .ended f := if_neg (mt Fault.severity_eq_retry_iff.1 hf)
  exact Await.poll_of_ended (counted_snd _) ((verdict_first h).trans hverdict) _

theorem disposals_of_notYet {f : Fault}
    (h : (call 0 (s.begun (disposalText typeName) polling)).1 = .error f) (hf : f.IsNotYet) :
    let ended := disposals run typeName call polling s
    2 ≤ ended.2.1 ∨ ∃ t, ended.1 = .timedOut t 1 (some f) := by
  have hverdict : Await.Verdict.of ((Except.error f : Except Fault Reply).map fun _ => some ()) =
      .notYet (some f) := if_pos (Fault.severity_eq_retry_iff.2 hf)
  exact Await.poll_of_notYet (counted_snd _) ((verdict_first h).trans hverdict) _

end

/-- **A stack is disposed of once and for all** exactly if its first disposal does not fail with a
fault that says that something does not hold yet: the await then ends as that disposal has ended,
whatever the disposal did meanwhile and whatever the polling pair is.  With values that make no
polling pair no disposal is begun. -/
theorem awaitDisposed_once (options : AwaitOptions) (s : Session) :
    let outcome := (awaitDisposed run typeName call options s).1
    let resolved := Polling.resolve s.state.polling options.interval options.timeout
    (∀ fault, resolved = .error fault →
      outcome.result = .error fault ∧ outcome.calls? = some 0) ∧
    ∀ polling, resolved = .ok polling →
      let first := (call 0 (s.begun (disposalText typeName) polling)).1
      (outcome.result = first.map (fun _ => .nothing) ∧ outcome.calls? = some 1 ↔
        ∀ f, first = .error f → ¬ f.IsNotYet) := by
  intro outcome resolved
  refine ⟨fun fault hfault => ?_, fun polling hpolling => ?_⟩
  · simp only [resolved] at hfault
    simp only [outcome, awaitDisposed, waitFor, Await.call, hfault]
    exact ⟨rfl, rfl⟩
  obtain ⟨hresult, hcalls⟩ := awaitDisposed_of_resolve run typeName call hpolling
  intro first
  rw [show outcome.result = _ from hresult, show outcome.calls? = _ from hcalls]
  cases hfirst : first with
  | ok reply =>
    obtain ⟨hended, hcount⟩ := disposals_of_ok run hfirst
    rw [hended, hcount]
    refine iff_of_true ⟨rfl, rfl⟩ fun g hg => ?_
    cases hg
  | error f =>
    by_cases hf : f.IsNotYet
    -- the stack is disposed of again, or the fault is hidden behind a timeout
    · refine iff_of_false (fun hboth => ?_) fun h => h f rfl hf
      obtain ⟨hsame, honce⟩ := hboth
      obtain htwice | ⟨t, hended⟩ := disposals_of_notYet run hfirst hf
      · rw [Option.some.injEq] at honce
        omega
      · rw [hended] at hsame
        exact Fault.timeout_ne _ _ _ _ f (Except.error.inj hsame)
    · obtain ⟨hended, hcount⟩ := disposals_of_fatal run hfirst hf
      rw [hended, hcount]
      refine iff_of_true ⟨rfl, rfl⟩ fun g hg => ?_
      obtain rfl := Except.error.inj hg
      exact hf

/-- The fault of a stack that asserts that it is idle. -/
def busy : Fault := .raised .assertion (.text "busy")

/-- A stack that is busy is disposed of twice within one second, and the fault that says so is hidden
behind the timeout. -/
theorem awaitDisposed_busy :
    (awaitDisposed Step.run "Stack" (fun _ s => (.error busy, s)) ⟨.int 1, .int 1, .none⟩
      (fresh "" [])).1.calls? = some 2 ∧
    (Await.fault? (awaitDisposed Step.run "Stack" (fun _ s => (.error busy, s))
      ⟨.int 1, .int 1, .none⟩ (fresh "" [])).1.result).map Fault.kind = some .awaitTimeout ∧
    busy.kind = .assertion := by
  decide +kernel

end Session

end SipBench
