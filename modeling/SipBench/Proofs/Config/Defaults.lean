import SipBench.Config.Defaults
import SipBench.Proofs.Config.Load

/-!
# The polling defaults under changes

The defaults are changed field by field, but are checked as a pair.  Whatever the changes are, the
pair in force is sound: it is the first one, and a change that would make it anything else fails and
leaves it as it is.  An await that is given no values can therefore always poll.

* `setPolling_eq_ok_iff` : the pairs that a change can install
* `pollingAfter_sound` : the pair in force after some changes
* `polling_defaults` : the changes and the awaits that follow them
-/

namespace SipBench

/-- With a sound pair for the defaults, an await that is given no values polls with it. -/
theorem Polling.resolve_none_of_sound {defaults : Polling Double} (h : defaults.Sound) :
    resolve defaults .none .none = .ok ⟨.real defaults.interval, .real defaults.timeout⟩ :=
  resolve_of_usable rfl rfl h.usable

namespace Config

theorem standard_sound : Polling.standard.Sound :=
  pollingPair_sound (rfl : pollingPair .lax [] = .ok Polling.standard)

variable {v : Validator}

/-! ### One change -/

/-- A field is what the given value stands for and stays as it is where none is given. -/
def Becomes (v : Validator) (given : Value) (current x : Double) : Prop :=
  if given.isNone then x = current else v.number given = .ok x

theorem becomes_number (hv : v.Lawful) {n : Number} {current x y : Double}
    (hn : n.toDouble? = some y) : Becomes v (.number n) current x ↔ x = y := by
  simp only [Becomes, Value.isNone, Bool.false_eq_true, if_false, hv.number hn, Except.ok.injEq,
    eq_comm]

theorem number_keptUnless (hv : v.Lawful) {given : Value} {current x : Double} :
    v.number (keptUnless given current) = .ok x ↔ Becomes v given current x := by
  unfold keptUnless Becomes
  split_ifs
  · rw [Value.double, hv.number rfl, Except.ok.injEq, eq_comm]
  · rfl

theorem pollingPair_of_both {interval timeout : Value} {p : Polling Double} :
    pollingPair v [("poll_interval", interval), ("timeout", timeout)] = .ok p ↔
      v.number interval = .ok p.interval ∧ v.number timeout = .ok p.timeout ∧ p.Sound := by
  rw [pollingPair_eq_ok_iff, field_eq_ok_iff rfl, field_eq_ok_iff rfl, Polling.sound_iff]
  unfold Config.interval Config.timeout
  rw [finiteSeconds_eq_ok_iff, finiteSeconds_eq_ok_iff]
  constructor
  · rintro ⟨⟨hinterval, hpositive⟩, ⟨htimeout, hnonneg⟩, hproportion⟩
    exact ⟨hinterval, htimeout, hpositive, hnonneg, hproportion⟩
  · rintro ⟨hinterval, htimeout, hpositive, hnonneg, hproportion⟩
    exact ⟨⟨hinterval, hpositive⟩, ⟨htimeout, hnonneg⟩, hproportion⟩

/-- The given values and the current ones in place of the others are installed if they are a sound
pair. -/
theorem setPolling_eq_ok_iff (hv : v.Lawful) {current p : Polling Double}
    {interval timeout : Value} :
    setPolling v current interval timeout = .ok p ↔
      Becomes v interval current.interval p.interval ∧
        Becomes v timeout current.timeout p.timeout ∧ p.Sound := by
  rw [← number_keptUnless hv, ← number_keptUnless hv, ← pollingPair_of_both]
  unfold setPolling
  split <;> rename_i hpair <;> simp [hpair]

theorem sound_of_setPolling {current p : Polling Double} {interval timeout : Value}
    (h : setPolling v current interval timeout = .ok p) : p.Sound := by
  unfold setPolling at h
  split at h
  · rename_i hpair
    exact Except.ok.inj h ▸ pollingPair_sound hpair
  · cases h

theorem kind_of_setPolling {current : Polling Double} {interval timeout : Value} {e : Error}
    (h : setPolling v current interval timeout = .error e) :
    (Fault.configuration e).kind = .configuration := by
  unfold setPolling at h
  split at h
  · cases h
  · cases h
    rfl

/-- The pair of a configuration is installed if it is sound, whatever the current one is. -/
theorem applyPolling_of_sound (hv : v.Lawful) {c : Config} (h : c.Sound)
    (current : Polling Double) : applyPolling v current c = .ok c.polling :=
  (setPolling_eq_ok_iff hv).2
    ⟨(becomes_number hv rfl).2 rfl, (becomes_number hv rfl).2 rfl, h.polling⟩

namespace PollingChange

variable {current p : Polling Double} {change : PollingChange}

theorem perform_fst (current : Polling Double) (change : PollingChange) :
    (change.perform v current).1 = change.asked v current := by
  unfold perform
  cases change.asked v current <;> rfl

theorem perform_snd (current : Polling Double) (change : PollingChange) :
    (change.perform v current).2 = match change.asked v current with
      | .ok p => p
      | .error _ => current := by
  unfold perform
  cases change.asked v current <;> rfl

theorem sound_of_asked (h : change.asked v current = .ok p) : p.Sound := by
  cases change with
  | set interval timeout => exact sound_of_setPolling h
  | apply config => exact sound_of_setPolling h
  | reset =>
    cases h
    exact standard_sound

theorem kind_of_asked {e : Error} (h : change.asked v current = .error e) :
    (Fault.configuration e).kind = .configuration := by
  cases change with
  | set interval timeout => exact kind_of_setPolling h
  | apply config => exact kind_of_setPolling h
  | reset => cases h

theorem perform_sound (hcurrent : current.Sound) (change : PollingChange) :
    (change.perform v current).2.Sound := by
  rw [perform_snd]
  cases hasked : change.asked v current with
  | ok p => exact sound_of_asked hasked
  | error e => exact hcurrent

end PollingChange

/-! ### A run of changes -/

theorem pollingAfter_sound {current : Polling Double} (h : current.Sound)
    (changes : List PollingChange) : (pollingAfter v current changes).Sound := by
  unfold pollingAfter
  induction changes generalizing current with
  | nil => exact h
  | cons change changes ih => exact ih (PollingChange.perform_sound h change)

/-- **The polling defaults.**  After any changes the pair in force is sound.  A further change fails
with a failure of the configuration that leaves the pair as it is, or installs the pair that it
answers with: new values are accepted exactly if together with the current ones they are a sound
pair, which is then the one installed, where a number stands for its double; a return to the built-in
pair always succeeds, and so does, whatever pair is in force, taking over that of a configuration
that was loaded.  An await that is given no values polls with the pair in force. -/
theorem polling_defaults (v : Validator) (hv : v.Lawful) (changes : List PollingChange) :
    let current := pollingAfter v .standard changes
    current.Sound ∧
    (∀ change e, (PollingChange.perform v current change).1 = .error e →
      (PollingChange.perform v current change).2 = current ∧
        (Fault.configuration e).kind = .configuration) ∧
    (∀ change p, (PollingChange.perform v current change).1 = .ok p →
      (PollingChange.perform v current change).2 = p) ∧
    (∀ interval timeout p, (PollingChange.perform v current (.set interval timeout)).1 = .ok p ↔
      Becomes v interval current.interval p.interval ∧
        Becomes v timeout current.timeout p.timeout ∧ p.Sound) ∧
    (∀ (n : Number) (x y z : Double), n.toDouble? = some y →
      (Becomes v (.number n) z x ↔ x = y)) ∧
    (∀ nesting files env path c, (load ⟨nesting, v⟩ files env path).1 = .ok c →
      ∀ pair, PollingChange.perform v pair (.apply c) = (.ok c.polling, c.polling)) ∧
    PollingChange.perform v current .reset = (.ok .standard, .standard) ∧
    Polling.resolve current .none .none =
      .ok ⟨.real current.interval, .real current.timeout⟩ := by
  intro current
  have hsound : current.Sound := pollingAfter_sound standard_sound changes
  simp only [PollingChange.perform_fst, PollingChange.perform_snd]
  refine ⟨hsound, fun change e h => ?_, fun change p h => ?_,
    fun interval timeout p => setPolling_eq_ok_iff hv, fun n x y z hn => becomes_number hv hn,
    fun nesting files env path c h pair => ?_, rfl, Polling.resolve_none_of_sound hsound⟩
  · exact ⟨by rw [h], PollingChange.kind_of_asked h⟩
  · rw [h]
  · obtain ⟨fields, merged, -, -, hcheck⟩ := load_eq_ok h
    have happly := applyPolling_of_sound hv (check_sound hcheck) pair
    simp only [PollingChange.perform, PollingChange.asked, happly]

/-- With a timeout of zero the interval may be anything; a timeout above zero must then come with an
interval that fits, or the pair stays as it is. -/
theorem polling_defaults_zeroTimeout :
    let current := pollingAfter .lax .standard [.set .none (.int 0), .set (.int 5) .none]
    current = ⟨.ofInt 5, .ofInt 0⟩ ∧
    (PollingChange.perform .lax current (.set .none (.int 2))).2 = current ∧
    (PollingChange.perform .lax current (.set (.int 1) (.int 2))).2 = ⟨.ofInt 1, .ofInt 2⟩ := by
  intro current
  obtain ⟨-, hfails, hworks, hset, hnumber, -, -, -⟩ :=
    polling_defaults .lax Validator.lax_lawful [.set .none (.int 0), .set (.int 5) .none]
  have hrefused : (PollingChange.perform .lax current (.set .none (.int 2))).1.isOk = false := by
    decide +kernel
  refine ⟨by decide +kernel, ?_, hworks _ _ ((hset _ _ _).2 ⟨?_, ?_, Polling.sound_iff.2 ?_⟩)⟩
  · cases hanswer : (PollingChange.perform .lax current (.set .none (.int 2))).1 with
    | error e => exact (hfails _ _ hanswer).1
    | ok p =>
      rw [hanswer] at hrefused
      cases hrefused
  · exact (hnumber (.whole 1) _ (.ofInt 1) _ (by decide +kernel)).2 rfl
  · exact (hnumber (.whole 2) _ (.ofInt 2) _ (by decide +kernel)).2 rfl
  · refine ⟨by decide +kernel, by decide +kernel, fun _ => ?_⟩
    decide +kernel

end Config

end SipBench
