import SipBench.Proofs.Await.Instant
import SipBench.Proofs.Await.Keeps

/-!
# The pace of an await

With exact times and a clock that never goes back, an await cannot be slower than its instants: its
evaluation `k`, counted from zero, is followed by a reading of the clock that is not before instant
`k`.  Hence it ends after no more evaluations than it has instants, and if nothing but the sleeps
takes time and the condition never holds, after exactly so many.

* `Await.rests` : the sleeps of a history
* `Await.World.Timed` : a world with a clock
* `Await.Passes` : what the clock shows in the course of a history
* `Await.run_pace` : how often an await evaluates its condition and how long it sleeps
-/

namespace SipBench

namespace Await

variable {σ τ ρ α : Type}

/-! ### The sleeps of a history -/

/-- The duration of each sleep, with the last reading of the clock before it. -/
def rests (last : Option τ) : List (Event τ ρ) → List (Option τ × τ)
  | [] => []
  | .read t :: h => rests (some t) h
  | .slept duration :: h => (last, duration) :: rests last h
  | .evaluated _ :: h => rests last h
  | .noted _ :: h => rests last h

theorem rests_notYet (last : Option τ) (seen : ρ) (attempt : ℕ) (fault : Option Fault) (now : τ)
    (h : List (Event τ ρ)) :
    rests last (.evaluated seen :: notYetNotes attempt fault ++ .read now :: h) =
      rests (some now) h := by
  cases fault <;> rfl

/-- Before the deadline, a sleep takes the interval or what is left to the deadline. -/
def PausesAt [Sub τ] [LT τ] [LE τ] [DecidableLT τ] (interval deadline : τ)
    (e : Option τ × τ) : Prop :=
  ∃ now, e.1 = some now ∧ ¬ deadline ≤ now ∧ e.2 = pause interval (deadline - now)

theorem Course.pausesAt [Sub τ] [LT τ] [LE τ] [DecidableLT τ]
    {judge : ρ → Except Fault (Option α)} {interval start deadline : τ} {fuel attempts : ℕ}
    {h : List (Event τ ρ)} {ending : Ending τ α}
    (hc : Course judge interval start deadline fuel attempts h ending) (last : Option τ) :
    ∀ e ∈ rests last h, PausesAt interval deadline e := by
  induction hc generalizing last with
  | stop | holds | interrupted | failed => exact nofun
  | timedOut =>
    rw [rests_notYet]
    exact nofun
  | again _ hd _ ih =>
    rw [rests_notYet]
    exact List.forall_mem_cons.2 ⟨⟨_, rfl, hd, rfl⟩, ih _⟩

theorem pause_eq_min (interval left : ℚ) : pause interval left = min interval left := by
  rw [pause, min_comm, min_def_lt]

/-! ### The clock of a history -/

/-- A comparison of times that can be carried on: "not later than", or "at the same time as". -/
structure IsPace (R : ℚ → ℚ → Prop) : Prop where
  refl : ∀ t, R t t
  trans : ∀ {t t' t''}, R t t' → R t' t'' → R t t''
  add : ∀ {t t'} d, R t t' → R (t + d) (t' + d)

theorem isPace_le : IsPace (· ≤ ·) :=
  ⟨le_refl, le_trans, fun d h => add_le_add_left h d⟩

theorem isPace_eq : IsPace (· = ·) := ⟨fun _ => rfl, Eq.trans, fun _ h => h ▸ rfl⟩

/-- A world with a clock, which shows the time when it is read and goes on by the duration of a
sleep.  With `≤` for the comparison, time may pass whatever is done, and a sleep may be longer than
it was asked to be; with `=`, it is the sleeps alone that take time. -/
structure World.Timed (R : ℚ → ℚ → Prop) (world : World σ ℚ) (clock : σ → ℚ) : Prop where
  reading : ∀ s, R (clock s) (world.now s).1
  now : ∀ s, R (world.now s).1 (clock (world.now s).2)
  sleep : ∀ duration s, 0 ≤ duration → R (clock s + duration) (clock (world.sleep duration s))
  note : ∀ note s, R (clock s) (clock (world.note note s))

/-- A history begins at the time that comes next and ends at time `t'`. -/
def Passes (R : ℚ → ℚ → Prop) (t' : ℚ) : ℚ → List (Event ℚ ρ) → Prop
  | t, [] => R t t'
  | t, .read now :: h => R t now ∧ Passes R t' now h
  | t, .slept duration :: h => 0 ≤ duration → Passes R t' (t + duration) h
  | t, .evaluated _ :: h => Passes R t' t h
  | t, .noted _ :: h => Passes R t' t h

section

variable {R : ℚ → ℚ → Prop} {t t' t'' : ℚ}

theorem passes_notYet (seen : ρ) (attempt : ℕ) (fault : Option Fault) (h : List (Event ℚ ρ)) :
    Passes R t' t (.evaluated seen :: notYetNotes attempt fault ++ h) ↔ Passes R t' t h := by
  cases fault <;> exact Iff.rfl

variable (hR : IsPace R) {h rest : List (Event ℚ ρ)}

include hR

theorem Passes.of_rel (ht : R t t') (hh : Passes R t'' t' h) : Passes R t'' t h := by
  induction h generalizing t t' with
  | nil => exact hR.trans ht hh
  | cons e h ih =>
    cases e with
    | evaluated seen => exact ih ht hh
    | read now => exact ⟨hR.trans ht hh.1, hh.2⟩
    | slept duration => exact fun hd => ih (hR.add duration ht) (hh hd)
    | noted note => exact ih ht hh

theorem Passes.append (hh : Passes R t' t h) (hrest : Passes R t'' t' rest) :
    Passes R t'' t (h ++ rest) := by
  induction h generalizing t with
  | nil => exact hrest.of_rel hR hh
  | cons e h ih =>
    cases e with
    | evaluated seen => exact ih hh
    | read now => exact ⟨hh.1, ih hh.2⟩
    | slept duration => exact fun hd => ih (hh hd)
    | noted note => exact ih hh

/-- The history of an await goes with the clock of its world. -/
theorem passes_history {world : World σ ℚ} {clock : σ → ℚ} (htimed : world.Timed R clock)
    {look : σ → ρ × σ} (hlook : ∀ s, R (clock s) (clock (look s).2)) (fuel : ℕ) (p : Polling ℚ)
    (judge : ρ → Except Fault (Option α)) (s : σ) :
    ∃ t', Passes R t' (clock s) (history world fuel p judge look s) := by
  have hkeeps : (world.recording (ρ := ρ)).Keeps
      fun r : σ × List (Event ℚ ρ) => Passes R (clock r.1) (clock s) r.2 :=
    { now := fun r hr => hr.append hR ⟨htimed.reading r.1, htimed.now r.1⟩
      sleep := fun duration r hr => hr.append hR fun hd => htimed.sleep duration r.1 hd
      note := fun note r hr => hr.append hR (htimed.note note r.1) }
  exact ⟨_, recordedRun_keeps hkeeps (fun r hr => hr.append hR (hlook r.1)) fuel p judge
    (hR.refl (clock s))⟩

end

/-! ### Not more evaluations than instants -/

section

variable {judge : ρ → Except Fault (Option α)} {start : ℚ} {p : Polling ℚ} {fuel attempts : ℕ}
  {h : List (Event ℚ ρ)} {ending : Ending ℚ α} {t t' : ℚ}

/-- As long as an instant is not passed, a sleep leads at least to the next one. -/
theorem instant_succ_le {k : ℕ} {now : ℚ} (h : instant start p k ≤ now)
    (hd : ¬ start + p.timeout ≤ now) :
    instant start p (k + 1) ≤ now + pause p.interval (start + p.timeout - now) := by
  have hk : start + k * p.interval ≤ now := by
    obtain hmin | hmin := min_le_iff.1 h
    · exact hmin
    · exact absurd hmin hd
  rw [pause_eq_min, ← min_add_add_left]
  refine min_le_min ?_ (by linarith)
  push_cast
  linarith

theorem mul_interval_lt (hp : 0 < p.interval) {k : ℕ} (hk : k < ⌈p.timeout / p.interval⌉₊) :
    k * p.interval < p.timeout :=
  (lt_div_iff₀ hp).1 (Nat.lt_ceil.1 hk)

theorem instant_of_lt_ceil (start : ℚ) (hp : 0 < p.interval) {k : ℕ}
    (hk : k < ⌈p.timeout / p.interval⌉₊) : instant start p k = start + k * p.interval :=
  min_eq_left (by linarith [mul_interval_lt hp hk])

/-- An evaluation that is not before its instant is followed by no more evaluations than there are
instants after it, and the end of the await is not before its deadline, unless it does not wait for
that. -/
theorem Course.pace (hp : 0 < p.interval)
    (hc : Course judge p.interval start (start + p.timeout) fuel attempts h ending)
    (hattempts : attempts ≤ ⌈p.timeout / p.interval⌉₊)
    (hfuel : ⌈p.timeout / p.interval⌉₊ < fuel + attempts)
    (ht : instant start p attempts ≤ t) (hpasses : Passes (· ≤ ·) t' t h) :
    ending ≠ .unfinished ∧
      attempts + (evaluations h).length ≤ ⌈p.timeout / p.interval⌉₊ + 1 ∧
      ∀ elapsed n last, ending = .timedOut elapsed n last → p.timeout ≤ elapsed := by
  induction hc generalizing t with
  | stop => omega
  | holds | interrupted | failed =>
    refine ⟨nofun, ?_, nofun⟩
    rw [show (evaluations _).length = 1 from rfl]
    omega
  | timedOut hv hd final =>
    obtain ⟨-, hfinal, -⟩ := (passes_notYet _ _ _ _).1 hpasses
    refine ⟨nofun, ?_, ?_⟩
    · rw [evaluations_notYet, show (_ :: evaluations _).length = 1 from rfl]
      omega
    · rintro elapsed n last ⟨⟩
      linarith
  | @again fuel attempts seen last hv now hd rest ending hrest ih =>
    obtain ⟨hnow, hslept⟩ := (passes_notYet _ _ _ _).1 hpasses
    -- at the last instant the deadline would have passed
    have hbefore : attempts < ⌈p.timeout / p.interval⌉₊ := by
      by_contra hlast
      rw [instant_of_ceil_le start hp (not_lt.1 hlast)] at ht
      exact hd (ht.trans hnow)
    have hpause := pause_nonneg hp.le (sub_nonneg.2 (not_le.1 hd).le)
    obtain ⟨hend, hcount, hlate⟩ := ih (by omega) (by omega)
      (instant_succ_le (ht.trans hnow) hd) (hslept hpause)
    refine ⟨hend, ?_, hlate⟩
    rw [evaluations_notYet, List.length_cons]
    exact (Nat.add_right_comm _ _ _).trans_le hcount

/-! ### As many evaluations as instants -/

theorem Course.exact_pace (hp : 0 < p.interval)
    (hc : Course judge p.interval start (start + p.timeout) fuel attempts h ending)
    (hattempts : attempts ≤ ⌈p.timeout / p.interval⌉₊)
    (hfuel : ⌈p.timeout / p.interval⌉₊ < fuel + attempts)
    (hpasses : Passes (· = ·) t' (instant start p attempts) h)
    (hnot : ∀ seen, .evaluated seen ∈ h → NotYet (judge seen)) (before : Option ℚ) :
    attempts + (evaluations h).length = ⌈p.timeout / p.interval⌉₊ + 1 ∧
      (rests before h).map Prod.snd =
        (List.range' attempts (⌈p.timeout / p.interval⌉₊ - attempts)).map
          (fun k : ℕ => min p.interval (p.timeout - k * p.interval)) ∧
      ∃ last, ending = .timedOut p.timeout (⌈p.timeout / p.interval⌉₊ + 1) last := by
  induction hc generalizing before with
  | stop => omega
  | @holds _ _ seen _ hv =>
    have hseen := hnot seen List.mem_cons_self
    rw [hv] at hseen
    cases hseen
  | @interrupted _ _ seen _ hf hs | @failed _ _ seen _ hf hs =>
    have hseen := hnot seen List.mem_cons_self
    rw [hf] at hseen
    exact absurd hseen (Fault.not_isNotYet hs nofun)
  | @timedOut fuel attempts seen last hv now hd final =>
    obtain ⟨rfl, rfl, -⟩ := (passes_notYet _ _ _ _).1 hpasses
    -- the deadline is reached at the last instant
    have hlast : attempts = ⌈p.timeout / p.interval⌉₊ := hattempts.eq_of_not_lt fun hlt => by
      rw [instant_of_lt_ceil start hp hlt] at hd
      linarith [mul_interval_lt hp hlt]
    have hnow := instant_of_ceil_le start hp hlast.ge
    rw [evaluations_notYet, rests_notYet, ← hlast, Nat.sub_self]
    exact ⟨rfl, rfl, _, by rw [hnow, add_sub_cancel_left]⟩
  | @again fuel attempts seen last hv now hd rest ending hrest ih =>
    obtain ⟨rfl, hslept⟩ := (passes_notYet _ _ _ _).1 hpasses
    have hlt : attempts < ⌈p.timeout / p.interval⌉₊ := by
      by_contra hge
      exact hd (instant_of_ceil_le start hp (not_lt.1 hge)).ge
    have hleft := sub_nonneg.2 (instant_le_deadline start p attempts)
    have hnext := hslept (pause_nonneg hp.le hleft)
    rw [instant_add_pause hd] at hnext
    obtain ⟨hcount, hrests, hend⟩ := ih (by omega) (by omega) hnext
      (fun seen hseen => hnot seen (by simp [hseen])) (some (instant start p attempts))
    have hrange : ⌈p.timeout / p.interval⌉₊ - attempts =
        ⌈p.timeout / p.interval⌉₊ - (attempts + 1) + 1 := by omega
    rw [evaluations_notYet, rests_notYet, List.length_cons, hrange, List.range'_succ]
    refine ⟨(Nat.add_right_comm _ _ _).trans hcount, ?_, hend⟩
    have hpause : pause p.interval (start + p.timeout - instant start p attempts) =
        min p.interval (p.timeout - attempts * p.interval) := by
      rw [pause_eq_min, instant_of_lt_ceil start hp hlt, add_sub_add_left_eq_sub]
    exact congrArg₂ List.cons hpause hrests

/-- The interval as often as it goes into the timeout, and then what is left of it, if anything. -/
def fullRests (p : Polling ℚ) : List ℚ :=
  let full := ⌊p.timeout / p.interval⌋₊
  let rest := p.timeout - p.interval * full
  List.replicate full p.interval ++ if rest = 0 then [] else [rest]

theorem map_pause_range (hp : 0 < p.interval) (hT : 0 ≤ p.timeout) :
    (List.range ⌈p.timeout / p.interval⌉₊).map
      (fun k : ℕ => min p.interval (p.timeout - k * p.interval)) = fullRests p := by
  set n := ⌊p.timeout / p.interval⌋₊ with hn
  have hle : n * p.interval ≤ p.timeout := by
    rw [← le_div_iff₀ hp]
    exact Nat.floor_le (by positivity)
  have hlt : p.timeout < (n + 1) * p.interval := by
    rw [← div_lt_iff₀ hp]
    exact Nat.lt_floor_add_one _
  -- all pauses but the last one are as long as the interval
  have hfull : (List.range n).map (fun k : ℕ => min p.interval (p.timeout - k * p.interval)) =
      List.replicate n p.interval := by
    refine List.eq_replicate_iff.2 ⟨by simp, List.forall_mem_map.2 fun k hk => min_eq_left ?_⟩
    have hk : ((k + 1 : ℕ) : ℚ) ≤ n := Nat.cast_le.2 (List.mem_range.1 hk)
    push_cast at hk
    nlinarith
  rw [fullRests, ← hn, ← hfull]
  split_ifs with hrest
  · have hceil : ⌈p.timeout / p.interval⌉₊ = n := by
      have hdiv : p.timeout / p.interval = n := by
        rw [div_eq_iff hp.ne']
        linarith
      rw [hdiv, Nat.ceil_natCast]
    rw [hceil, List.append_nil]
  · have hceil : ⌈p.timeout / p.interval⌉₊ = n + 1 := by
      rw [Nat.ceil_eq_iff (Nat.succ_ne_zero n), lt_div_iff₀ hp, div_le_iff₀ hp, Nat.succ_sub_one,
        Nat.cast_succ]
      exact ⟨lt_of_le_of_ne hle fun heq => hrest (by linarith), hlt.le⟩
    rw [hceil, List.range_succ, List.map_append, List.map_singleton, min_eq_right (by linarith),
      mul_comm]

end

/-- **The pace of an await.**  Let times be exact, let the clock never go back, whatever is done,
and let a sleep take at least as long as it was asked to.  Then an await with any condition, however
long its evaluations take, ends after at most one evaluation more than there are intervals to cover
the timeout; each of its sleeps takes some time, but no more than the interval and than what is left
to the deadline; and it does not time out before the timeout.  If its condition never holds and
nothing but its sleeps takes time, it makes exactly so many evaluations, sleeps for the interval as
often as it goes into the timeout and then for the rest, if there is one, and times out after
exactly the timeout. -/
theorem run_pace {world : World σ ℚ} {clock : σ → ℚ} (htimed : world.Timed (· ≤ ·) clock)
    {look : σ → ρ × σ} (hlook : ∀ s, clock s ≤ clock (look s).2) {p : Polling ℚ}
    (hp : 0 < p.interval) (hT : 0 ≤ p.timeout) {fuel : ℕ}
    (hfuel : ⌈p.timeout / p.interval⌉₊ < fuel) (judge : ρ → Except Fault (Option α)) (s : σ) :
    let h := history world fuel p judge look s
    let ending := (run world fuel p (.judged judge look) s).1
    let instants := ⌈p.timeout / p.interval⌉₊ + 1
    ∃ start, firstReading h = some start ∧
      ending ≠ .unfinished ∧ (evaluations h).length ≤ instants ∧
      (∀ e ∈ rests none h, ∃ now, e.1 = some now ∧
        0 < e.2 ∧ e.2 ≤ p.interval ∧ e.2 ≤ start + p.timeout - now) ∧
      (∀ elapsed n last, ending = .timedOut elapsed n last → p.timeout ≤ elapsed) ∧
      (world.Timed (· = ·) clock → (∀ s, clock (look s).2 = clock s) →
        (∀ s, NotYet (judge (look s).1)) →
        (evaluations h).length = instants ∧ (rests none h).map Prod.snd = fullRests p ∧
          ∃ last, ending = .timedOut p.timeout instants last) := by
  intro h ending instants
  obtain ⟨start, rest, hshape, hcourse⟩ := course_run world fuel p judge look s
  have hstart := instant_zero start hT
  obtain ⟨t', hpasses⟩ := passes_history isPace_le htimed hlook fuel p judge s
  rw [hshape] at hpasses
  obtain ⟨hend, hcount, hlate⟩ := hcourse.pace hp (Nat.zero_le _) hfuel hstart.le hpasses.2
  have hrests := hcourse.pausesAt (some start)
  simp only [h, hshape]
  refine ⟨start, rfl, hend, by rwa [Nat.zero_add] at hcount, fun e he => ?_, hlate,
    fun hexact hquick hnot => ?_⟩
  · obtain ⟨now, hnow, hd, hpause⟩ := hrests e he
    rw [hpause, pause_eq_min]
    have hleft : 0 < start + p.timeout - now := sub_pos.2 (not_le.1 hd)
    exact ⟨now, hnow, lt_min hp hleft, min_le_left _ _, min_le_right _ _⟩
  · obtain ⟨t', hpasses⟩ :=
      passes_history isPace_eq hexact (fun s => (hquick s).symm) fuel p judge s
    have hseen := evaluated_mem_history world (Q := fun seen => NotYet (judge seen)) hnot fuel p
      judge s
    rw [hshape] at hpasses hseen
    have hbegun : Passes (· = ·) t' (instant start p 0) rest := by rw [hstart]; exact hpasses.2
    obtain ⟨hcount, hslept, htimeout⟩ := hcourse.exact_pace hp (Nat.zero_le _) hfuel hbegun
      (fun seen hmem => hseen seen (by simp [hmem])) (some start)
    rw [Nat.zero_add] at hcount
    rw [Nat.sub_zero, ← List.range_eq_range', map_pause_range hp hT] at hslept
    exact ⟨hcount, hslept, htimeout⟩

/-- A clock that nothing but a sleep moves. -/
def idle : World ℚ ℚ where
  now := fun t => (t, t)
  sleep := fun duration t => t + duration
  note := fun _ t => t

theorem timed_idle {R : ℚ → ℚ → Prop} (hR : IsPace R) : idle.Timed R id :=
  ⟨hR.refl, hR.refl, fun _ _ _ => hR.refl _, fun _ => hR.refl⟩

/-- With one and a half seconds between two evaluations and two seconds in all there are three
evaluations, the last one after half a second. -/
theorem run_pace_idle :
    let judge (_ : Unit) : Except Fault (Option Unit) := .ok none
    let look (t : ℚ) : Unit × ℚ := ((), t)
    let h := history idle 10 ⟨3 / 2, 2⟩ judge look 0
    (evaluations h).length = 3 ∧ (rests none h).map Prod.snd = [3 / 2, 1 / 2] ∧
      ∃ last, (run idle 10 ⟨3 / 2, 2⟩ (.judged judge look) 0).1 = .timedOut 2 3 last := by
  intro judge look h
  have hceil : ⌈(2 : ℚ) / (3 / 2)⌉₊ = 2 := (Nat.ceil_eq_iff two_ne_zero).2 (by norm_num)
  have hfloor : ⌊(2 : ℚ) / (3 / 2)⌋₊ = 1 := (Nat.floor_eq_iff (by norm_num)).2 (by norm_num)
  have hfuel : ⌈(2 : ℚ) / (3 / 2)⌉₊ < 10 := by rw [hceil]; norm_num
  have hlook (t : ℚ) : id t ≤ id (look t).2 := le_refl t
  obtain ⟨start, -, -, -, -, -, hexact⟩ :=
    run_pace (timed_idle isPace_le) hlook (p := ⟨3 / 2, 2⟩) (by norm_num) (by norm_num) hfuel
      judge 0
  obtain ⟨hcount, hrests, hend⟩ := hexact (timed_idle isPace_eq) (fun _ => rfl) fun _ => rfl
  simp only [hceil] at hcount hend
  refine ⟨hcount, ?_, hend⟩
  rw [hrests, fullRests]
  simp only [hfloor]
  norm_num

end Await

end SipBench
