import Mathlib.Algebra.Order.Monoid.Defs
import Mathlib.Data.List.Perm.Basic
import SipBench.Timeline

/-!
# Time spent on a timeline

Spending time runs what is due, each event once and in the order of their times, and leaves the rest
on the agenda, as long as the events only touch the state.

* `Timeline.Since` : one timeline is another one after some time was spent
* `Timeline.runDue_spec` : what running the due events does
* `Timeline.Since.advance` : time that is spent in pieces
-/

namespace SipBench

namespace Timeline

variable {τ α ω : Type}

/-- The events on an agenda as steps of the state alone. -/
def applying (step : α → ω → ω) : α → Timeline τ α ω → Timeline τ α ω :=
  fun a t => { t with state := step a t.state }

/-- A state after some appointments. -/
def after (step : α → ω → ω) (state : ω) (ran : List (Appointment τ α)) : ω :=
  ran.foldl (fun s a => step a.event s) state

section

variable [LinearOrder τ]

/-! ### Running what is due -/

theorem takeFirst_eq_none {agenda : List (Appointment τ α)} (h : takeFirst agenda = none) :
    agenda = [] := by
  cases agenda with
  | nil => rfl
  | cons a rest =>
    rw [takeFirst] at h
    split at h
    · cases h
    · split_ifs at h

theorem takeFirst_eq_some {agenda : List (Appointment τ α)} : ∀ {a rest},
    takeFirst agenda = some (a, rest) →
      agenda.Perm (a :: rest) ∧ ∀ b ∈ rest, a.time ≤ b.time := by
  induction agenda with
  | nil => intro a rest h; cases h
  | cons first agenda ih =>
    intro a rest h
    rw [takeFirst] at h
    split at h
    · rename_i hnone
      cases h
      rw [takeFirst_eq_none hnone]
      exact ⟨.refl _, nofun⟩
    · rename_i b others hb
      obtain ⟨hperm, hleast⟩ := ih hb
      split_ifs at h with hlt
      · cases h
        refine ⟨(hperm.cons first).trans (.swap _ _ _), ?_⟩
        rintro c (_ | ⟨_, hc⟩)
        · exact le_of_lt hlt
        · exact hleast c hc
      · cases h
        refine ⟨.refl _, fun c hc => ?_⟩
        obtain rfl | hc := List.mem_cons.1 (hperm.mem_iff.1 hc)
        · exact not_lt.1 hlt
        · exact (not_lt.1 hlt).trans (hleast c hc)

theorem takeDue_eq_none {limit : τ} {agenda : List (Appointment τ α)}
    (h : takeDue limit agenda = none) : ∀ a ∈ agenda, limit < a.time := by
  unfold takeDue at h
  split at h
  · rename_i a rest hfirst
    obtain ⟨hperm, hleast⟩ := takeFirst_eq_some hfirst
    split_ifs at h with hdue
    intro b hb
    obtain rfl | hb := List.mem_cons.1 (hperm.mem_iff.1 hb)
    · exact not_le.1 hdue
    · exact (not_le.1 hdue).trans_le (hleast b hb)
  · rename_i hnone
    rw [takeFirst_eq_none hnone]
    exact nofun

theorem takeDue_eq_some {limit : τ} {agenda rest : List (Appointment τ α)} {a : Appointment τ α}
    (h : takeDue limit agenda = some (a, rest)) :
    agenda.Perm (a :: rest) ∧ (∀ b ∈ rest, a.time ≤ b.time) ∧ a.time ≤ limit := by
  unfold takeDue at h
  split at h
  · rename_i hfirst
    split_ifs at h with hdue
    cases h
    obtain ⟨hperm, hleast⟩ := takeFirst_eq_some hfirst
    exact ⟨hperm, hleast, hdue⟩
  · cases h

/-- Running what is due by a time runs each of these events once, in the order of their times, and
leaves the others on the agenda. -/
theorem runDue_spec (step : α → ω → ω) (limit : τ) (fuel : Nat) : ∀ t : Timeline τ α ω,
    t.agenda.length ≤ fuel →
    ∃ ran, ran.Perm (t.agenda.filter (·.time ≤ limit)) ∧ ran.Pairwise (·.time ≤ ·.time) ∧
      (runDue (applying step) limit fuel t).agenda.Perm (t.agenda.filter (limit < ·.time)) ∧
      (runDue (applying step) limit fuel t).state = after step t.state ran := by
  induction fuel with
  | zero =>
    intro t hfuel
    have hnil : t.agenda = [] := List.length_eq_zero_iff.1 (Nat.le_zero.1 hfuel)
    exact ⟨[], by simp [hnil], .nil, by simp [runDue, hnil], rfl⟩
  | succ fuel ih =>
    intro t hfuel
    rw [runDue]
    split
    · rename_i hnone
      have hlater := takeDue_eq_none hnone
      refine ⟨[], ?_, .nil, ?_, rfl⟩
      · rw [List.filter_eq_nil_iff.2 fun a ha => by simpa using hlater a ha]
      · rw [List.filter_eq_self.2 fun a ha => by simpa using hlater a ha]
    · rename_i a rest hsome
      -- the earliest event runs, and whatever runs after it is no earlier
      obtain ⟨hperm, hleast, hdue⟩ := takeDue_eq_some hsome
      have hlength : rest.length ≤ fuel := by
        rw [hperm.length_eq, List.length_cons] at hfuel
        exact Nat.le_of_succ_le_succ hfuel
      obtain ⟨ran, hran, hsorted, hagenda, hstate⟩ := ih
        (applying step a.event
          { t with now := if t.now < a.time then a.time else t.now, agenda := rest }) hlength
      refine ⟨a :: ran, ?_, ?_, ?_, hstate⟩
      · have hfilter := hperm.filter fun b => decide (b.time ≤ limit)
        rw [List.filter_cons_of_pos (by simpa using hdue)] at hfilter
        exact (hran.cons a).trans hfilter.symm
      · refine List.pairwise_cons.2 ⟨fun b hb => hleast b ?_, hsorted⟩
        exact (List.mem_filter.1 (hran.mem_iff.1 hb)).1
      · have hfilter := hperm.filter fun b => decide (limit < b.time)
        rw [List.filter_cons_of_neg (by simpa using hdue)] at hfilter
        exact hagenda.trans hfilter.symm

/-! ### Time spent in pieces -/

/-- A timeline as it is after some time was spent: what was due has run, in the order of the times,
and nothing else. -/
structure Since (step : α → ω → ω) (t₀ t : Timeline τ α ω) : Prop where
  now : t₀.now ≤ t.now
  agenda : t.agenda.Perm (t₀.agenda.filter (t.now < ·.time))
  state : ∃ ran, ran.Perm (t₀.agenda.filter (·.time ≤ t.now)) ∧ ran.Pairwise (·.time ≤ ·.time) ∧
    t.state = after step t₀.state ran

theorem Since.refl {step : α → ω → ω} {t : Timeline τ α ω} (h : ∀ a ∈ t.agenda, t.now < a.time) :
    Since step t t := by
  refine ⟨le_refl _, ?_, [], ?_, .nil, rfl⟩
  · rw [List.filter_eq_self.2 fun a ha => by simpa using h a ha]
  · rw [List.filter_eq_nil_iff.2 fun a ha => by simpa using h a ha]

theorem filter_due_append {now limit : τ} (h : now ≤ limit) (agenda : List (Appointment τ α)) :
    (agenda.filter (·.time ≤ now) ++ (agenda.filter (now < ·.time)).filter (·.time ≤ limit)).Perm
      (agenda.filter (·.time ≤ limit)) := by
  have hsplit := List.filter_append_perm (fun a => decide (a.time ≤ now))
    (agenda.filter fun a => decide (a.time ≤ limit))
  rw [List.filter_filter, List.filter_filter] at hsplit
  rw [List.filter_filter]
  convert hsplit using 2
  · refine List.filter_congr fun a _ => ?_
    rw [Bool.eq_iff_iff]
    simpa using fun ha => le_trans ha h
  · refine List.filter_congr fun a _ => ?_
    rw [Bool.eq_iff_iff]
    simp [and_comm]

theorem filter_later {now limit : τ} (h : now ≤ limit) (agenda : List (Appointment τ α)) :
    (agenda.filter (now < ·.time)).filter (limit < ·.time) = agenda.filter (limit < ·.time) := by
  rw [List.filter_filter]
  refine List.filter_congr fun a _ => ?_
  rw [Bool.eq_iff_iff]
  simpa using fun ha => lt_of_le_of_lt h ha

/-- Spending more time leads to what spending it all at once would lead to. -/
theorem Since.advance [AddCommMonoid τ] [IsOrderedAddMonoid τ] {step : α → ω → ω}
    {t₀ t : Timeline τ α ω} (h : Since step t₀ t) {duration : τ} (hd : 0 ≤ duration) {fuel : Nat}
    (hfuel : t.agenda.length ≤ fuel) : Since step t₀ (t.advance (applying step) fuel duration) := by
  have hlimit : t.now ≤ t.now + duration := le_add_of_nonneg_right hd
  obtain ⟨more, hmore, hsorted', hagenda, hstate'⟩ :=
    runDue_spec step (t.now + duration) fuel t hfuel
  obtain ⟨ran, hran, hsorted, hstate⟩ := h.state
  have hmore : more.Perm ((t₀.agenda.filter (t.now < ·.time)).filter (·.time ≤ t.now + duration)) :=
    hmore.trans (h.agenda.filter _)
  refine ⟨h.now.trans hlimit, ?_, ran ++ more, ?_, ?_, ?_⟩
  · have hrest := h.agenda.filter fun a => decide (t.now + duration < a.time)
    rw [filter_later hlimit] at hrest
    exact hagenda.trans hrest
  · exact (hran.append hmore).trans (filter_due_append hlimit t₀.agenda)
  -- what has run was due by the old time, and what runs now was not
  · refine List.pairwise_append.2 ⟨hsorted, hsorted', fun a ha b hb => ?_⟩
    have hbefore : a.time ≤ t.now := by simpa using (List.mem_filter.1 (hran.mem_iff.1 ha)).2
    have hlater := (List.mem_filter.1 (List.mem_filter.1 (hmore.mem_iff.1 hb)).1).2
    exact hbefore.trans (le_of_lt (by simpa using hlater))
  · rw [after, List.foldl_append]
    exact hstate'.trans (by rw [hstate]; rfl)

end

end Timeline

end SipBench
