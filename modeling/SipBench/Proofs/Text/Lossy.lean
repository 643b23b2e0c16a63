import Mathlib
import SipBench.Proofs.Text.Utf8

/-!
# Decoding any octets

Whether octets are well formed or not, an ASCII octet among them stands for itself: it ends every
sequence that has begun before it, and no sequence stands for an ASCII character.

* `Utf8.decodeLossy_append` : octets are decoded up to an ASCII octet and from it on
* `Utf8.mem_of_mem_decodeLossy` : an ASCII character is read from its own octet
-/

namespace SipBench.Text.Utf8

/-! ### The states of the machine -/

/-- A sequence that no ASCII octet continues and that stands for no ASCII character. -/
structure Incomplete.IsHigh (s : Incomplete) : Prop where
  low : 0x80 ≤ s.low.toNat
  bits : 2 ≤ s.bits ∨ 2 ≤ s.missing ∧ (1 ≤ s.bits ∨ 0x90 ≤ s.low.toNat)

theorem isHigh_of_beginning {b : UInt8} {s : Incomplete} (h : beginning b = .sequence s) :
    s.IsHigh := by
  simp only [beginning] at h
  split_ifs at h
  all_goals cases h
  all_goals refine ⟨by simp, ?_⟩
  all_goals simp
  all_goals omega

theorem beginning_of_ascii {b : UInt8} (h : b.toNat < 0x80) :
    beginning b = .char (Char.ofNat b.toNat) := by
  simp only [beginning, h, ↓reduceIte]

/-- An octet in its range completes a character beyond ASCII or leaves a sequence of this kind. -/
theorem Incomplete.IsHigh.next {s : Incomplete} (h : s.IsHigh) {b : UInt8} (hlow : s.low ≤ b) :
    (s.missing = 1 → 0x80 ≤ s.bits * 64 + (b.toNat - 0x80)) ∧
      (s.missing ≠ 1 →
        IsHigh ⟨s.missing - 1, 0x80, 0xbf, s.bits * 64 + (b.toNat - 0x80)⟩) := by
  have hb : s.low.toNat ≤ b.toNat := hlow
  have hstart := h.low
  constructor
  · intro hmissing
    rcases h.bits with hbits | ⟨hmore, -⟩ <;> omega
  · intro hmissing
    refine ⟨by simp, .inl ?_⟩
    rcases h.bits with hbits | ⟨-, hbits | hbits⟩
    all_goals simp only
    all_goals omega

theorem decodeFrom_some_cons (s : Incomplete) (b : UInt8) (bs : List UInt8) :
    decodeFrom (some s) (b :: bs) =
      if s.low ≤ b ∧ b ≤ s.high then
        if s.missing = 1 then
          some (Char.ofNat (s.bits * 64 + (b.toNat - 0x80))) :: decodeFrom none bs
        else
          decodeFrom (some ⟨s.missing - 1, 0x80, 0xbf, s.bits * 64 + (b.toNat - 0x80)⟩) bs
      else none :: decodeFrom none (b :: bs) := by
  simp only [decodeFrom, Bool.and_eq_true, decide_eq_true_eq]

/-! ### Decoding in parts -/

theorem isHigh_of_mem_none : ∀ s ∈ (none : Option Incomplete), s.IsHigh := by simp

/-- An ASCII octet ends what has begun before it. -/
theorem decodeFrom_append {state : Option Incomplete} (hstate : ∀ s ∈ state, s.IsHigh)
    (xs : List UInt8) {ys : List UInt8} (hys : ∀ b ∈ ys.head?, b.toNat < 0x80) :
    decodeFrom state (xs ++ ys) = decodeFrom state xs ++ decodeFrom none ys := by
  induction xs generalizing state with
  | nil =>
    cases state with
    | none => rfl
    | some s =>
      cases ys with
      | nil => rfl
      | cons b ys =>
        have hlow : ¬ s.low ≤ b := fun hle =>
          absurd (Nat.le_trans (hstate s rfl).low hle) (Nat.not_le.2 (hys b rfl))
        rw [List.nil_append, decodeFrom_some_cons, if_neg fun hrange => hlow hrange.1]
        rfl
  | cons x xs ih =>
    have hnone : decodeFrom none (xs ++ ys) = decodeFrom none xs ++ decodeFrom none ys :=
      ih isHigh_of_mem_none
    have hsome {s : Incomplete} (hs : s.IsHigh) :
        decodeFrom (some s) (xs ++ ys) = decodeFrom (some s) xs ++ decodeFrom none ys :=
      ih fun s' hs' => Option.some.inj hs' ▸ hs
    have hafresh : decodeFrom none (x :: (xs ++ ys)) =
        decodeFrom none (x :: xs) ++ decodeFrom none ys := by
      cases hx : beginning x with
      | char c => simp [decodeFrom, hx, hnone]
      | stray => simp [decodeFrom, hx, hnone]
      | sequence s =>
        rw [decodeFrom_sequence hx, decodeFrom_sequence hx, hsome (isHigh_of_beginning hx)]
    cases state with
    | none => exact hafresh
    | some s =>
      rw [List.cons_append, decodeFrom_some_cons, decodeFrom_some_cons]
      split_ifs with hrange hlast
      · rw [hnone]
        rfl
      · exact hsome (((hstate s rfl).next hrange.1).2 hlast)
      · rw [hafresh]
        rfl

/-- Octets are decoded up to an ASCII octet and from it on. -/
theorem decodeLossy_append (xs : List UInt8) {ys : List UInt8}
    (hys : ∀ b ∈ ys.head?, b.toNat < 0x80) :
    decodeLossy (xs ++ ys) = decodeLossy xs ++ decodeLossy ys := by
  rw [decodeLossy, decodeFrom_append isHigh_of_mem_none xs hys, List.map_append]
  rfl

theorem decodeLossy_cons {b : UInt8} (hb : b.toNat < 0x80) (bs : List UInt8) :
    decodeLossy (b :: bs) = Char.ofNat b.toNat :: decodeLossy bs := by
  simp only [decodeLossy, decodeFrom, beginning_of_ascii hb, List.map_cons, Option.getD_some]

/-! ### Characters of their own -/

theorem beginning_eq_char {b : UInt8} {c : Char} (h : beginning b = .char c) :
    UInt8.ofNat c.toNat = b := by
  simp only [beginning] at h
  split_ifs at h with hb
  cases h
  rw [Char.toNat_ofNat, if_pos (by unfold Nat.isValidChar; omega), UInt8.ofNat_toNat]

/-- An ASCII character is read from its octet alone. -/
theorem mem_of_mem_decodeFrom {state : Option Incomplete} (hstate : ∀ s ∈ state, s.IsHigh)
    {c : Char} (hpos : c.toNat ≠ 0) (hc : c.toNat < 0x80) {bs : List UInt8}
    (h : some c ∈ decodeFrom state bs) : UInt8.ofNat c.toNat ∈ bs := by
  induction bs generalizing state with
  | nil => cases state <;> simp [decodeFrom] at h
  | cons b bs ih =>
    have hnone (hmem : some c ∈ decodeFrom none bs) : UInt8.ofNat c.toNat ∈ b :: bs :=
      List.mem_cons_of_mem b (ih isHigh_of_mem_none hmem)
    have hsome {s : Incomplete} (hs : s.IsHigh) (hmem : some c ∈ decodeFrom (some s) bs) :
        UInt8.ofNat c.toNat ∈ b :: bs :=
      List.mem_cons_of_mem b (ih (fun s' hs' => Option.some.inj hs' ▸ hs) hmem)
    have hafresh (hmem : some c ∈ decodeFrom none (b :: bs)) : UInt8.ofNat c.toNat ∈ b :: bs := by
      cases hb : beginning b with
      | char d =>
        simp only [decodeFrom, hb, List.mem_cons, Option.some.injEq] at hmem
        rcases hmem with rfl | hmem
        · rw [beginning_eq_char hb]
          exact List.mem_cons_self
        · exact hnone hmem
      | stray =>
        simp only [decodeFrom, hb, List.mem_cons, reduceCtorEq, false_or] at hmem
        exact hnone hmem
      | sequence s =>
        rw [decodeFrom_sequence hb] at hmem
        exact hsome (isHigh_of_beginning hb) hmem
    cases state with
    | none => exact hafresh h
    | some s =>
      rw [decodeFrom_some_cons] at h
      split_ifs at h with hrange hlast
      · have hbits := ((hstate s rfl).next hrange.1).1 hlast
        rcases List.mem_cons.1 h with heq | hmem
        · -- the completed character is not an ASCII one, unless there is no such character
          rw [Option.some.inj heq, Char.toNat_ofNat] at hpos hc
          split_ifs at hpos hc <;> omega
        · exact hnone hmem
      · exact hsome (((hstate s rfl).next hrange.1).2 hlast) h
      · exact hafresh (List.mem_of_ne_of_mem (by simp) h)

theorem mem_of_mem_decodeLossy {c : Char} (hpos : c.toNat ≠ 0) (hc : c.toNat < 0x80)
    {bs : List UInt8} (h : c ∈ decodeLossy bs) : UInt8.ofNat c.toNat ∈ bs := by
  obtain ⟨d, hd, heq⟩ := List.mem_map.1 h
  cases d with
  | none =>
    rw [← heq] at hc
    exact absurd hc (by decide)
  | some d =>
    obtain rfl : d = c := heq
    exact mem_of_mem_decodeFrom isHigh_of_mem_none hpos hc hd

theorem decodeFrom_ne_nil (s : Incomplete) (bs : List UInt8) : decodeFrom (some s) bs ≠ [] := by
  induction bs generalizing s with
  | nil => simp [decodeFrom]
  | cons b bs ih =>
    rw [decodeFrom_some_cons]
    split_ifs
    · simp
    · exact ih _
    · simp

theorem decodeLossy_ne_nil {bs : List UInt8} (h : bs ≠ []) : decodeLossy bs ≠ [] := by
  obtain ⟨b, bs, rfl⟩ := List.exists_cons_of_ne_nil h
  rw [decodeLossy, ne_eq, List.map_eq_nil_iff]
  cases hb : beginning b with
  | char c => simp [decodeFrom, hb]
  | stray => simp [decodeFrom, hb]
  | sequence s =>
    rw [decodeFrom_sequence hb]
    exact decodeFrom_ne_nil s bs

end SipBench.Text.Utf8
