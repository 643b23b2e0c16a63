import Mathlib.Data.List.Basic
import Mathlib.Tactic.SplitIfs
import SipBench.Proofs.Text.Blank
import SipBench.Text.Case

/-!
# What letter case can change

A case mapping replaces characters by visible characters from `A` on and never by nothing, so that
it adds no white space and none of the characters that separate the parts of a line.  On ASCII it
maps character by character.

* `Text.Respelt` : a text made from another one by such replacements
* `Text.respelt_lower`, `Text.respelt_capitalize` : the case mappings are of this kind
* `Text.Respelt.trim_eq_self` : no white space appears at the ends of a text
* `Text.lower_of_ascii`, `Text.map_toLower_capitalize` : the case mappings of ASCII texts
* `Text.IsApart` : letters that nothing beyond ASCII is mapped to
-/

namespace SipBench.Text

theorem ascii_induction {p : Char → Prop} (h : ∀ n < 128, p (Char.ofNat n)) {c : Char}
    (hc : c.toNat < 0x80) : p c :=
  Char.ofNat_toNat c ▸ h c.toNat hc

/-! ### The tables -/

/-- All images in the tables are characters from `A` on, and none is empty. -/
def TablesSound (runs : Array CaseRun) (sequences : List (Nat × List Nat)) : Prop :=
  (∀ r ∈ runs.toList, 0x41 ≤ r.image ∧ (r.image + (r.last - r.first) < 0xd800 ∨
    0xdfff < r.image ∧ r.image + (r.last - r.first) < 0x110000)) ∧
  ∀ s ∈ sequences, s.2 ≠ [] ∧ ∀ n ∈ s.2, 0x41 ≤ n ∧ n < 0xd800

set_option maxRecDepth 4000 in
theorem tablesSound_lower : TablesSound lowerRuns lowerSequences := by
  constructor <;> decide

set_option maxRecDepth 4000 in
theorem tablesSound_upper : TablesSound upperRuns upperSequences := by
  constructor <;> decide

theorem tablesSound_title : TablesSound titleRuns titleSequences := by
  constructor <;> decide

/-- No image in the tables holds white space. -/
def TablesVisible (runs : Array CaseRun) (sequences : List (Nat × List Nat)) : Prop :=
  (∀ r ∈ runs.toList, ∀ b ∈ blankRanges,
    r.image + (r.last - r.first) < b.1 ∨ b.2 < r.image) ∧
  ∀ s ∈ sequences, ∀ n ∈ s.2, isBlank (Char.ofNat n) = false

set_option maxRecDepth 4000 in
theorem tablesVisible_lower : TablesVisible lowerRuns lowerSequences := by
  constructor <;> decide +kernel

set_option maxRecDepth 4000 in
theorem tablesVisible_upper : TablesVisible upperRuns upperSequences := by
  constructor <;> decide +kernel

theorem tablesVisible_title : TablesVisible titleRuns titleSequences := by
  constructor <;> decide +kernel

theorem toNat_ofNat {n : Nat} (h : n.isValidChar) : (Char.ofNat n).toNat = n := by
  rw [Char.ofNat, dif_pos h]
  rfl

theorem mem_of_lookup {α β : Type} [BEq α] [LawfulBEq α] {a : α} {b : β} {l : List (α × β)}
    (h : l.lookup a = some b) : (a, b) ∈ l := by
  obtain ⟨before, after, rfl, -⟩ := List.lookup_eq_some_iff.1 h
  simp

theorem mapCase?_eq_some {runs : Array CaseRun} {sequences : List (Nat × List Nat)} {c : Char}
    {image : List Char} (h : mapCase? runs sequences c = some image) :
    (∃ s ∈ sequences, image = s.2.map Char.ofNat) ∨
      ∃ r ∈ runs.toList, ∃ n, image = [Char.ofNat n] ∧ r.image ≤ n ∧
        n ≤ r.image + (r.last - r.first) := by
  unfold mapCase? at h
  split at h
  · rename_i ns hlookup
    cases h
    exact .inl ⟨_, mem_of_lookup hlookup, rfl⟩
  · obtain ⟨n, hn, rfl⟩ := Option.map_eq_some_iff.1 h
    obtain ⟨r, hr, hmap⟩ := Array.exists_of_findSome?_eq_some hn
    unfold CaseRun.map? at hmap
    split_ifs at hmap with hcovers
    cases hmap
    simp only [Bool.and_eq_true, decide_eq_true_eq] at hcovers
    exact .inr ⟨r, hr.val, _, rfl, by omega, by omega⟩

theorem TablesSound.toNat_ofNat {runs : Array CaseRun} {sequences : List (Nat × List Nat)}
    (h : TablesSound runs sequences) {r : CaseRun} (hr : r ∈ runs.toList) {n : Nat}
    (hlow : r.image ≤ n) (hhigh : n ≤ r.image + (r.last - r.first)) :
    (Char.ofNat n).toNat = n ∧ 0x41 ≤ n := by
  obtain ⟨himage, hvalid⟩ := h.1 r hr
  exact ⟨Text.toNat_ofNat (by unfold Nat.isValidChar; omega), by omega⟩

/-! ### Characters -/

/-- What letter case makes of a character: the character itself, or visible characters from `A`
on. -/
structure IsImage (c : Char) (image : List Char) : Prop where
  ne_nil : image ≠ []
  eq_or_visible : image = [c] ∨ ∀ d ∈ image, 0x41 ≤ d.toNat ∧ isBlank d = false

theorem IsImage.refl (c : Char) : IsImage c [c] := ⟨by simp, .inl rfl⟩

theorem isImage_letter {c d : Char} (hlow : 0x41 ≤ d.toNat) (hhigh : d.toNat < 0x80) :
    IsImage c [d] := by
  refine ⟨by simp, .inr (List.forall_mem_singleton.2 ⟨hlow, ?_⟩)⟩
  exact ascii_induction (p := fun d => 0x41 ≤ d.toNat → isBlank d = false) (by decide) hhigh hlow

theorem isImage_of_mapCase? {runs : Array CaseRun} {sequences : List (Nat × List Nat)}
    (hsound : TablesSound runs sequences) (hvisible : TablesVisible runs sequences) {c : Char}
    {image : List Char} (h : mapCase? runs sequences c = some image) : IsImage c image := by
  obtain ⟨s, hs, rfl⟩ | ⟨r, hr, n, rfl, hlow, hhigh⟩ := mapCase?_eq_some h
  · obtain ⟨hne, hvalid⟩ := hsound.2 s hs
    refine ⟨by simpa using hne, .inr (List.forall_mem_map.2 fun n hn => ?_)⟩
    rw [toNat_ofNat (.inl (hvalid n hn).2)]
    exact ⟨(hvalid n hn).1, hvisible.2 s hs n hn⟩
  · obtain ⟨hn, hletter⟩ := hsound.toNat_ofNat hr hlow hhigh
    by_cases hascii : n < 0x80
    · exact isImage_letter (by rwa [hn]) (by rwa [hn])
    refine ⟨by simp, .inr (List.forall_mem_singleton.2 ⟨by rwa [hn], ?_⟩)⟩
    refine Bool.eq_false_iff.2 fun hblank => ?_
    obtain ⟨b, hb, hfirst, hlast⟩ := exists_blankRange (by omega) hblank
    have hapart := hvisible.1 r hr b hb
    omega

theorem isImage_mapCase {runs : Array CaseRun} {sequences : List (Nat × List Nat)}
    (hsound : TablesSound runs sequences) (hvisible : TablesVisible runs sequences) {c : Char}
    {otherwise : List Char} (hother : IsImage c otherwise) :
    IsImage c ((mapCase? runs sequences c).getD otherwise) := by
  cases hmap : mapCase? runs sequences c with
  | none => exact hother
  | some image => exact isImage_of_mapCase? hsound hvisible hmap

theorem isImage_toLower {c : Char} (h : c.toNat < 0x80) : IsImage c [c.toLower] := by
  obtain heq | ⟨hlow, hhigh⟩ := ascii_induction
    (p := fun c => c.toLower = c ∨ 0x41 ≤ c.toLower.toNat ∧ c.toLower.toNat < 0x80) (by decide) h
  · exact heq.symm ▸ .refl c
  · exact isImage_letter hlow hhigh

theorem isImage_toUpper {c : Char} (h : c.toNat < 0x80) : IsImage c [c.toUpper] := by
  obtain heq | ⟨hlow, hhigh⟩ := ascii_induction
    (p := fun c => c.toUpper = c ∨ 0x41 ≤ c.toUpper.toNat ∧ c.toUpper.toNat < 0x80) (by decide) h
  · exact heq.symm ▸ .refl c
  · exact isImage_letter hlow hhigh

theorem isImage_lowerChar (c : Char) : IsImage c (lowerChar c) := by
  unfold lowerChar
  split_ifs with h
  · exact isImage_toLower h
  · exact isImage_mapCase tablesSound_lower tablesVisible_lower (.refl c)

theorem isImage_upperChar (c : Char) : IsImage c (upperChar c) := by
  unfold upperChar
  split_ifs with h
  · exact isImage_toUpper h
  · exact isImage_mapCase tablesSound_upper tablesVisible_upper (.refl c)

theorem isImage_titleChar (c : Char) : IsImage c (titleChar c) := by
  unfold titleChar
  split_ifs with h
  · exact isImage_toUpper h
  · exact isImage_mapCase tablesSound_title tablesVisible_title (isImage_upperChar c)

/-! ### Texts -/

/-- A text with an image in the place of each character. -/
inductive Respelt : List Char → List Char → Prop
  | nil : Respelt [] []
  | cons {c : Char} {image cs ds : List Char} (himage : IsImage c image) (h : Respelt cs ds) :
      Respelt (c :: cs) (image ++ ds)

/-- A text made from another one by replacing characters by characters from `A` on. -/
structure MadeFrom (cs ds : List Char) : Prop where
  mem : ∀ d ∈ ds, d ∈ cs ∨ 0x41 ≤ d.toNat
  head : ∀ d, ds.head? = some d → cs.head? = some d ∨ 0x41 ≤ d.toNat
  ne_nil : cs ≠ [] → ds ≠ []

namespace Respelt

variable {cs ds cs' ds' : List Char}

theorem refl (cs : List Char) : Respelt cs cs := by
  induction cs with
  | nil => exact .nil
  | cons c cs ih => exact .cons (.refl c) ih

theorem append (h : Respelt cs ds) (h' : Respelt cs' ds') : Respelt (cs ++ cs') (ds ++ ds') := by
  induction h with
  | nil => exact h'
  | cons himage _ ih =>
    rw [List.append_assoc]
    exact .cons himage ih

theorem madeFrom (h : Respelt cs ds) : MadeFrom cs ds := by
  induction h with
  | nil => exact ⟨nofun, nofun, id⟩
  | @cons c image cs ds himage _ ih =>
    have hmem : ∀ d ∈ image, d = c ∨ 0x41 ≤ d.toNat := by
      obtain rfl | hvisible := himage.eq_or_visible
      · exact List.forall_mem_singleton.2 (.inl rfl)
      · exact fun d hd => .inr (hvisible d hd).1
    obtain ⟨first, rest, hcons⟩ := List.exists_cons_of_ne_nil himage.ne_nil
    refine ⟨List.forall_mem_append.2 ⟨fun d hd => ?_, fun d hd => ?_⟩, fun d hd => ?_, ?_⟩
    · exact (hmem d hd).imp_left fun heq => List.mem_cons.2 (.inl heq)
    · exact (ih.mem d hd).imp_left (List.mem_cons_of_mem c)
    · rw [hcons] at hd hmem
      obtain rfl : first = d := Option.some.inj hd
      exact (hmem first List.mem_cons_self).imp_left fun heq => congrArg some heq.symm
    · simp [himage.ne_nil]

theorem isBlank_head? (h : Respelt cs ds) (hcs : ∀ c ∈ cs.head?, isBlank c = false) :
    ∀ d ∈ ds.head?, isBlank d = false := by
  cases h with
  | nil => exact nofun
  | @cons c image _ _ himage _ =>
    obtain ⟨first, rest, rfl⟩ := List.exists_cons_of_ne_nil himage.ne_nil
    intro d hd
    obtain rfl : first = d := Option.some.inj hd
    obtain heq | hvisible := himage.eq_or_visible
    · exact (List.cons.inj heq).1 ▸ hcs c rfl
    · exact (hvisible first List.mem_cons_self).2

theorem isBlank_getLast? (h : Respelt cs ds) (hcs : ∀ c ∈ cs.getLast?, isBlank c = false) :
    ∀ d ∈ ds.getLast?, isBlank d = false := by
  induction h with
  | nil => exact nofun
  | @cons c image cs ds himage hrest ih =>
    by_cases hnil : cs = []
    · subst hnil
      cases hrest
      rw [List.append_nil]
      obtain rfl | hvisible := himage.eq_or_visible
      · exact hcs
      · exact fun d hd => (hvisible d (List.mem_of_getLast? hd)).2
    · rw [List.getLast?_append_of_ne_nil image (hrest.madeFrom.ne_nil hnil)]
      refine ih fun d hd => hcs d ?_
      rwa [← List.singleton_append, List.getLast?_append_of_ne_nil [c] hnil]

theorem trim_eq_self (h : Respelt cs ds) (hcs : trim cs = cs) : trim ds = ds := by
  obtain ⟨hhead, hlast⟩ := trimBy_eq_self_iff.1 hcs
  exact trimBy_eq_self (h.isBlank_head? hhead) (h.isBlank_getLast? hlast)

end Respelt

theorem respelt_lowerAfter (before cs : List Char) : Respelt cs (lowerAfter before cs) := by
  induction cs generalizing before with
  | nil => exact .nil
  | cons c cs ih =>
    rw [lowerAfter]
    refine .cons ?_ (ih _)
    split_ifs
    · exact ⟨by simp, .inr (List.forall_mem_singleton.2 (by decide))⟩
    · exact ⟨by simp, .inr (List.forall_mem_singleton.2 (by decide))⟩
    · exact isImage_lowerChar c

theorem respelt_lower (cs : List Char) : Respelt cs (lower cs) := respelt_lowerAfter [] cs

theorem respelt_capitalize (cs : List Char) : Respelt cs (capitalize cs) := by
  cases cs with
  | nil => exact .nil
  | cons c cs => exact .cons (isImage_titleChar c) (respelt_lowerAfter _ cs)

/-! ### ASCII -/

/-- All characters are ASCII. -/
def IsAscii (cs : List Char) : Prop := ∀ c ∈ cs, c.toNat < 0x80

instance (cs : List Char) : Decidable (IsAscii cs) :=
  decidable_of_iff (cs.all (·.toNat < 0x80) = true) (by simp [IsAscii])

theorem toLower_toUpper {c : Char} (h : c.toNat < 0x80) : c.toUpper.toLower = c.toLower :=
  ascii_induction (p := fun c => c.toUpper.toLower = c.toLower) (by decide) h

theorem toLower_toLower {c : Char} (h : c.toNat < 0x80) : c.toLower.toLower = c.toLower :=
  ascii_induction (p := fun c => c.toLower.toLower = c.toLower) (by decide) h

theorem toLower_lt {c : Char} (h : c.toNat < 0x80) : c.toLower.toNat < 0x80 :=
  ascii_induction (p := fun c => c.toLower.toNat < 0x80) (by decide) h

theorem lowerAfter_of_ascii {cs : List Char} (h : IsAscii cs) (before : List Char) :
    lowerAfter before cs = cs.map Char.toLower := by
  induction cs generalizing before with
  | nil => rfl
  | cons c cs ih =>
    have hc : c.toNat < 0x80 := h c List.mem_cons_self
    rw [lowerAfter, ih (fun d hd => h d (List.mem_cons_of_mem c hd)), if_neg (by omega), lowerChar,
      if_pos hc]
    rfl

theorem lower_of_ascii {cs : List Char} (h : IsAscii cs) : lower cs = cs.map Char.toLower :=
  lowerAfter_of_ascii h []

theorem capitalize_of_ascii {c : Char} {cs : List Char} (h : IsAscii (c :: cs)) :
    capitalize (c :: cs) = c.toUpper :: cs.map Char.toLower := by
  rw [capitalize, titleChar, if_pos (h c List.mem_cons_self),
    lowerAfter_of_ascii fun d hd => h d (List.mem_cons_of_mem c hd)]
  rfl

/-- A capitalised text is the same text when letter case does not count. -/
theorem map_toLower_capitalize {cs : List Char} (h : IsAscii cs) :
    (capitalize cs).map Char.toLower = cs.map Char.toLower := by
  cases cs with
  | nil => rfl
  | cons c cs =>
    rw [capitalize_of_ascii h, List.map_cons, List.map_cons,
      toLower_toUpper (h c List.mem_cons_self), List.map_map]
    refine congrArg _ (List.map_congr_left fun d hd => ?_)
    exact toLower_toLower (h d (List.mem_cons_of_mem c hd))

/-! ### Letters that only ASCII maps to -/

/-- No entry in the tables has some of the letters and nothing else for its image. -/
def TablesApart (letters : List Char) (runs : Array CaseRun)
    (sequences : List (Nat × List Nat)) : Prop :=
  (∀ r ∈ runs.toList, 0x80 ≤ r.image ∨ r.first = r.last ∧ Char.ofNat r.image ∉ letters) ∧
  ∀ s ∈ sequences, ∃ n ∈ s.2, Char.ofNat n ∉ letters

/-- ASCII letters that make up the lower case of no other character. -/
structure IsApartLower (letters : List Char) : Prop where
  ascii : IsAscii letters
  lower : TablesApart letters lowerRuns lowerSequences

/-- ASCII letters that make up neither the lower case nor the title case of any other character. -/
structure IsApart (letters : List Char) : Prop extends IsApartLower letters where
  upper : TablesApart letters upperRuns upperSequences
  title : TablesApart letters titleRuns titleSequences

theorem mapCase?_apart {letters : List Char} (hascii : IsAscii letters)
    {runs : Array CaseRun} {sequences : List (Nat × List Nat)} (hsound : TablesSound runs sequences)
    (hapart : TablesApart letters runs sequences) {c : Char} {image : List Char}
    (himage : mapCase? runs sequences c = some image) : ∃ d ∈ image, d ∉ letters := by
  obtain ⟨s, hs, rfl⟩ | ⟨r, hr, n, rfl, hlow, hhigh⟩ := mapCase?_eq_some himage
  · obtain ⟨n, hn, hout⟩ := hapart.2 s hs
    exact ⟨_, List.mem_map_of_mem hn, hout⟩
  · refine ⟨_, List.mem_singleton_self _, ?_⟩
    obtain himage | ⟨hsingle, hout⟩ := hapart.1 r hr
    · intro hmem
      have hletter := hascii _ hmem
      rw [(hsound.toNat_ofNat hr hlow hhigh).1] at hletter
      omega
    · obtain rfl : n = r.image := by omega
      exact hout

section

variable {letters : List Char}

/-- A character is ASCII if all that it is mapped to is among the letters. -/
theorem lt_of_mapCase {runs : Array CaseRun} {sequences : List (Nat × List Nat)}
    (hascii : IsAscii letters) (hsound : TablesSound runs sequences)
    (hapart : TablesApart letters runs sequences) {c : Char} {otherwise : List Char}
    (hother : (∀ d ∈ otherwise, d ∈ letters) → c.toNat < 0x80)
    (h : ∀ d ∈ (mapCase? runs sequences c).getD otherwise, d ∈ letters) : c.toNat < 0x80 := by
  cases himage : mapCase? runs sequences c with
  | none =>
    rw [himage] at h
    exact hother h
  | some image =>
    obtain ⟨d, hd, hout⟩ := mapCase?_apart hascii hsound hapart himage
    rw [himage] at h
    exact absurd (h d hd) hout

theorem IsApartLower.lowerChar (hl : IsApartLower letters) {c : Char}
    (h : ∀ d ∈ lowerChar c, d ∈ letters) : c.toNat < 0x80 := by
  unfold Text.lowerChar at h
  split_ifs at h with hc
  · exact hc
  · exact lt_of_mapCase hl.ascii tablesSound_lower hl.lower
      (fun h => hl.ascii c (h c (List.mem_singleton_self c))) h

theorem IsApart.titleChar (hl : IsApart letters) {c : Char} (h : ∀ d ∈ titleChar c, d ∈ letters) :
    c.toNat < 0x80 := by
  unfold Text.titleChar at h
  split_ifs at h with hc
  · exact hc
  refine lt_of_mapCase hl.ascii tablesSound_title hl.title (fun h => ?_) h
  rw [upperChar, if_neg hc] at h
  exact lt_of_mapCase hl.ascii tablesSound_upper hl.upper
    (fun h => hl.ascii c (h c (List.mem_singleton_self c))) h

theorem IsApartLower.lowerAfter (hl : IsApartLower letters) {cs : List Char} {before : List Char}
    (h : ∀ d ∈ lowerAfter before cs, d ∈ letters) : IsAscii cs := by
  induction cs generalizing before with
  | nil => exact nofun
  | cons c cs ih =>
    rw [Text.lowerAfter] at h
    obtain ⟨hc, hcs⟩ := List.forall_mem_append.1 h
    refine List.forall_mem_cons.2 ⟨?_, ih hcs⟩
    -- neither form of the sigma is ASCII
    split_ifs at hc
    · exact absurd (hl.ascii _ (hc _ (List.mem_singleton_self _))) (by decide)
    · exact absurd (hl.ascii _ (hc _ (List.mem_singleton_self _))) (by decide)
    · exact hl.lowerChar hc

theorem IsApart.capitalize (hl : IsApart letters) {cs : List Char}
    (h : ∀ d ∈ capitalize cs, d ∈ letters) : IsAscii cs := by
  cases cs with
  | nil => exact nofun
  | cons c cs =>
    obtain ⟨hc, hcs⟩ := List.forall_mem_append.1 h
    exact List.forall_mem_cons.2 ⟨hl.titleChar hc, hl.toIsApartLower.lowerAfter hcs⟩

end

end SipBench.Text
