import Mathlib.Data.List.TakeWhile
import Mathlib.Tactic.SplitIfs
import SipBench.Text.Blank

/-!
# Trimming, cutting and words

* `Text.trimBy_eq_self` : what is trimmed already stays as it is
* `Text.splitAt_append`, `Text.cutAt_append` : a text is cut at the separator that was put there
* `Text.words_append`, `Text.words_trim` : the words of a text, whatever white space is between them
* `Text.trim_eq_of_words` : a text with the words of one without inner white space
-/

namespace SipBench.Text

variable {p : Char → Bool} {separator : Char} {cs : List Char}

/-! ### White space beyond ASCII -/

/-- The ranges of the white space beyond ASCII. -/
def blankRanges : List (Nat × Nat) := [
  (0x85, 0x85), (0xa0, 0xa0), (0x1680, 0x1680), (0x2000, 0x200a), (0x2028, 0x2029),
  (0x202f, 0x202f), (0x205f, 0x205f), (0x3000, 0x3000)]

theorem exists_blankRange {c : Char} (hc : 0x80 ≤ c.toNat) (h : isBlank c = true) :
    ∃ b ∈ blankRanges, b.1 ≤ c.toNat ∧ c.toNat ≤ b.2 := by
  simp only [isBlank, Bool.or_eq_true, Bool.and_eq_true, decide_eq_true_eq, beq_iff_eq] at h
  simp only [blankRanges, List.mem_cons, exists_eq_or_imp]
  omega

/-! ### Trimming -/

theorem trimBy_sublist (p : Char → Bool) (cs : List Char) : (trimBy p cs).Sublist cs := by
  have h := (List.dropWhile_sublist (l := (cs.dropWhile p).reverse) p).reverse
  rw [List.reverse_reverse] at h
  exact h.trans (List.dropWhile_sublist p)

theorem mem_of_mem_trim {c : Char} (h : c ∈ trim cs) : c ∈ cs := (trimBy_sublist _ _).subset h

theorem head?_trimBy {c : Char} (h : (trimBy p cs).head? = some c) : p c = false := by
  rw [trimBy, List.head?_reverse] at h
  have hmem := List.mem_of_getLast? h
  cases hdrop : cs.dropWhile p with
  | nil => simp [hdrop] at h
  | cons first rest =>
    have hfirst : p first = false := by
      simpa [hdrop] using List.head?_dropWhile_not p cs
    -- the first character that is kept at the beginning is the last one to be reached from the end
    rw [hdrop, List.reverse_cons, List.dropWhile_append] at h
    split at h
    · rw [List.dropWhile_cons_of_neg (by simp [hfirst])] at h
      simp only [List.getLast?_singleton, Option.some.injEq] at h
      rwa [← h]
    · simp only [List.getLast?_append, List.getLast?_singleton, Option.some_or,
        Option.some.injEq] at h
      rwa [← h]

theorem head?_trim {c : Char} (h : (trim cs).head? = some c) : isBlank c = false := head?_trimBy h

theorem getLast?_trimBy {c : Char} (h : (trimBy p cs).getLast? = some c) : p c = false := by
  rw [trimBy, List.getLast?_reverse] at h
  simpa [h] using List.head?_dropWhile_not p (cs.dropWhile p).reverse

theorem dropWhile_eq_self (h : ∀ c, cs.head? = some c → p c = false) : cs.dropWhile p = cs := by
  cases cs with
  | nil => rfl
  | cons c cs => exact List.dropWhile_cons_of_neg (by simp [h c rfl])

theorem trimBy_eq_self (hhead : ∀ c, cs.head? = some c → p c = false)
    (hlast : ∀ c, cs.getLast? = some c → p c = false) : trimBy p cs = cs := by
  rw [trimBy, dropWhile_eq_self hhead, dropWhile_eq_self (by simpa using hlast),
    List.reverse_reverse]

theorem trimBy_eq_self_iff : trimBy p cs = cs ↔
    (∀ c, cs.head? = some c → p c = false) ∧ ∀ c, cs.getLast? = some c → p c = false := by
  refine ⟨fun h => ⟨fun c hc => ?_, fun c hc => ?_⟩, fun h => trimBy_eq_self h.1 h.2⟩
  · exact head?_trimBy (h.symm ▸ hc)
  · exact getLast?_trimBy (h.symm ▸ hc)

/-- Whether a text is trimmed already does not depend on what else its characters are. -/
theorem trimBy_map_eq_self_iff {f : Char → Char} (h : ∀ c ∈ cs, p (f c) = p c) :
    trimBy p (cs.map f) = cs.map f ↔ trimBy p cs = cs := by
  rw [trimBy_eq_self_iff, trimBy_eq_self_iff]
  simp only [List.head?_map, List.getLast?_map, Option.map_eq_some_iff, forall_exists_index,
    and_imp, forall_apply_eq_imp_iff₂]
  refine and_congr (forall_congr' fun c => imp_congr_right fun hc => ?_)
    (forall_congr' fun c => imp_congr_right fun hc => ?_)
  · rw [h c (List.mem_of_mem_head? hc)]
  · rw [h c (List.mem_of_getLast? hc)]

theorem trimBy_of_forall (h : ∀ c ∈ cs, p c = false) : trimBy p cs = cs :=
  trimBy_eq_self (fun c hc => h c (List.mem_of_mem_head? hc))
    (fun c hc => h c (List.mem_of_getLast? hc))

theorem trimBy_trimBy (p : Char → Bool) (cs : List Char) :
    trimBy p (trimBy p cs) = trimBy p cs :=
  trimBy_eq_self (fun _ => head?_trimBy) fun _ => getLast?_trimBy

@[simp]
theorem trim_trim (cs : List Char) : trim (trim cs) = trim cs := trimBy_trimBy isBlank cs

theorem trim_cons_blank {c : Char} (h : isBlank c = true) (cs : List Char) :
    trim (c :: cs) = trim cs := by
  rw [trim, trim, trimBy, trimBy, List.dropWhile_cons_of_pos h]

theorem trim_append_blank {c : Char} (h : isBlank c = true) (cs : List Char) :
    trim (cs ++ [c]) = trim cs := by
  have hc : [c].dropWhile isBlank = [] := List.dropWhile_cons_of_pos h
  rw [trim, trim, trimBy, trimBy, List.dropWhile_append]
  split
  · rename_i hempty
    rw [List.isEmpty_iff.1 hempty, hc]
  · rw [List.reverse_append, List.reverse_singleton, List.singleton_append,
      List.dropWhile_cons_of_pos h]

theorem trimEnd_eq_self_iff : trimEnd cs = cs ↔ ∀ c ∈ cs.getLast?, isBlank c = false := by
  rw [trimEnd, List.reverse_eq_iff, ← List.head?_reverse]
  cases cs.reverse with
  | nil => simp
  | cons c rest =>
    cases hc : isBlank c with
    | false => simp [List.dropWhile_cons_of_neg, hc]
    | true =>
      have hle : (rest.dropWhile isBlank).length ≤ rest.length :=
        (List.dropWhile_sublist _).length_le
      have hne : rest.dropWhile isBlank ≠ c :: rest := fun heq => by
        rw [heq, List.length_cons] at hle
        omega
      simp [List.dropWhile_cons_of_pos, hc, hne]

/-! ### Splitting -/

theorem splitAt_eq_splitOn (separator : Char) (cs : List Char) :
    splitAt separator cs = cs.splitOn separator := by
  induction cs with
  | nil => rfl
  | cons c cs ih =>
    rw [splitAt, List.splitOn_cons_eq_if_modifyHead, ih]
    simp only [beq_iff_eq]
    split_ifs with h
    · rfl
    · obtain ⟨piece, pieces, hsplit⟩ :=
        List.exists_cons_of_ne_nil (List.splitOn_ne_nil separator cs)
      rw [hsplit]
      rfl

theorem splitAt_append {line : List Char} (h : separator ∉ line) (rest : List Char) :
    splitAt separator (line ++ separator :: rest) = line :: splitAt separator rest := by
  rw [splitAt_eq_splitOn, splitAt_eq_splitOn, List.splitOn_append_cons_self_of_not_mem h]

theorem splitAt_of_not_mem (h : separator ∉ cs) : splitAt separator cs = [cs] := by
  rw [splitAt_eq_splitOn, List.splitOn_eq_singleton h]

theorem intercalate_splitAt (separator : Char) (cs : List Char) :
    [separator].intercalate (splitAt separator cs) = cs := by
  rw [splitAt_eq_splitOn, List.intercalate_splitOn]

/-- A piece holds characters of the text, and the separator is not among them. -/
theorem mem_of_mem_splitAt {piece : List Char} (h : piece ∈ splitAt separator cs) {c : Char}
    (hc : c ∈ piece) : c ∈ cs ∧ c ≠ separator := by
  induction cs generalizing piece with
  | nil =>
    rw [splitAt, List.mem_singleton] at h
    subst h
    cases hc
  | cons d cs ih =>
    rw [splitAt] at h
    split_ifs at h with hd
    · obtain rfl | h := List.mem_cons.1 h
      · cases hc
      · exact (ih h hc).imp_left (List.mem_cons_of_mem d)
    split at h
    · obtain rfl := List.mem_singleton.1 h
      obtain rfl := List.mem_singleton.1 hc
      exact ⟨List.mem_cons_self, hd⟩
    · rename_i hsplit
      rw [hsplit] at ih
      obtain rfl | h := List.mem_cons.1 h
      · obtain rfl | hc := List.mem_cons.1 hc
        · exact ⟨List.mem_cons_self, hd⟩
        · exact (ih List.mem_cons_self hc).imp_left (List.mem_cons_of_mem d)
      · exact (ih (List.mem_cons_of_mem _ h) hc).imp_left (List.mem_cons_of_mem d)

/-! ### Cutting -/

theorem cutAt_append {first : List Char} (h : separator ∉ first) (rest : List Char) :
    cutAt separator (first ++ separator :: rest) = (first, some rest) := by
  have hfirst : ∀ c ∈ first, decide (c ≠ separator) = true := fun c hc =>
    decide_eq_true fun heq => h (heq ▸ hc)
  rw [cutAt, List.dropWhile_append_of_pos hfirst, List.takeWhile_append_of_pos hfirst,
    List.dropWhile_cons_of_neg (by simp), List.takeWhile_cons_of_neg (by simp), List.append_nil]

/-- What stands on both sides of the first separator is determined. -/
theorem append_separator_inj {first other rest more : List Char} (h : separator ∉ first)
    (hother : separator ∉ other)
    (heq : first ++ separator :: rest = other ++ separator :: more) :
    first = other ∧ rest = more := by
  have hcut := cutAt_append h rest
  rw [heq, cutAt_append hother] at hcut
  cases hcut
  exact ⟨rfl, rfl⟩

theorem cutAt_of_not_mem (h : separator ∉ cs) : cutAt separator cs = (cs, none) := by
  have hnil : cs.dropWhile (· ≠ separator) = [] :=
    List.dropWhile_eq_nil_iff.2 fun c hc => decide_eq_true fun heq => h (heq ▸ hc)
  rw [cutAt, hnil]

theorem cutAt_eq_some {first rest : List Char} (h : cutAt separator cs = (first, some rest)) :
    cs = first ++ separator :: rest ∧ separator ∉ first := by
  by_cases hmem : separator ∈ cs
  · obtain ⟨before, after, rfl, hbefore⟩ := List.eq_append_cons_of_mem hmem
    rw [cutAt_append hbefore] at h
    cases h
    exact ⟨rfl, hbefore⟩
  · rw [cutAt_of_not_mem hmem] at h
    cases h

theorem cutAt_eq_none {first : List Char} (h : cutAt separator cs = (first, none)) :
    first = cs ∧ separator ∉ cs := by
  by_cases hmem : separator ∈ cs
  · obtain ⟨before, after, rfl, hbefore⟩ := List.eq_append_cons_of_mem hmem
    rw [cutAt_append hbefore] at h
    cases h
  · rw [cutAt_of_not_mem hmem] at h
    cases h
    exact ⟨rfl, hmem⟩

/-! ### Words -/

section

variable {ds : List Char}

theorem takeWhile_append_stop {c : Char} (h : p c = false) (cs ds : List Char) :
    (cs ++ c :: ds).takeWhile p = cs.takeWhile p := by
  induction cs with
  | nil => exact List.takeWhile_cons_of_neg (by simp [h])
  | cons d cs ih => simp only [List.cons_append, List.takeWhile_cons, ih]

theorem dropWhile_append_stop {c : Char} (h : p c = false) (cs ds : List Char) :
    (cs ++ c :: ds).dropWhile p = cs.dropWhile p ++ c :: ds := by
  induction cs with
  | nil => exact List.dropWhile_cons_of_neg (by simp [h])
  | cons d cs ih =>
    simp only [List.cons_append, List.dropWhile_cons, ih]
    split_ifs <;> rfl

theorem words_of_dropWhile_eq_nil (h : cs.dropWhile isBlank = []) : words cs = [] := by
  rw [words.eq_def]
  split <;> rename_i hcs
  · rfl
  · rw [h] at hcs
    cases hcs

@[simp]
theorem words_nil : words [] = [] := words_of_dropWhile_eq_nil rfl

theorem words_of_dropWhile_eq_cons {c : Char} {rest : List Char}
    (h : cs.dropWhile isBlank = c :: rest) :
    words cs = (c :: rest.takeWhile (!isBlank ·)) :: words (rest.dropWhile (!isBlank ·)) := by
  rw [words.eq_def]
  split <;> rename_i hcs
  · rw [h] at hcs
    cases hcs
  · rw [h] at hcs
    cases hcs
    rfl

theorem words_eq_nil_iff : words cs = [] ↔ ∀ c ∈ cs, isBlank c = true := by
  rw [← List.dropWhile_eq_nil_iff]
  cases h : cs.dropWhile isBlank with
  | nil => simp [words_of_dropWhile_eq_nil h]
  | cons c rest => simp [words_of_dropWhile_eq_cons h]

theorem words_append_cons {c : Char} (h : isBlank c = true) (cs ds : List Char) :
    words (cs ++ c :: ds) = words cs ++ words ds := by
  induction cs using words.induct with
  | case1 cs hcs =>
    have hdrop : (cs ++ c :: ds).dropWhile isBlank = ds.dropWhile isBlank := by
      rw [List.dropWhile_append_of_pos (List.dropWhile_eq_nil_iff.1 hcs),
        List.dropWhile_cons_of_pos h]
    rw [words_of_dropWhile_eq_nil hcs, List.nil_append, words.eq_def, hdrop, ← words.eq_def]
  | case2 cs d rest hcs ih =>
    have hdrop : (cs ++ c :: ds).dropWhile isBlank = d :: (rest ++ c :: ds) := by
      rw [List.dropWhile_append, hcs]
      rfl
    have hstop : (!isBlank c) = false := by rw [h]; rfl
    rw [words_of_dropWhile_eq_cons hdrop, words_of_dropWhile_eq_cons hcs,
      takeWhile_append_stop hstop, dropWhile_append_stop hstop, ih]
    rfl

theorem words_append (h : ∀ c ∈ ds.head?, isBlank c = true) :
    words (cs ++ ds) = words cs ++ words ds := by
  cases ds with
  | nil => simp
  | cons c ds =>
    have hds : words (c :: ds) = words ds := by simpa using words_append_cons (h c rfl) [] ds
    rw [words_append_cons (h c rfl), hds]

theorem words_append_of_blank (h : ∀ c ∈ cs, isBlank c = true) : words (cs ++ ds) = words ds := by
  induction cs with
  | nil => rfl
  | cons c cs ih =>
    obtain ⟨hc, hcs⟩ := List.forall_mem_cons.1 h
    exact (words_append_cons hc [] (cs ++ ds)).trans (by rw [words_nil, ih hcs]; rfl)

theorem words_append_blanks {blanks : List Char} (hne : blanks ≠ [])
    (h : ∀ c ∈ blanks, isBlank c = true) (cs ds : List Char) :
    words (cs ++ (blanks ++ ds)) = words cs ++ words ds := by
  obtain ⟨c, blanks, rfl⟩ := List.exists_cons_of_ne_nil hne
  obtain ⟨hc, hblanks⟩ := List.forall_mem_cons.1 h
  rw [List.cons_append, words_append_cons hc, words_append_of_blank hblanks]

/-- `ds` is `cs` with white space around it. -/
def Padded (cs ds : List Char) : Prop :=
  ∃ before after, ds = before ++ (cs ++ after) ∧ (∀ c ∈ before, isBlank c = true) ∧
    ∀ c ∈ after, isBlank c = true

theorem Padded.refl (cs : List Char) : Padded cs cs := ⟨[], [], by simp, by simp, by simp⟩

theorem padded_trim (cs : List Char) : Padded (trim cs) cs := by
  refine ⟨cs.takeWhile isBlank, ((cs.dropWhile isBlank).reverse.takeWhile isBlank).reverse, ?_,
    fun c hc => List.mem_takeWhile_imp hc,
    fun c hc => List.mem_takeWhile_imp (List.mem_reverse.1 hc)⟩
  rw [trim, trimBy, ← List.reverse_append, List.takeWhile_append_dropWhile, List.reverse_reverse,
    List.takeWhile_append_dropWhile]

theorem Padded.not_mem (h : Padded cs ds) (hseparator : isBlank separator = false)
    (hcs : separator ∉ cs) : separator ∉ ds := by
  obtain ⟨before, after, rfl, hbefore, hafter⟩ := h
  have hout {blanks : List Char} (hblanks : ∀ c ∈ blanks, isBlank c = true) :
      separator ∉ blanks := fun hmem => by
    rw [hblanks _ hmem] at hseparator
    cases hseparator
  simp [hout hbefore, hout hafter, hcs]

/-- If a text has white space around it, so have its parts beside a separator. -/
theorem Padded.split {a b : List Char} (h : Padded (a ++ separator :: b) ds) :
    ∃ a' b', ds = a' ++ separator :: b' ∧ Padded a a' ∧ Padded b b' := by
  obtain ⟨before, after, rfl, hbefore, hafter⟩ := h
  exact ⟨before ++ a, b ++ after, by simp, ⟨before, [], by simp, hbefore, nofun⟩,
    ⟨[], after, rfl, nofun, hafter⟩⟩

theorem Padded.words_eq (h : Padded cs ds) : words ds = words cs := by
  obtain ⟨before, after, rfl, hbefore, hafter⟩ := h
  rw [words_append_of_blank hbefore, words_append fun c hc => hafter c (List.mem_of_mem_head? hc),
    words_eq_nil_iff.2 hafter, List.append_nil]

theorem words_trim (cs : List Char) : words (trim cs) = words cs := (padded_trim cs).words_eq.symm

theorem words_eq_singleton (hne : cs ≠ []) (h : ∀ c ∈ cs, isBlank c = false) : words cs = [cs] := by
  obtain ⟨c, rest, rfl⟩ := List.exists_cons_of_ne_nil hne
  obtain ⟨hc, hrest⟩ := List.forall_mem_cons.1 h
  have hclear : ∀ d ∈ rest, (!isBlank d) = true := fun d hd => by rw [hrest d hd]; rfl
  rw [words_of_dropWhile_eq_cons (List.dropWhile_cons_of_neg (by simp [hc])),
    List.takeWhile_eq_self_iff.2 hclear, List.dropWhile_eq_nil_iff.2 hclear, words_nil]

/-- A text of one word is that word when it is trimmed. -/
theorem trim_of_words {word : List Char} (h : words cs = [word]) : trim cs = word := by
  rw [← words_trim] at h
  cases htrim : trim cs with
  | nil => simp [htrim] at h
  | cons c rest =>
    have hc : isBlank c = false := head?_trim (by rw [htrim]; rfl)
    rw [htrim, words_of_dropWhile_eq_cons (List.dropWhile_cons_of_neg (by simp [hc]))] at h
    obtain ⟨hword, htail⟩ := List.cons.inj h
    have hrest := rest.takeWhile_append_dropWhile (p := (!isBlank ·))
    rw [words_eq_nil_iff] at htail
    -- nothing is left behind the word, for its last character would be a blank
    obtain hnil | ⟨tail, d, hd⟩ := List.eq_nil_or_concat (rest.dropWhile (!isBlank ·))
    · rw [hnil, List.append_nil] at hrest
      rw [← hword, hrest]
    · rw [hd] at htail hrest
      have hblank := htail d (by simp)
      have hlast : (trim cs).getLast? = some d := by
        rw [htrim, ← hrest, List.concat_eq_append, ← List.append_assoc, ← List.cons_append]
        exact List.getLast?_concat
      rw [getLast?_trimBy hlast] at hblank
      cases hblank

/-- So is every text with the same words as one without white space inside. -/
theorem trim_eq_of_words (hwords : words cs = words ds) (h : ∀ c ∈ trim ds, isBlank c = false) :
    trim cs = trim ds := by
  cases hds : trim ds with
  | nil =>
    rw [← words_trim ds, hds, words_nil, ← words_trim cs, words_eq_nil_iff] at hwords
    cases hcs : trim cs with
    | nil => rfl
    | cons c rest =>
      have hc : isBlank c = false := head?_trim (by rw [hcs]; rfl)
      rw [hwords c (hcs ▸ List.mem_cons_self)] at hc
      cases hc
  | cons c rest =>
    have hne : trim ds ≠ [] := by simp [hds]
    rw [← words_trim ds, words_eq_singleton hne h, hds] at hwords
    exact trim_of_words hwords

end

end SipBench.Text
